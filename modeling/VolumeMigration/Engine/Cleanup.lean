import VolumeMigration.Engine.Run
import VolumeMigration.Request

/-!
# Removing releases

After every attempt its releases are uninstalled, whatever came of it (`cleanUp`). When a run
was cancelled, whatever is still recorded at its end is uninstalled once more (`sweep`). Both
are left out when the request says that releases stay.

Nothing here stops at a failure or at a cancellation: a release that cannot be removed is
reported and stays recorded, and the next one has its turn.
-/

namespace VolumeMigration

namespace Helm

/-- The call that uninstalls a release. -/
def uninstallCall (request : Request) (release : ReleaseRef) : Call where
  binary := request.helmBinary
  release
  action := .uninstall
  timeout := request.helmTimeout

/-- What becomes of a release whose removal ended like this, and what is reported of it. A
release that is not there counts as removed. -/
def uninstallResult (request : Request) (release : ReleaseRef) (outcome : Outcome) :
    Except MigrationError LogEntry :=
  let fields := [("release", release.name), ("namespace", release.ns)]
  match outcome.failure? request.helmBinary request.helmTimeout with
  | none => .ok (.info "helm release uninstalled" fields)
  | some reason =>
    if outcome.reportsMissing then .ok (.debug "helm release already gone" fields)
    else .error (.uninstall release.name reason)

end Helm

/-- Uninstalls a release. -/
def uninstall (w : World) (request : Request) (release : Helm.ReleaseRef) (r : Run) :
    Ending (Except MigrationError Unit) × Run :=
  match callHelm w (Helm.uninstallCall request release) r with
  | (.standstill cause, r) => (.standstill cause, r)
  | (.value outcome, r) =>
    match Helm.uninstallResult request release outcome with
    | .ok entry => (.value (.ok ()), r.log entry)
    | .error e => (.value (.error e), r)

/-- What is reported of a release that could not be removed. -/
def cleanupFailure (release : Helm.ReleaseRef) (e : MigrationError) : LogEntry :=
  .warn "failed to clean up release"
    [("release", release.name), ("namespace", release.ns), ("error", e.message)]

/-- Uninstalls releases one after the other, and forgets those that are gone. -/
def uninstallEach (w : World) (request : Request) : List ReleaseRecord → Run → Ending Unit × Run
  | [], r => (.value (), r)
  | entry :: entries, r =>
    match uninstall w request entry.release r with
    | (.standstill cause, r) => (.standstill cause, r)
    | (.value (.ok _), r) => uninstallEach w request entries (r.forget entry.release)
    | (.value (.error e), r) =>
      uninstallEach w request entries (r.log (cleanupFailure entry.release e))

/-- Uninstalls every recorded release. -/
def uninstallAll (w : World) (request : Request) (r : Run) : Ending Unit × Run :=
  uninstallEach w request r.releases.records r

/-- The names of releases, as they are reported. -/
def releaseNames (entries : List ReleaseRecord) : String :=
  Text.quotedList (entries.map (·.release.name))

/-- Removes the releases of an attempt. -/
def cleanUp (w : World) (request : Request) (attempt : String) (r : Run) : Ending Unit × Run :=
  match r.releases.ofAttempt attempt with
  | [] => (.value (), r)
  | entries =>
    if request.skipCleanup then
      (.value (), r.log (.info "skipping cleanup, releases left installed"
        [("releases", releaseNames entries)]))
    else
      uninstallEach w request entries
        (r.log (.info "cleaning up releases" [("count", toString entries.length)]))

/-- Removes what a cancelled run has left behind. -/
def sweep (w : World) (request : Request) (r : Run) : Ending Unit × Run :=
  if r.releases.isEmpty then (.value (), r)
  else if request.skipCleanup then
    (.value (), r.log (.info "run cancelled, skipping cleanup"
      [("releases", releaseNames r.releases.records)]))
  else
    let r := r.log (.warn "run cancelled, removing remaining releases"
      [("count", toString r.releases.size)])
    uninstallAll w request r

end VolumeMigration
