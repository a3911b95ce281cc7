import VolumeMigration.Engine.Bodies
import VolumeMigration.Engine.Preflight

/-!
# A whole run

A run resolves the names of its strategies, makes all checks, and tries the strategies one
after the other until one succeeds (`drive`). A strategy that declines or fails hands over to
the next one; a failure that no other strategy can mend, cancellation among them, ends the
run. If the run was cancelled, releases that are still there are removed at the very end.
-/

namespace VolumeMigration

/-- Tries one strategy, in an attempt of this id. -/
abbrev Runner := Strategy → String → Run → Ending (Except MigrationError Unit) × Run

/-- Tries strategies in their order. Each has an attempt of its own. -/
def drive (w : World) (runner : Runner) :
    List Strategy → Run → Ending (Except MigrationError Unit) × Run
  | [], r => (.value (.error .allStrategiesFailed), r)
  | strategy :: others, r =>
    let reply := (w r.history).attemptNumber
    let id := Attempt.idOfNumber reply.answer
    let begun := ((r.note (.attemptBegun strategy id)).interrupt reply.cancels).log
      (.info "attempting migration" [])
    match runner strategy id begun with
    | (.standstill cause, r) => (.standstill cause, r)
    | (.value (.ok ()), r) => (.value (.ok ()), r.log (.info "migration succeeded" []))
    | (.value (.error .unaccepted), r) =>
      drive w runner others
        (r.log (.info "Strategy cannot handle this migration, will try the next one" []))
    | (.value (.error e), r) =>
      if e.isRecoverable then
        drive w runner others (r.log (.warn
          "Migration failed with this strategy, will try with the remaining strategies"
          [("error", e.message)]))
      else (.value (.error e), r)

/-- Tries a strategy for a migration. -/
def Prepared.attempt (w : World) (p : Prepared) : Runner := fun strategy id ↦
  let a : Attempt := { migration := p.migration, chart := p.chart, id }
  a.perform w (strategy.body a)

/-- Tries strategies for a migration, and sweeps up after a cancellation. -/
def Prepared.run (w : World) (p : Prepared) (strategies : List Strategy) (r : Run) :
    Ending (Except MigrationError Unit) × Run :=
  match drive w (p.attempt w) strategies r with
  | (.standstill cause, r) => (.standstill cause, r)
  | (.value result, r) =>
    if r.isCancelled then
      match sweep w p.migration.request r with
      | (.standstill cause, r) => (.standstill cause, r)
      | (.value _, r) => (.value result, r)
    else (.value result, r)

/-- Migrates. -/
def migrate (w : World) (env : Surroundings) (request : Request) (r : Run) :
    Ending (Except MigrationError Unit) × Run :=
  match Strategy.resolve request.strategies with
  | .error e => (.value (.error e), r)
  | .ok strategies =>
    match prepare w env request r with
    | (.error e, r) => (.value (.error e), r)
    | (.ok prepared, r) => prepared.run w strategies r

end VolumeMigration
