import VolumeMigration.Engine.Cleanup
import VolumeMigration.Strategy.Plan
import VolumeMigration.Text.Bytes

/-!
# Attempts

An attempt is one try of one strategy. What a strategy does is its `Body`: a tree of
questions that are answered on the spot and errands that take time. A body says nothing of
cancellation. That is the business of whoever carries it out (`Body.run`): when the run was
cancelled during an errand, its answer does not matter any more and the body goes no further.

Cancellation is looked for before a body begins and after every errand, and never in between,
so that what a body does between two errands happens as a whole.
-/

namespace VolumeMigration

/-- One try of a strategy. -/
structure Attempt where
  migration : Migration
  /-- Where the chart was unpacked. -/
  chart : String
  /-- Five hexadecimal digits. -/
  id : String
  deriving DecidableEq, Repr

namespace Attempt

/-- The id that a number stands for: five hexadecimal digits. -/
def idOfNumber (n : Fin 0x100000) : String := Text.Hex.ofNat 5 n

/-- What the names of all releases of an attempt begin with. -/
def releasePrefixOf (id : String) : String := "pv-migrate-" ++ id

def request (a : Attempt) : Request := a.migration.request

/-- The name of the attempt's only release. -/
def releaseName (a : Attempt) : String := releasePrefixOf a.id

/-- The attempt's only release: it belongs to the destination. -/
def soleRelease (a : Attempt) : Helm.ReleaseRef :=
  ⟨a.migration.destination.client, a.migration.destination.ns, a.releaseName⟩

/-- The attempt's release beside the source. -/
def sourceRelease (a : Attempt) : Helm.ReleaseRef :=
  ⟨a.migration.source.client, a.migration.source.ns, a.releaseName ++ "-src"⟩

/-- The attempt's release beside the destination. -/
def destinationRelease (a : Attempt) : Helm.ReleaseRef :=
  ⟨a.migration.destination.client, a.migration.destination.ns, a.releaseName ++ "-dest"⟩

end Attempt

/-- Two port-forwards that are ready. -/
structure Forwards where
  sourcePod : NamespacedName
  sourcePort : Nat
  destinationPod : NamespacedName
  destinationPort : Nat
  deriving DecidableEq, Repr

/-! ### Bodies -/

/-- What is answered on the spot. -/
inductive Question where
  | hasSsh
  /-- A fresh key pair. -/
  | keys (algorithm : Ssh.Algorithm)
  /-- A file that holds the private key of a pair. -/
  | keyFile
  deriving DecidableEq, Repr

/-- What answers a question. -/
abbrev Question.Answer : Question → Type
  | hasSsh => Bool
  | keys _ => Except MigrationError Ssh.KeyPair
  | keyFile => Except MigrationError String

/-- What takes time. -/
inductive Errand where
  /-- Installs a release with chart values. -/
  | install (release : Helm.ReleaseRef) (values : Tree)
  /-- Waits for the load balancer of a service. -/
  | address (client : Client) (service : NamespacedName)
  /-- Waits for the node port of a service. -/
  | nodePort (client : Client) (service : NamespacedName)
  | sshdPods (release : Helm.ReleaseRef)
  | nodes (client : Client)
  /-- Waits for a job. -/
  | job (client : Client) (job : NamespacedName)
  /-- Forwards local ports to the sshd of both releases. -/
  | forwards (source destination : Helm.ReleaseRef)
  | ssh (arguments : List String)
  deriving Repr

/-- What an errand that succeeds brings back. -/
abbrev Errand.Result : Errand → Type
  | install _ _ => Unit
  | address _ _ => String
  | nodePort _ _ => Nat
  | sshdPods _ => List Pod
  | nodes _ => List Node
  | job _ _ => Unit
  | forwards _ _ => Forwards
  | ssh _ => Unit

/-- What a strategy does. -/
inductive Body (α : Type) where
  | done (a : α)
  | fail (e : MigrationError)
  | report (entries : List LogEntry) (next : Body α)
  | ask (q : Question) (next : q.Answer → Body α)
  | run (e : Errand) (next : Except MigrationError e.Result → Body α)

namespace Body

variable {α β : Type}

/-- Goes on with another body; a failure ends both. -/
def bind : Body α → (α → Body β) → Body β
  | done a, f => f a
  | fail e, _ => fail e
  | report entries next, f => report entries (next.bind f)
  | ask q next, f => ask q fun answer ↦ (next answer).bind f
  | run e next, f => run e fun result ↦ (next result).bind f

instance : Monad Body where
  pure := done
  bind := bind

/-- A result that is already there. -/
def ofExcept : Except MigrationError α → Body α
  | .ok a => done a
  | .error e => fail e

/-- Reports something at the end, whether the body is done or has failed. -/
def reportAtEnd (entries : List LogEntry) : Body α → Body α
  | done a => report entries (done a)
  | fail e => report entries (fail e)
  | report others next => report others (next.reportAtEnd entries)
  | ask q next => ask q fun answer ↦ (next answer).reportAtEnd entries
  | run e next => run e fun result ↦ (next result).reportAtEnd entries

/-- Reports something. -/
def log (entry : LogEntry) : Body Unit := report [entry] (done ())

/-- Runs an errand, whose failure is that of the body. -/
def errand (e : Errand) : Body e.Result := run e ofExcept

/-- Makes a key pair. -/
def newKeys (algorithm : Ssh.Algorithm) : Body Ssh.KeyPair := ask (.keys algorithm) ofExcept

end Body

/-! ### Carrying out -/

/-- What a strategy's body comes to. -/
inductive Verdict (α : Type) where
  | result (r : Except MigrationError α)
  /-- The run was cancelled before the body had come to its end. -/
  | interrupted
  | standstill (cause : Standstill)

/-- What an errand brings back, and what is reported of it unless the run was cancelled. -/
structure Errand.Return (e : Errand) where
  result : Except MigrationError e.Result
  logs : List LogEntry := []

namespace Attempt

/-- Answers a question. -/
def answer (w : World) (q : Question) (r : Run) : q.Answer × Run :=
  match q with
  | .hasSsh => ((w r.history).hasSsh, r)
  | .keys algorithm =>
    (((w r.history).keys algorithm).mapError .key, r.note (.keysSought algorithm))
  | .keyFile => ((w r.history).keyFile.mapError .io, r)

/-- The call that installs a release. -/
def installCall (a : Attempt) (release : Helm.ReleaseRef) (file : String) (values : Tree) :
    Helm.Call where
  binary := a.request.helmBinary
  release
  action := .install a.chart file values a.request.overlays
  timeout := a.request.helmTimeout

/-- Installs a release. It is recorded before anything else is done, so that a half-made
installation is cleaned up like any other. -/
def install (w : World) (a : Attempt) (release : Helm.ReleaseRef) (values : Tree) (r : Run) :
    Ending (Except MigrationError Unit × List LogEntry) × Run :=
  let r := r.record ⟨release, a.id⟩
  match (w r.history).valuesFile a.id with
  | .error reason => (.value (.error (.io reason), []), r)
  | .ok file =>
    let fields := [("release", release.name), ("namespace", release.ns)]
    match callHelm w (a.installCall release file values)
        (r.log (.debug "installing helm release" fields)) with
    | (.standstill cause, r) => (.standstill cause, r)
    | (.value outcome, r) =>
      match outcome.failure? a.request.helmBinary a.request.helmTimeout with
      | some reason => (.value (.error (.install release.name reason), []), r)
      | none => (.value (.ok (), [.info "helm release installed" fields]), r)

/-- One of two port-forwards: the pod and the local port, and what is reported. -/
def forward (release : Helm.ReleaseRef) (side : ForwardSide) :
    Except MigrationError (NamespacedName × Nat × List LogEntry) := do
  let pods ← side.pods.mapError .kubernetes
  let pod ← PortForward.onlyPod release.name pods
  let localPort ← side.localPort.mapError .io
  let id : NamespacedName := ⟨release.ns, pod.name.getD ""⟩
  let start := PortForward.start id localPort sshPort side.trial
  start.result
  return (id, localPort, start.logs)

/-- Two port-forwards. The failure that is known first counts. -/
def forwards (source destination : Helm.ReleaseRef) (pair : ForwardPair) :
    Except MigrationError Forwards × List LogEntry :=
  match forward source pair.source, forward destination pair.destination with
  | .ok (sourcePod, sourcePort, logs), .ok (destinationPod, destinationPort, others) =>
    (.ok { sourcePod, sourcePort, destinationPod, destinationPort }, logs ++ others)
  | .error e, .error e' => (.error (if pair.destinationFirst then e' else e), [])
  | .error e, .ok _ => (.error e, [])
  | .ok _, .error e => (.error e, [])

/-- What is reported while ssh runs. -/
def sshLogs (sink : Progress.Sink) (output errors : List String) : List LogEntry :=
  (sink.observeAll output).2 ++ errors.map fun line ↦ .debug "ssh" [("line", line)]

/-- What comes of a call of ssh if it ends, and what is reported while it runs and after it. -/
def sshResult (sink : Progress.Sink) :
    SshOutcome → Option (Except MigrationError Unit) × List LogEntry × List LogEntry
  | .notStarted reason => (some (.error (.io reason)), [], [])
  | .ended status output errors =>
    if status.isSuccess then
      (some (.ok ()), sshLogs sink output errors, [.info "local rsync finished" []])
    else
      (some (.error (.command ("ssh exited with " ++ status.describe))),
        sshLogs sink output errors, [])
  | .endless output errors => (none, sshLogs sink output errors, [])

/-- Where progress is shown. -/
def sink (a : Attempt) : Progress.Sink := .new a.request.drawsBar a.request.progressOutput

/-- Comes back from a wait that has no limit. One that goes on for ever is ended by a cancellation
or not at all. -/
def comeBack {e : Errand} (result : Option (Except MigrationError e.Result))
    (logs : List LogEntry) (cancels : Option Interruption) (r : Run) : Ending e.Return × Run :=
  match result, cancels with
  | some result, _ => (.value { result, logs }, r)
  | none, some _ => (.value { result := .error .cancelled }, r)
  | none, none => (.standstill .endlessWait, r)

/-- Carries out an errand. -/
def carryOut (w : World) (a : Attempt) (e : Errand) (r : Run) : Ending e.Return × Run :=
  match e with
  | .install release values =>
    match a.install w release values r with
    | (.standstill cause, r) => (.standstill cause, r)
    | (.value (result, logs), r) => (.value { result, logs }, r)
  | .address client service =>
    let reply := (w r.history).service client service
    let waited := Service.awaitAddress service a.request.serviceTimeout reply.answer
    (.value { result := waited.result },
      ((r.note (.serviceWatched client service)).logAll waited.logs).interrupt reply.cancels)
  | .nodePort client service =>
    let reply := (w r.history).service client service
    let waited := Service.awaitNodePort service a.request.serviceTimeout reply.answer
    (.value { result := waited.result },
      ((r.note (.serviceWatched client service)).logAll waited.logs).interrupt reply.cancels)
  | .sshdPods release =>
    let reply := (w r.history).sshdPods release
    (.value { result := reply.answer.mapError .kubernetes },
      (r.note (.sshdPodsSought release)).interrupt reply.cancels)
  | .nodes client =>
    let reply := (w r.history).nodes client
    (.value { result := reply.answer.mapError .kubernetes },
      (r.note (.nodesSought client)).interrupt reply.cancels)
  | .job client job =>
    let reply := (w r.history).job client job
    let waited := Job.await job a.sink none reply.answer
    comeBack waited.result [] reply.cancels
      (((r.note (.jobAwaited client job)).logAll waited.logs).interrupt reply.cancels)
  | .forwards source destination =>
    let reply := (w r.history).forwards source destination
    let (result, logs) := forwards source destination reply.answer
    (.value { result, logs },
      (r.note (.forwardsStarted source destination)).interrupt reply.cancels)
  | .ssh arguments =>
    let reply := (w r.history).ssh arguments
    let (result, during, logs) := sshResult a.sink reply.answer
    comeBack result logs reply.cancels
      (((r.note (.sshRun arguments)).logAll during).interrupt reply.cancels)

end Attempt

/-- Carries out a body. -/
def Body.carryOut (w : World) (a : Attempt) : Body Unit → Run → Verdict Unit × Run
  | done _, r => (.result (.ok ()), r)
  | fail e, r => (.result (.error e), r)
  | report entries next, r => next.carryOut w a (r.logAll entries)
  | ask q next, r =>
    let (answer, r) := Attempt.answer w q r
    (next answer).carryOut w a r
  | run e next, r =>
    match a.carryOut w e r with
    | (.standstill cause, r) => (.standstill cause, r)
    | (.value back, r) =>
      if r.isCancelled then (.interrupted, r)
      else (next back.result).carryOut w a (r.logAll back.logs)

namespace Attempt

/-- Carries out a body unless the run is already cancelled. -/
def execute (w : World) (a : Attempt) (body : Body Unit) (r : Run) : Verdict Unit × Run :=
  if r.isCancelled then (.interrupted, r) else body.carryOut w a r

/-- Carries out a body and removes the releases of the attempt, whatever has come of it. -/
def perform (w : World) (a : Attempt) (body : Body Unit) (r : Run) :
    Ending (Except MigrationError Unit) × Run :=
  match a.execute w body r with
  | (.standstill cause, r) => (.standstill cause, r)
  | (.result result, r) =>
    match cleanUp w a.request a.id r with
    | (.standstill cause, r) => (.standstill cause, r)
    | (.value _, r) => (.value result, r)
  | (.interrupted, r) =>
    match cleanUp w a.request a.id r with
    | (.standstill cause, r) => (.standstill cause, r)
    | (.value _, r) => (.value (.error .cancelled), r)

end Attempt

end VolumeMigration
