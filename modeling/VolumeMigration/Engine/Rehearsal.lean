import VolumeMigration.Engine.World
import VolumeMigration.Ssh.KeyPair

/-!
# Rehearsals

A rehearsal is a world that is laid down in advance: what the clusters hold, what helm says
to which call, what jobs and services go through, and at which point the run is cancelled.
It remembers nothing of its own. Where an answer depends on how often something was asked
for before, as with jobs and services, it is read off the history of the run
(`Rehearsal.world`).

A cancellation comes when a certain kind of waiting begins, and what was waited for then
never comes. Only a port-forward can be begun without being waited for to the end; the
cancellation then comes a little later (`Rehearsal.belated`).
-/

namespace VolumeMigration

/-- A cluster that is laid down in advance. -/
structure StagedCluster where
  /-- The address of its API server. -/
  url : String
  /-- The claims, or the failure of every look at one. -/
  claims : Except LookupFailure (List Claim) := .ok []
  pods : Except String (List Pod) := .ok []
  nodes : Except String (List Node) := .ok []
  /-- The sshd pods of a release. -/
  sshdPods : Except String (List Pod) := .ok []
  /-- The sshd pods of a release beside a destination. -/
  destinationSshdPods : Except String (List Pod) := .ok []
  trial : Trial := .opened

namespace StagedCluster

/-- Whether something is found in a namespace. What has none is found everywhere. -/
def isWithin (ns : String) (own : Option String) : Bool := own.all (· == ns)

/-- Looks at a claim. -/
def claim (c : StagedCluster) (id : NamespacedName) : Except LookupFailure Claim := do
  let claims ← c.claims
  match claims.find? fun x ↦ x.name == some id.name && isWithin id.ns x.ns with
  | some claim => return claim
  | none => throw .absent

/-- The pods of a namespace. -/
def podsIn (c : StagedCluster) (ns : String) : Except String (List Pod) :=
  c.pods.map fun pods ↦ pods.filter fun pod : Pod ↦ isWithin ns pod.ns

/-- The sshd pods of the release of a name. -/
def sshdPodsOf (c : StagedCluster) (release : String) : Except String (List Pod) :=
  if release.endsWith "-dest" then c.destinationSshdPods else c.sshdPods

end StagedCluster

/-- What helm says to calls of one kind for releases whose name ends like this. -/
structure HelmRule where
  installs : Bool
  ending : String
  outcome : Helm.Outcome

/-- Whether a rule is about a call. -/
def HelmRule.applies (rule : HelmRule) (call : Helm.Call) : Bool :=
  rule.installs == call.isInstall && call.release.name.endsWith rule.ending

/-- A kind of waiting that a cancellation can interrupt. -/
inductive Stage where
  | service
  | jobStart
  | jobEnd
  | forwards
  deriving DecidableEq, Repr

/-- A world that is laid down in advance. -/
structure Rehearsal where
  clusters : List StagedCluster := []
  /-- The first one that is about a call decides; without one it succeeds. -/
  helmRules : List HelmRule := []
  /-- Why a program cannot be started, if it cannot. -/
  startFailure : String → Option String := fun _ ↦ none
  /-- What there is to see of the jobs, in the order in which they are waited for. -/
  jobs : List JobView := []
  /-- What the services go through, in the order in which they are watched. -/
  services : List (Watch (Option Service)) := []
  /-- How ssh ends, if there is such a program. -/
  ssh : Option SshOutcome := none
  /-- At which waiting the run is cancelled, and how. -/
  interruption : Option (Stage × Interruption) := none
  keys : Ssh.Algorithm → Ssh.KeyPair := Ssh.KeyPair.sample
  /-- Where the chart is unpacked. -/
  chart : String := "chart"
  valuesFile : String := "values.yaml"
  keyFile : String := "key"
  sourcePort : Nat := 50001
  destinationPort : Nat := 50002

namespace Rehearsal

/-- What is said of an address at which no cluster answers. -/
def nobodyThere : String := "no cluster at this address"

/-- The cluster of a client. -/
def cluster (s : Rehearsal) (client : Client) : StagedCluster :=
  (s.clusters.find? (·.url == client.url)).getD
    { url := client.url, claims := .error (.failed nobodyThere), pods := .error nobodyThere
      nodes := .error nobodyThere, sshdPods := .error nobodyThere
      destinationSshdPods := .error nobodyThere, trial := .refused nobodyThere }

/-- The cancellation at a stage, if it comes there. -/
def interruptionAt (s : Rehearsal) (stage : Stage) : Option Interruption :=
  match s.interruption with
  | some (at_, cause) => if at_ = stage then some cause else none
  | none => none

/-- How a call of helm ends. -/
def helmOutcome (s : Rehearsal) (call : Helm.Call) : Helm.Outcome :=
  match s.startFailure call.binary with
  | some reason => .notStarted reason
  | none =>
    match s.helmRules.find? (·.applies call) with
    | some rule => rule.outcome
    | none => .ended (.ofCode 0) []

/-- The service that is watched after so many others. -/
def service (s : Rehearsal) (watched : Nat) : Reply (Watch (Option Service)) :=
  match s.interruptionAt .service with
  | some cause => { answer := .silent, cancels := some cause }
  | none => { answer := s.services.getD watched .silent }

/-- A job of which nothing is ever seen. -/
def unseenJob : JobView where
  pods := .silent
  states _ := .silent
  log _ _ := .failure (.kubernetes nobodyThere)

/-- Whether a pod of the job is seen to start. -/
def starts (view : JobView) : Bool :=
  match view.pods.find Job.started with
  | .found _ _ => true
  | _ => false

/-- The job that is waited for after so many others. Its end is waited for only if it has
started. -/
def job (s : Rehearsal) (awaited : Nat) : Reply JobView :=
  let view := s.jobs.getD awaited unseenJob
  match s.interruptionAt .jobStart, s.interruptionAt .jobEnd with
  | some cause, _ => { answer := { view with pods := .silent }, cancels := some cause }
  | none, some cause =>
    if starts view then
      { answer := { view with states := fun _ ↦ .silent }, cancels := some cause }
    else { answer := view }
  | none, none => { answer := view }

/-- What the port-forward to a release meets with. -/
def forwardSide (s : Rehearsal) (release : Helm.ReleaseRef) (localPort : Nat) : ForwardSide :=
  let c := s.cluster release.client
  { pods := c.sshdPodsOf release.name, localPort := .ok localPort, trial := c.trial }

/-- Whether a port-forward has the one pod that it needs. -/
def isListed (side : ForwardSide) : Bool :=
  match side.pods with
  | .ok [_] => true
  | _ => false

/-- What two port-forwards that start together meet with. They are waited for only if
either side has the one pod that it needs. -/
def forwardPair (s : Rehearsal) (source destination : Helm.ReleaseRef) : Reply ForwardPair :=
  let a := s.forwardSide source s.sourcePort
  let b := s.forwardSide destination s.destinationPort
  { answer := { source := a, destination := b, destinationFirst := isListed a && !isListed b }
    cancels := if isListed a && isListed b then s.interruptionAt .forwards else none }

/-- The cancellation by a port-forward that is not waited for any more. Of two that start
together the destination's has begun on its own by the time when the source turns out to lack
its pod, and it is not called back; so the cancellation comes during the next call of helm. -/
def belated (s : Rehearsal) : History → Option Interruption
  | [] => none
  | .forwardsStarted source destination :: _ =>
    if !isListed (s.forwardSide source s.sourcePort) &&
        isListed (s.forwardSide destination s.destinationPort) then s.interruptionAt .forwards
    else none
  | .helmCalled _ _ :: _ => none
  | _ :: h => s.belated h

/-- How many events of a kind there have been. -/
def count (kind : Event → Bool) (h : History) : Nat := (h.filter kind).length

/-- How many attempts have begun. -/
def attempts : History → Nat :=
  count fun
    | .attemptBegun _ _ => true
    | _ => false

/-- How many services have been watched. -/
def servicesWatched : History → Nat :=
  count fun
    | .serviceWatched _ _ => true
    | _ => false

/-- How many jobs have been waited for. -/
def jobsAwaited : History → Nat :=
  count fun
    | .jobAwaited _ _ => true
    | _ => false

/-- The world of a rehearsal. -/
def world (s : Rehearsal) : World := fun h ↦
  { unpack := fun _ ↦ .ok s.chart
    attemptNumber := { answer := ⟨attempts h % 0x100000, Nat.mod_lt _ (by decide)⟩ }
    claim := fun client id ↦ { answer := (s.cluster client).claim id }
    pods := fun client ns ↦ { answer := (s.cluster client).podsIn ns }
    keys := fun algorithm ↦ .ok (s.keys algorithm)
    valuesFile := fun _ ↦ .ok s.valuesFile
    helm := fun call ↦ { answer := s.helmOutcome call, cancels := s.belated h }
    service := fun _ _ ↦ s.service (servicesWatched h)
    sshdPods := fun release ↦
      { answer := (s.cluster release.client).sshdPodsOf release.name }
    nodes := fun client ↦ { answer := (s.cluster client).nodes }
    job := fun _ _ ↦ s.job (jobsAwaited h)
    forwards := fun source destination ↦ s.forwardPair source destination
    hasSsh := s.ssh.isSome
    keyFile := .ok s.keyFile
    ssh := fun _ ↦ { answer := s.ssh.getD (.notStarted nobodyThere) } }

end Rehearsal

end VolumeMigration
