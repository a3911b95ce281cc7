import VolumeMigration.Cluster.Claim
import VolumeMigration.Cluster.Objects
import VolumeMigration.Engine.Registry
import VolumeMigration.ExitStatus
import VolumeMigration.Forward.PortForward
import VolumeMigration.Helm.Call
import VolumeMigration.Report
import VolumeMigration.Ssh.KeyPair
import VolumeMigration.Strategy.Basic
import VolumeMigration.Wait.Job
import VolumeMigration.Wait.Service

/-!
# The world around a run

A run talks to clusters, to helm, to ssh and to the local file system, and it may be
cancelled at any time. All of that is the `World`. What the world does next may depend on
everything that the run has done so far, and on nothing else; so a world is a function from
the history of a run to what would now be answered.

A `Reply` tells not only an answer but also whether the run was cancelled while it waited
for it. The parts of an answer that reach the run bit by bit, such as a watch, then hold what
came before the cancellation.

What the program waits for without a limit, a job or ssh, may go on for ever. A single request
to a cluster that is never answered is left out.

`World.offline` is the world of a machine on which no API server can be reached and no other
program be started. A run in it fails at the latest with its first look at a claim, so nothing
is ever installed.
-/

namespace VolumeMigration

/-- How a run can be cancelled. -/
inductive Interruption where
  /-- By the one who started it. -/
  | token
  /-- By a termination signal. -/
  | signal
  deriving DecidableEq, Repr

/-- What a run has done or met with. -/
inductive Event where
  | log (entry : LogEntry)
  /-- The clients of both sides were looked for. -/
  | clientsSought
  | claimSought (client : Client) (claim : NamespacedName)
  | podsSought (client : Client) (ns : String)
  /-- An attempt with a strategy began. -/
  | attemptBegun (strategy : Strategy) (id : String)
  /-- A key pair was asked for. -/
  | keysSought (algorithm : Ssh.Algorithm)
  /-- The installation of a release began. -/
  | recorded (entry : ReleaseRecord)
  | helmCalled (call : Helm.Call) (outcome : Helm.Outcome)
  | serviceWatched (client : Client) (service : NamespacedName)
  | sshdPodsSought (release : Helm.ReleaseRef)
  | nodesSought (client : Client)
  | jobAwaited (client : Client) (job : NamespacedName)
  /-- Port-forwards to the sshd pods of both releases were started. -/
  | forwardsStarted (source destination : Helm.ReleaseRef)
  | sshRun (arguments : List String)
  | interrupted (cause : Interruption)
  deriving Repr

/-- Everything that has happened in a run, the latest first. -/
abbrev History := List Event

namespace History

/-- Whether the run was cancelled. -/
def isCancelled (h : History) : Bool :=
  h.any fun
    | .interrupted _ => true
    | _ => false

/-- Whether a signal was received. -/
def isSignalled (h : History) : Bool :=
  h.any fun
    | .interrupted .signal => true
    | _ => false

/-- The log, in its order. -/
def logs (h : History) : List LogEntry :=
  h.reverse.filterMap fun
    | .log entry => some entry
    | _ => none

/-- The calls of helm, in their order. -/
def helmCalls (h : History) : List Helm.Call :=
  h.reverse.filterMap fun
    | .helmCalled call _ => some call
    | _ => none

/-- The arguments of the calls of ssh, in their order. -/
def sshCalls (h : History) : List (List String) :=
  h.reverse.filterMap fun
    | .sshRun arguments => some arguments
    | _ => none

end History

/-- An answer, and whether the run was cancelled before it came. -/
structure Reply (α : Type) where
  answer : α
  cancels : Option Interruption := none

/-- Why an object of a cluster could not be had. -/
inductive LookupFailure where
  | absent
  | failed (reason : String)
  deriving DecidableEq, Repr

/-- What one port-forward meets with. -/
structure ForwardSide where
  /-- The sshd pods of the release. -/
  pods : Except String (List Pod)
  /-- A free port of this machine. -/
  localPort : Except String Nat
  trial : Trial

/-- What two port-forwards that start together meet with. -/
structure ForwardPair where
  source : ForwardSide
  destination : ForwardSide
  /-- Whether the destination's failure would be known first if both failed. -/
  destinationFirst : Bool := false

/-- How a call of ssh goes. -/
inductive SshOutcome where
  | notStarted (reason : String)
  | ended (status : ExitStatus) (output errors : List String)
  /-- It prints this and goes on for ever. -/
  | endless (output errors : List String)
  deriving Repr

/-- What the world would answer at one moment. -/
structure Answers where
  /-- Where files, each with its place in the chart, were unpacked. -/
  unpack : List (String × String) → Except String String
  /-- A random number for an attempt. A cancellation comes between two attempts, or before
  the first one. -/
  attemptNumber : Reply (Fin 0x100000)
  claim : Client → NamespacedName → Reply (Except LookupFailure Claim)
  pods : Client → String → Reply (Except String (List Pod))
  keys : Ssh.Algorithm → Except String Ssh.KeyPair
  /-- Where the values file of an attempt was written. -/
  valuesFile : String → Except String String
  helm : Helm.Call → Reply Helm.Outcome
  service : Client → NamespacedName → Reply (Watch (Option Service))
  /-- The pods that `Pod.sshdSelector` selects for a release. -/
  sshdPods : Helm.ReleaseRef → Reply (Except String (List Pod))
  nodes : Client → Reply (Except String (List Node))
  /-- What there is to see of a job, whose pods are those that `Pod.jobSelector` selects. -/
  job : Client → NamespacedName → Reply JobView
  forwards : Helm.ReleaseRef → Helm.ReleaseRef → Reply ForwardPair
  /-- Whether there is an ssh program. -/
  hasSsh : Bool
  /-- Where the private key was written. -/
  keyFile : Except String String
  ssh : List String → Reply SshOutcome

/-- A world: at every point of a run, fixed by what has happened, what it would answer. -/
abbrev World := History → Answers

/-! ### Without a network -/

/-- What is said of a connection that cannot be made. -/
def connectionRefused : String := "ServiceError: client error (Connect)"

/-- A world in which every request fails for the same reason. -/
def World.offline (reason : String) : World := fun _ ↦
  let unheard : ForwardSide :=
    { pods := .error reason, localPort := .error reason, trial := .refused reason }
  { unpack := fun _ ↦ .error reason
    attemptNumber := { answer := 0 }
    claim := fun _ _ ↦ { answer := .error (.failed reason) }
    pods := fun _ _ ↦ { answer := .error reason }
    keys := fun _ ↦ .error reason
    valuesFile := fun _ ↦ .error reason
    helm := fun _ ↦ { answer := .notStarted reason }
    service := fun _ _ ↦ { answer := .failed 0 reason }
    sshdPods := fun _ ↦ { answer := .error reason }
    nodes := fun _ ↦ { answer := .error reason }
    job := fun _ _ ↦ { answer :=
      { pods := .failed 0 reason, states := fun _ ↦ .failed 0 reason
        log := fun _ _ ↦ .failure (.kubernetes reason) } }
    forwards := fun _ _ ↦ { answer := { source := unheard, destination := unheard } }
    hasSsh := false
    keyFile := .error reason
    ssh := fun _ ↦ { answer := .notStarted reason } }

end VolumeMigration
