import VolumeMigration.Cluster.Objects
import VolumeMigration.Duration
import VolumeMigration.Report

/-!
# Port-forwards

A port-forward listens on a port of this machine and leads every connection to a port of a
pod. Before it counts as ready, one tunnel to the pod is opened for trial; that must not
take longer than `PortForward.readyTimeout`.

Once it is ready, every connection has a tunnel of its own, which carries what is written on
either side to the other one. An attempt takes no part in that: it starts a port-forward, hands
the local port to ssh and waits for ssh to end. What goes through a tunnel is ssh's business, and
a tunnel that breaks shows in an attempt only as the end of ssh. So `PortForward.start` is a step
of a run, while `Tunnel.exchange` stands beside it and says what ssh can rely on: an answer to
what was sent first, in its order, and a good end only if nothing was left unanswered
(`Tunnel.exchange_spec`).
-/

namespace VolumeMigration

/-- What comes of the trial tunnel. -/
inductive Trial where
  | opened
  | refused (reason : String)
  /-- No answer comes. -/
  | unanswered
  deriving DecidableEq, Repr

/-- The start of a port-forward. -/
structure ForwardStart where
  result : Except MigrationError Unit
  elapsed : Duration
  logs : List LogEntry
  deriving Repr

namespace PortForward

/-- How long a port-forward may take to become ready. -/
def readyTimeout : Duration := .ofSeconds 30

/-- Starts to forward a local port to a port of a pod. -/
def start (pod : NamespacedName) (localPort remotePort : Nat) : Trial → ForwardStart
  | .opened =>
    ⟨.ok (), 0, [.info "port-forward ready" [("namespace", pod.ns), ("pod", pod.name),
      ("local_port", toString localPort), ("remote_port", toString remotePort)]]⟩
  | .refused reason =>
    ⟨.error (.portForward ("cannot forward to pod " ++ pod.name ++ ": " ++ reason)), 0, []⟩
  | .unanswered =>
    ⟨.error (.portForward ("port-forward to pod " ++ pod.path ++ " not ready within " ++
      toString readyTimeout.seconds ++ "s")), readyTimeout, []⟩

/-- What is reported when a port-forward that was ready stops. -/
def stopped (pod : NamespacedName) (localPort : Nat) : LogEntry :=
  .debug "port-forward stopped" [("pod", pod.name), ("local_port", toString localPort)]

/-- The pod behind the sshd of a release: there must be one and no other. -/
def onlyPod (release : String) : List Pod → Except MigrationError Pod
  | [pod] => .ok pod
  | pods =>
    .error (.portForward ("expected exactly one sshd pod for release " ++ release ++
      ", found " ++ toString pods.length))

end PortForward

/-! ### Tunnels -/

/-- The far end of a tunnel. -/
structure FarEnd where
  /-- Why it refuses the tunnel, if it does. -/
  refusal : Option String := none
  /-- The port it serves. -/
  port : Nat
  /-- Whether what it sends belongs to no channel of the tunnel. -/
  mixesChannels : Bool := false
  /-- After how many answers it goes away, if it does. -/
  leavesAfter : Option Nat := none
  /-- What it answers to a message. -/
  answer : String → String

/-- Where a tunnel to a port breaks on so many messages, if it does: after how many answers, and
why. -/
def FarEnd.breach? (far : FarEnd) (port messages : Nat) : Option (Nat × MigrationError) :=
  match far.refusal with
  | some reason => some (0, .kubernetes reason)
  | none =>
    if port ≠ far.port then some (0, .portForward "the tunnel leads to another port")
    else if far.mixesChannels then
      some (0, .portForward "received data on an unknown channel")
    else
      (far.leavesAfter.filter (· < messages)).map fun answers ↦
        (answers, .portForward "the far end has left")

/-- What came of a connection: the answer to each message that was sent, the last of which
may be missing, and how the tunnel ended. -/
structure Exchange where
  replies : List (Option String)
  result : Except MigrationError Unit
  deriving Repr

namespace Tunnel

/-- Sends messages to a port of the pod, each after the answer to the one before it, and
then nothing more. A message that the tunnel breaks on has no answer. -/
def exchange (far : FarEnd) (port : Nat) (messages : List String) : Exchange :=
  match far.breach? port messages.length with
  | none => ⟨messages.map fun m ↦ some (far.answer m), .ok ()⟩
  | some (answers, cause) =>
    ⟨((messages.take answers).map fun m ↦ some (far.answer m)) ++
      ((messages.drop answers).take 1).map fun _ ↦ none, .error cause⟩

/-- The messages before some point are answered by the far end, in their order; the next one has
no answer, and nothing is sent after it. A tunnel that ends well has left none unanswered. -/
theorem exchange_spec (far : FarEnd) (port : Nat) (messages : List String) :
    ∃ answered rest, answered ++ rest = messages ∧
      (exchange far port messages).replies =
        (answered.map fun m ↦ some (far.answer m)) ++ (rest.take 1).map (fun _ ↦ none) ∧
      ((exchange far port messages).result = .ok () → rest = []) := by
  unfold exchange
  cases far.breach? port messages.length with
  | none => exact ⟨messages, [], List.append_nil _, (List.append_nil _).symm, fun _ ↦ rfl⟩
  | some breach =>
    exact ⟨messages.take breach.1, messages.drop breach.1, List.take_append_drop _ _, rfl,
      fun h ↦ nomatch h⟩

end Tunnel

end VolumeMigration
