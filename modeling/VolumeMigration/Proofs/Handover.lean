import VolumeMigration.Proofs.Placement
import VolumeMigration.Proofs.Terms

/-!
# What the bodies start

A strategy's body meets its parts one after the other: keys are made, releases are installed,
an address is found, and at some point a copy starts, because a release with an rsync job is
installed or because a command is run over ssh. Every copy that starts is a directed one between
pods that have been installed (`Strategy.obeys_starting`), whatever has been answered and found
until then, as long as no service reports the port zero.
-/

namespace VolumeMigration

/-- The pods that an errand brings about. -/
def Errand.pods : Errand → List Tree
  | .install _ values => [values.get "sshd", values.get "rsync"]
  | _ => []

/-- Whether a command starts a directed copy between pods that these errands have brought about. -/
def Attempt.Starts (a : Attempt) (s : Strategy) (errands : List Errand) (command : String) :
    Prop :=
  ∃ keys port words source destination, ∃ l : Layout,
    l.source ∈ errands.flatMap Errand.pods ∧ l.destination ∈ errands.flatMap Errand.pods ∧
      l.command = .string command ∧ Shell.split? command = some words ∧
        l.Directed a.migration s keys port words source destination

/-- An errand that starts no copy, or a directed one. -/
def Errand.Starting (a : Attempt) (s : Strategy) (before : List Errand) : Errand → Prop
  | .install release values => ∀ command, (values.get "rsync").get "command" = .string command →
      a.Starts s (.install release values :: before) command
  | .ssh arguments => ∃ command ∈ arguments.getLast?, a.Starts s before command
  | _ => True

/-- What a body may rely on to start nothing else: ports are not zero. -/
def Errand.FindsPort : (e : Errand) → Except MigrationError e.Result → Prop
  | .nodePort _ _, .ok port => 0 < port
  | _, _ => True

/-- The terms of a strategy that starts directed copies. -/
def Attempt.starting (a : Attempt) (s : Strategy) : Terms where
  Answers _ _ := True
  Brings := Errand.FindsPort
  Allows := Errand.Starting a s
  Fails _ := True

namespace Attempt

open Body

variable {a : Attempt} {s : Strategy} {before : List Errand} {α : Type}
  {K : α → List Errand → Prop}

/-- The parts that a strategy hands out start a directed copy once the pods are there. -/
theorem starts_of_layout {keys : Ssh.KeyPair} {release address command : String} {port : Nat}
    {l : Layout} {errands : List Errand}
    (hlayout : a.migration.layout keys release address port s = .ok l)
    (hport : 0 < port) (haccepts : s.accepts a.migration = true)
    (hsource : l.source ∈ errands.flatMap Errand.pods)
    (hdestination : l.destination ∈ errands.flatMap Errand.pods)
    (hcommand : l.command = .string command) : a.Starts s errands command := by
  obtain ⟨line, words, source, destination, hline, hsplit, hdirected⟩ :=
    Strategy.directed_of_layout hport haccepts hlayout
  obtain rfl : line = command := Tree.string.inj (hline.symm.trans hcommand)
  exact ⟨keys, port, words, source, destination, l, hsource, hdestination, hcommand, hsplit,
    hdirected⟩

theorem starting_ofExcept {result : Except MigrationError α}
    (hK : ∀ x, result = .ok x → K x before) :
    (ofExcept result).Obeys (a.starting s) before K :=
  (Body.obeys_ofExcept result before K).mpr ⟨hK, fun _ _ ↦ trivial⟩

/-- An errand whose failure is that of the body. -/
theorem starting_errand {e : Errand} {K : e.Result → List Errand → Prop}
    (he : e.Starting a s before) (hK : ∀ x, e.FindsPort (.ok x) → K x (e :: before)) :
    (errand e).Obeys (a.starting s) before K := by
  refine ⟨he, ?_⟩
  rintro (f | x) hresult
  · exact trivial
  · exact hK x hresult

/-- A release without an rsync job starts nothing. -/
theorem starting_installSshd {release : Helm.ReleaseRef} (sshd : SshdValues)
    {K : Unit → List Errand → Prop}
    (hK : K () (.install release (ChartValues.toTree { sshd := some sshd }) :: before)) :
    (installRelease release { sshd := some sshd }).Obeys (a.starting s) before K :=
  starting_errand (fun _ hcommand ↦ nomatch hcommand) fun _ _ ↦ hK

/-! ### The five bodies -/

theorem starting_mountBody : a.mountBody.Obeys (a.starting .mount) [] fun _ _ ↦ True := by
  simp only [mountBody, obeys_bind]
  refine (Body.obeys_acceptIf _ _ _).mpr ⟨fun haccepts ↦ ?_, fun _ ↦ trivial⟩
  refine starting_ofExcept fun line hline ↦ ?_
  rw [obeys_log]
  refine starting_errand ?_ fun _ _ ↦ starting_errand trivial fun _ _ ↦ trivial
  intro command hcommand
  -- no keys are made, and none matter
  have hlayout : a.migration.layout ⟨.rsa, "", ""⟩ "" "" 1 .mount = .ok _ :=
    bind_eq_ok_iff.mpr ⟨line, hline, rfl⟩
  exact starts_of_layout hlayout Nat.one_pos haccepts (by simp [Errand.pods])
    (by simp [Errand.pods]) hcommand

theorem starting_clusterIpBody :
    a.clusterIpBody.Obeys (a.starting .clusterIp) [] fun _ _ ↦ True := by
  simp only [clusterIpBody, obeys_bind]
  refine (Body.obeys_acceptIf _ _ _).mpr ⟨fun haccepts ↦ ?_, fun _ ↦ trivial⟩
  intro answer _
  refine starting_ofExcept fun keys _ ↦ ?_
  refine starting_ofExcept fun values hvalues ↦ ?_
  rw [obeys_log]
  refine starting_errand ?_ fun _ _ ↦ starting_errand trivial fun _ _ ↦ trivial
  intro command hcommand
  have hlayout : a.migration.layout keys a.releaseName "" 1 .clusterIp = .ok _ :=
    bind_eq_ok_iff.mpr ⟨values, hvalues, rfl⟩
  exact starts_of_layout hlayout Nat.one_pos haccepts (by simp [Errand.pods, Layout.fetching])
    (by simp [Errand.pods, Layout.fetching]) hcommand

theorem starting_loadBalancerBody :
    a.loadBalancerBody.Obeys (a.starting .loadBalancer) [] fun _ _ ↦ True := by
  simp only [loadBalancerBody, obeys_bind]
  intro answer _
  refine starting_ofExcept fun keys _ ↦ ?_
  rw [obeys_log]
  refine starting_installSshd _ ?_
  refine starting_errand trivial fun address _ ↦ ?_
  rw [obeys_log]
  refine starting_ofExcept fun values hvalues ↦ ?_
  refine starting_errand ?_ fun _ _ ↦ starting_errand trivial fun _ _ ↦ trivial
  intro command hcommand
  have hlayout : a.migration.layout keys "" address 1 .loadBalancer = .ok _ :=
    bind_eq_ok_iff.mpr ⟨values, hvalues, rfl⟩
  exact starts_of_layout hlayout Nat.one_pos rfl
    (by simp [Errand.pods, Layout.fetching, Migration.loadBalancerSourceValues])
    (by simp [Errand.pods, Layout.fetching]) hcommand

theorem starting_nodeAddress (address : Option String) {K : String → List Errand → Prop}
    (hK : ∀ x, K x before) : (nodeAddress address).Obeys (a.starting s) before K := by
  cases address with
  | none => exact trivial
  | some x => exact hK x

theorem starting_nodePortBody :
    a.nodePortBody.Obeys (a.starting .nodePort) [] fun _ _ ↦ True := by
  simp only [nodePortBody, obeys_bind]
  intro answer _
  refine starting_ofExcept fun keys _ ↦ ?_
  rw [obeys_log]
  refine starting_installSshd _ ?_
  refine starting_errand trivial fun port hport ↦ ?_
  refine starting_errand trivial fun pods _ ↦ ?_
  refine starting_errand trivial fun nodes _ ↦ ?_
  refine starting_nodeAddress _ fun address ↦ ?_
  rw [obeys_log]
  refine starting_ofExcept fun values hvalues ↦ ?_
  refine starting_errand ?_ fun _ _ ↦ starting_errand trivial fun _ _ ↦ trivial
  intro command hcommand
  have hlayout : a.migration.layout keys "" address port .nodePort = .ok _ :=
    bind_eq_ok_iff.mpr ⟨values, hvalues, rfl⟩
  exact starts_of_layout hlayout hport rfl
    (by simp [Errand.pods, Layout.fetching, Migration.nodePortSourceValues])
    (by simp [Errand.pods, Layout.fetching]) hcommand

/-- The last part of the local strategy, once both sides have been installed. -/
theorem starting_copyThrough (keys : Ssh.KeyPair) (f : Forwards)
    (hsource : (a.migration.localSourceValues keys).toTree.get "sshd" ∈
      before.flatMap Errand.pods)
    (hdestination : (a.migration.localDestinationValues keys).toTree.get "sshd" ∈
      before.flatMap Errand.pods) :
    (a.copyThrough keys f).Obeys (a.starting .viaLocal) before fun _ _ ↦ True := by
  simp only [copyThrough, obeys_bind]
  refine starting_ofExcept fun line hline ↦ ?_
  intro answer _
  refine starting_ofExcept fun file _ ↦ ?_
  rw [obeys_log]
  have hlayout : a.migration.layout keys "" "" 1 .viaLocal = .ok _ :=
    bind_eq_ok_iff.mpr ⟨line, hline, rfl⟩
  have hstarts := starts_of_layout hlayout Nat.one_pos rfl hsource hdestination rfl
  exact starting_errand ⟨line, rfl, hstarts⟩ fun _ _ ↦ trivial

theorem starting_localBody : a.localBody.Obeys (a.starting .viaLocal) [] fun _ _ ↦ True := by
  simp only [localBody, obeys_bind]
  intro present _
  cases present with
  | false => exact trivial
  | true =>
    intro answer _
    refine starting_ofExcept fun keys _ ↦ ?_
    rw [obeys_log]
    refine starting_installSshd _ ?_
    refine starting_installSshd _ ?_
    refine starting_errand trivial fun forwards _ ↦ ?_
    rw [obeys_reportAtEnd]
    refine starting_copyThrough keys forwards ?_ ?_
    · simp [Errand.pods, Migration.localSourceValues]
    · simp [Errand.pods, Migration.localDestinationValues]

end Attempt

/-- Whenever a strategy starts a copy, it is a directed one between pods that have been
installed. -/
theorem Strategy.obeys_starting (s : Strategy) (a : Attempt) :
    (s.body a).Obeys (a.starting s) [] fun _ _ ↦ True := by
  cases s with
  | mount => exact Attempt.starting_mountBody
  | clusterIp => exact Attempt.starting_clusterIpBody
  | loadBalancer => exact Attempt.starting_loadBalancerBody
  | nodePort => exact Attempt.starting_nodePortBody
  | viaLocal => exact Attempt.starting_localBody

end VolumeMigration
