import Mathlib.Data.List.Infix
import VolumeMigration.Proofs.Handover
import VolumeMigration.Proofs.Steps

/-!
# The procedure of an attempt

What a strategy does next depends on what has come of everything before: a release is installed
with the address at which another one is reached, ssh is led to the ports that two port-forwards
listen on, and a job is waited for in the place where its release is. `Course.Due` says for each
step of an attempt when it may be made and to what it is addressed, in terms of the steps before
it and of what the world has answered to them. An attempt `Course.Follows` that procedure if each
of its steps was due, and if none comes after a step that has failed.

This module is about histories alone, and says how an attempt can go on to follow its procedure
(`Course.Thrives.cons`). That the strategies do is shown in the next one.
-/

namespace VolumeMigration

/-- An attempt with a strategy in a world, and what had happened before it. -/
structure Course where
  world : World
  attempt : Attempt
  strategy : Strategy
  base : History

namespace Course

variable (c : Course)

/-- In the course of the attempt the event has happened after these earlier ones. -/
def Happened (h : History) (e : Event) (earlier : History) : Prop :=
  c.base <:+ earlier ∧ e :: earlier <:+ h

/-! ### What the world answers to a step -/

section

variable (earlier : History)

/-- What comes of waiting for the load balancer of a service. -/
def address (client : Client) (service : NamespacedName) : Except MigrationError String :=
  (Service.awaitAddress service c.attempt.request.serviceTimeout
    ((c.world earlier).service client service).answer).result

/-- What comes of waiting for the node port of a service. -/
def nodePort (client : Client) (service : NamespacedName) : Except MigrationError Nat :=
  (Service.awaitNodePort service c.attempt.request.serviceTimeout
    ((c.world earlier).service client service).answer).result

/-- What comes of two port-forwards. -/
def forwards (source destination : Helm.ReleaseRef) : Except MigrationError Forwards :=
  (Attempt.forwards source destination
    ((c.world earlier).forwards source destination).answer).1

/-- Whether a step that was made after these events has been a success. -/
def Succeeded : Event → Prop
  | .keysSought algorithm => ∃ keys, (c.world earlier).keys algorithm = .ok keys
  | .recorded entry =>
    ∃ file, (c.world (.recorded entry :: earlier)).valuesFile c.attempt.id = .ok file
  | .helmCalled call outcome => outcome.failure? call.binary call.timeout = none
  | .serviceWatched client service =>
    match c.strategy with
    | .nodePort => ∃ port, c.nodePort earlier client service = .ok port
    | _ => ∃ address, c.address earlier client service = .ok address
  | .sshdPodsSought release => ∃ pods, ((c.world earlier).sshdPods release).answer = .ok pods
  | .nodesSought client => ∃ nodes, ((c.world earlier).nodes client).answer = .ok nodes
  | .jobAwaited client job =>
    (Job.await job c.attempt.sink none ((c.world earlier).job client job).answer).result =
      some (.ok ())
  | .forwardsStarted source destination =>
    ∃ f, c.forwards earlier source destination = .ok f
  | .sshRun arguments =>
    (Attempt.sshResult c.attempt.sink ((c.world earlier).ssh arguments).answer).1 = some (.ok ())
  | _ => True

end

/-! ### What an attempt has come by -/

section

variable (h : History)

/-- Something has happened in the course of the attempt, and it was like this. -/
def Has (P : Event → History → Prop) : Prop := ∃ e earlier, c.Happened h e earlier ∧ P e earlier

/-- A key pair was made. -/
abbrev HasKeys (keys : Ssh.KeyPair) : Prop :=
  c.Has h fun e earlier ↦
    ∃ algorithm, e = .keysSought algorithm ∧ (c.world earlier).keys algorithm = .ok keys

/-- Helm has installed the release. -/
abbrev HasInstalled (release : Helm.ReleaseRef) : Prop :=
  c.Has h fun e _ ↦ ∃ call outcome, e = .helmCalled call outcome ∧ call.isInstall = true ∧
    call.release = release ∧ outcome.failure? call.binary call.timeout = none

/-- The sshd service of the release beside the source. -/
def sshdService : NamespacedName :=
  ⟨c.attempt.migration.source.ns, "pv-migrate-" ++ c.attempt.id ++ "-src-sshd"⟩

/-- The load balancer of the sshd beside the source has this address. -/
abbrev HasAddress (address : String) : Prop :=
  c.Has h fun e earlier ↦ e = .serviceWatched c.attempt.migration.source.client c.sshdService ∧
    c.address earlier c.attempt.migration.source.client c.sshdService = .ok address

/-- The sshd beside the source has this node port. -/
abbrev HasNodePort (port : Nat) : Prop :=
  c.Has h fun e earlier ↦ e = .serviceWatched c.attempt.migration.source.client c.sshdService ∧
    c.nodePort earlier c.attempt.migration.source.client c.sshdService = .ok port

/-- These are the pods of the sshd beside the source. -/
abbrev HasSshdPods (pods : List Pod) : Prop :=
  c.Has h fun e earlier ↦ e = .sshdPodsSought c.attempt.sourceRelease ∧
    ((c.world earlier).sshdPods c.attempt.sourceRelease).answer = .ok pods

/-- These are the nodes of the source's cluster. -/
abbrev HasNodes (nodes : List Node) : Prop :=
  c.Has h fun e earlier ↦ e = .nodesSought c.attempt.migration.source.client ∧
    ((c.world earlier).nodes c.attempt.migration.source.client).answer = .ok nodes

/-- A node of the source's cluster has this address, that of the sshd's node if possible. -/
def HasNodeAddress (address : String) : Prop :=
  ∃ pods nodes, c.HasSshdPods h pods ∧ c.HasNodes h nodes ∧
    pickAddress? nodes (pods.findSome? fun p : Pod ↦ p.node)
      c.attempt.migration.addressPreference = some address

/-- Both port-forwards are ready. -/
abbrev HasForwards (f : Forwards) : Prop :=
  c.Has h fun e earlier ↦
    e = .forwardsStarted c.attempt.sourceRelease c.attempt.destinationRelease ∧
      c.forwards earlier c.attempt.sourceRelease c.attempt.destinationRelease = .ok f

/-! ### The procedure -/

/-- Which releases are installed, with which values, and what that takes. -/
inductive Installs : Helm.ReleaseRef → Tree → Prop
  | mount {command : String} (hs : c.strategy = .mount)
      (hcommand : commandLine c.attempt.migration.request.command = .ok command) :
    Installs c.attempt.soleRelease (c.attempt.migration.mountValues command).toTree
  | clusterIp {keys : Ssh.KeyPair} {values : ChartValues} (hs : c.strategy = .clusterIp)
      (hkeys : c.HasKeys h keys)
      (hvalues : c.attempt.migration.clusterIpValues keys c.attempt.releaseName = .ok values) :
    Installs c.attempt.soleRelease values.toTree
  | loadBalancerSource {keys : Ssh.KeyPair} (hs : c.strategy = .loadBalancer)
      (hkeys : c.HasKeys h keys) :
    Installs c.attempt.sourceRelease (c.attempt.migration.loadBalancerSourceValues keys).toTree
  | loadBalancerDestination {keys : Ssh.KeyPair} {address : String} {values : ChartValues}
      (hs : c.strategy = .loadBalancer) (hkeys : c.HasKeys h keys)
      (hsource : c.HasInstalled h c.attempt.sourceRelease) (haddress : c.HasAddress h address)
      (hvalues :
        c.attempt.migration.loadBalancerDestinationValues keys address = .ok values) :
    Installs c.attempt.destinationRelease values.toTree
  | nodePortSource {keys : Ssh.KeyPair} (hs : c.strategy = .nodePort)
      (hkeys : c.HasKeys h keys) :
    Installs c.attempt.sourceRelease (c.attempt.migration.nodePortSourceValues keys).toTree
  | nodePortDestination {keys : Ssh.KeyPair} {address : String} {port : Nat}
      {values : ChartValues} (hs : c.strategy = .nodePort) (hkeys : c.HasKeys h keys)
      (hsource : c.HasInstalled h c.attempt.sourceRelease) (hport : c.HasNodePort h port)
      (haddress : c.HasNodeAddress h address)
      (hvalues :
        c.attempt.migration.nodePortDestinationValues keys address port = .ok values) :
    Installs c.attempt.destinationRelease values.toTree
  | localSource {keys : Ssh.KeyPair} (hs : c.strategy = .viaLocal)
      (hssh : (c.world c.base).hasSsh = true) (hkeys : c.HasKeys h keys) :
    Installs c.attempt.sourceRelease (c.attempt.migration.localSourceValues keys).toTree
  | localDestination {keys : Ssh.KeyPair} (hs : c.strategy = .viaLocal)
      (hssh : (c.world c.base).hasSsh = true) (hkeys : c.HasKeys h keys)
      (hsource : c.HasInstalled h c.attempt.sourceRelease) :
    Installs c.attempt.destinationRelease
      (c.attempt.migration.localDestinationValues keys).toTree

/-- Which steps may be made after this history, and to what they are addressed. -/
inductive Due : Event → Prop
  /-- Reports, cancellations and removals are no steps. -/
  | aside {e : Event} (he : e.isWork = false) : Due e
  | keys (algorithm : Ssh.Algorithm) : Due (.keysSought algorithm)
  | recorded {release : Helm.ReleaseRef} {values : Tree} (hinstalls : c.Installs h release values) :
    Due (.recorded ⟨release, c.attempt.id⟩)
  | installed {release : Helm.ReleaseRef} {values : Tree} (hinstalls : c.Installs h release values)
      (file : String) (outcome : Helm.Outcome) :
    Due (.helmCalled (c.attempt.installCall release file values) outcome)
  /-- The service of the release beside the source is watched once that release is installed. -/
  | service (hs : c.strategy = .loadBalancer ∨ c.strategy = .nodePort)
      (hsource : c.HasInstalled h c.attempt.sourceRelease) :
    Due (.serviceWatched c.attempt.migration.source.client c.sshdService)
  | sshdPods (hs : c.strategy = .nodePort) (hsource : c.HasInstalled h c.attempt.sourceRelease) :
    Due (.sshdPodsSought c.attempt.sourceRelease)
  | nodes (hs : c.strategy = .nodePort) (hsource : c.HasInstalled h c.attempt.sourceRelease) :
    Due (.nodesSought c.attempt.migration.source.client)
  /-- A job is waited for where its release is, once that is installed. -/
  | job {release : Helm.ReleaseRef} (hinstalled : c.HasInstalled h release) :
    Due (.jobAwaited release.client ⟨release.ns, release.name ++ "-rsync"⟩)
  /-- Port-forwards start once both releases are installed. -/
  | forwards (hs : c.strategy = .viaLocal) (hsource : c.HasInstalled h c.attempt.sourceRelease)
      (hdestination : c.HasInstalled h c.attempt.destinationRelease) :
    Due (.forwardsStarted c.attempt.sourceRelease c.attempt.destinationRelease)
  /-- Ssh logs in to the port that leads to the source, with a tunnel to the other one. -/
  | ssh {f : Forwards} {arguments : List String} (hs : c.strategy = .viaLocal)
      (hforwards : c.HasForwards h f)
      (hlogin : (Rsync.sshOptions arguments).lookup "-p" = some (toString f.sourcePort))
      (htunnel : (Rsync.sshOptions arguments).lookup "-R" =
        some (toString Migration.tunnelPort ++ ":localhost:" ++ toString f.destinationPort)) :
    Due (.sshRun arguments)

/-- All that has happened in the course of the attempt was according to its procedure. -/
structure Follows : Prop where
  base_suffix : c.base <:+ h
  /-- Every step was due. -/
  due : ∀ e earlier, c.Happened h e earlier → c.Due earlier e
  /-- No step was made after one that had failed. -/
  stops : ∀ e earlier, c.Happened h e earlier → e.isWork = true →
    ∀ u before, c.Happened earlier u before → c.Succeeded before u

/-- The attempt has followed its procedure, and no step has failed. -/
structure Thrives : Prop extends c.Follows h where
  unfailing : ∀ e earlier, c.Happened h e earlier → c.Succeeded earlier e

end

variable {c : Course} {h h' : History} {e u : Event} {earlier : History}

/-! ### Earlier and later -/

theorem Happened.mono (hu : c.Happened h u earlier) (hh : h <:+ h') : c.Happened h' u earlier :=
  ⟨hu.1, hu.2.trans hh⟩

theorem Happened.isSuffix (hu : c.Happened h u earlier) : earlier <:+ h :=
  (List.suffix_cons u earlier).trans hu.2

theorem not_happened_base : ¬c.Happened c.base u earlier := by
  rintro ⟨hbase, hsuffix⟩
  have hlength := hbase.length_le.trans_lt (Nat.lt_of_succ_le hsuffix.length_le)
  exact Nat.lt_irrefl _ hlength

theorem happened_cons (hbase : c.base <:+ h) :
    c.Happened (e :: h) u earlier ↔ u = e ∧ earlier = h ∨ c.Happened h u earlier := by
  unfold Happened
  rw [List.suffix_cons_iff, List.cons.injEq]
  constructor
  · rintro ⟨hearlier, hsame | hsuffix⟩
    · exact Or.inl hsame
    · exact Or.inr ⟨hearlier, hsuffix⟩
  · rintro (⟨rfl, rfl⟩ | ⟨hearlier, hsuffix⟩)
    · exact ⟨hbase, Or.inl ⟨rfl, rfl⟩⟩
    · exact ⟨hearlier, Or.inr hsuffix⟩

theorem happened_cons_self (hbase : c.base <:+ h) (e : Event) : c.Happened (e :: h) e h :=
  (happened_cons hbase).mpr (Or.inl ⟨rfl, rfl⟩)

/-- What an attempt has come by it keeps. -/
theorem Has.mono {P : Event → History → Prop} (hhas : c.Has h P) (hh : h <:+ h') : c.Has h' P := by
  obtain ⟨e, earlier, hhappened, hP⟩ := hhas
  exact ⟨e, earlier, hhappened.mono hh, hP⟩

theorem HasNodeAddress.mono {address : String} (haddress : c.HasNodeAddress h address)
    (hh : h <:+ h') : c.HasNodeAddress h' address := by
  obtain ⟨pods, nodes, hpods, hnodes, hpicked⟩ := haddress
  exact ⟨pods, nodes, hpods.mono hh, hnodes.mono hh, hpicked⟩

/-- What could be installed still can. -/
theorem Installs.mono {release : Helm.ReleaseRef} {values : Tree}
    (hinstalls : c.Installs h release values) (hh : h <:+ h') : c.Installs h' release values := by
  cases hinstalls with
  | mount hs hcommand => exact .mount hs hcommand
  | clusterIp hs hkeys hvalues => exact .clusterIp hs (hkeys.mono hh) hvalues
  | loadBalancerSource hs hkeys => exact .loadBalancerSource hs (hkeys.mono hh)
  | loadBalancerDestination hs hkeys hsource haddress hvalues =>
    exact .loadBalancerDestination hs (hkeys.mono hh) (hsource.mono hh) (haddress.mono hh) hvalues
  | nodePortSource hs hkeys => exact .nodePortSource hs (hkeys.mono hh)
  | nodePortDestination hs hkeys hsource hport haddress hvalues =>
    exact .nodePortDestination hs (hkeys.mono hh) (hsource.mono hh) (hport.mono hh)
      (haddress.mono hh) hvalues
  | localSource hs hssh hkeys => exact .localSource hs hssh (hkeys.mono hh)
  | localDestination hs hssh hkeys hsource =>
    exact .localDestination hs hssh (hkeys.mono hh) (hsource.mono hh)

/-! ### One event more -/

theorem succeeded_of_isAside (he : e.isAside = true) : c.Succeeded earlier e := by
  cases e <;> first | exact trivial | cases he

namespace Follows

theorem cons_of_not_isWork (hf : c.Follows h) (he : e.isWork = false) : c.Follows (e :: h) where
  base_suffix := hf.base_suffix.trans (List.suffix_cons e h)
  due u earlier hu := by
    rcases (happened_cons hf.base_suffix).mp hu with ⟨rfl, -⟩ | hu
    · exact .aside he
    · exact hf.due u earlier hu
  stops u earlier hu hwork := by
    rcases (happened_cons hf.base_suffix).mp hu with ⟨rfl, -⟩ | hu
    · exact absurd (he.symm.trans hwork) Bool.false_ne_true
    · exact hf.stops u earlier hu hwork

theorem append {later : History} (hf : c.Follows h) (hlater : ∀ u ∈ later, u.isWork = false) :
    c.Follows (later ++ h) := by
  induction later with
  | nil => exact hf
  | cons e later ih =>
    obtain ⟨he, hlater⟩ := List.forall_mem_cons.mp hlater
    exact (ih hlater).cons_of_not_isWork he

theorem logAll {r : Run} (hf : c.Follows r.history) (entries : List LogEntry) :
    c.Follows (r.logAll entries).history := by
  induction entries generalizing r with
  | nil => exact hf
  | cons entry entries ih =>
    have hlogged : c.Follows (r.log entry).history := hf.cons_of_not_isWork rfl
    exact ih hlogged

theorem interrupt {r : Run} (hf : c.Follows r.history) (cause : Option Interruption) :
    c.Follows (r.interrupt cause).history := by
  rcases r.interrupt_cases cause with hsame | htoken | hsignal
  · rwa [hsame]
  · rw [htoken]
    exact hf.cons_of_not_isWork rfl
  · rw [hsignal]
    exact (hf.cons_of_not_isWork rfl).cons_of_not_isWork rfl

end Follows

namespace Thrives

/-- A step that is due may be made while none has failed. -/
theorem follows_cons (ht : c.Thrives h) (hdue : c.Due h e) : c.Follows (e :: h) where
  base_suffix := ht.base_suffix.trans (List.suffix_cons e h)
  due u earlier hu := by
    rcases (happened_cons ht.base_suffix).mp hu with ⟨rfl, rfl⟩ | hu
    · exact hdue
    · exact ht.due u earlier hu
  stops u earlier hu hwork := by
    rcases (happened_cons ht.base_suffix).mp hu with ⟨rfl, rfl⟩ | hu
    · exact ht.unfailing
    · exact ht.stops u earlier hu hwork

theorem cons (ht : c.Thrives h) (hdue : c.Due h e) (he : c.Succeeded h e) :
    c.Thrives (e :: h) where
  toFollows := ht.follows_cons hdue
  unfailing u earlier hu := by
    rcases (happened_cons ht.base_suffix).mp hu with ⟨rfl, rfl⟩ | hu
    · exact he
    · exact ht.unfailing u earlier hu

theorem cons_of_isAside (ht : c.Thrives h) (he : e.isAside = true) : c.Thrives (e :: h) :=
  ht.cons (.aside (Event.isWork_of_isAside he)) (succeeded_of_isAside he)

theorem logAll {r : Run} (ht : c.Thrives r.history) (entries : List LogEntry) :
    c.Thrives (r.logAll entries).history := by
  induction entries generalizing r with
  | nil => exact ht
  | cons entry entries ih =>
    have hlogged : c.Thrives (r.log entry).history := ht.cons_of_isAside rfl
    exact ih hlogged

/-- At its beginning nothing has happened in the course of an attempt. -/
theorem start (c : Course) : c.Thrives c.base where
  base_suffix := List.suffix_rfl
  due _ _ hu := absurd hu not_happened_base
  stops _ _ hu := absurd hu not_happened_base
  unfailing _ _ hu := absurd hu not_happened_base

end Thrives

end Course

end VolumeMigration
