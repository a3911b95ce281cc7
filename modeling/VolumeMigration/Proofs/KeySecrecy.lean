import Mathlib.Tactic.Common
import VolumeMigration.Proofs.Placement
import VolumeMigration.Proofs.Terms

/-!
# The private key stays on the side that logs in

Two key pairs are twins (`Ssh.KeyPair.IsTwin`) if they differ in the private key only. What is to be
kept secret can then be said of two runs: with the one pair and with its twin, everything that a
strategy hands out is the same, but for one entry of the values of one release, which is the private
key itself and belongs to the pod that connects to the other one (`Strategy.keyPlace`).

This is shown twice: of the parts that a strategy makes, for any release, address and port
(`Strategy.alike_sourceValues?`, `Strategy.alike_destinationValues`), and of its body, whatever is
answered on the way and brought back (`Strategy.alike_trace`): the same errands with the same
arguments, the same reports, the same end.
-/

namespace VolumeMigration

/-! ### Twins -/

/-- Whether two key pairs have everything but the private key in common. -/
structure Ssh.KeyPair.IsTwin (keys twin : Ssh.KeyPair) : Prop where
  algorithm : twin.algorithm = keys.algorithm
  publicKey : twin.publicKey = keys.publicKey

/-- The private key does not appear where a pair is described. -/
theorem Ssh.KeyPair.IsTwin.describe_eq {keys twin : Ssh.KeyPair} (h : keys.IsTwin twin) :
    twin.describe = keys.describe := by
  obtain ⟨algorithm, publicKey, privateKey⟩ := keys
  obtain ⟨_, _, privateKey'⟩ := twin
  obtain ⟨rfl, rfl⟩ := h
  rfl

/-- Whether two results are the same failure, or related values. -/
def Agree {ε α β : Type} (R : α → β → Prop) : Except ε α → Except ε β → Prop
  | .ok a, .ok b => R a b
  | .error e, .error e' => e = e'
  | _, _ => False

theorem Agree.refl {ε α : Type} (result : Except ε α) : Agree Eq result result := by
  cases result <;> exact rfl

namespace Tree

/-- A tree with another value for a key that it has. -/
def put (t : Tree) (key : String) (value : Tree) : Tree :=
  match t with
  | map entries => map (entries.map fun e ↦ if e.1 = key then (e.1, value) else e)
  | t => t

/-- Whether a tree has one private key at a place where the other one has the other, and they are
the same everywhere else. The place is a part of the values; without one the trees are the same. -/
def AlikeBut (place : Option String) (key twin : String) (t t' : Tree) : Prop :=
  match place with
  | none => t' = t
  | some part => (t.get part).get "privateKey" = .string key ∧
      t' = t.put part ((t.get part).put "privateKey" (.string twin))

end Tree

/-! ### The parts that a strategy makes -/

/-- Which pod of a release has the private key: that of the side that connects to the other one.
The release is the one beside the source, or else the one beside the destination, which may be the
only one. -/
def Strategy.keyPlace (besideSource : Bool) : Strategy → Option String
  | mount => none
  | clusterIp | loadBalancer | nodePort => if besideSource then none else some "rsync"
  | viaLocal => if besideSource then some "sshd" else none

/-- The values of the release beside the source, if it is a release of its own. -/
def Migration.sourceValues? (m : Migration) (keys : Ssh.KeyPair) : Strategy → Option ChartValues
  | .mount | .clusterIp => none
  | .loadBalancer => some (m.loadBalancerSourceValues keys)
  | .nodePort => some (m.nodePortSourceValues keys)
  | .viaLocal => some (m.localSourceValues keys)

/-- The values of the release beside the destination, or of the only one. -/
def Migration.destinationValues (m : Migration) (keys : Ssh.KeyPair) (release address : String)
    (port : Nat) : Strategy → Except MigrationError ChartValues
  | .mount => do return m.mountValues (← commandLine m.request.command)
  | .clusterIp => m.clusterIpValues keys release
  | .loadBalancer => m.loadBalancerDestinationValues keys address
  | .nodePort => m.nodePortDestinationValues keys address port
  | .viaLocal => .ok (m.localDestinationValues keys)

section

variable {m : Migration} {s : Strategy} {keys twin : Ssh.KeyPair}

/-- An rsync job has the private key in its values. -/
theorem alikeBut_destinationRsync (h : keys.IsTwin twin) (sshd : Option SshdValues)
    (host : String) (port : Option Nat) (command : String) :
    Tree.AlikeBut (some "rsync") keys.privateKey twin.privateKey
      (ChartValues.toTree { sshd, rsync := some (m.destinationRsync keys host port command) })
      (ChartValues.toTree { sshd, rsync := some (m.destinationRsync twin host port command) }) := by
  obtain ⟨algorithm, publicKey, privateKey⟩ := keys
  obtain ⟨_, _, privateKey'⟩ := twin
  obtain ⟨rfl, rfl⟩ := h
  rcases sshd with _ | sshd <;> rcases port with _ | port
  all_goals exact ⟨rfl, rfl⟩

theorem alike_fetchingRsync (h : keys.IsTwin twin) (whole : RsyncValues → ChartValues)
    {sshd : Option SshdValues} (hwhole : ∀ rsync, whole rsync = { sshd, rsync := some rsync })
    (discovered : String) (port : Option Nat) :
    Agree (fun v v' ↦ Tree.AlikeBut (some "rsync") keys.privateKey twin.privateKey
        v.toTree v'.toTree)
      (do return whole (← m.fetchingRsync keys discovered port))
      (do return whole (← m.fetchingRsync twin discovered port)) := by
  dsimp only [Migration.fetchingRsync]
  cases commandLine (m.fetchCommand (m.request.remoteHost discovered) port) with
  | error e => exact rfl
  | ok command =>
    have halike := alikeBut_destinationRsync (m := m) h sshd (m.request.remoteHost discovered)
      port command
    rw [← hwhole, ← hwhole] at halike
    exact halike

/-- An sshd does not depend on the private key. -/
theorem sourceSshd_twin (h : keys.IsTwin twin) (exposure : Exposure) :
    m.sourceSshd twin exposure = m.sourceSshd keys exposure := by
  rw [Migration.sourceSshd, Migration.sourceSshd, h.publicKey]

/-- The only sshd that has the private key is the one that the local strategy logs in to first. -/
theorem Strategy.alike_sourceValues? (m : Migration) (s : Strategy) (h : keys.IsTwin twin) :
    Option.Rel (fun v v' ↦ Tree.AlikeBut (s.keyPlace true) keys.privateKey twin.privateKey
      v.toTree v'.toTree) (m.sourceValues? keys s) (m.sourceValues? twin s) := by
  cases s with
  | mount => exact .none
  | clusterIp => exact .none
  | loadBalancer =>
    refine .some ?_
    show ChartValues.toTree { sshd := some (m.sourceSshd twin _) } = _
    rw [sourceSshd_twin h]
    rfl
  | nodePort =>
    refine .some ?_
    show ChartValues.toTree { sshd := some (m.sourceSshd twin _) } = _
    rw [sourceSshd_twin h]
    rfl
  | viaLocal =>
    obtain ⟨algorithm, publicKey, privateKey⟩ := keys
    obtain ⟨_, _, privateKey'⟩ := twin
    obtain ⟨rfl, rfl⟩ := h
    exact .some ⟨rfl, rfl⟩

/-- Beside the destination the private key belongs to rsync, where rsync connects to an sshd, and
to nobody else. -/
theorem Strategy.alike_destinationValues (m : Migration) (s : Strategy) (h : keys.IsTwin twin)
    (release address : String) (port : Nat) :
    Agree (fun v v' ↦ Tree.AlikeBut (s.keyPlace false) keys.privateKey twin.privateKey
        v.toTree v'.toTree)
      (m.destinationValues keys release address port s)
      (m.destinationValues twin release address port s) := by
  cases s with
  | mount =>
    show Agree _ (do return m.mountValues (← commandLine m.request.command))
      (do return m.mountValues (← commandLine m.request.command))
    cases commandLine m.request.command with
    | error e => exact rfl
    | ok command => exact rfl
  | clusterIp =>
    show Agree _ (m.clusterIpValues keys release) (m.clusterIpValues twin release)
    rw [Migration.clusterIpValues, Migration.clusterIpValues, sourceSshd_twin h]
    exact alike_fetchingRsync h (fun rsync ↦ { rsync := some rsync, sshd := _ }) (fun _ ↦ rfl) _ _
  | loadBalancer => exact alike_fetchingRsync h (fun rsync ↦ { rsync }) (fun _ ↦ rfl) _ _
  | nodePort => exact alike_fetchingRsync h (fun rsync ↦ { rsync }) (fun _ ↦ rfl) _ _
  | viaLocal =>
    show ChartValues.toTree (m.localDestinationValues twin) = _
    rw [Migration.localDestinationValues, Migration.localDestinationValues, h.publicKey]

end

/-! ### What a body does -/

/-- What a body reports and which errands it runs, in their order, and how it ends. -/
structure Trace (α : Type) where
  steps : List (LogEntry ⊕ Errand)
  result : Except MigrationError α

namespace Trace

variable {α β : Type}

/-- A trace behind other steps. -/
def behind (steps : List (LogEntry ⊕ Errand)) (t : Trace α) : Trace α :=
  ⟨steps ++ t.steps, t.result⟩

/-- A trace that goes on unless it ends in a failure. -/
def andThen (t : Trace α) (f : α → Trace β) : Trace β :=
  match t.result with
  | .ok x => (f x).behind t.steps
  | .error e => ⟨t.steps, .error e⟩

theorem andThen_behind (steps : List (LogEntry ⊕ Errand)) (t : Trace α) (f : α → Trace β) :
    (t.behind steps).andThen f = (t.andThen f).behind steps := by
  obtain ⟨taken, result⟩ := t
  cases result with
  | ok x => exact congrArg (Trace.mk · (f x).result) (List.append_assoc ..)
  | error e => rfl

end Trace

/-- Follows a body, given what is answered and brought back. -/
def Body.trace {α : Type} (answer : (q : Question) → q.Answer)
    (bring : (e : Errand) → Except MigrationError e.Result) : Body α → Trace α
  | done a => ⟨[], .ok a⟩
  | fail e => ⟨[], .error e⟩
  | report entries next => (next.trace answer bring).behind (entries.map .inl)
  | ask q next => (next (answer q)).trace answer bring
  | run e next => ((next (bring e)).trace answer bring).behind [.inr e]

/-- The answers that bring these keys and are others' for the rest. -/
def answering (keys : Ssh.KeyPair) (others : (q : Question) → q.Answer) : (q : Question) → q.Answer
  | .keys _ => .ok keys
  | q => others q

/-- Whether what an installation brings back does not depend on its values. -/
def IgnoresValues (bring : (e : Errand) → Except MigrationError e.Result) : Prop :=
  ∀ release values values', bring (.install release values) = bring (.install release values')

/-- Whether two errands are the same but for the private key in the values of a release. -/
def Errand.AlikeBut (a : Attempt) (s : Strategy) (keys twin : Ssh.KeyPair) :
    Errand → Errand → Prop
  | install release values, install release' values' => release' = release ∧
    (∀ file, (a.installCall release' file values').arguments =
      (a.installCall release file values).arguments) ∧
    Tree.AlikeBut (s.keyPlace (release == a.sourceRelease)) keys.privateKey twin.privateKey
      values values'
  | e, e' => e' = e

/-- Whether two traces are the same but for the private key, and for results that are related. -/
structure Trace.Alike {α β : Type} (a : Attempt) (s : Strategy) (keys twin : Ssh.KeyPair)
    (R : α → β → Prop) (t : Trace α) (t' : Trace β) : Prop where
  steps : List.Forall₂ (Sum.LiftRel Eq (Errand.AlikeBut a s keys twin)) t.steps t'.steps
  result : Agree R t.result t'.result

namespace Body

section

variable {α α' β β' : Type} {a : Attempt} {s : Strategy} {keys twin : Ssh.KeyPair}
  {R : α → α' → Prop} {S : β → β' → Prop} {answer answer' : (q : Question) → q.Answer}
  {bring : (e : Errand) → Except MigrationError e.Result}

theorem trace_bind (b : Body α) (f : α → Body β) :
    (b >>= f).trace answer bring =
      (b.trace answer bring).andThen fun x ↦ (f x).trace answer bring := by
  show (b.bind f).trace answer bring = _
  induction b with
  | done x => rfl
  | fail e => rfl
  | report entries next ih => rw [bind, trace, ih, trace, Trace.andThen_behind]
  | ask q next ih => exact ih (answer q)
  | run e next ih => rw [bind, trace, ih, trace, Trace.andThen_behind]

theorem trace_reportAtEnd (entries : List LogEntry) (b : Body α) :
    (b.reportAtEnd entries).trace answer bring =
      ⟨(b.trace answer bring).steps ++ entries.map .inl, (b.trace answer bring).result⟩ := by
  induction b with
  | done x => exact congrArg (Trace.mk · (.ok x)) (List.append_nil _)
  | fail e => exact congrArg (Trace.mk · (.error e)) (List.append_nil _)
  | report others next ih => simp [reportAtEnd, trace, ih, Trace.behind]
  | ask q next ih => exact ih (answer q)
  | run e next ih => simp [reportAtEnd, trace, ih, Trace.behind]

/-- Bodies that go on with others are alike if both parts are. -/
theorem alike_bind {b : Body α} {b' : Body α'} {f : α → Body β} {f' : α' → Body β'}
    (hb : (b.trace answer bring).Alike a s keys twin R (b'.trace answer' bring))
    (hf : ∀ x x', R x x' →
      ((f x).trace answer bring).Alike a s keys twin S ((f' x').trace answer' bring)) :
    ((b >>= f).trace answer bring).Alike a s keys twin S ((b' >>= f').trace answer' bring) := by
  obtain ⟨hsteps, hresult⟩ := hb
  rw [trace_bind, trace_bind, Trace.andThen, Trace.andThen]
  cases hx : (b.trace answer bring).result with
  | error e =>
    cases hx' : (b'.trace answer' bring).result with
    | error e' =>
      rw [hx, hx'] at hresult
      exact ⟨hsteps, hresult⟩
    | ok x' =>
      rw [hx, hx'] at hresult
      cases hresult
  | ok x =>
    cases hx' : (b'.trace answer' bring).result with
    | error e' =>
      rw [hx, hx'] at hresult
      cases hresult
    | ok x' =>
      rw [hx, hx'] at hresult
      obtain ⟨hrest, hend⟩ := hf x x' hresult
      exact ⟨List.rel_append hsteps hrest, hend⟩

theorem alike_bind_eq {b b' : Body α} {f : α → Body β} {f' : α → Body β'}
    (hb : (b.trace answer bring).Alike a s keys twin Eq (b'.trace answer' bring))
    (hf : ∀ x, ((f x).trace answer bring).Alike a s keys twin S ((f' x).trace answer' bring)) :
    ((b >>= f).trace answer bring).Alike a s keys twin S ((b' >>= f').trace answer' bring) := by
  refine alike_bind hb ?_
  rintro x _ rfl
  exact hf x

/-- What does not depend on keys at all is alike. -/
theorem alike_ofExcept {result : Except MigrationError α} {result' : Except MigrationError α'}
    (h : Agree R result result') :
    ((ofExcept result).trace answer bring).Alike a s keys twin R
      ((ofExcept result').trace answer' bring) := by
  cases result <;> cases result'
  · exact ⟨.nil, h⟩
  · cases h
  · cases h
  · exact ⟨.nil, h⟩

theorem alike_behind {t : Trace α} {t' : Trace α'} {steps steps' : List (LogEntry ⊕ Errand)}
    (hsteps : List.Forall₂ (Sum.LiftRel Eq (Errand.AlikeBut a s keys twin)) steps steps')
    (h : t.Alike a s keys twin R t') : (t.behind steps).Alike a s keys twin R (t'.behind steps') :=
  ⟨List.rel_append hsteps h.steps, h.result⟩

theorem alike_entries (entries : List LogEntry) :
    List.Forall₂ (Sum.LiftRel Eq (Errand.AlikeBut a s keys twin)) (entries.map .inl)
      (entries.map .inl) := by
  rw [List.forall₂_map_left_iff, List.forall₂_map_right_iff]
  exact List.forall₂_same.mpr fun entry _ ↦ .inl rfl

theorem alike_report (entries : List LogEntry) :
    ((report entries (done ())).trace answer bring).Alike a s keys twin Eq
      ((report entries (done ())).trace answer' bring) :=
  alike_behind (alike_entries entries) ⟨.nil, rfl⟩

/-- Bodies are alike still if both report the same at their ends. -/
theorem alike_reportAtEnd (entries : List LogEntry) {b : Body α} {b' : Body α'}
    (h : (b.trace answer bring).Alike a s keys twin R (b'.trace answer' bring)) :
    ((b.reportAtEnd entries).trace answer bring).Alike a s keys twin R
      ((b'.reportAtEnd entries).trace answer' bring) := by
  rw [trace_reportAtEnd, trace_reportAtEnd]
  exact ⟨List.rel_append h.steps (alike_entries entries), h.result⟩

theorem alike_newKeys (algorithm : Ssh.Algorithm) (others : (q : Question) → q.Answer) :
    ((newKeys algorithm).trace (answering keys others) bring).Alike a s keys twin
      (fun k k' ↦ k = keys ∧ k' = twin)
      ((newKeys algorithm).trace (answering twin others) bring) :=
  ⟨.nil, rfl, rfl⟩

/-- An errand that is no installation is the same. -/
theorem alike_errand {e : Errand} (he : Errand.AlikeBut a s keys twin e e) :
    ((errand e).trace answer bring).Alike a s keys twin Eq ((errand e).trace answer' bring) :=
  alike_behind (.cons (.inr he) .nil) (alike_ofExcept (Agree.refl _))

theorem alike_installRelease (hbring : IgnoresValues bring) {release : Helm.ReleaseRef}
    {values values' : ChartValues}
    (h : Tree.AlikeBut (s.keyPlace (release == a.sourceRelease)) keys.privateKey twin.privateKey
      values.toTree values'.toTree) :
    ((installRelease release values).trace answer bring).Alike a s keys twin Eq
      ((installRelease release values').trace answer' bring) := by
  refine alike_behind (.cons (.inr ⟨rfl, fun _ ↦ rfl, h⟩) .nil) (alike_ofExcept ?_)
  rw [hbring release values'.toTree values.toTree]
  exact Agree.refl _

theorem alike_awaitJob (release : Helm.ReleaseRef) :
    ((awaitJob release).trace answer bring).Alike a s keys twin Eq
      ((awaitJob release).trace answer' bring) :=
  alike_errand (e := .job release.client ⟨release.ns, jobName release.name⟩) rfl

theorem alike_acceptIf (condition : Bool) :
    ((acceptIf condition).trace answer bring).Alike a s keys twin Eq
      ((acceptIf condition).trace answer' bring) := by
  cases condition
  · exact ⟨.nil, rfl⟩
  · exact ⟨.nil, rfl⟩

end

end Body

/-! ### The five bodies -/

namespace Attempt

open Body

section

variable {a : Attempt} {s : Strategy} {keys twin : Ssh.KeyPair}
  {others : (q : Question) → q.Answer}
  {bring : (e : Errand) → Except MigrationError e.Result}

/-- No release beside the destination has the name of the one beside the source. -/
theorem ne_sourceRelease (a : Attempt) :
    ∀ release ∈ [a.soleRelease, a.destinationRelease], (release == a.sourceRelease) = false := by
  -- the names begin alike and differ in their endings
  have hname : ∀ ending ∈ ["", "-dest"], a.releaseName ++ ending ≠ a.releaseName ++ "-src" := by
    intro ending hending heq
    have hsame : ending = "-src" := by simpa using heq
    rw [hsame] at hending
    exact absurd hending (by decide)
  intro release hrelease
  rw [beq_eq_false_iff_ne]
  intro heq
  have hnames := congrArg Helm.ReleaseRef.name heq
  rcases List.mem_pair.mp hrelease with rfl | rfl
  · exact hname "" (by decide) (String.append_empty.trans hnames)
  · exact hname "-dest" (by decide) hnames

theorem alike_installSource (h : keys.IsTwin twin) (hbring : IgnoresValues bring)
    {values values' : ChartValues} (hvalues : a.migration.sourceValues? keys s = some values)
    (hvalues' : a.migration.sourceValues? twin s = some values') :
    ((installRelease a.sourceRelease values).trace (answering keys others) bring).Alike
      a s keys twin Eq
      ((installRelease a.sourceRelease values').trace (answering twin others) bring) := by
  refine alike_installRelease hbring ?_
  have halike := s.alike_sourceValues? a.migration h
  rw [hvalues, hvalues'] at halike
  rw [beq_self_eq_true]
  cases halike with
  | some halike => exact halike

/-- The last steps of a strategy, once there are values for the destination. -/
theorem alike_installDestination (hbring : IgnoresValues bring)
    {release : Helm.ReleaseRef} (hrelease : release ∈ [a.soleRelease, a.destinationRelease])
    {values values' : ChartValues}
    (hvalues : Tree.AlikeBut (s.keyPlace false) keys.privateKey twin.privateKey
      values.toTree values'.toTree) :
    ((installRelease release values).trace (answering keys others) bring).Alike a s keys twin Eq
      ((installRelease release values').trace (answering twin others) bring) := by
  refine alike_installRelease hbring ?_
  rw [ne_sourceRelease a release hrelease]
  exact hvalues

theorem alike_mountBody (hbring : IgnoresValues bring) :
    (a.mountBody.trace (answering keys others) bring).Alike a .mount keys twin Eq
      (a.mountBody.trace (answering twin others) bring) := by
  refine alike_bind_eq (alike_acceptIf _) fun _ ↦ ?_
  refine alike_bind_eq (alike_ofExcept (Agree.refl _)) fun command ↦ ?_
  refine alike_bind_eq (alike_report _) fun _ ↦ ?_
  refine alike_bind_eq (alike_installDestination hbring (by simp) rfl) fun _ ↦ ?_
  exact alike_awaitJob _

theorem alike_clusterIpBody (h : keys.IsTwin twin) (hbring : IgnoresValues bring) :
    (a.clusterIpBody.trace (answering keys others) bring).Alike a .clusterIp keys twin Eq
      (a.clusterIpBody.trace (answering twin others) bring) := by
  refine alike_bind_eq (alike_acceptIf _) fun _ ↦ ?_
  refine alike_bind (alike_newKeys _ others) ?_
  rintro _ _ ⟨rfl, rfl⟩
  refine alike_bind_eq (alike_report _) fun _ ↦ ?_
  refine alike_bind (alike_ofExcept
    (Strategy.alike_destinationValues a.migration .clusterIp h a.releaseName "" 0)) ?_
  intro values values' hvalues
  refine alike_bind_eq (alike_report _) fun _ ↦ ?_
  refine alike_bind_eq (alike_installDestination hbring (by simp) hvalues) fun _ ↦ ?_
  exact alike_awaitJob _

theorem alike_loadBalancerBody (h : keys.IsTwin twin) (hbring : IgnoresValues bring) :
    (a.loadBalancerBody.trace (answering keys others) bring).Alike a .loadBalancer keys twin Eq
      (a.loadBalancerBody.trace (answering twin others) bring) := by
  refine alike_bind (alike_newKeys _ others) ?_
  rintro _ _ ⟨rfl, rfl⟩
  refine alike_bind_eq (alike_report _) fun _ ↦ ?_
  refine alike_bind_eq (alike_installSource h hbring rfl rfl) fun _ ↦ ?_
  refine alike_bind_eq (alike_errand rfl) fun address ↦ ?_
  refine alike_bind_eq (alike_report _) fun _ ↦ ?_
  refine alike_bind_eq (alike_report _) fun _ ↦ ?_
  refine alike_bind (alike_ofExcept
    (Strategy.alike_destinationValues a.migration .loadBalancer h "" address 0)) ?_
  intro values values' hvalues
  refine alike_bind_eq (alike_installDestination hbring (by simp) hvalues) fun _ ↦ ?_
  exact alike_awaitJob _

theorem alike_nodeAddress (address : Option String)
    {answer answer' : (q : Question) → q.Answer} :
    ((nodeAddress address).trace answer bring).Alike a s keys twin Eq
      ((nodeAddress address).trace answer' bring) := by
  cases address with
  | none => exact ⟨.nil, rfl⟩
  | some address => exact ⟨.nil, rfl⟩

theorem alike_nodePortBody (h : keys.IsTwin twin) (hbring : IgnoresValues bring) :
    (a.nodePortBody.trace (answering keys others) bring).Alike a .nodePort keys twin Eq
      (a.nodePortBody.trace (answering twin others) bring) := by
  refine alike_bind (alike_newKeys _ others) ?_
  rintro _ _ ⟨rfl, rfl⟩
  refine alike_bind_eq (alike_report _) fun _ ↦ ?_
  refine alike_bind_eq (alike_installSource h hbring rfl rfl) fun _ ↦ ?_
  refine alike_bind_eq (alike_errand rfl) fun port ↦ ?_
  refine alike_bind_eq (alike_errand rfl) fun pods ↦ ?_
  refine alike_bind_eq (alike_errand rfl) fun nodes ↦ ?_
  refine alike_bind_eq (alike_nodeAddress _) fun address ↦ ?_
  refine alike_bind_eq (alike_report _) fun _ ↦ ?_
  refine alike_bind_eq (alike_report _) fun _ ↦ ?_
  refine alike_bind (alike_ofExcept
    (Strategy.alike_destinationValues a.migration .nodePort h "" address port)) ?_
  intro values values' hvalues
  refine alike_bind_eq (alike_installDestination hbring (by simp) hvalues) fun _ ↦ ?_
  exact alike_awaitJob _

theorem alike_needSsh (present : Bool) {answer answer' : (q : Question) → q.Answer} :
    ((needSsh present).trace answer bring).Alike a s keys twin Eq
      ((needSsh present).trace answer' bring) := by
  cases present
  · exact ⟨.nil, rfl⟩
  · exact ⟨.nil, rfl⟩

/-- The command over ssh names the file of the key, not the key. -/
theorem alike_copyThrough (h : keys.IsTwin twin) (f : Forwards) :
    ((a.copyThrough keys f).trace (answering keys others) bring).Alike a s keys twin Eq
      ((a.copyThrough twin f).trace (answering twin others) bring) := by
  rw [copyThrough, copyThrough, h.algorithm]
  refine alike_bind_eq (alike_ofExcept (Agree.refl _)) fun command ↦ ?_
  refine alike_bind_eq (alike_ofExcept (Agree.refl (others .keyFile))) fun file ↦ ?_
  refine alike_bind_eq (alike_report _) fun _ ↦ ?_
  exact alike_errand
    (e := .ssh (Migration.sshArguments file f.sourcePort f.destinationPort command)) rfl

theorem alike_localBody (h : keys.IsTwin twin) (hbring : IgnoresValues bring) :
    (a.localBody.trace (answering keys others) bring).Alike a .viaLocal keys twin Eq
      (a.localBody.trace (answering twin others) bring) := by
  refine alike_bind_eq ⟨.nil, rfl⟩ fun present ↦ ?_
  refine alike_bind_eq (alike_needSsh present) fun _ ↦ ?_
  refine alike_bind (alike_newKeys _ others) ?_
  rintro _ _ ⟨rfl, rfl⟩
  refine alike_bind_eq (alike_report _) fun _ ↦ ?_
  refine alike_bind_eq (alike_installSource h hbring rfl rfl) fun _ ↦ ?_
  refine alike_bind_eq (alike_installDestination hbring (by simp)
    (Strategy.alike_destinationValues a.migration .viaLocal h "" "" 0)) fun _ ↦ ?_
  refine alike_bind_eq (alike_errand rfl) fun forwards ↦ ?_
  exact alike_reportAtEnd _ (alike_copyThrough h forwards)

end

end Attempt

namespace Strategy

theorem alike_trace (s : Strategy) (a : Attempt) {keys twin : Ssh.KeyPair} (h : keys.IsTwin twin)
    (others : (q : Question) → q.Answer) {bring : (e : Errand) → Except MigrationError e.Result}
    (hbring : IgnoresValues bring) :
    ((s.body a).trace (answering keys others) bring).Alike a s keys twin Eq
      ((s.body a).trace (answering twin others) bring) := by
  cases s with
  | mount => exact Attempt.alike_mountBody hbring
  | clusterIp => exact Attempt.alike_clusterIpBody h hbring
  | loadBalancer => exact Attempt.alike_loadBalancerBody h hbring
  | nodePort => exact Attempt.alike_nodePortBody h hbring
  | viaLocal => exact Attempt.alike_localBody h hbring

/-- Whether all that a strategy hands out with a pair and with its twin is the same but for the
private key among the values of the pod that logs in. -/
structure Confines (s : Strategy) (a : Attempt) (keys twin : Ssh.KeyPair) : Prop where
  describe : twin.describe = keys.describe
  command : ∀ release address port, a.migration.copyCommand twin release address port s =
    a.migration.copyCommand keys release address port s
  sourceValues : Option.Rel
    (fun v v' ↦ Tree.AlikeBut (s.keyPlace true) keys.privateKey twin.privateKey v.toTree v'.toTree)
    (a.migration.sourceValues? keys s) (a.migration.sourceValues? twin s)
  destinationValues : ∀ release address port, Agree
    (fun v v' ↦ Tree.AlikeBut (s.keyPlace false) keys.privateKey twin.privateKey v.toTree v'.toTree)
    (a.migration.destinationValues keys release address port s)
    (a.migration.destinationValues twin release address port s)
  /-- The errands of the body, with the arguments of helm and of ssh, its reports and its end. -/
  trace : ∀ others bring, IgnoresValues bring →
    ((s.body a).trace (answering keys others) bring).Alike a s keys twin Eq
      ((s.body a).trace (answering twin others) bring)

/-- No strategy hands out a private key but to the pod that logs in. -/
theorem confines_private_key (s : Strategy) (a : Attempt) {keys twin : Ssh.KeyPair}
    (h : keys.IsTwin twin) : s.Confines a keys twin where
  describe := h.describe_eq
  command := by
    intro release address port
    cases s with
    | viaLocal => exact congrArg a.migration.pushCommand h.algorithm
    | _ => rfl
  sourceValues := s.alike_sourceValues? a.migration h
  destinationValues := s.alike_destinationValues a.migration h
  trace := fun others _ hbring ↦ s.alike_trace a h others hbring

/-- An attempt between claims that are apart, through this machine. -/
theorem confines_private_key_apart :
    Apart.keys.privateKey ≠ "another" ∧
      Apart.keys.IsTwin { Apart.keys with privateKey := "another" } ∧
      viaLocal.Confines ⟨Apart.migration, "chart", "00000"⟩ Apart.keys
        { Apart.keys with privateKey := "another" } := by
  have htwin : Apart.keys.IsTwin { Apart.keys with privateKey := "another" } := ⟨rfl, rfl⟩
  exact ⟨by decide, htwin, confines_private_key viaLocal _ htwin⟩

end Strategy

end VolumeMigration
