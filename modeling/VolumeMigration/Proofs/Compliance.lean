import VolumeMigration.Proofs.Procedure

/-!
# Following the procedure

Whatever a strategy meets with, its attempt follows the procedure
(`Attempt.perform_follows`). The terms of `Body.Obeys` do not go far enough to show that, since
they do not remember what was answered. Here a body is followed as it is carried out in one world
(`Body.Leads`), and each of its pieces has a rule: given that nothing has failed so far and that
its step is due, it leads to a state in which the attempt has come by something more, or the
attempt is over.
-/

namespace VolumeMigration

/-! ### Bodies in one world -/

namespace Body

variable {α β : Type} (w : World) (a : Attempt) (Ends : Run → Prop)

/-- The weakest precondition of a body that is carried out in a world, for two conditions: one on
its value and the run when it comes to one, and one on the run when it stops before. -/
def Leads : Body α → Run → (α → Run → Prop) → Prop
  | done x, r, K => K x r
  | fail _, r, _ => Ends r
  | report entries next, r, K => next.Leads (r.logAll entries) K
  | ask q next, r, K => (next (Attempt.answer w q r).1).Leads (Attempt.answer w q r).2 K
  | run e next, r, K =>
    match a.carryOut w e r with
    | (.standstill _, s) => Ends s
    | (.value back, s) =>
      if s.isCancelled then Ends s else (next back.result).Leads (s.logAll back.logs) K

variable {w a Ends}

/-- Two bodies, one after the other: the first one leads to where the second one starts. -/
@[simp] theorem leads_bind (b : Body α) (f : α → Body β) (r : Run) (K : β → Run → Prop) :
    (b >>= f).Leads w a Ends r K ↔ b.Leads w a Ends r fun x s ↦ (f x).Leads w a Ends s K := by
  show (b.bind f).Leads w a Ends r K ↔ _
  induction b generalizing r with
  | done x => exact Iff.rfl
  | fail e => exact Iff.rfl
  | report entries next ih => exact ih _
  | ask q next ih => exact ih _ _
  | run e next ih =>
    simp only [bind, Leads]
    split
    · exact Iff.rfl
    · split
      · exact Iff.rfl
      · exact ih _ _

/-- A body leads on with what it reports at its end, where a report does not matter to an end. -/
theorem leads_reportAtEnd {entries : List LogEntry} {K : α → Run → Prop} {b : Body α} {r : Run}
    (hends : ∀ s : Run, Ends s → Ends (s.logAll entries))
    (hb : b.Leads w a Ends r fun x s ↦ K x (s.logAll entries)) :
    (b.reportAtEnd entries).Leads w a Ends r K := by
  induction b generalizing r with
  | done x => exact hb
  | fail e => exact hends r hb
  | report others next ih => exact ih hb
  | ask q next ih => exact ih _ hb
  | run e next ih =>
    simp only [reportAtEnd, Leads] at hb ⊢
    rcases hcarried : a.carryOut w e r with ⟨back | cause, s⟩ <;> rw [hcarried] at hb <;>
      dsimp only at hb ⊢
    · split at hb
      next hc =>
        rw [if_pos hc]
        exact hb
      next hc =>
        rw [if_neg hc]
        exact ih _ hb
    · exact hb

/-- Where a body leads it comes out. -/
theorem ends_carryOut {b : Body Unit} {r : Run} (hb : b.Leads w a Ends r fun _ ↦ Ends) :
    Ends (b.carryOut w a r).2 := by
  induction b generalizing r with
  | done x => exact hb
  | fail e => exact hb
  | report entries next ih => exact ih hb
  | ask q next ih => exact ih _ hb
  | run e next ih =>
    rw [carryOut]
    simp only [Leads] at hb
    rcases hcarried : a.carryOut w e r with ⟨back | cause, s⟩ <;> rw [hcarried] at hb <;>
      dsimp only at hb ⊢
    · split at hb
      next hc =>
        rw [if_pos hc]
        exact hb
      next hc =>
        rw [if_neg hc]
        exact ih _ hb
    · exact hb

end Body

namespace Course

open Body

variable {c : Course} {r : Run} {α : Type}

/-- The body leads to this, and stays within the procedure of the attempt on the way there. -/
abbrev Leads (c : Course) (b : Body α) (r : Run) (K : α → Run → Prop) : Prop :=
  b.Leads c.world c.attempt (fun s ↦ c.Follows s.history) r K

/-! ### What each piece of a body leads to -/

theorem leads_ofExcept {result : Except MigrationError α} {K : α → Run → Prop}
    (hf : c.Follows r.history) (hK : ∀ x, result = .ok x → K x r) :
    c.Leads (ofExcept result) r K := by
  rcases result with e | x
  · exact hf
  · exact hK x rfl

/-- A strategy that does not suit the migration ends its attempt, within the procedure. -/
theorem leads_acceptIf {condition : Bool} {K : Unit → Run → Prop} (hf : c.Follows r.history)
    (hK : K () r) : c.Leads (acceptIf condition) r K := by
  cases condition with
  | false => exact hf
  | true => exact hK

/-- Behind the look for ssh there is an ssh. -/
theorem leads_needSsh {present : Bool} {K : Unit → Run → Prop} (hf : c.Follows r.history)
    (hK : present = true → K () r) : c.Leads (Attempt.needSsh present) r K := by
  cases present with
  | false => exact hf
  | true => exact hK rfl

/-- Behind the choice of an address there is one. -/
theorem leads_nodeAddress {found : Option String} {K : String → Run → Prop}
    (hf : c.Follows r.history) (hK : ∀ address, found = some address → K address r) :
    c.Leads (Attempt.nodeAddress found) r K := by
  cases found with
  | none => exact hf
  | some address => exact hK address rfl

theorem suffix_logAll (r : Run) (entries : List LogEntry) :
    r.history <:+ (r.logAll entries).history := by
  induction entries generalizing r with
  | nil => exact List.suffix_rfl
  | cons entry entries ih => exact (List.suffix_cons _ _).trans (ih (r.log entry))

/-- What is reported is no step, so it keeps the attempt where it is. -/
theorem leads_report {entries : List LogEntry} {K : Unit → Run → Prop}
    (ht : c.Thrives r.history)
    (hK : ∀ s : Run, c.Thrives s.history → r.history <:+ s.history → K () s) :
    c.Leads (report entries (done ())) r K :=
  hK _ (ht.logAll entries) (suffix_logAll r entries)

/-- A key pair is due at any time, and the attempt then has one. -/
theorem leads_newKeys {algorithm : Ssh.Algorithm} {K : Ssh.KeyPair → Run → Prop}
    (ht : c.Thrives r.history)
    (hK : ∀ keys (s : Run), c.Thrives s.history → c.HasKeys s.history keys → K keys s) :
    c.Leads (newKeys algorithm) r K := by
  have hdue : c.Due r.history (.keysSought algorithm) := .keys algorithm
  show c.Leads (ofExcept (((c.world r.history).keys algorithm).mapError .key))
    (r.note (.keysSought algorithm)) K
  rcases hkeys : (c.world r.history).keys algorithm with reason | keys
  · exact ht.follows_cons hdue
  · exact hK keys _ (ht.cons hdue ⟨keys, hkeys⟩)
      ⟨_, r.history, happened_cons_self ht.base_suffix _, algorithm, rfl, hkeys⟩

/-- An errand that installs nothing is one step. What it comes back with is a success if the body
goes on to thrive. -/
theorem leads_run {e : Errand} {event : Event} {next : Except MigrationError e.Result → Body α}
    {K : α → Run → Prop} (hevent : e.event? = some event) (ht : c.Thrives r.history)
    (hdue : c.Due r.history event)
    (hnext : ∀ back s (t : Run), c.attempt.carryOut c.world e r = (.value back, s) →
      c.Follows t.history → event :: r.history <:+ t.history →
        (c.Succeeded r.history event → c.Thrives t.history) → c.Leads (next back.result) t K) :
    c.Leads (run e next) r K := by
  have hfollows := ht.follows_cons hdue
  have hinstall : e.isInstall = false := by
    cases e <;> first | rfl | cases hevent
  obtain ⟨event', logs, cancels, hevent', -, ⟨back, hout, -⟩ | ⟨-, hout⟩⟩ :=
    Attempt.carryOut_of_not_isInstall c.world c.attempt hinstall r
  all_goals
    obtain rfl : event = event' := Option.some.inj (hevent.symm.trans hevent')
    have hlogged : c.Follows ((r.note event).logAll logs).history := hfollows.logAll logs
    simp only [Leads, Body.Leads, hout]
  · split
    · exact hlogged.interrupt cancels
    next hc =>
      obtain rfl := Run.eq_none_of_isCancelled_interrupt _ (Bool.eq_false_iff.mpr hc)
      refine hnext back _ _ hout (hlogged.logAll back.logs) ?_ ?_
      · exact (suffix_logAll (r.note event) logs).trans (suffix_logAll _ back.logs)
      · intro hsucceeded
        have hthrives : c.Thrives (r.note event).history := ht.cons hdue hsucceeded
        exact (hthrives.logAll logs).logAll back.logs
  · exact hlogged

/-- An errand whose failure is that of the body. -/
theorem leads_errand {e : Errand} {event : Event} {K : e.Result → Run → Prop}
    (hevent : e.event? = some event) (ht : c.Thrives r.history) (hdue : c.Due r.history event)
    (hK : ∀ back s x, c.attempt.carryOut c.world e r = (.value back, s) → back.result = .ok x →
      c.Succeeded r.history event ∧ ∀ t : Run, c.Thrives t.history → c.Happened t.history event
        r.history → K x t) :
    c.Leads (errand e) r K := by
  refine leads_run hevent ht hdue fun back s t hout hf hlater hthrives ↦ ?_
  rcases hresult : back.result with f | x
  · exact hf
  · obtain ⟨hsucceeded, hnext⟩ := hK back s x hout hresult
    exact hnext t (hthrives hsucceeded) ⟨ht.base_suffix, hlater⟩

/-- An installation takes two steps: it is recorded, and helm is called. -/
theorem leads_installRelease {release : Helm.ReleaseRef} {values : ChartValues}
    {K : Unit → Run → Prop} (ht : c.Thrives r.history)
    (hinstalls : c.Installs r.history release values.toTree)
    (hK : ∀ s : Run, c.Thrives s.history → r.history <:+ s.history →
      c.HasInstalled s.history release → K () s) :
    c.Leads (installRelease release values) r K := by
  have hends := c.attempt.installing_install c.world release values.toTree r
  have hrecorded : c.Follows (r.record ⟨release, c.attempt.id⟩).history :=
    ht.follows_cons (.recorded hinstalls)
  simp only [Leads, installRelease, errand, Body.Leads, Attempt.carryOut]
  generalize c.attempt.install c.world release values.toTree r = out at hends ⊢
  rcases hends with
    hfile | ⟨entry, -⟩ | @⟨file, outcome, cancels, result, logs, entry, hfile, hresult⟩
  · dsimp only
    split <;> exact hrecorded
  · exact hrecorded.cons_of_not_isWork rfl
  · have hlogged : c.Thrives ((r.record ⟨release, c.attempt.id⟩).log entry).history :=
      (ht.cons (.recorded hinstalls) ⟨file, hfile⟩).cons_of_isAside rfl
    have hlater : r.history <:+ ((r.record ⟨release, c.attempt.id⟩).log entry).history :=
      (List.suffix_cons _ _).trans (List.suffix_cons _ _)
    have hdue := Due.installed (hinstalls.mono hlater) file outcome
    have hcalled : c.Follows ((((r.record ⟨release, c.attempt.id⟩).log entry).note
        (.helmCalled (c.attempt.installCall release file values.toTree) outcome)).interrupt
          cancels).history :=
      Follows.interrupt (hlogged.follows_cons hdue) cancels
    dsimp only
    split
    · exact hcalled
    next hc =>
      rcases hresult with ⟨rfl, hsuccess⟩ | ⟨reason, rfl⟩
      · obtain rfl := Run.eq_none_of_isCancelled_interrupt _ (Bool.eq_false_iff.mpr hc)
        have hthrives : c.Thrives (((r.record ⟨release, c.attempt.id⟩).log entry).note (.helmCalled
            (c.attempt.installCall release file values.toTree) outcome)).history :=
          hlogged.cons hdue hsuccess
        have hsuffix := suffix_logAll (((r.record ⟨release, c.attempt.id⟩).log entry).note
          (.helmCalled (c.attempt.installCall release file values.toTree) outcome)) logs
        refine hK _ (hthrives.logAll logs) ?_ ?_
        · exact hlater.trans ((List.suffix_cons _ _).trans hsuffix)
        · exact ⟨_, _, ⟨hlogged.base_suffix, hsuffix⟩, _, outcome, rfl, rfl, rfl, hsuccess⟩
      · exact hcalled.logAll logs

/-- The job of an installed release may be waited for, and that is the last step. -/
theorem leads_awaitJob {release : Helm.ReleaseRef} (ht : c.Thrives r.history)
    (hinstalled : c.HasInstalled r.history release) :
    c.Leads (awaitJob release) r fun _ s ↦ c.Follows s.history := by
  refine leads_run rfl ht (.job hinstalled) fun back s t hout hf hlater hthrives ↦ ?_
  exact leads_ofExcept hf fun _ _ ↦ hf

/-! ### What the sshd beside the source is reached by -/

/-- The service that a body watches is the one that the procedure speaks of. -/
theorem sshdService_sourceRelease : Body.sshdService c.attempt.sourceRelease = c.sshdService := by
  have hname : "-src" ++ sshdServiceName "" = "-src-sshd" := by decide
  simp only [Body.sshdService, sshdService, sshdServiceName, Attempt.sourceRelease,
    Attempt.releaseName, Attempt.releasePrefixOf, String.append_assoc, String.empty_append,
    NamespacedName.mk.injEq, true_and] at hname ⊢
  rw [hname]

/-- The service of an installed sshd may be watched, and what is found there is the address that the
procedure asks for. -/
theorem leads_address {K : String → Run → Prop} (hs : c.strategy = .loadBalancer)
    (ht : c.Thrives r.history) (hsource : c.HasInstalled r.history c.attempt.sourceRelease)
    (hK : ∀ address (s : Run), c.Thrives s.history → r.history <:+ s.history →
      c.HasAddress s.history address → K address s) :
    c.Leads (errand (.address c.attempt.sourceRelease.client
      (Body.sshdService c.attempt.sourceRelease))) r K := by
  rw [sshdService_sourceRelease]
  refine leads_errand rfl ht (.service (Or.inl hs) hsource) fun back s address hout hresult ↦ ?_
  have hfound : c.address r.history c.attempt.migration.source.client c.sshdService =
      .ok address := by
    cases hout
    exact hresult
  refine ⟨?_, fun t ht' hwatched ↦ ?_⟩
  · simp only [Succeeded, hs]
    exact ⟨address, hfound⟩
  · exact hK address t ht' hwatched.isSuffix ⟨_, r.history, hwatched, rfl, hfound⟩

/-- The same service, watched for a node port. -/
theorem leads_nodePort {K : Nat → Run → Prop} (hs : c.strategy = .nodePort)
    (ht : c.Thrives r.history) (hsource : c.HasInstalled r.history c.attempt.sourceRelease)
    (hK : ∀ port (s : Run), c.Thrives s.history → r.history <:+ s.history →
      c.HasNodePort s.history port → K port s) :
    c.Leads (errand (.nodePort c.attempt.sourceRelease.client
      (Body.sshdService c.attempt.sourceRelease))) r K := by
  rw [sshdService_sourceRelease]
  refine leads_errand rfl ht (.service (Or.inr hs) hsource) fun back s port hout hresult ↦ ?_
  have hfound : c.nodePort r.history c.attempt.migration.source.client c.sshdService =
      .ok port := by
    cases hout
    exact hresult
  refine ⟨?_, fun t ht' hwatched ↦ ?_⟩
  · simp only [Succeeded, hs]
    exact ⟨port, hfound⟩
  · exact hK port t ht' hwatched.isSuffix ⟨_, r.history, hwatched, rfl, hfound⟩

/-- The pods of the sshd may be looked for once it is installed. -/
theorem leads_sshdPods {K : List Pod → Run → Prop} (hs : c.strategy = .nodePort)
    (ht : c.Thrives r.history) (hsource : c.HasInstalled r.history c.attempt.sourceRelease)
    (hK : ∀ pods (s : Run), c.Thrives s.history → r.history <:+ s.history →
      c.HasSshdPods s.history pods → K pods s) :
    c.Leads (errand (.sshdPods c.attempt.sourceRelease)) r K := by
  refine leads_errand rfl ht (.sshdPods hs hsource) fun back s pods hout hresult ↦ ?_
  have hpods : ((c.world r.history).sshdPods c.attempt.sourceRelease).answer = .ok pods := by
    cases hout
    exact mapError_eq_ok_iff.mp hresult
  refine ⟨⟨pods, hpods⟩, fun t ht' hsought ↦ ?_⟩
  exact hK pods t ht' hsought.isSuffix ⟨_, r.history, hsought, rfl, hpods⟩

/-- So may the nodes of its cluster. -/
theorem leads_nodes {K : List Node → Run → Prop} (hs : c.strategy = .nodePort)
    (ht : c.Thrives r.history) (hsource : c.HasInstalled r.history c.attempt.sourceRelease)
    (hK : ∀ nodes (s : Run), c.Thrives s.history → r.history <:+ s.history →
      c.HasNodes s.history nodes → K nodes s) :
    c.Leads (errand (.nodes c.attempt.sourceRelease.client)) r K := by
  refine leads_errand rfl ht (.nodes hs hsource) fun back s nodes hout hresult ↦ ?_
  have hnodes : ((c.world r.history).nodes c.attempt.migration.source.client).answer =
      .ok nodes := by
    cases hout
    exact mapError_eq_ok_iff.mp hresult
  refine ⟨⟨nodes, hnodes⟩, fun t ht' hsought ↦ ?_⟩
  exact hK nodes t ht' hsought.isSuffix ⟨_, r.history, hsought, rfl, hnodes⟩

/-- Port-forwards may start when both releases are installed. They give the ports that ssh is to
use. -/
theorem leads_forwards {K : Forwards → Run → Prop} (hs : c.strategy = .viaLocal)
    (ht : c.Thrives r.history) (hsource : c.HasInstalled r.history c.attempt.sourceRelease)
    (hdestination : c.HasInstalled r.history c.attempt.destinationRelease)
    (hK : ∀ f (s : Run), c.Thrives s.history → c.HasForwards s.history f → K f s) :
    c.Leads (errand (.forwards c.attempt.sourceRelease c.attempt.destinationRelease)) r K := by
  refine leads_errand rfl ht (.forwards hs hsource hdestination) fun back s f hout hresult ↦ ?_
  have hready : c.forwards r.history c.attempt.sourceRelease c.attempt.destinationRelease =
      .ok f := by
    simp only [Attempt.carryOut] at hout
    cases hout
    exact hresult
  exact ⟨⟨f, hready⟩, fun t ht' hstarted ↦ hK f t ht' ⟨_, r.history, hstarted, rfl, hready⟩⟩

/-- Ssh is told the ports that the forwards listen on. -/
theorem leads_copyThrough {keys : Ssh.KeyPair} {f : Forwards} {K : Unit → Run → Prop}
    (hs : c.strategy = .viaLocal) (ht : c.Thrives r.history)
    (hforwards : c.HasForwards r.history f) (hK : ∀ s : Run, c.Follows s.history → K () s) :
    c.Leads (c.attempt.copyThrough keys f) r K := by
  simp only [Leads, Attempt.copyThrough, leads_bind]
  refine leads_ofExcept ht.toFollows fun command _ ↦ ?_
  show Body.Leads _ _ _ (ofExcept ((c.world r.history).keyFile.mapError .io)) r _
  refine leads_ofExcept ht.toFollows fun file _ ↦ ?_
  have hlogged := ht.cons_of_isAside (e := .log (.debug "starting local ssh client"
    [("src_port", toString f.sourcePort), ("dest_port", toString f.destinationPort)])) rfl
  have hlater := List.suffix_cons (Event.log (.debug "starting local ssh client"
    [("src_port", toString f.sourcePort), ("dest_port", toString f.destinationPort)])) r.history
  refine leads_run rfl hlogged (.ssh hs (hforwards.mono hlater) rfl rfl)
    fun back s t hout hf hlater hthrives ↦ ?_
  exact leads_ofExcept hf fun _ _ ↦ hK t hf

/-! ### The five bodies -/

theorem leads_mountBody (hs : c.strategy = .mount) (ht : c.Thrives r.history) :
    c.Leads c.attempt.mountBody r fun _ s ↦ c.Follows s.history := by
  simp only [Leads, Attempt.mountBody, leads_bind]
  refine leads_acceptIf ht.toFollows ?_
  refine leads_ofExcept ht.toFollows fun command hcommand ↦ ?_
  refine leads_report ht fun s ht hlater ↦ ?_
  refine leads_installRelease ht (.mount hs hcommand) fun s ht hlater hinstalled ↦ ?_
  exact leads_awaitJob ht hinstalled

theorem leads_clusterIpBody (hs : c.strategy = .clusterIp) (ht : c.Thrives r.history) :
    c.Leads c.attempt.clusterIpBody r fun _ s ↦ c.Follows s.history := by
  simp only [Leads, Attempt.clusterIpBody, leads_bind]
  refine leads_acceptIf ht.toFollows ?_
  refine leads_newKeys ht fun keys s ht hkeys ↦ ?_
  refine leads_report ht fun s ht hlater ↦ ?_
  refine leads_ofExcept ht.toFollows fun values hvalues ↦ ?_
  refine leads_report ht fun t ht hlater' ↦ ?_
  have hkeys' := hkeys.mono (hlater.trans hlater')
  refine leads_installRelease ht (.clusterIp hs hkeys' hvalues) fun s ht hlater hinstalled ↦ ?_
  exact leads_awaitJob ht hinstalled

theorem leads_loadBalancerBody (hs : c.strategy = .loadBalancer) (ht : c.Thrives r.history) :
    c.Leads c.attempt.loadBalancerBody r fun _ s ↦ c.Follows s.history := by
  simp only [Leads, Attempt.loadBalancerBody, leads_bind]
  refine leads_newKeys ht fun keys r₁ ht hkeys ↦ ?_
  refine leads_report ht fun r₂ ht hlater ↦ ?_
  have hkeys := hkeys.mono hlater
  refine leads_installRelease ht (.loadBalancerSource hs hkeys) fun r₃ ht hlater hsource ↦ ?_
  have hkeys := hkeys.mono hlater
  refine leads_address hs ht hsource fun address r₄ ht hlater haddress ↦ ?_
  have hkeys := hkeys.mono hlater
  have hsource := hsource.mono hlater
  refine leads_report ht fun r₅ ht hlater ↦ ?_
  refine leads_report ht fun r₆ ht hlater' ↦ ?_
  have hlater := hlater.trans hlater'
  refine leads_ofExcept ht.toFollows fun values hvalues ↦ ?_
  refine leads_installRelease ht (.loadBalancerDestination hs (hkeys.mono hlater)
    (hsource.mono hlater) (haddress.mono hlater) hvalues) fun r₇ ht hlater hinstalled ↦ ?_
  exact leads_awaitJob ht hinstalled

theorem leads_nodePortBody (hs : c.strategy = .nodePort) (ht : c.Thrives r.history) :
    c.Leads c.attempt.nodePortBody r fun _ s ↦ c.Follows s.history := by
  simp only [Leads, Attempt.nodePortBody, leads_bind]
  refine leads_newKeys ht fun keys r₁ ht hkeys ↦ ?_
  refine leads_report ht fun r₂ ht hlater ↦ ?_
  have hkeys := hkeys.mono hlater
  refine leads_installRelease ht (.nodePortSource hs hkeys) fun r₃ ht hlater hsource ↦ ?_
  have hkeys := hkeys.mono hlater
  refine leads_nodePort hs ht hsource fun port r₄ ht hlater hport ↦ ?_
  have hkeys := hkeys.mono hlater
  have hsource := hsource.mono hlater
  refine leads_sshdPods hs ht hsource fun pods r₅ ht hlater hpods ↦ ?_
  refine leads_nodes hs ht (hsource.mono hlater) fun nodes r₆ ht hlater' hnodes ↦ ?_
  refine leads_nodeAddress ht.toFollows fun address hpicked ↦ ?_
  have haddress : c.HasNodeAddress r₆.history address :=
    ⟨pods, nodes, hpods.mono hlater', hnodes, hpicked⟩
  have hlater := hlater.trans hlater'
  refine leads_report ht fun r₇ ht hlater' ↦ ?_
  refine leads_report ht fun r₈ ht hlater'' ↦ ?_
  have hsince := hlater'.trans hlater''
  have hlater := hlater.trans hsince
  refine leads_ofExcept ht.toFollows fun values hvalues ↦ ?_
  refine leads_installRelease ht (.nodePortDestination hs (hkeys.mono hlater)
    (hsource.mono hlater) (hport.mono hlater) (haddress.mono hsince) hvalues)
      fun r₉ ht hlater hinstalled ↦ ?_
  exact leads_awaitJob ht hinstalled

theorem leads_localBody (hs : c.strategy = .viaLocal) (hr : r.history = c.base) :
    c.Leads c.attempt.localBody r fun _ s ↦ c.Follows s.history := by
  have ht : c.Thrives r.history := hr ▸ .start c
  simp only [Leads, Attempt.localBody, leads_bind]
  show Body.Leads _ _ _ (Attempt.needSsh (c.world r.history).hasSsh) r _
  refine leads_needSsh ht.toFollows fun hssh ↦ ?_
  rw [hr] at hssh
  refine leads_newKeys ht fun keys r₁ ht hkeys ↦ ?_
  refine leads_report ht fun r₂ ht hlater ↦ ?_
  have hkeys := hkeys.mono hlater
  refine leads_installRelease ht (.localSource hs hssh hkeys) fun r₃ ht hlater hsource ↦ ?_
  refine leads_installRelease ht (.localDestination hs hssh (hkeys.mono hlater) hsource)
    fun r₄ ht hlater hdestination ↦ ?_
  refine leads_forwards hs ht (hsource.mono hlater) hdestination fun f r₅ ht hforwards ↦ ?_
  refine leads_reportAtEnd (fun s hs ↦ hs.logAll _) ?_
  exact leads_copyThrough hs ht hforwards fun s hs ↦ hs.logAll _

/-- Every strategy's body stays within the procedure, from the start of an attempt to its end. -/
theorem leads_body (hr : r.history = c.base) :
    c.Leads (c.strategy.body c.attempt) r fun _ s ↦ c.Follows s.history := by
  have ht : c.Thrives r.history := hr ▸ .start c
  cases hs : c.strategy with
  | mount => exact leads_mountBody hs ht
  | clusterIp => exact leads_clusterIpBody hs ht
  | loadBalancer => exact leads_loadBalancerBody hs ht
  | nodePort => exact leads_nodePortBody hs ht
  | viaLocal => exact leads_localBody hs hr

end Course

/-- Every attempt follows its procedure, with whatever strategy and whatever it is answered: each
of its steps is due when it is made, and none is made after a step that has failed. -/
theorem Attempt.perform_follows (w : World) (a : Attempt) (strategy : Strategy) (r : Run) :
    (Course.mk w a strategy r.history).Follows (a.perform w (strategy.body a) r).2.history := by
  let c : Course := ⟨w, a, strategy, r.history⟩
  have hexecuted : c.Follows (a.execute w (strategy.body a) r).2.history := by
    rw [execute]
    split
    · exact (Course.Thrives.start c).toFollows
    · exact Body.ends_carryOut (Course.leads_body (c := c) rfl)
  rcases a.perform_cases w (strategy.body a) r with h | h <;> rw [h]
  · exact hexecuted
  · -- Cleaning up only reports and removes, so no step comes after the body.
    obtain ⟨later, hhistory, hlater⟩ :=
      (Run.path_cleanUp w a.request a.id (a.execute w (strategy.body a) r).2).exists_later
    rw [hhistory]
    refine hexecuted.append fun e he ↦ ?_
    rcases hlater e he with haside | hremoves
    · exact Event.isWork_of_isAside haside
    · exact Run.isWork_of_removes hremoves

end VolumeMigration
