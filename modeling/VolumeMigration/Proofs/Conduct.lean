import VolumeMigration.Proofs.Law
import VolumeMigration.Proofs.Recoverable
import VolumeMigration.Proofs.Terms

/-!
# The conduct of the strategies

All five strategies keep to the same terms (`Strategy.obeys_body`):

* they install no release but those of their attempt;
* they wait for nothing and look at nothing on a cluster before an installation has succeeded,
  so that a body which cannot install cannot be held up either;
* nor do they succeed before that;
* they give up only with failures that leave the next strategy its turn, provided that no
  errand comes back with another one.

The last point is proved for any kind of failures that has the mishaps in it, and declining if the
strategy does not accept the migration. So it also says which bodies decline.
-/

namespace VolumeMigration

/-- An errand that installs something. -/
def Errand.isInstall : Errand → Bool
  | .install _ _ => true
  | _ => false

/-- An errand that installs names a release and its values. -/
theorem Errand.exists_of_isInstall {e : Errand} (he : e.isInstall = true) :
    ∃ release values, e = .install release values := by
  cases e with
  | install release values => exact ⟨release, values, rfl⟩
  | _ => cases he

/-- The event that an errand begins with, if it installs nothing. -/
def Errand.event? : Errand → Option Event
  | .install _ _ => none
  | .address client service | .nodePort client service => some (.serviceWatched client service)
  | .sshdPods release => some (.sshdPodsSought release)
  | .nodes client => some (.nodesSought client)
  | .job client name => some (.jobAwaited client name)
  | .forwards source destination => some (.forwardsStarted source destination)
  | .ssh words => some (.sshRun words)

/-- An errand that a strategy may run, after these have succeeded. -/
def Errand.Proper (a : Attempt) (before : List Errand) : Errand → Prop
  | .install release _ => release ∈ a.releases
  | _ => ∃ e ∈ before, e.isInstall = true

/-- Before any other errand that is proper, something was installed. -/
theorem Errand.exists_isInstall_of_proper {a : Attempt} {before : List Errand} {e : Errand}
    (he : e.isInstall = false) (h : e.Proper a before) : ∃ e ∈ before, e.isInstall = true := by
  cases e with
  | install release values => cases he
  | _ => exact h

/-- What may be answered to a question. -/
def Question.Proper (Fine : MigrationError → Prop) : (q : Question) → q.Answer → Prop
  | .hasSsh, _ => True
  | .keys _, answer => FailsOnly Fine answer
  | .keyFile, answer => FailsOnly Fine answer

/-- The terms of every strategy, by which everything fails in a fine way. -/
def Attempt.terms (a : Attempt) (Fine : MigrationError → Prop) : Terms where
  Answers := Question.Proper Fine
  Brings _ := FailsOnly Fine
  Allows := Errand.Proper a
  Fails := Fine

/-- Whether a strategy takes on a migration. -/
def Strategy.accepts (m : Migration) : Strategy → Bool
  | mount => m.sharesNode
  | clusterIp => m.sameCluster
  | loadBalancer | nodePort | viaLocal => true

namespace Attempt

open Body

variable (a : Attempt) {Fine : MigrationError → Prop} {before : List Errand}

@[simp] theorem soleRelease_mem_releases : a.soleRelease ∈ a.releases := by simp [releases]

@[simp] theorem sourceRelease_mem_releases : a.sourceRelease ∈ a.releases := by simp [releases]

@[simp] theorem destinationRelease_mem_releases : a.destinationRelease ∈ a.releases := by
  simp [releases]

/-! ### The pieces that bodies share -/

variable {α : Type} {K : α → List Errand → Prop}

/-- A result that is made without an errand keeps the terms if its failures do. -/
theorem obeys_ofExcept {result : Except MigrationError α} (hresult : FailsOnly Fine result)
    (hK : ∀ x, K x before) : (ofExcept result).Obeys (a.terms Fine) before K :=
  (Body.obeys_ofExcept result before K).mpr ⟨fun x _ ↦ hK x, hresult⟩

/-- To decline keeps the terms if they allow it. -/
theorem obeys_acceptIf (condition : Bool) (hdeclined : condition = false → Fine .unaccepted)
    {K : Unit → List Errand → Prop} (hK : K () before) :
    (acceptIf condition).Obeys (a.terms Fine) before K :=
  (Body.obeys_acceptIf condition before K).mpr ⟨fun _ ↦ hK, hdeclined⟩

/-- To ask for keys is no errand. -/
theorem obeys_newKeys (algorithm : Ssh.Algorithm) {K : Ssh.KeyPair → List Errand → Prop}
    (hK : ∀ keys, K keys before) : (newKeys algorithm).Obeys (a.terms Fine) before K := by
  intro answer hanswer
  exact a.obeys_ofExcept hanswer hK

/-- An errand whose failure is that of the body. -/
theorem obeys_errand {e : Errand} {K : e.Result → List Errand → Prop}
    (he : e.Proper a before) (hK : ∀ x, K x (e :: before)) :
    (errand e).Obeys (a.terms Fine) before K := by
  refine ⟨he, ?_⟩
  rintro (f | x) hresult
  · exact hresult f rfl
  · exact hK x

/-- An attempt may install any release of its own, at any time. -/
theorem obeys_installRelease {release : Helm.ReleaseRef} (hrelease : release ∈ a.releases)
    (values : ChartValues) {K : Unit → List Errand → Prop}
    (hK : K () (.install release values.toTree :: before)) :
    (installRelease release values).Obeys (a.terms Fine) before K :=
  a.obeys_errand hrelease fun _ ↦ hK

/-! ### The five bodies -/

variable (hfine : ∀ e : MigrationError, e.isMishap = true → Fine e)
include hfine

/-- One release is installed before anything is waited for. -/
theorem obeys_mountBody (hdeclined : a.migration.sharesNode = false → Fine .unaccepted) :
    a.mountBody.Obeys (a.terms Fine) [] fun _ since ↦ ∃ e ∈ since, e.isInstall = true := by
  simp only [mountBody, obeys_bind]
  refine a.obeys_acceptIf _ hdeclined ?_
  refine a.obeys_ofExcept ((mishap_commandLine _).mono hfine) fun command ↦ ?_
  rw [obeys_log]
  refine a.obeys_installRelease a.soleRelease_mem_releases _ ?_
  exact a.obeys_errand (by simp [Errand.Proper, Errand.isInstall]) fun _ ↦ by
    simp [Errand.isInstall]

theorem obeys_clusterIpBody (hdeclined : a.migration.sameCluster = false → Fine .unaccepted) :
    a.clusterIpBody.Obeys (a.terms Fine) [] fun _ since ↦ ∃ e ∈ since, e.isInstall = true := by
  simp only [clusterIpBody, obeys_bind]
  refine a.obeys_acceptIf _ hdeclined ?_
  refine a.obeys_newKeys _ fun keys ↦ ?_
  have hvalues : Mishap (a.migration.clusterIpValues keys a.releaseName) :=
    FailsOnly.bind (a.migration.mishap_fetchingRsync keys _ none) fun _ ↦ FailsOnly.ok _
  refine a.obeys_ofExcept (hvalues.mono hfine) fun values ↦ ?_
  rw [obeys_log]
  refine a.obeys_installRelease a.soleRelease_mem_releases _ ?_
  exact a.obeys_errand (by simp [Errand.Proper, Errand.isInstall]) fun _ ↦ by
    simp [Errand.isInstall]

/-- The source's release comes first, then the address of its service, then the destination's
release. -/
theorem obeys_loadBalancerBody :
    a.loadBalancerBody.Obeys (a.terms Fine) [] fun _ since ↦ ∃ e ∈ since, e.isInstall = true := by
  simp only [loadBalancerBody, obeys_bind]
  refine a.obeys_newKeys _ fun keys ↦ ?_
  rw [obeys_log]
  refine a.obeys_installRelease a.sourceRelease_mem_releases _ ?_
  refine a.obeys_errand (by simp [Errand.Proper, Errand.isInstall]) fun address ↦ ?_
  rw [obeys_log]
  have hvalues : Mishap (a.migration.loadBalancerDestinationValues keys address) :=
    FailsOnly.bind (a.migration.mishap_fetchingRsync keys _ none) fun _ ↦ FailsOnly.ok _
  refine a.obeys_ofExcept (hvalues.mono hfine) fun values ↦ ?_
  refine a.obeys_installRelease a.destinationRelease_mem_releases _ ?_
  exact a.obeys_errand (by simp [Errand.Proper, Errand.isInstall]) fun _ ↦ by
    simp [Errand.isInstall]

theorem obeys_nodeAddress (address : Option String) {K : String → List Errand → Prop}
    (hK : ∀ x, K x before) : (nodeAddress address).Obeys (a.terms Fine) before K := by
  cases address with
  | none => exact hfine _ rfl
  | some x => exact hK x

theorem obeys_nodePortBody :
    a.nodePortBody.Obeys (a.terms Fine) [] fun _ since ↦ ∃ e ∈ since, e.isInstall = true := by
  simp only [nodePortBody, obeys_bind]
  refine a.obeys_newKeys _ fun keys ↦ ?_
  rw [obeys_log]
  refine a.obeys_installRelease a.sourceRelease_mem_releases _ ?_
  refine a.obeys_errand (by simp [Errand.Proper, Errand.isInstall]) fun port ↦ ?_
  refine a.obeys_errand (by simp [Errand.Proper, Errand.isInstall]) fun pods ↦ ?_
  refine a.obeys_errand (by simp [Errand.Proper, Errand.isInstall]) fun nodes ↦ ?_
  refine a.obeys_nodeAddress hfine _ fun address ↦ ?_
  rw [obeys_log]
  have hvalues : Mishap (a.migration.nodePortDestinationValues keys address port) :=
    FailsOnly.bind (a.migration.mishap_fetchingRsync keys _ _) fun _ ↦ FailsOnly.ok _
  refine a.obeys_ofExcept (hvalues.mono hfine) fun values ↦ ?_
  refine a.obeys_installRelease a.destinationRelease_mem_releases _ ?_
  exact a.obeys_errand (by simp [Errand.Proper, Errand.isInstall]) fun _ ↦ by
    simp [Errand.isInstall]

/-- The last part of the local strategy, once both sides have been installed. -/
theorem obeys_copyThrough (keys : Ssh.KeyPair) (f : Forwards)
    (hbefore : ∃ e ∈ before, e.isInstall = true) :
    (a.copyThrough keys f).Obeys (a.terms Fine) before fun _ since ↦
      ∃ e ∈ since, e.isInstall = true := by
  simp only [copyThrough, obeys_bind]
  refine a.obeys_ofExcept ((mishap_commandLine _).mono hfine) fun command ↦ ?_
  intro answer hanswer
  refine a.obeys_ofExcept hanswer fun file ↦ ?_
  rw [obeys_log]
  refine ⟨hbefore, fun result hresult ↦ a.obeys_ofExcept hresult fun _ ↦ ?_⟩
  obtain ⟨e, he, hinstall⟩ := hbefore
  exact ⟨e, Errand.mem_followed he result, hinstall⟩

theorem obeys_needSsh (present : Bool) {K : Unit → List Errand → Prop} (hK : K () before) :
    (needSsh present).Obeys (a.terms Fine) before K := by
  cases present with
  | false => exact hfine _ rfl
  | true => exact hK

/-- Both releases are installed before anything is forwarded to them. -/
theorem obeys_localBody :
    a.localBody.Obeys (a.terms Fine) [] fun _ since ↦ ∃ e ∈ since, e.isInstall = true := by
  simp only [localBody, obeys_bind]
  intro present _
  refine a.obeys_needSsh hfine present ?_
  refine a.obeys_newKeys _ fun keys ↦ ?_
  rw [obeys_log]
  refine a.obeys_installRelease a.sourceRelease_mem_releases _ ?_
  refine a.obeys_installRelease a.destinationRelease_mem_releases _ ?_
  refine a.obeys_errand (by simp [Errand.Proper, Errand.isInstall]) fun forwards ↦ ?_
  rw [obeys_reportAtEnd]
  exact a.obeys_copyThrough hfine keys forwards (by simp [Errand.isInstall])

end Attempt

/-- Questions are answered on these terms. -/
theorem Attempt.proper_answer (w : World) {Fine : MigrationError → Prop}
    (hfine : ∀ e : MigrationError, e.isMishap = true → Fine e) (q : Question) (r : Run) :
    q.Proper Fine (Attempt.answer w q r).1 := by
  cases q with
  | hasSsh => trivial
  | keys algorithm => exact (Mishap.mapError (fun _ ↦ rfl) _).mono hfine
  | keyFile => exact (Mishap.mapError (fun _ ↦ rfl) _).mono hfine

/-- Every strategy keeps to its terms. It declines a migration only if it does not accept it, and
it does not succeed without having installed something. -/
theorem Strategy.obeys_body (s : Strategy) (a : Attempt) {Fine : MigrationError → Prop}
    (hfine : ∀ e : MigrationError, e.isMishap = true → Fine e)
    (hdeclined : s.accepts a.migration = false → Fine .unaccepted) :
    (s.body a).Obeys (a.terms Fine) [] fun _ since ↦ ∃ e ∈ since, e.isInstall = true := by
  cases s with
  | mount => exact a.obeys_mountBody hfine hdeclined
  | clusterIp => exact a.obeys_clusterIpBody hfine hdeclined
  | loadBalancer => exact a.obeys_loadBalancerBody hfine
  | nodePort => exact a.obeys_nodePortBody hfine
  | viaLocal => exact a.obeys_localBody hfine

end VolumeMigration
