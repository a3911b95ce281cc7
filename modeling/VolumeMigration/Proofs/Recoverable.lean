import VolumeMigration.Engine.Attempt
import VolumeMigration.Proofs.JobEnd

/-!
# Failures that leave the next strategy its turn

Every helper that a strategy's body relies on fails, if it does, by mishap: the next strategy may
have its turn, and nothing has been declined, since to decline a migration is up to the body alone.
`Mishap` says so of a result; it is kept by the ways in which results are combined, and holds of
each wait and of each command that is built.

The one failure that is not recoverable is cancellation, and it is never the result of a
helper: a wait that was cut short comes back without a result of its own.
-/

namespace VolumeMigration

variable {α β ε : Type} {Fine : MigrationError → Prop}

/-- If the result is a failure, then one of these. -/
def FailsOnly (Fine : MigrationError → Prop) (result : Except MigrationError α) : Prop :=
  ∀ e, result = .error e → Fine e

namespace FailsOnly

@[simp] theorem ok (a : α) : FailsOnly Fine (.ok a) := by
  rintro e ⟨⟩

@[simp] theorem error_iff {e : MigrationError} :
    FailsOnly Fine (.error e : Except MigrationError α) ↔ Fine e := by
  constructor
  · intro h
    exact h e rfl
  · rintro h f ⟨⟩
    exact h

/-- A result in two steps fails only as one of the steps does. -/
theorem bind {result : Except MigrationError α} {f : α → Except MigrationError β}
    (hresult : FailsOnly Fine result) (hf : ∀ a, FailsOnly Fine (f a)) :
    FailsOnly Fine (result >>= f) := by
  rcases result with e | a
  · exact error_iff.mpr (hresult e rfl)
  · exact hf a

/-- Fewer failures are also among more of them. -/
theorem mono {Good : MigrationError → Prop} {result : Except MigrationError α}
    (h : FailsOnly Good result) (hfine : ∀ e, Good e → Fine e) : FailsOnly Fine result :=
  fun e he ↦ hfine e (h e he)

end FailsOnly

namespace MigrationError

/-- Whether the next strategy may be tried after this failure, and it declines nothing. -/
def isMishap : MigrationError → Bool
  | unaccepted => false
  | e => e.isRecoverable

/-- What lets the next strategy have its turn, except that a strategy does not suit. -/
theorem isMishap_iff {e : MigrationError} :
    e.isMishap = true ↔ e.isRecoverable = true ∧ e ≠ .unaccepted := by
  cases e <;> simp [isMishap, isRecoverable]

theorem isRecoverable_of_isMishap {e : MigrationError} (h : e.isMishap = true) :
    e.isRecoverable = true :=
  (isMishap_iff.mp h).1

end MigrationError

/-- If the result is a failure, then a mishap. -/
abbrev Mishap (result : Except MigrationError α) : Prop := FailsOnly (·.isMishap = true) result

namespace Mishap

/-- A failure of another kind, told as a mishap. -/
theorem mapError {f : ε → MigrationError} (hf : ∀ x, (f x).isMishap = true)
    (result : Except ε α) : Mishap (result.mapError f) := by
  rcases result with x | a
  · exact FailsOnly.error_iff.mpr (hf x)
  · exact FailsOnly.ok a

theorem recoverable {result : Except MigrationError α} (h : Mishap result) :
    FailsOnly (·.isRecoverable = true) result :=
  h.mono fun _ ↦ MigrationError.isRecoverable_of_isMishap

end Mishap

/-! ### Commands -/

/-- A command that cannot be written down is a mishap. -/
theorem mishap_commandLine (c : Rsync.Command) : Mishap (commandLine c) :=
  Mishap.mapError (fun _ ↦ rfl) c.line

theorem Migration.mishap_fetchingRsync (m : Migration) (keys : Ssh.KeyPair)
    (discovered : String) (port : Option Nat) :
    Mishap (m.fetchingRsync keys discovered port) := by
  refine FailsOnly.bind (mishap_commandLine _) ?_
  intro command
  exact FailsOnly.ok _

/-! ### Waits -/

namespace Service

/-- A service that is waited for in vain is one, too. -/
theorem mishap_await (id : NamespacedName) (timeout : Duration)
    (extract : Service → Option α) (states : Watch (Option Service)) :
    Mishap (await id timeout extract states).result := by
  dsimp only [await]
  split
  · exact FailsOnly.ok _
  all_goals exact FailsOnly.error_iff.mpr rfl

theorem result_report (entry : α → LogEntry) (waited : Waited α) :
    (report entry waited).result = waited.result := by
  unfold report
  split <;> rfl

theorem mishap_awaitAddress (id : NamespacedName) (timeout : Duration)
    (states : Watch (Option Service)) : Mishap (awaitAddress id timeout states).result := by
  rw [awaitAddress, result_report]
  exact mishap_await id timeout _ states

theorem mishap_awaitNodePort (id : NamespacedName) (timeout : Duration)
    (states : Watch (Option Service)) : Mishap (awaitNodePort id timeout states).result := by
  rw [awaitNodePort, result_report]
  exact mishap_await id timeout _ states

end Service

namespace Job

/-- A pod that ended without success, or never came, is a mishap of its job. -/
theorem mishap_outcome (id : NamespacedName) (last : Option Pod) :
    Mishap (outcome id last) := by
  unfold outcome
  split
  · exact FailsOnly.ok ()
  · exact FailsOnly.error_iff.mpr rfl

/-- However the wait for a pod ends, a failure of it is a mishap. -/
theorem mishap_ending (id : NamespacedName) (sighting : Sighting (Option Pod))
    {time : Duration} {succeeded : Bool} {result : Except MigrationError Unit}
    (h : ending id sighting = some (time, succeeded, result)) : Mishap result := by
  cases sighting with
  | found at_ last =>
    cases h
    exact mishap_outcome id last
  | failed at_ reason =>
    cases h
    exact FailsOnly.error_iff.mpr rfl
  | closed at_ =>
    cases h
    exact mishap_outcome id none
  | never => cases h

/-- So is every failure of a wait that ends, with the log of the pod read on the way. -/
theorem mishap_awaitPod (id : NamespacedName) (sink : Progress.Sink)
    (cancelAt : Option Duration) (view : JobView) (startedAt : Duration) (pod : Pod)
    {result : Except MigrationError Unit}
    (h : (awaitPod id sink cancelAt view startedAt pod).result = some result) :
    Mishap result := by
  rw [result_awaitPod, Option.map_eq_some_iff] at h
  obtain ⟨⟨time, succeeded, known⟩, hending, rfl⟩ := h
  exact mishap_ending id _ hending

/-- A wait for a job that has an end ends in success or by mishap. -/
theorem mishap_await (id : NamespacedName) (sink : Progress.Sink)
    (cancelAt : Option Duration) (view : JobView) {result : Except MigrationError Unit}
    (h : (await id sink cancelAt view).result = some result) : Mishap result := by
  unfold await at h
  rcases hfound : view.pods.find started with ⟨time, pod⟩ | ⟨time, reason⟩ | time | - <;>
    rw [hfound] at h
  · exact mishap_awaitPod id sink cancelAt view time pod h
  · cases h
    exact FailsOnly.error_iff.mpr rfl
  · cases h
    exact FailsOnly.error_iff.mpr rfl
  · cases h

end Job

/-! ### Port-forwards and ssh -/

/-- Too many sshd pods, or none, are a mishap. -/
theorem PortForward.mishap_onlyPod (release : String) (pods : List Pod) :
    Mishap (onlyPod release pods) := by
  unfold onlyPod
  split
  · exact FailsOnly.ok _
  · exact FailsOnly.error_iff.mpr rfl

/-- A port-forward that does not start is a mishap, refused or unanswered. -/
theorem PortForward.mishap_start (pod : NamespacedName) (localPort remotePort : Nat)
    (trial : Trial) : Mishap (start pod localPort remotePort trial).result := by
  cases trial <;> simp [start, MigrationError.isMishap, MigrationError.isRecoverable]

namespace Attempt

theorem mishap_forward (release : Helm.ReleaseRef) (side : ForwardSide) :
    Mishap (forward release side) := by
  refine FailsOnly.bind (Mishap.mapError (fun _ ↦ rfl) side.pods) fun pods ↦ ?_
  refine FailsOnly.bind (PortForward.mishap_onlyPod release.name pods) fun pod ↦ ?_
  refine FailsOnly.bind (Mishap.mapError (fun _ ↦ rfl) side.localPort) fun port ↦ ?_
  refine FailsOnly.bind (PortForward.mishap_start _ port sshPort side.trial) fun _ ↦ ?_
  exact FailsOnly.ok _

/-- Of two port-forwards one mishap counts. -/
theorem mishap_forwards (source destination : Helm.ReleaseRef) (pair : ForwardPair) :
    Mishap (forwards source destination pair).1 := by
  have hsource := mishap_forward source pair.source
  have hdestination := mishap_forward destination pair.destination
  unfold forwards
  split
  · exact FailsOnly.ok _
  next e e' he he' =>
    refine FailsOnly.error_iff.mpr ?_
    split
    · exact hdestination e' he'
    · exact hsource e he
  next e _ he _ => exact FailsOnly.error_iff.mpr (hsource e he)
  next _ e _ he => exact FailsOnly.error_iff.mpr (hdestination e he)

/-- A call of ssh that ends does so in success or by mishap. -/
theorem mishap_sshResult (sink : Progress.Sink) (outcome : SshOutcome)
    {result : Except MigrationError Unit} (h : (sshResult sink outcome).1 = some result) :
    Mishap result := by
  unfold sshResult at h
  split at h
  · cases h
    exact FailsOnly.error_iff.mpr rfl
  · split at h <;> cases h
    · exact FailsOnly.ok ()
    · exact FailsOnly.error_iff.mpr rfl
  · cases h

end Attempt

end VolumeMigration
