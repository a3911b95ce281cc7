import VolumeMigration.Proofs.Sound

/-!
# Removals

What removing releases does to a run. One turn of `uninstallEach` is split off as
`Run.tryRemoval`, which is total: when deadlines can be set, each release has its turn whatever
has become of the ones before it (`uninstallEach_of_hasDeadline`), and when they cannot, the
first turn is never taken (`uninstallEach_cons_of_not_hasDeadline`). So a loop of removals is a
fold of one step, and its effect on a run (`Run.Removals`) is proved from that of the step.

A cancellation can come during any of these calls. It changes nothing here: not which calls are
made, and not, since the attempt under way is over once its removals have begun, whether an
attempt has observed it.
-/

namespace VolumeMigration

/-- Whether a deadline can be set for the helm calls of a request. -/
def Request.hasDeadline (request : Request) : Bool :=
  Helm.isRepresentable (Helm.deadline request.helmTimeout)

/-- A timeout below half of what a clock can represent leaves room for the grace. -/
theorem Request.hasDeadline_of_lt {request : Request}
    (h : request.helmTimeout.seconds < 1 <<< 63) : request.hasDeadline = true := by
  have hdeadline : (Helm.deadline request.helmTimeout).seconds < 1 <<< 64 := by
    simp only [Helm.deadline, Helm.grace, Duration.seconds, Duration.ofSeconds, Duration.nanos_add,
      Duration.nanosPerSecond] at h ⊢
    omega
  exact decide_eq_true hdeadline

namespace Helm

theorem hasDeadline_uninstallCall (request : Request) (release : ReleaseRef) :
    (uninstallCall request release).hasDeadline = request.hasDeadline := rfl

/-- A removal is reported as one exactly when the release is gone. -/
theorem uninstallResult_of_isRemoval (request : Request) (release : ReleaseRef)
    {outcome : Outcome} (h : outcome.isRemoval = true) :
    ∃ entry, uninstallResult request release outcome = .ok entry := by
  cases outcome with
  | ended status stderr =>
    by_cases hsuccess : status.isSuccess = true
    · simp [uninstallResult, Outcome.failure?, hsuccess]
    · have hmissing : isMissingRelease (failureReason status stderr) = true := by
        simpa [Outcome.isRemoval, hsuccess] using h
      simp [uninstallResult, Outcome.failure?, Outcome.reportsMissing, hsuccess, hmissing]
  | notStarted reason => cases h
  | overdue => cases h

theorem uninstallResult_of_not_isRemoval (request : Request) (release : ReleaseRef)
    {outcome : Outcome} (h : outcome.isRemoval = false) :
    ∃ e, uninstallResult request release outcome = .error e := by
  cases outcome with
  | ended status stderr =>
    obtain ⟨hsuccess, hmissing⟩ := Bool.or_eq_false_iff.mp h
    simp [uninstallResult, Outcome.failure?, Outcome.reportsMissing, hsuccess, hmissing]
  | notStarted reason => exact ⟨_, rfl⟩
  | overdue => exact ⟨_, rfl⟩

end Helm

namespace History

/-! ### Calls of helm -/

/-- Whatever is not a call of helm adds none. -/
theorem helmCalls_cons_of_not {e : Event} (he : ∀ call outcome, e ≠ .helmCalled call outcome)
    (h : History) : helmCalls (e :: h) = h.helmCalls := by
  cases e with
  | helmCalled call outcome => exact absurd rfl (he call outcome)
  | _ => simp [helmCalls]

theorem helmCalls_cons_of_isPlain {e : Event} (he : e.isPlain = true) (h : History) :
    helmCalls (e :: h) = h.helmCalls := by
  refine helmCalls_cons_of_not ?_ h
  rintro call outcome rfl
  cases he

theorem helmCalls_helmCalled (call : Helm.Call) (outcome : Helm.Outcome) (h : History) :
    helmCalls (.helmCalled call outcome :: h) = h.helmCalls ++ [call] := by
  simp [helmCalls]

theorem helmCalls_interrupted (cause : Interruption) (h : History) :
    helmCalls (.interrupted cause :: h) = h.helmCalls :=
  helmCalls_cons_of_not (fun _ _ ↦ Event.noConfusion) h

end History

namespace Run

@[simp] theorem helmCalls_log (r : Run) (entry : LogEntry) :
    (r.log entry).history.helmCalls = r.history.helmCalls :=
  History.helmCalls_cons_of_isPlain rfl r.history

@[simp] theorem helmCalls_interrupt (r : Run) (cause : Option Interruption) :
    (r.interrupt cause).history.helmCalls = r.history.helmCalls := by
  rcases r.interrupt_cases cause with h | h | h <;> rw [h]
  · exact History.helmCalls_interrupted .token r.history
  · exact (History.helmCalls_interrupted .signal _).trans (r.helmCalls_log signalReceived)

/-! ### One removal -/

/-- One turn of `uninstallEach`: the call, and what follows from its outcome. -/
def tryRemoval (w : World) (request : Request) (release : Helm.ReleaseRef) (r : Run) : Run :=
  let reply := (w r.history).helm (Helm.uninstallCall request release)
  let called := (r.note (.helmCalled (Helm.uninstallCall request release) reply.answer)).interrupt
    reply.cancels
  match Helm.uninstallResult request release reply.answer with
  | .ok entry => (called.log entry).forget release
  | .error e => called.log (cleanupFailure release e)

variable (w : World) (request : Request) (release : Helm.ReleaseRef) (r : Run)

/-- How helm answers the next attempt to remove a release. -/
def removalOutcome : Helm.Outcome :=
  ((w r.history).helm (Helm.uninstallCall request release)).answer

/-- The run right after the call. -/
def removalCalled : Run :=
  (r.note (.helmCalled (Helm.uninstallCall request release)
    (r.removalOutcome w request release))).interrupt
      ((w r.history).helm (Helm.uninstallCall request release)).cancels

/-- After the call something is reported, and a release that is gone is forgotten. -/
theorem tryRemoval_cases :
    (r.removalOutcome w request release).isRemoval = true ∧
        (∃ entry, r.tryRemoval w request release =
          ((r.removalCalled w request release).log entry).forget release) ∨
      (r.removalOutcome w request release).isRemoval = false ∧
        ∃ entry,
          r.tryRemoval w request release = (r.removalCalled w request release).log entry := by
  by_cases hgone : (r.removalOutcome w request release).isRemoval = true
  · obtain ⟨entry, hresult⟩ := Helm.uninstallResult_of_isRemoval request release hgone
    refine Or.inl ⟨hgone, entry, ?_⟩
    rw [removalOutcome] at hresult
    simp only [tryRemoval, hresult]
    rfl
  · have hthere := Bool.eq_false_iff.mpr hgone
    obtain ⟨e, hresult⟩ := Helm.uninstallResult_of_not_isRemoval request release hthere
    refine Or.inr ⟨hthere, cleanupFailure release e, ?_⟩
    rw [removalOutcome] at hresult
    simp only [tryRemoval, hresult]
    rfl

/-- The ledger after a removal was tried: that after the call, and perhaps a cancellation. No
attempt is under way any more that could observe it. -/
theorem ledger_tryRemoval :
    ∃ cancelled, (r.tryRemoval w request release).ledger =
      { r.ledger.after (.helmCalled (Helm.uninstallCall request release)
          (r.removalOutcome w request release)) with cancelled := cancelled } := by
  have hcalled : (r.tryRemoval w request release).ledger =
      (r.removalCalled w request release).ledger := by
    rcases r.tryRemoval_cases w request release with ⟨-, entry, h⟩ | ⟨-, entry, h⟩ <;> rw [h]
    · rw [ledger_forget, ledger_log]
    · rw [ledger_log]
  -- the call has ended what was under way before the cancellation comes
  have hobserved := observed_interrupt (r.note (.helmCalled (Helm.uninstallCall request release)
    (r.removalOutcome w request release))) rfl
    ((w r.history).helm (Helm.uninstallCall request release)).cancels
  obtain ⟨cancelled, observed, h⟩ := ledger_interrupt (r.note (.helmCalled
    (Helm.uninstallCall request release) (r.removalOutcome w request release)))
    ((w r.history).helm (Helm.uninstallCall request release)).cancels
  refine ⟨cancelled, ?_⟩
  rw [h] at hobserved
  rw [hcalled, removalCalled, h]
  simp only [ledger_note] at hobserved ⊢
  rw [← hobserved]

@[simp] theorem attempts_tryRemoval :
    (r.tryRemoval w request release).ledger.attempts = r.ledger.attempts := by
  obtain ⟨cancelled, h⟩ := r.ledger_tryRemoval w request release
  rw [h]
  rfl

@[simp] theorem observed_tryRemoval :
    (r.tryRemoval w request release).ledger.observed = r.ledger.observed := by
  obtain ⟨cancelled, h⟩ := r.ledger_tryRemoval w request release
  rw [h]
  rfl

/-- What is owed after a removal was tried. -/
theorem mem_owed_tryRemoval {other : Helm.ReleaseRef} :
    other ∈ (r.tryRemoval w request release).ledger.owed ↔
      other ∈ r.ledger.owed ∧ release ≠ other := by
  obtain ⟨cancelled, h⟩ := r.ledger_tryRemoval w request release
  have howed : (r.tryRemoval w request release).ledger.owed =
      r.ledger.owed.filter (· ≠ release) := by
    rw [h]
    rfl
  rw [howed, List.mem_filter, decide_eq_true_eq, ne_comm]

/-- What the register of the ledger is after a removal was tried. -/
theorem registry_tryRemoval :
    (r.tryRemoval w request release).ledger.registry =
      if (r.removalOutcome w request release).isRemoval then
        r.ledger.registry.remove release.ns release.name
      else r.ledger.registry := by
  obtain ⟨cancelled, h⟩ := r.ledger_tryRemoval w request release
  rw [h]
  rfl

/-- A record that is there after a removal was there before it. -/
theorem mem_records_of_tryRemoval {entry : ReleaseRecord}
    (h : entry ∈ (r.tryRemoval w request release).releases.records) :
    entry ∈ r.releases.records := by
  rcases r.tryRemoval_cases w request release with ⟨-, report, hrun⟩ | ⟨-, report, hrun⟩ <;>
    rw [hrun] at h
  · rw [releases_forget, Registry.mem_records_remove, releases_log, removalCalled,
      releases_interrupt, releases_note] at h
    exact h.1
  · rwa [releases_log, removalCalled, releases_interrupt, releases_note] at h

theorem helmCalls_tryRemoval :
    (r.tryRemoval w request release).history.helmCalls =
      r.history.helmCalls ++ [Helm.uninstallCall request release] := by
  have hcalled : (r.removalCalled w request release).history.helmCalls =
      r.history.helmCalls ++ [Helm.uninstallCall request release] := by
    rw [removalCalled, helmCalls_interrupt]
    exact History.helmCalls_helmCalled _ _ r.history
  rcases r.tryRemoval_cases w request release with ⟨-, entry, h⟩ | ⟨-, entry, h⟩ <;> rw [h]
  · rw [history_forget, helmCalls_log, hcalled]
  · rw [helmCalls_log, hcalled]

theorem mem_history_tryRemoval {e : Event} (he : e ∈ r.history) :
    e ∈ (r.tryRemoval w request release).history := by
  have hcalled : e ∈ (r.removalCalled w request release).history :=
    mem_history_interrupt _ (List.mem_cons_of_mem _ he) _
  rcases r.tryRemoval_cases w request release with ⟨-, entry, h⟩ | ⟨-, entry, h⟩ <;> rw [h]
  · exact List.mem_cons_of_mem _ hcalled
  · exact List.mem_cons_of_mem _ hcalled

theorem isCancelled_tryRemoval (hc : r.isCancelled = true) :
    (r.tryRemoval w request release).isCancelled = true := by
  obtain ⟨e, he, hinterruption⟩ := List.any_eq_true.1 hc
  exact List.any_eq_true.2 ⟨e, r.mem_history_tryRemoval w request release he, hinterruption⟩

/-- A run stays sound when it tries to remove what it has recorded. -/
theorem Sound.tryRemoval {r : Run} {p : Prepared} (hs : r.Sound p)
    (hskip : p.migration.request.skipCleanup = false) {entry : ReleaseRecord}
    (hrecorded : .recorded entry ∈ r.history) (w : World) :
    (r.tryRemoval w p.migration.request entry.release).Sound p := by
  have hcalled : (r.removalCalled w p.migration.request entry.release).history.Lawful p :=
    lawful_interrupt (r.note _) ⟨.uninstalled _ hrecorded hskip, hs.lawful⟩ _
  rcases r.tryRemoval_cases w p.migration.request entry.release with
    ⟨hgone, report, hrun⟩ | ⟨hthere, report, hrun⟩
  · refine ⟨?_, ?_⟩
    · rw [hrun]
      exact ⟨.aside rfl rfl, hcalled⟩
    · rw [registry_tryRemoval, hgone, if_pos rfl, hrun, releases_forget, releases_log,
        removalCalled, releases_interrupt, releases_note, hs.registered]
  · refine ⟨?_, ?_⟩
    · rw [hrun]
      exact ⟨.aside rfl rfl, hcalled⟩
    · rw [registry_tryRemoval, hthere, if_neg Bool.false_ne_true, hrun, releases_log,
        removalCalled, releases_interrupt, releases_note, hs.registered]

/-! ### Removals in a row -/

/-- Tries to remove releases one after the other. -/
def tryRemovals (w : World) (request : Request) (entries : List ReleaseRecord) (r : Run) : Run :=
  entries.foldl (fun s entry ↦ s.tryRemoval w request entry.release) r

/-- What trying to remove releases does to a run: nothing stops it, and nothing is taken back. -/
structure Removals (request : Request) (entries : List ReleaseRecord) (r s : Run) : Prop where
  attempts : s.ledger.attempts = r.ledger.attempts
  observed : s.ledger.observed = r.ledger.observed
  owed : ∀ release, release ∈ s.ledger.owed ↔
    release ∈ r.ledger.owed ∧ ∀ entry ∈ entries, entry.release ≠ release
  records : ∀ entry ∈ s.releases.records, entry ∈ r.releases.records
  helmCalls : s.history.helmCalls =
    r.history.helmCalls ++ entries.map fun entry ↦ Helm.uninstallCall request entry.release
  cancelled : r.isCancelled = true → s.isCancelled = true

theorem removals_tryRemovals (entries : List ReleaseRecord) :
    Removals request entries r (r.tryRemovals w request entries) := by
  induction entries generalizing r with
  | nil => exact ⟨rfl, rfl, by simp [tryRemovals], fun _ h ↦ h, by simp [tryRemovals], id⟩
  | cons entry entries ih =>
    have h := ih (r.tryRemoval w request entry.release)
    refine ⟨?_, ?_, ?_, ?_, ?_, ?_⟩
    · exact h.attempts.trans (r.attempts_tryRemoval w request entry.release)
    · exact h.observed.trans (r.observed_tryRemoval w request entry.release)
    · intro release
      rw [List.forall_mem_cons, ← and_assoc, ← mem_owed_tryRemoval w]
      exact h.owed release
    · intro other hother
      exact r.mem_records_of_tryRemoval w request entry.release (h.records other hother)
    · rw [List.map_cons, List.append_cons, ← helmCalls_tryRemoval w]
      exact h.helmCalls
    · intro hc
      exact h.cancelled (r.isCancelled_tryRemoval w request entry.release hc)

theorem Sound.tryRemovals {r : Run} {p : Prepared} (hs : r.Sound p)
    (hskip : p.migration.request.skipCleanup = false) {entries : List ReleaseRecord}
    (hrecorded : ∀ entry ∈ entries, .recorded entry ∈ r.history) (w : World) :
    (r.tryRemovals w p.migration.request entries).Sound p := by
  induction entries generalizing r with
  | nil => exact hs
  | cons entry entries ih =>
    obtain ⟨hentry, hentries⟩ := List.forall_mem_cons.1 hrecorded
    refine ih (hs.tryRemoval hskip hentry w) ?_
    intro other hother
    exact r.mem_history_tryRemoval w _ entry.release (hentries other hother)

end Run

/-! ### The loop of the program -/

section Loop

variable (w : World) {request : Request}

/-- When deadlines can be set, every release has its turn. -/
theorem uninstallEach_of_hasDeadline (hd : request.hasDeadline = true)
    (entries : List ReleaseRecord) (r : Run) :
    uninstallEach w request entries r = (.value (), r.tryRemovals w request entries) := by
  induction entries generalizing r with
  | nil => rfl
  | cons entry entries ih =>
    have hcall := (Helm.hasDeadline_uninstallCall request entry.release).trans hd
    have hturn : uninstallEach w request (entry :: entries) r =
        uninstallEach w request entries (r.tryRemoval w request entry.release) := by
      simp only [uninstallEach, uninstall, callHelm, hcall, if_true, Run.tryRemoval]
      rcases hresult : Helm.uninstallResult request entry.release
        ((w r.history).helm (Helm.uninstallCall request entry.release)).answer with e | report <;>
      simp only
    exact hturn.trans (ih (r.tryRemoval w request entry.release))

/-- When no deadline can be set, the first turn is never taken. -/
theorem uninstallEach_of_not_hasDeadline (hd : request.hasDeadline = false)
    {entries : List ReleaseRecord} (hentries : entries ≠ []) (r : Run) :
    uninstallEach w request entries r = (.standstill .noDeadline, r) := by
  obtain ⟨entry, rest, rfl⟩ := List.exists_cons_of_ne_nil hentries
  have hcall := (Helm.hasDeadline_uninstallCall request entry.release).trans hd
  simp only [uninstallEach, uninstall, callHelm, hcall, Bool.false_eq_true, if_false]

end Loop

end VolumeMigration
