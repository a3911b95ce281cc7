import VolumeMigration.Proofs.Law

/-!
# Sound runs

A run carries a history and a register, and the register is not read off the history: it is
kept up to date by hand, at each installation and each removal. A run is `Sound` when its
history is lawful and its register is the one of the history's ledger. This module says once
for each primitive of a run what it does to the ledger and that it keeps the run sound;
nothing after it looks into `Run.interrupt` or `Run.record` again.
-/

namespace VolumeMigration

namespace Run

/-- What has happened in a run amounts to this. -/
def ledger (r : Run) : Ledger := r.history.ledger

/-- The ledger knows of every cancellation. -/
theorem cancelled_ledger (r : Run) : r.ledger.cancelled = r.isCancelled :=
  History.cancelled_ledger r.history

variable (r : Run)

/-! ### What primitives do to the ledger -/

@[simp] theorem ledger_note (e : Event) : (r.note e).ledger = r.ledger.after e := rfl

@[simp] theorem ledger_log (entry : LogEntry) : (r.log entry).ledger = r.ledger := rfl

@[simp] theorem ledger_record (entry : ReleaseRecord) :
    (r.record entry).ledger = r.ledger.after (.recorded entry) := rfl

@[simp] theorem ledger_forget (release : Helm.ReleaseRef) :
    (r.forget release).ledger = r.ledger := rfl

/-- What is logged does not count for the ledger. -/
@[simp] theorem ledger_logAll (entries : List LogEntry) : (r.logAll entries).ledger = r.ledger := by
  induction entries generalizing r with
  | nil => rfl
  | cons entry entries ih => exact ih (r.log entry)

/-- Nor does it for the register. -/
@[simp] theorem releases_logAll (entries : List LogEntry) :
    (r.logAll entries).releases = r.releases := by
  induction entries generalizing r with
  | nil => rfl
  | cons entry entries ih => exact ih (r.log entry)

@[simp] theorem isCancelled_log (entry : LogEntry) : (r.log entry).isCancelled = r.isCancelled := by
  rw [← cancelled_ledger, ← cancelled_ledger, ledger_log]

/-- Nor is a run cancelled by it. -/
@[simp] theorem isCancelled_logAll (entries : List LogEntry) :
    (r.logAll entries).isCancelled = r.isCancelled := by
  rw [← cancelled_ledger, ← cancelled_ledger, ledger_logAll]

/-- A cancellation adds an event of its own, a signal after a report of it, or none if it was
heard before. -/
theorem interrupt_cases (cause : Option Interruption) :
    r.interrupt cause = r ∨ r.interrupt cause = r.note (.interrupted .token) ∨
      r.interrupt cause = (r.log signalReceived).note (.interrupted .signal) := by
  rcases cause with - | - | -
  · exact Or.inl rfl
  · exact Or.inr (Or.inl rfl)
  · by_cases hheard : r.history.isSignalled = true
    · exact Or.inl (if_pos hheard)
    · exact Or.inr (Or.inr (if_neg hheard))

/-- A cancellation is noted in two entries of the ledger and in no other. -/
theorem ledger_interrupt (cause : Option Interruption) :
    ∃ cancelled observed, (r.interrupt cause).ledger =
      { r.ledger with cancelled := cancelled, observed := observed } := by
  rcases r.interrupt_cases cause with h | h | h <;> rw [h]
  · exact ⟨r.ledger.cancelled, r.ledger.observed, rfl⟩
  · exact ⟨true, r.ledger.observed || r.ledger.underWay.isSome, rfl⟩
  · exact ⟨true, r.ledger.observed || r.ledger.underWay.isSome, rfl⟩

/-- A cancellation ends no attempt. -/
@[simp] theorem underWay_interrupt (cause : Option Interruption) :
    (r.interrupt cause).ledger.underWay = r.ledger.underWay := by
  obtain ⟨cancelled, observed, h⟩ := r.ledger_interrupt cause
  rw [h]

@[simp] theorem attempts_interrupt (cause : Option Interruption) :
    (r.interrupt cause).ledger.attempts = r.ledger.attempts := by
  obtain ⟨cancelled, observed, h⟩ := r.ledger_interrupt cause
  rw [h]

/-- And settles no debt. -/
@[simp] theorem owed_interrupt (cause : Option Interruption) :
    (r.interrupt cause).ledger.owed = r.ledger.owed := by
  obtain ⟨cancelled, observed, h⟩ := r.ledger_interrupt cause
  rw [h]

@[simp] theorem registry_interrupt (cause : Option Interruption) :
    (r.interrupt cause).ledger.registry = r.ledger.registry := by
  obtain ⟨cancelled, observed, h⟩ := r.ledger_interrupt cause
  rw [h]

/-- Between two attempts a cancellation is not observed yet. -/
theorem observed_interrupt (hnone : r.ledger.underWay = none) (cause : Option Interruption) :
    (r.interrupt cause).ledger.observed = r.ledger.observed := by
  rcases r.interrupt_cases cause with h | h | h <;> rw [h]
  · simp [Ledger.after, hnone]
  · simp [Ledger.after, hnone]

/-- A run is cancelled by an interruption, and stays so. -/
theorem isCancelled_note (e : Event) :
    (r.note e).isCancelled = (e.isInterruption || r.isCancelled) :=
  History.isCancelled_cons e r.history

/-- A signal cancels. -/
theorem isCancelled_of_isSignalled (h : r.history.isSignalled = true) : r.isCancelled = true := by
  obtain ⟨e, he, hsignal⟩ := List.any_eq_true.1 h
  cases e with
  | interrupted cause => exact History.isCancelled_of_mem cause he
  | _ => cases hsignal

/-- A run is cancelled if it was or if it has just been. -/
@[simp] theorem isCancelled_interrupt (cause : Option Interruption) :
    (r.interrupt cause).isCancelled = (r.isCancelled || cause.isSome) := by
  rcases cause with - | - | -
  · exact (Bool.or_false _).symm
  · exact (Bool.or_true _).symm
  · by_cases hheard : r.history.isSignalled = true
    · have hsame : r.interrupt (some .signal) = r := if_pos hheard
      rw [hsame, r.isCancelled_of_isSignalled hheard, Bool.true_or]
    · have hnoted : r.interrupt (some .signal) =
          (r.log signalReceived).note (.interrupted .signal) := if_neg hheard
      rw [hnoted, isCancelled_note]
      exact (Bool.or_true _).symm

/-- Nothing has cancelled a run that is not cancelled now. -/
theorem eq_none_of_isCancelled_interrupt {cause : Option Interruption}
    (hc : (r.interrupt cause).isCancelled = false) : cause = none := by
  rw [isCancelled_interrupt, Bool.or_eq_false_iff] at hc
  exact Option.not_isSome_iff_eq_none.mp (Bool.eq_false_iff.mp hc.2)

/-- Nothing that has happened is undone by a cancellation. -/
theorem mem_history_interrupt {e : Event} (he : e ∈ r.history) (cause : Option Interruption) :
    e ∈ (r.interrupt cause).history := by
  rcases r.interrupt_cases cause with h | h | h <;> rw [h]
  · exact he
  · exact List.mem_cons_of_mem _ he
  · exact List.mem_cons_of_mem _ (List.mem_cons_of_mem _ he)

/-- A cancellation is always permitted. -/
theorem lawful_interrupt {p : Prepared} (hl : r.history.Lawful p) (cause : Option Interruption) :
    (r.interrupt cause).history.Lawful p := by
  rcases r.interrupt_cases cause with h | h | h <;> rw [h]
  · exact hl
  · exact ⟨.interrupted .token, hl⟩
  · exact ⟨.interrupted .signal, .aside rfl rfl, hl⟩

/-! ### Sound runs -/

/-- The history is lawful, and the register holds what it should. -/
structure Sound (p : Prepared) (r : Run) : Prop where
  lawful : r.history.Lawful p
  registered : r.releases = r.ledger.registry

namespace Sound

variable {r : Run} {p : Prepared}

theorem lawful_of_eq {h : History} (hs : r.Sound p) (heq : r.history = h) : h.Lawful p := by
  rw [← heq]
  exact hs.lawful

/-- The register holds only what was recorded. -/
theorem recorded_of_mem {entry : ReleaseRecord} (hs : r.Sound p)
    (hentry : entry ∈ r.releases.records) : .recorded entry ∈ r.history := by
  rw [hs.registered] at hentry
  obtain ⟨later, e, earlier, hsplit, rfl, -⟩ := History.mem_registry_iff.mp hentry
  exact History.mem_of_eq_append hsplit

/-- A log entry is permitted at any time. -/
theorem log (hs : r.Sound p) (entry : LogEntry) : (r.log entry).Sound p where
  lawful := ⟨.aside rfl rfl, hs.lawful⟩
  registered := hs.registered

theorem logAll (hs : r.Sound p) (entries : List LogEntry) : (r.logAll entries).Sound p := by
  induction entries generalizing r with
  | nil => exact hs
  | cons entry entries ih => exact ih (hs.log entry)

/-- A permitted event that changes no entry of the ledger keeps a run sound. -/
theorem note {e : Event} (hs : r.Sound p) (hplain : e.isPlain = true)
    (hpermitted : e.Permitted p r.history) : (r.note e).Sound p where
  lawful := ⟨hpermitted, hs.lawful⟩
  registered := by
    rw [releases_note, ledger_note, Ledger.after_of_isPlain _ hplain]
    exact hs.registered

/-- So is a cancellation. -/
theorem interrupt (hs : r.Sound p) (cause : Option Interruption) :
    (r.interrupt cause).Sound p where
  lawful := r.lawful_interrupt hs.lawful cause
  registered := by
    rw [releases_interrupt, registry_interrupt]
    exact hs.registered

/-- A permitted installation may be recorded. -/
theorem record {entry : ReleaseRecord} (hs : r.Sound p)
    (hpermitted : (Event.recorded entry).Permitted p r.history) : (r.record entry).Sound p where
  lawful := ⟨hpermitted, hs.lawful⟩
  registered := by
    rw [releases_record, ledger_record, hs.registered]
    rfl

end Sound

end Run

end VolumeMigration
