import Mathlib.Tactic.ByContra
import Mathlib.Tactic.Push
import VolumeMigration.Engine.Run

/-!
# What a history amounts to

A history is a list of events, and the statements about a run are statements about where in
that list its events stand. Proofs about a running program need something smaller: the few
facts about the past on which the next step depends. That is the `Ledger`, an automaton that
reads a history event by event.

The two views are kept together by one lemma for each entry of the ledger, which says what the
entry means in terms of the history:

* `mem_owed_iff`: a release is owed when an event of its installation has no uninstallation
  after it;
* `mem_registry_iff`: a record is kept when no removal has come after it;
* `observed_append_iff`: an attempt has observed a cancellation when it was under way at that
  moment or began after it.

Nothing in here knows of the program; `Event.isPlain` collects the events that change no
entry, so that most of what a run does is dealt with by `Ledger.after_of_isPlain`.
-/

namespace VolumeMigration

/-- Whether a release is gone after a removal that ended like this: helm succeeded, or it
failed with its own words for a release that it does not know. -/
def Helm.Outcome.isRemoval : Helm.Outcome → Bool
  | .ended status stderr =>
    status.isSuccess || isMissingRelease (failureReason status stderr)
  | _ => false

namespace Event

/-- The release whose installation the event belongs to. -/
def installed? : Event → Option Helm.ReleaseRef
  | .recorded entry => some entry.release
  | .helmCalled call _ => if call.isInstall then some call.release else none
  | _ => none

/-- The release that the event tries to remove. -/
def uninstalled? : Event → Option Helm.ReleaseRef
  | .helmCalled call _ => if call.isInstall then none else some call.release
  | _ => none

/-- The release that is gone after the event. -/
def removed? : Event → Option Helm.ReleaseRef
  | .helmCalled call outcome =>
    if !call.isInstall && outcome.isRemoval then some call.release else none
  | _ => none

/-- Whether the event begins an attempt. -/
def isAttempt : Event → Bool
  | .attemptBegun _ _ => true
  | _ => false

/-- Whether the event cancels the run. -/
def isInterruption : Event → Bool
  | .interrupted _ => true
  | _ => false

/-- Whether the event changes no entry of a ledger. -/
def isPlain : Event → Bool
  | .attemptBegun _ _ | .recorded _ | .helmCalled _ _ | .interrupted _ => false
  | _ => true

end Event

/-- What a history amounts to. -/
structure Ledger where
  cancelled : Bool := false
  /-- An attempt has begun in a cancelled run, or was under way when the run was cancelled. -/
  observed : Bool := false
  /-- The latest attempt, as long as no removal has begun. -/
  underWay : Option String := none
  /-- How many attempts have begun. -/
  attempts : Nat := 0
  /-- The releases whose installation has begun and whose removal has not been tried since. -/
  owed : List Helm.ReleaseRef := []
  /-- The recorded releases, less those that were removed since. -/
  registry : Registry := {}

/-- The ledger after one more event. -/
def Ledger.after (l : Ledger) : Event → Ledger
  | .attemptBegun _ id =>
    { l with
      underWay := some id, attempts := l.attempts + 1, observed := l.observed || l.cancelled }
  | .recorded entry =>
    { l with owed := entry.release :: l.owed, registry := l.registry.record entry }
  | .helmCalled call outcome =>
    if call.isInstall then { l with owed := call.release :: l.owed }
    else
      { l with
        underWay := none
        owed := l.owed.filter (· ≠ call.release)
        registry :=
          if outcome.isRemoval then l.registry.remove call.release.ns call.release.name
          else l.registry }
  | .interrupted _ =>
    { l with cancelled := true, observed := l.observed || l.underWay.isSome }
  | _ => l

/-- The ledger of a history. -/
def History.ledger : History → Ledger
  | [] => {}
  | e :: h => (History.ledger h).after e

namespace Ledger

theorem after_of_isPlain (l : Ledger) {e : Event} (he : e.isPlain = true) : l.after e = l := by
  cases e <;> first | rfl | cases he

/-! A call of helm neither begins an attempt nor cancels the run. -/

variable (l : Ledger) (call : Helm.Call) (outcome : Helm.Outcome)

@[simp] theorem cancelled_after_helmCalled :
    (l.after (.helmCalled call outcome)).cancelled = l.cancelled := by
  simp only [after]
  split <;> rfl

@[simp] theorem observed_after_helmCalled :
    (l.after (.helmCalled call outcome)).observed = l.observed := by
  simp only [after]
  split <;> rfl

@[simp] theorem attempts_after_helmCalled :
    (l.after (.helmCalled call outcome)).attempts = l.attempts := by
  simp only [after]
  split <;> rfl

/-- A release of the latest attempt is under way only if an attempt was before. -/
theorem underWay_of_after_helmCalled {id : String}
    (h : (l.after (.helmCalled call outcome)).underWay = some id) : l.underWay = some id := by
  simp only [after] at h
  split at h
  · exact h
  · cases h

end Ledger

namespace History

@[simp] theorem ledger_nil : ledger [] = {} := rfl

@[simp] theorem ledger_cons (e : Event) (h : History) : ledger (e :: h) = h.ledger.after e := rfl

/-! ### Places in a history -/

section

variable {h later earlier : History} {e u : Event}

theorem mem_of_eq_append (hsplit : h = later ++ e :: earlier) : e ∈ h := by
  rw [hsplit]
  exact List.mem_append_right later List.mem_cons_self

theorem mem_of_mem_later (hsplit : h = later ++ e :: earlier) (hu : u ∈ later) : u ∈ h := by
  rw [hsplit]
  exact List.mem_append_left _ hu

theorem mem_of_mem_earlier (hsplit : h = later ++ e :: earlier) (hu : u ∈ earlier) : u ∈ h := by
  rw [hsplit]
  exact List.mem_append_right later (List.mem_cons_of_mem e hu)

end

/-! ### Since then -/

/-- An event of one kind has come, and only events of another kind since then. -/
def Since (A B : Event → Prop) (h : History) : Prop :=
  ∃ later e earlier, h = later ++ e :: earlier ∧ A e ∧ ∀ u ∈ later, B u

variable {A B : Event → Prop}

@[simp] theorem not_since_nil : ¬Since A B [] := by
  rintro ⟨later, e, earlier, h, -⟩
  simp at h

@[simp] theorem since_cons {x : Event} {h : History} :
    Since A B (x :: h) ↔ A x ∨ B x ∧ Since A B h := by
  constructor
  · rintro ⟨later, e, earlier, hsplit, he, hlater⟩
    rcases later with - | ⟨u, later⟩
    · obtain ⟨rfl, -⟩ := List.cons.inj hsplit
      exact Or.inl he
    · obtain ⟨rfl, rfl⟩ := List.cons.inj hsplit
      obtain ⟨hu, hlater⟩ := List.forall_mem_cons.1 hlater
      exact Or.inr ⟨hu, later, e, earlier, rfl, he, hlater⟩
  · rintro (hx | ⟨hx, later, e, earlier, rfl, he, hlater⟩)
    · exact ⟨[], x, h, rfl, hx, by simp⟩
    · exact ⟨x :: later, e, earlier, rfl, he, List.forall_mem_cons.2 ⟨hx, hlater⟩⟩

/-- It makes no difference to ask for the latest event of the one kind. -/
theorem since_iff_latest {h : History} :
    Since A B h ↔ Since A (fun u ↦ B u ∧ ¬A u) h := by
  induction h with
  | nil => simp
  | cons x h ih =>
    rw [since_cons, since_cons, ih]
    -- where the event itself is of the one kind, both sides hold at once
    by_cases hx : A x <;> simp [hx]

/-- What has not happened since is followed by what ends it. -/
theorem exists_later_of_not_since {later earlier : History} {e : Event}
    (h : ¬Since A B (later ++ e :: earlier)) (he : A e) : ∃ u ∈ later, ¬B u := by
  by_contra hlater
  push Not at hlater
  exact h ⟨later, e, earlier, rfl, he, hlater⟩

/-! ### The entries of the ledger -/

theorem isCancelled_cons (e : Event) (h : History) :
    isCancelled (e :: h) = (e.isInterruption || h.isCancelled) := by
  cases e <;> rfl

theorem isCancelled_of_mem {h : History} (cause : Interruption) (hmem : .interrupted cause ∈ h) :
    h.isCancelled = true :=
  List.any_eq_true.2 ⟨_, hmem, rfl⟩

/-- A cancelled run has a first cancellation. -/
theorem exists_first_interruption {h : History} (hc : h.isCancelled = true) :
    ∃ later cause earlier, h = later ++ .interrupted cause :: earlier ∧
      isCancelled earlier = false := by
  -- the history is read from its latest event, so the first cancellation is found last
  induction h with
  | nil => cases hc
  | cons e h ih =>
    by_cases hbefore : isCancelled h = true
    · obtain ⟨later, cause, earlier, rfl, hfirst⟩ := ih hbefore
      exact ⟨e :: later, cause, earlier, rfl, hfirst⟩
    · rw [isCancelled_cons, Bool.eq_false_iff.mpr hbefore, Bool.or_false] at hc
      cases e with
      | interrupted cause => exact ⟨[], cause, h, rfl, Bool.eq_false_iff.mpr hbefore⟩
      | _ => cases hc

theorem cancelled_ledger (h : History) : h.ledger.cancelled = h.isCancelled := by
  induction h with
  | nil => rfl
  | cons e h ih =>
    rw [ledger_cons, isCancelled_cons, ← ih]
    cases e with
    | helmCalled call outcome => exact Ledger.cancelled_after_helmCalled _ call outcome
    | _ => rfl

/-- Only a cancelled run has a cancellation to observe. -/
theorem isCancelled_of_observed {h : History} (ho : h.ledger.observed = true) :
    h.isCancelled = true := by
  rw [← cancelled_ledger]
  induction h with
  | nil => cases ho
  | cons e h ih =>
    rw [ledger_cons] at ho ⊢
    cases e with
    | helmCalled call outcome =>
      rw [Ledger.observed_after_helmCalled] at ho
      rw [Ledger.cancelled_after_helmCalled]
      exact ih ho
    | attemptBegun strategy id =>
      rcases (Bool.or_eq_true _ _).mp ho with ho | hc
      · exact ih ho
      · exact hc
    | interrupted cause => rfl
    | _ => exact ih ho

/-- A release is owed when its installation has begun and no removal was tried since. -/
theorem mem_owed_iff {h : History} {release : Helm.ReleaseRef} :
    release ∈ h.ledger.owed ↔
      h.Since (·.installed? = some release) (·.uninstalled? ≠ some release) := by
  induction h with
  | nil => simp
  | cons e h ih =>
    rw [ledger_cons, since_cons, ← ih]
    cases e with
    | recorded entry =>
      simp [Ledger.after, Event.installed?, Event.uninstalled?, @eq_comm _ release]
    | helmCalled call outcome =>
      by_cases hinstall : call.isInstall = true
      · simp [Ledger.after, Event.installed?, Event.uninstalled?, hinstall, @eq_comm _ release]
      · simp [Ledger.after, Event.installed?, Event.uninstalled?, hinstall, @eq_comm _ release,
          and_comm]
    | _ => simp [Ledger.after, Event.installed?, Event.uninstalled?]

/-- A record is kept until a release of its name and namespace is removed. -/
theorem mem_registry_iff {h : History} {entry : ReleaseRecord} :
    entry ∈ h.ledger.registry.records ↔
      h.Since (· = .recorded entry) fun u ↦ ∀ release, u.removed? = some release →
        ¬(entry.release.name = release.name ∧ entry.release.ns = release.ns) := by
  induction h with
  | nil => simp
  | cons e h ih =>
    rw [ledger_cons, since_cons, ← ih]
    cases e with
    | recorded other =>
      simp [Ledger.after, Event.removed?, or_comm, eq_comm]
    | helmCalled call outcome =>
      by_cases hinstall : call.isInstall = true
      · simp [Ledger.after, Event.removed?, hinstall]
      · by_cases hremoval : outcome.isRemoval = true
        · simp [Ledger.after, Event.removed?, hinstall, hremoval, Registry.mem_records_remove,
            and_comm]
        · simp [Ledger.after, Event.removed?, hinstall, hremoval]
    | _ => simp [Ledger.after, Event.removed?]

theorem attempts_append (later earlier : History) :
    (ledger (later ++ earlier)).attempts =
      later.countP Event.isAttempt + earlier.ledger.attempts := by
  induction later with
  | nil => simp
  | cons e later ih =>
    rw [List.cons_append, ledger_cons, List.countP_cons]
    cases e with
    | attemptBegun strategy id =>
      simp only [Ledger.after, ih, Event.isAttempt, if_true]
      omega
    | helmCalled call outcome =>
      rw [Ledger.attempts_after_helmCalled, ih]
      simp [Event.isAttempt]
    | _ => simp [Ledger.after, Event.isAttempt, ih]

/-- Whoever is under way after some events was so before them or began with one of them. -/
theorem underWay_append (later earlier : History)
    (h : (ledger (later ++ earlier)).underWay.isSome = true) :
    earlier.ledger.underWay.isSome = true ∨ ∃ e ∈ later, e.isAttempt = true := by
  induction later with
  | nil => exact Or.inl h
  | cons e later ih =>
    rw [List.cons_append, ledger_cons] at h
    by_cases he : e.isAttempt = true
    · exact Or.inr ⟨e, List.mem_cons_self, he⟩
    · have hbefore : (ledger (later ++ earlier)).underWay.isSome = true := by
        cases e with
        | attemptBegun strategy id => exact absurd rfl he
        | helmCalled call outcome =>
          obtain ⟨id, hid⟩ := Option.isSome_iff_exists.mp h
          exact Option.isSome_iff_exists.mpr
            ⟨id, Ledger.underWay_of_after_helmCalled _ call outcome hid⟩
        | _ => exact h
      rcases ih hbefore with h | ⟨u, hu, hattempt⟩
      · exact Or.inl h
      · exact Or.inr ⟨u, List.mem_cons_of_mem e hu, hattempt⟩

/-- What was observed stays so. -/
theorem observed_append {earlier : History} (ho : earlier.ledger.observed = true)
    (later : History) : (ledger (later ++ earlier)).observed = true := by
  induction later with
  | nil => exact ho
  | cons e later ih =>
    rw [List.cons_append, ledger_cons]
    cases e with
    | helmCalled call outcome => rwa [Ledger.observed_after_helmCalled]
    | attemptBegun strategy id => simp [Ledger.after, ih]
    | interrupted cause => simp [Ledger.after, ih]
    | _ => exact ih

/-- An attempt that begins in a cancelled run observes that. -/
theorem observed_of_isAttempt {later earlier : History} (hc : earlier.isCancelled = true)
    {e : Event} (he : e ∈ later) (hattempt : e.isAttempt = true) :
    (ledger (later ++ earlier)).observed = true := by
  obtain ⟨since, before, rfl⟩ := List.append_of_mem he
  have hcancelled : (ledger (before ++ earlier)).cancelled = true := by
    rw [cancelled_ledger]
    exact List.any_append.trans (by rw [show earlier.any _ = true from hc, Bool.or_true])
  rw [List.append_assoc]
  refine observed_append ?_ since
  cases e with
  | attemptBegun strategy id => simp [Ledger.after, hcancelled]
  | _ => cases hattempt

/-- In a cancelled run whatever is under way has observed the cancellation. -/
theorem observed_of_underWay {h : History} (hc : h.isCancelled = true)
    (hu : h.ledger.underWay.isSome = true) : h.ledger.observed = true := by
  induction h with
  | nil => cases hc
  | cons e h ih =>
    rw [isCancelled_cons] at hc
    rw [ledger_cons] at hu ⊢
    cases e with
    | helmCalled call outcome =>
      -- a call can end what is under way, but it begins nothing
      obtain ⟨id, hid⟩ := Option.isSome_iff_exists.mp hu
      have hbefore := Ledger.underWay_of_after_helmCalled _ call outcome hid
      rw [Ledger.observed_after_helmCalled]
      exact ih hc (Option.isSome_iff_exists.mpr ⟨id, hbefore⟩)
    | attemptBegun strategy id =>
      have hcancelled : (ledger h).cancelled = true := (cancelled_ledger h).trans hc
      simp [Ledger.after, hcancelled]
    | interrupted cause =>
      have hbefore : (ledger h).underWay.isSome = true := hu
      simp [Ledger.after, hbefore]
    | _ => exact ih hc hu

/-- A run's first cancellation is observed by the attempt that is under way, or else by the
next one. -/
theorem observed_append_iff {later earlier : History} {cause : Interruption}
    (hfirst : earlier.isCancelled = false) :
    (ledger (later ++ .interrupted cause :: earlier)).observed = true ↔
      earlier.ledger.underWay.isSome = true ∨ ∃ e ∈ later, e.isAttempt = true := by
  induction later with
  | nil =>
    have hnot : earlier.ledger.observed = false := by
      by_contra ho
      rw [isCancelled_of_observed (by simpa using ho)] at hfirst
      cases hfirst
    simp [Ledger.after, hnot]
  | cons e later ih =>
    rw [List.cons_append, ledger_cons]
    have hcancelled : (ledger (later ++ .interrupted cause :: earlier)).cancelled = true := by
      rw [cancelled_ledger]
      exact isCancelled_of_mem cause (by simp)
    cases e with
    | attemptBegun strategy id => simp [Ledger.after, hcancelled, Event.isAttempt]
    | helmCalled call outcome =>
      rw [Ledger.observed_after_helmCalled, ih]
      simp [Event.isAttempt]
    | interrupted other =>
      have hnone : (Event.interrupted other).isAttempt = false := rfl
      have hmem : (∃ e ∈ .interrupted other :: later, e.isAttempt = true) ↔
          ∃ e ∈ later, e.isAttempt = true := by simp [hnone]
      rw [hmem]
      constructor
      · intro h
        rcases (Bool.or_eq_true _ _).mp h with h | h
        · exact ih.mp h
        · -- a second cancellation finds under way what the first one found, or what began since
          exact underWay_append later (.interrupted cause :: earlier) h
      · intro h
        exact (Bool.or_eq_true _ _).mpr (Or.inl (ih.mpr h))
    | _ => simpa [Ledger.after, Event.isAttempt] using ih

end History

end VolumeMigration
