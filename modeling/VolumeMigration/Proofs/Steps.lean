import Mathlib.Logic.Relation
import VolumeMigration.Proofs.Attempts
import VolumeMigration.Proofs.Rounds

/-!
# Runs step by step

Whatever a run does to its state it does in steps of three kinds (`Run.Step`): it notes an event,
it records a release as its installation begins, or it forgets a release that helm has just
removed. Each part of a run from the carrying out of an errand to the cleaning up after an attempt
is a path of such steps, and is proved to be one here once and for all; the steps of a path are
told apart by the events that they may note.

A path is weaker than what `Attempt.care` keeps and asks for less: it speaks of every run and of
every state on the way, those included in which the register is being brought up to date.
-/

namespace VolumeMigration

/-- Whether the event only accompanies what a run does: a report, or a cancellation. -/
def Event.isAside : Event → Bool
  | .log _ | .interrupted _ => true
  | _ => false

theorem Event.isWork_of_isAside {e : Event} (he : e.isAside = true) : e.isWork = false := by
  cases e <;> first | rfl | cases he

/-- Helm has removed the release, and nothing has been done since then. -/
def History.HasJustRemoved (release : Helm.ReleaseRef) (h : History) : Prop :=
  h.Since (·.removed? = some release) (·.isAside = true)

namespace Run

/-- One step of a run that does such things only. -/
inductive Step (Does : Event → Prop) : Run → Run → Prop
  | aside (r : Run) {e : Event} (he : e.isAside = true) : Step Does r (r.note e)
  | note (r : Run) {e : Event} (he : Does e) (hnot : ∀ entry, e ≠ .recorded entry) :
    Step Does r (r.note e)
  | record (r : Run) {entry : ReleaseRecord} (hentry : Does (.recorded entry)) :
    Step Does r (r.record entry)
  | forget (r : Run) {release : Helm.ReleaseRef} (hgone : r.history.HasJustRemoved release) :
    Step Does r (r.forget release)

/-- The run gets from one state to another by such steps. -/
abbrev Path (Does : Event → Prop) : Run → Run → Prop := Relation.ReflTransGen (Step Does)

namespace Path

variable {Does Does' : Event → Prop} {r s : Run}

theorem mono (h : Path Does r s) (hdoes : ∀ e, Does e → Does' e) : Path Does' r s := by
  refine Relation.ReflTransGen.mono ?_ r s h
  intro t u hstep
  rcases hstep with he | ⟨he, hnot⟩ | hentry | hgone
  · exact .aside t he
  · exact .note t (hdoes _ he) hnot
  · exact .record t (hdoes _ hentry)
  · exact .forget t hgone

/-- A path adds to the history, and nothing but what it does. -/
theorem exists_later (h : Path Does r s) :
    ∃ later, s.history = later ++ r.history ∧ ∀ e ∈ later, e.isAside = true ∨ Does e := by
  induction h with
  | refl => exact ⟨[], rfl, by simp⟩
  | tail hpath hstep ih =>
    obtain ⟨later, hhistory, hlater⟩ := ih
    have hcons : ∀ {e : Event}, e.isAside = true ∨ Does e →
        ∀ u ∈ e :: later, u.isAside = true ∨ Does u :=
      fun he ↦ List.forall_mem_cons.mpr ⟨he, hlater⟩
    rcases hstep with he | ⟨he, -⟩ | hentry | -
    · exact ⟨_ :: later, congrArg (_ :: ·) hhistory, hcons (Or.inl he)⟩
    · exact ⟨_ :: later, congrArg (_ :: ·) hhistory, hcons (Or.inr he)⟩
    · exact ⟨_ :: later, congrArg (_ :: ·) hhistory, hcons (Or.inr hentry)⟩
    · exact ⟨later, hhistory, hlater⟩

/-- No cancellation is ever taken back. -/
theorem isCancelled (h : Path Does r s) (hc : r.isCancelled = true) : s.isCancelled = true := by
  obtain ⟨later, hhistory, -⟩ := h.exists_later
  obtain ⟨e, he, hinterruption⟩ := List.any_eq_true.mp hc
  refine List.any_eq_true.mpr ⟨e, ?_, hinterruption⟩
  rw [hhistory]
  exact List.mem_append_right later he

theorem log (h : Path Does r s) (entry : LogEntry) : Path Does r (s.log entry) :=
  h.tail (.aside s rfl)

theorem logAll (h : Path Does r s) (entries : List LogEntry) : Path Does r (s.logAll entries) := by
  induction entries generalizing s with
  | nil => exact h
  | cons entry entries ih => exact ih (h.log entry)

theorem interrupt (h : Path Does r s) (cause : Option Interruption) :
    Path Does r (s.interrupt cause) := by
  rcases s.interrupt_cases cause with hsame | htoken | hsignal
  · rwa [hsame]
  · rw [htoken]
    exact h.tail (.aside s rfl)
  · rw [hsignal]
    exact (h.log signalReceived).tail (.aside _ rfl)

theorem note {e : Event} (h : Path Does r s) (he : Does e) (hnot : ∀ entry, e ≠ .recorded entry) :
    Path Does r (s.note e) :=
  h.tail (.note s he hnot)

theorem record {entry : ReleaseRecord} (h : Path Does r s) (hentry : Does (.recorded entry)) :
    Path Does r (s.record entry) :=
  h.tail (.record s hentry)

end Path

/-! ### Removals -/

/-- What is done while releases are removed. -/
abbrev Removes (e : Event) : Prop := e.uninstalled?.isSome = true

theorem isWork_of_removes {e : Event} (he : Removes e) : e.isWork = false := by
  cases e with
  | helmCalled call outcome =>
    simp only [Removes, Event.uninstalled?] at he
    split at he
    · cases he
    next hinstall => exact Bool.eq_false_iff.mpr hinstall
  | _ => cases he

variable (w : World) (request : Request)

/-- The release is forgotten right after helm has removed it. -/
theorem path_tryRemoval (release : Helm.ReleaseRef) (r : Run) :
    Path Removes r (r.tryRemoval w request release) := by
  have hcall : Path Removes r (r.note (.helmCalled (Helm.uninstallCall request release)
      (r.removalOutcome w request release))) :=
    .single (.note r rfl (by simp))
  have hcalled : Path Removes r (r.removalCalled w request release) := hcall.interrupt _
  rcases r.tryRemoval_cases w request release with ⟨hgone, entry, hrun⟩ | ⟨-, entry, hrun⟩ <;>
    rw [hrun]
  · refine (hcalled.log entry).tail (.forget _ ?_)
    have hremoved : (Event.helmCalled (Helm.uninstallCall request release)
        (r.removalOutcome w request release)).removed? = some release := by
      simp [Event.removed?, hgone, Helm.uninstallCall, Helm.Call.isInstall, Helm.Call.values?]
    have hsince : (r.note (.helmCalled (Helm.uninstallCall request release)
        (r.removalOutcome w request release))).history.HasJustRemoved release :=
      History.since_cons.mpr (Or.inl hremoved)
    -- neither a cancellation during the call nor the report after it is anything that is done
    refine History.since_cons.mpr (Or.inr ⟨rfl, ?_⟩)
    rw [removalCalled]
    rcases interrupt_cases (r.note _) ((w r.history).helm (Helm.uninstallCall request
      release)).cancels with hsame | htoken | hsignal
    · rw [hsame]
      exact hsince
    · rw [htoken]
      exact History.since_cons.mpr (Or.inr ⟨rfl, hsince⟩)
    · rw [hsignal]
      exact History.since_cons.mpr (Or.inr ⟨rfl, History.since_cons.mpr (Or.inr ⟨rfl, hsince⟩)⟩)
  · exact hcalled.log entry

theorem path_tryRemovals (entries : List ReleaseRecord) (r : Run) :
    Path Removes r (r.tryRemovals w request entries) := by
  induction entries generalizing r with
  | nil => exact .refl
  | cons entry entries ih => exact (path_tryRemoval w request entry.release r).trans (ih _)

theorem path_uninstallEach (entries : List ReleaseRecord) (r : Run) :
    Path Removes r (uninstallEach w request entries r).2 := by
  by_cases hd : request.hasDeadline = true
  · rw [uninstallEach_of_hasDeadline w hd]
    exact path_tryRemovals w request entries r
  · rcases entries with - | ⟨entry, entries⟩
    · exact .refl
    · rw [uninstallEach_of_not_hasDeadline w (Bool.eq_false_iff.mpr hd) (List.cons_ne_nil _ _)]

theorem path_cleanUp (attempt : String) (r : Run) :
    Path Removes r (cleanUp w request attempt r).2 := by
  unfold cleanUp
  split
  · exact .refl
  · split
    · exact Path.log .refl _
    · exact (Path.log .refl _).trans (path_uninstallEach w request _ _)

theorem path_sweep (r : Run) : Path Removes r (sweep w request r).2 := by
  unfold sweep
  split
  · exact .refl
  · split
    · exact Path.log .refl _
    · exact (Path.log .refl _).trans (path_uninstallEach w request _ _)

end Run

/-! ### Errands -/

namespace Attempt

/-- What the installation of a release comes to, and the run after it. -/
inductive Installing (w : World) (a : Attempt) (release : Helm.ReleaseRef) (values : Tree)
    (r : Run) : Ending (Except MigrationError Unit × List LogEntry) × Run → Prop
  /-- It was recorded, and then its values could not be written. -/
  | unwritten {reason : String}
      (hfile : (w (r.record ⟨release, a.id⟩).history).valuesFile a.id = .error reason) :
    Installing w a release values r (.value (.error (.io reason), []), r.record ⟨release, a.id⟩)
  | standstill (entry : LogEntry) (hd : a.request.hasDeadline = false) :
    Installing w a release values r (.standstill .noDeadline, (r.record ⟨release, a.id⟩).log entry)
  /-- Helm was called. -/
  | called {file : String} {outcome : Helm.Outcome} {cancels : Option Interruption}
      {result : Except MigrationError Unit} {logs : List LogEntry} (entry : LogEntry)
      (hfile : (w (r.record ⟨release, a.id⟩).history).valuesFile a.id = .ok file)
      (hresult : result = .ok () ∧
          outcome.failure? a.request.helmBinary a.request.helmTimeout = none ∨
        ∃ reason, result = .error (.install release.name reason)) :
    Installing w a release values r (.value (result, logs),
      (((r.record ⟨release, a.id⟩).log entry).note
        (.helmCalled (a.installCall release file values) outcome)).interrupt cancels)

variable (w : World) (a : Attempt)

theorem installing_install (release : Helm.ReleaseRef) (values : Tree) (r : Run) :
    Installing w a release values r (a.install w release values r) := by
  rw [install]
  rcases hfile : (w (r.record ⟨release, a.id⟩).history).valuesFile a.id with reason | file
  · exact .unwritten hfile
  · simp only [callHelm]
    by_cases hd : (a.installCall release file values).hasDeadline = true
    · simp only [hd, if_true]
      split
      next reason hfailure => exact .called _ hfile (Or.inr ⟨reason, rfl⟩)
      next hsuccess => exact .called _ hfile (Or.inl ⟨rfl, hsuccess⟩)
    · simp only [hd]
      exact .standstill _ (Bool.eq_false_iff.mpr hd)

/-- What may be done in the course of an attempt: no other one is begun, and no releases but its
own are installed. -/
def Does (e : Event) : Prop :=
  e.isAttempt = false ∧ ∀ entry, e = .recorded entry → entry.release ∈ a.releases

variable {a} in
theorem does_of_isPlain {e : Event} (he : e.isPlain = true) : a.Does e := by
  constructor
  · cases e <;> first | rfl | cases he
  · rintro entry rfl
    cases he

variable {a} in
theorem does_of_removes {e : Event} (he : Run.Removes e) : a.Does e := by
  cases e <;> first | exact ⟨rfl, fun _ ↦ Event.noConfusion⟩ | cases he

open Run in
/-- An errand is carried out in steps of the attempt, if it installs a release of the attempt or
nothing. -/
theorem path_carryOut {e : Errand} {before : List Errand} (he : e.Proper a before) (r : Run) :
    Path a.Does r (a.carryOut w e r).2 := by
  by_cases hinstall : e.isInstall = true
  · obtain ⟨release, values, rfl⟩ := Errand.exists_of_isInstall hinstall
    have hrecorded : Path a.Does r (r.record ⟨release, a.id⟩) := by
      refine .single (.record r ⟨rfl, ?_⟩)
      rintro entry ⟨⟩
      exact he
    have hends := a.installing_install w release values r
    rw [carryOut]
    generalize a.install w release values r = out at hends ⊢
    rcases hends with hfile | ⟨entry, -⟩ | ⟨entry, hfile, hresult⟩
    · exact hrecorded
    · exact hrecorded.log entry
    · exact ((hrecorded.log entry).note ⟨rfl, by simp⟩ (by simp)).interrupt _
  · obtain ⟨event, logs, cancels, -, hplain, ⟨back, hout, -⟩ | ⟨-, hout⟩⟩ :=
      carryOut_of_not_isInstall w a (Bool.eq_false_iff.mpr hinstall) r
    all_goals
      have hnoted : Path a.Does r (r.note event) := by
        refine .single (.note r (does_of_isPlain hplain) ?_)
        rintro entry rfl
        cases hplain
      rw [hout]
    · exact (hnoted.logAll logs).interrupt cancels
    · exact hnoted.logAll logs

/-- An errand of a run that is not cancelled fails, if it does, by mishap. -/
theorem mishap_carryOut {e : Errand} {back : e.Return} {r s : Run}
    (hout : a.carryOut w e r = (.value back, s)) (hc : s.isCancelled = false) :
    Mishap back.result := by
  by_cases hinstall : e.isInstall = true
  · obtain ⟨release, values, rfl⟩ := Errand.exists_of_isInstall hinstall
    have hends := a.installing_install w release values r
    rw [carryOut] at hout
    generalize a.install w release values r = out at hends hout
    rcases hends with hfile | ⟨entry, -⟩ | ⟨entry, hfile, ⟨rfl, -⟩ | ⟨reason, rfl⟩⟩ <;> cases hout
    · exact FailsOnly.error_iff.mpr rfl
    · exact FailsOnly.ok ()
    · exact FailsOnly.error_iff.mpr rfl
  · obtain ⟨event, logs, cancels, -, -, ⟨back', hout', hback⟩ | ⟨-, hout'⟩⟩ :=
      carryOut_of_not_isInstall w a (Bool.eq_false_iff.mpr hinstall) r <;>
    rw [hout'] at hout <;> cases hout
    exact hback (Run.eq_none_of_isCancelled_interrupt _ hc)

/-! ### Bodies and whole attempts -/

open Run in
/-- What carries the body of an attempt over its errands is that it goes by steps. -/
def stepwise {Fine : MigrationError → Prop}
    (hfine : ∀ e : MigrationError, e.isMishap = true → Fine e) (r : Run) :
    Body.Care w a (a.terms Fine) where
  Holds _ s := Path a.Does r s
  Interrupted s := s.isCancelled = true ∧ Path a.Does r s
  Stands _ s := Path a.Does r s
  holds_logAll entries hpath := hpath.logAll entries
  holds_answer := by
    intro before s q hpath
    refine ⟨proper_answer w hfine q s, ?_⟩
    cases q with
    | hasSsh | keyFile => exact hpath
    | keys algorithm => exact hpath.note (does_of_isPlain rfl) fun _ ↦ Event.noConfusion
  holds_carryOut := by
    intro before s e back t hpath hallows hout
    have hstep := a.path_carryOut w hallows s
    rw [hout] at hstep
    by_cases hc : t.isCancelled = true
    · exact Or.inl ⟨hc, hc, hpath.trans hstep⟩
    · have hnot := Bool.eq_false_iff.mpr hc
      exact Or.inr ⟨hnot, (a.mishap_carryOut w hout hnot).mono hfine,
        Path.logAll (hpath.trans hstep) back.logs⟩
  stands_carryOut := by
    intro before s e cause t hpath hallows hout
    have hstep := a.path_carryOut w hallows s
    rw [hout] at hstep
    exact hpath.trans hstep

/-- What has come of the body of a strategy, whatever the world has answered. -/
theorem carried_body (strategy : Strategy) {Fine : MigrationError → Prop}
    (hfine : ∀ e : MigrationError, e.isMishap = true → Fine e)
    (hdeclined : strategy.accepts a.migration = false → Fine .unaccepted) (r : Run) :
    Body.Carried (a.stepwise w hfine r) (fun _ since ↦ ∃ e ∈ since, e.isInstall = true)
      ((strategy.body a).carryOut w a r) :=
  Body.carryOut_of_obeys (a.stepwise w hfine r) (strategy.obeys_body a hfine hdeclined) .refl

/-- The body of a strategy goes by steps of the attempt. -/
theorem path_body (strategy : Strategy) (r : Run) :
    Run.Path a.Does r ((strategy.body a).carryOut w a r).2 := by
  have hcarried := a.carried_body w strategy (fun _ _ ↦ trivial) (fun _ ↦ trivial) r
  generalize (strategy.body a).carryOut w a r = out at hcarried ⊢
  rcases hcarried with ⟨-, hs⟩ | ⟨-, hs⟩ | ⟨-, hs⟩ | hs <;> exact hs

/-- The body of a strategy fails with nothing but mishaps, unless the strategy declines. -/
theorem fails_body (strategy : Strategy) {Fine : MigrationError → Prop}
    (hfine : ∀ e : MigrationError, e.isMishap = true → Fine e)
    (hdeclined : strategy.accepts a.migration = false → Fine .unaccepted) {e : MigrationError}
    {r s : Run} (hout : (strategy.body a).carryOut w a r = (.result (.error e), s)) : Fine e := by
  have hcarried := a.carried_body w strategy hfine hdeclined r
  rw [hout] at hcarried
  rcases hcarried with - | ⟨he, -⟩
  exact he

/-- The body of a strategy fails, if it does, in a way that leaves the next strategy its turn,
whatever the world has answered. -/
theorem recoverable_body (strategy : Strategy) {e : MigrationError} {r s : Run}
    (hout : (strategy.body a).carryOut w a r = (.result (.error e), s)) :
    e.isRecoverable = true :=
  a.fails_body w strategy (fun _ ↦ MigrationError.isRecoverable_of_isMishap) (fun _ ↦ rfl) hout

/-- A body is interrupted only by a cancellation. -/
theorem isCancelled_of_interrupted (strategy : Strategy) {r s : Run}
    (hout : (strategy.body a).carryOut w a r = (.interrupted, s)) : s.isCancelled = true := by
  have hcarried := a.carried_body w strategy (fun _ _ ↦ trivial) (fun _ ↦ trivial) r
  rw [hout] at hcarried
  rcases hcarried with - | - | ⟨hc, -⟩
  exact hc

/-- An attempt ends where its body has come to a standstill, or where it has cleaned up after its
body. -/
theorem perform_cases (body : Body Unit) (r : Run) :
    (a.perform w body r).2 = (a.execute w body r).2 ∨
      (a.perform w body r).2 = (cleanUp w a.request a.id (a.execute w body r).2).2 := by
  rw [perform]
  generalize a.execute w body r = out
  rcases out with ⟨result | - | cause, s⟩ <;> dsimp only
  · right
    rcases cleanUp w a.request a.id s with ⟨⟨⟩ | cause, t⟩ <;> rfl
  · right
    rcases cleanUp w a.request a.id s with ⟨⟨⟩ | cause, t⟩ <;> rfl
  · exact Or.inl rfl

/-- An attempt goes by its steps, its cleaning up included. -/
theorem path_perform (strategy : Strategy) (r : Run) :
    Run.Path a.Does r (a.perform w (strategy.body a) r).2 := by
  have hexecuted : Run.Path a.Does r (a.execute w (strategy.body a) r).2 := by
    rw [execute]
    split
    · exact .refl
    · exact a.path_body w strategy r
  rcases a.perform_cases w (strategy.body a) r with h | h <;> rw [h]
  · exact hexecuted
  · have hcleaned := Run.path_cleanUp w a.request a.id (a.execute w (strategy.body a) r).2
    exact hexecuted.trans (hcleaned.mono fun _ ↦ does_of_removes)

end Attempt

/-- A round closes with reports only. -/
theorem Run.path_close {Does : Event → Prop} {r : Run} {x : Round} (h : Path Does r x.finish) :
    Path Does r x.close := by
  rcases x.close_cases with hclose | ⟨entry, hclose⟩ <;> rw [hclose]
  · exact h
  · exact h.log entry

end VolumeMigration
