import Mathlib.Data.List.Infix
import VolumeMigration.Engine.Migrate
import VolumeMigration.Engine.Rehearsal

/-!
# The rounds of the loop

The loop over the strategies does not know what a strategy is: it asks a `Runner`, which may do
anything and may let its answers depend on all that has happened before. This module says what
the loop does with such answers.

The comparison is with the rounds that there would be if no answer ever ended the loop
(`rounds`): one for each strategy, in the order of the request, each in an attempt of its own.
The loop has the shortest beginning of them that ends in a final round, and gives back what that
round has come to; without a final round it has them all and reports that all have failed
(`Concluded`). Nothing in the definition of `rounds` looks at an answer, so that "the shortest
beginning" is a statement about the loop and not a second copy of it.

That the loop has *exactly* these rounds is said in two ways (`Conducted`). What the runner would
answer anywhere else makes no difference; and if the runner neither begins nor takes back an
attempt itself, the history holds one attempt for each of the rounds and no other.
-/

namespace VolumeMigration

/-- The attempts that have begun, in their order: the strategy and the id of each. -/
def History.attempts (h : History) : List (Strategy × String) :=
  h.reverse.filterMap fun
    | .attemptBegun strategy id => some (strategy, id)
    | _ => none

/-- Whether the loop over the strategies goes no further after an attempt that ends like this. -/
def Ending.isFinal : Ending (Except MigrationError Unit) → Bool
  | .value (.error e) => !e.isRecoverable
  | .value (.ok ()) | .standstill _ => true

/-- Whether a runner leaves it to the loop to begin attempts. -/
def Runner.IsPlain (runner : Runner) : Prop :=
  ∀ strategy id r, (runner strategy id r).2.history.attempts = r.history.attempts

/-! ### Rounds -/

/-- One round of the loop: an attempt with a strategy, and what has come of it. -/
structure Round where
  strategy : Strategy
  /-- The id of the attempt. -/
  id : String
  /-- The run when the runner takes over. -/
  start : Run
  ending : Ending (Except MigrationError Unit)
  /-- The run as the runner leaves it. -/
  finish : Run

namespace Round

/-- The round of a strategy in a run that has come so far. A number for its attempt is drawn when
it begins. -/
def of (w : World) (runner : Runner) (strategy : Strategy) (r : Run) : Round :=
  let reply := (w r.history).attemptNumber
  let id := Attempt.idOfNumber reply.answer
  let start := ((r.note (.attemptBegun strategy id)).interrupt reply.cancels).log
    (.info "attempting migration" [])
  { strategy, id, start
    ending := (runner strategy id start).1
    finish := (runner strategy id start).2 }

/-- The run after what is reported of a round. -/
def close (x : Round) : Run :=
  match x.ending with
  | .standstill _ => x.finish
  | .value (.ok ()) => x.finish.log (.info "migration succeeded" [])
  | .value (.error .unaccepted) =>
    x.finish.log (.info "Strategy cannot handle this migration, will try the next one" [])
  | .value (.error e) =>
    if e.isRecoverable then
      x.finish.log (.warn
        "Migration failed with this strategy, will try with the remaining strategies"
        [("error", e.message)])
    else x.finish

/-- The strategy has declined, or has failed in a way that leaves the next one its turn. -/
def Absorbed (x : Round) : Prop :=
  ∃ e, x.ending = .value (.error e) ∧ e.isRecoverable = true

theorem isFinal_eq_false_iff {x : Round} : x.ending.isFinal = false ↔ x.Absorbed := by
  obtain ⟨strategy, id, start, ending, finish⟩ := x
  rcases ending with (e | ⟨⟩) | cause <;> simp [Ending.isFinal, Absorbed]

/-- A round closes as the runner leaves it, and perhaps with a report. -/
theorem close_cases (x : Round) : x.close = x.finish ∨ ∃ entry, x.close = x.finish.log entry := by
  unfold close
  split
  · exact Or.inl rfl
  · exact Or.inr ⟨_, rfl⟩
  · exact Or.inr ⟨_, rfl⟩
  · split
    · exact Or.inr ⟨_, rfl⟩
    · exact Or.inl rfl

theorem attempts_close (x : Round) : x.close.history.attempts = x.finish.history.attempts := by
  rcases x.close_cases with h | ⟨entry, h⟩ <;> rw [h]
  simp [History.attempts]

variable {w : World} {runner : Runner}

/-- A plain runner is left with one attempt more after its round. -/
theorem attempts_close_of (hplain : runner.IsPlain) (strategy : Strategy) (r : Run) :
    (of w runner strategy r).close.history.attempts =
      r.history.attempts ++ [(strategy, (of w runner strategy r).id)] := by
  have hstart : ∀ id cancels entry,
      (((r.note (.attemptBegun strategy id)).interrupt cancels).log entry).history.attempts =
        r.history.attempts ++ [(strategy, id)] := by
    intro id cancels entry
    rcases cancels with - | - | - <;> simp only [Run.interrupt]
    · simp [History.attempts]
    · simp [History.attempts]
    · split <;> simp [History.attempts]
  rw [attempts_close]
  exact (hplain strategy _ _).trans (hstart _ _ _)

end Round

/-- The rounds that there would be if no answer ever ended the loop. -/
def rounds (w : World) (runner : Runner) : List Strategy → Run → List Round
  | [], _ => []
  | strategy :: others, r =>
    let x := Round.of w runner strategy r
    x :: rounds w runner others x.close

/-- The run after these rounds. -/
def runAfter (r : Run) (xs : List Round) : Run := (xs.getLast?.map Round.close).getD r

/-- How a loop ends that may have these rounds in a run, and with which of them. -/
inductive Concluded (all : List Round) (r : Run) :
    List Round → Ending (Except MigrationError Unit) × Run → Prop
  /-- With the first round that is final, and what it has come to. -/
  | final {before after : List Round} {last : Round} (hall : all = before ++ last :: after)
      (hbefore : ∀ x ∈ before, x.Absorbed) (hlast : last.ending.isFinal = true) :
    Concluded all r (before ++ [last]) (last.ending, last.close)
  /-- After all rounds, none of which was final. -/
  | exhausted (hall : ∀ x ∈ all, x.Absorbed) :
    Concluded all r all (.value (.error .allStrategiesFailed), runAfter r all)

section

variable (w : World) (runner : Runner)

/-- Every strategy has one round, in order. -/
theorem map_strategy_rounds (strategies : List Strategy) (r : Run) :
    (rounds w runner strategies r).map (·.strategy) = strategies := by
  induction strategies generalizing r with
  | nil => rfl
  | cons strategy others ih => exact congrArg (strategy :: ·) (ih _)

/-- One turn of the loop: its round is the last one if it is final. -/
theorem drive_cons (strategy : Strategy) (others : List Strategy) (r : Run) :
    drive w runner (strategy :: others) r =
      if (Round.of w runner strategy r).ending.isFinal then
        ((Round.of w runner strategy r).ending, (Round.of w runner strategy r).close)
      else drive w runner others (Round.of w runner strategy r).close := by
  rcases hout : runner strategy (Round.of w runner strategy r).id
    (Round.of w runner strategy r).start with ⟨(e | ⟨⟩) | cause, s⟩ <;>
  simp only [Round.of] at hout <;>
  simp only [drive, Round.of, Round.close, Ending.isFinal, hout]
  · cases e <;> rfl
  · rfl
  · rfl

theorem runAfter_cons (r : Run) (x : Round) (xs : List Round) :
    runAfter r (x :: xs) = runAfter x.close xs := by
  rcases List.eq_nil_or_concat xs with rfl | ⟨ys, y, rfl⟩
  · rfl
  · simp [runAfter, List.getLast?_cons]

end

/-- What the loop has done when it had these rounds. -/
structure Conducted (w : World) (runner : Runner) (strategies : List Strategy) (r : Run)
    (had : List Round) : Prop where
  /-- There is one round for each strategy, in their order. -/
  ordered : (rounds w runner strategies r).map (·.strategy) = strategies
  /-- The loop had those up to the first one that is final. -/
  concluded : Concluded (rounds w runner strategies r) r had (drive w runner strategies r)
  /-- What the runner would have answered in any other round makes no difference. -/
  nothingElse : ∀ other : Runner,
    (∀ x ∈ had, other x.strategy x.id x.start = runner x.strategy x.id x.start) →
      drive w other strategies r = drive w runner strategies r
  /-- The history holds one attempt for each round, and no other. -/
  attempts : runner.IsPlain →
    (drive w runner strategies r).2.history.attempts =
      r.history.attempts ++ had.map fun x ↦ (x.strategy, x.id)

namespace Conducted

variable {w : World} {runner : Runner} {strategy : Strategy} {others : List Strategy} {r : Run}

section

variable {strategies : List Strategy} {had : List Round} (h : Conducted w runner strategies r had)

include h

theorem isPrefix_rounds : had <+: rounds w runner strategies r := by
  have hconcluded := h.concluded
  generalize drive w runner strategies r = out at hconcluded
  rcases hconcluded with ⟨hall, -, -⟩ | -
  · rw [hall]
    exact ⟨_, (List.append_cons _ _ _).symm⟩
  · exact List.prefix_rfl

/-- The strategies that had a round are the first ones. -/
theorem isPrefix_strategies : had.map (·.strategy) <+: strategies := by
  have hmap := h.isPrefix_rounds.map fun x : Round ↦ x.strategy
  rwa [h.ordered] at hmap

end

theorem nil : Conducted w runner [] r [] where
  ordered := rfl
  concluded := .exhausted (by simp [rounds])
  nothingElse _ _ := rfl
  attempts _ := by simp [drive]

/-- A runner that answers alike in a round makes the same round. -/
theorem of_eq_of {other : Runner}
    (h : other strategy (Round.of w runner strategy r).id (Round.of w runner strategy r).start =
      runner strategy (Round.of w runner strategy r).id (Round.of w runner strategy r).start) :
    Round.of w other strategy r = Round.of w runner strategy r := by
  simp only [Round.of] at h ⊢
  rw [h]

/-- A final round is the last one. -/
theorem of_final (hfinal : (Round.of w runner strategy r).ending.isFinal = true) :
    Conducted w runner (strategy :: others) r [Round.of w runner strategy r] where
  ordered := map_strategy_rounds w runner (strategy :: others) r
  concluded := by
    rw [drive_cons, if_pos hfinal, rounds]
    exact @Concluded.final _ _ [] _ _ rfl (by simp) hfinal
  nothingElse other hother := by
    have hround := of_eq_of (hother _ List.mem_cons_self)
    rw [drive_cons, drive_cons, hround, if_pos hfinal, if_pos hfinal]
  attempts hplain := by
    rw [drive_cons, if_pos hfinal]
    exact Round.attempts_close_of hplain strategy r

/-- After any other round the loop goes on with the strategies that are left. -/
theorem cons {had : List Round} (habsorbed : (Round.of w runner strategy r).Absorbed)
    (hrest : Conducted w runner others (Round.of w runner strategy r).close had) :
    Conducted w runner (strategy :: others) r (Round.of w runner strategy r :: had) := by
  have hnot : ¬(Round.of w runner strategy r).ending.isFinal = true := by
    rw [Round.isFinal_eq_false_iff.mpr habsorbed]
    exact Bool.false_ne_true
  have hdrive : drive w runner (strategy :: others) r =
      drive w runner others (Round.of w runner strategy r).close := by
    rw [drive_cons, if_neg hnot]
  refine ⟨map_strategy_rounds w runner (strategy :: others) r, ?_, ?_, ?_⟩
  · rw [hdrive, rounds]
    have hconcluded := hrest.concluded
    generalize drive w runner others _ = out at hconcluded
    rcases hconcluded with ⟨hall, hbefore, hlast⟩ | hall
    · refine @Concluded.final _ _ (_ :: _) _ _ (congrArg (_ :: ·) hall) ?_ hlast
      exact List.forall_mem_cons.mpr ⟨habsorbed, hbefore⟩
    · rw [← runAfter_cons r]
      exact .exhausted (List.forall_mem_cons.mpr ⟨habsorbed, hall⟩)
  · intro other hother
    obtain ⟨hfirst, hlater⟩ := List.forall_mem_cons.mp hother
    rw [hdrive, drive_cons, of_eq_of hfirst, if_neg hnot]
    exact hrest.nothingElse other hlater
  · intro hplain
    rw [hdrive, hrest.attempts hplain, Round.attempts_close_of hplain, List.append_assoc]
    rfl

end Conducted

/-- The loop has some of its rounds, whatever the runner answers. -/
theorem exists_conducted (w : World) (runner : Runner) (strategies : List Strategy) (r : Run) :
    ∃ had, Conducted w runner strategies r had := by
  induction strategies generalizing r with
  | nil => exact ⟨[], .nil⟩
  | cons strategy others ih =>
    by_cases hfinal : (Round.of w runner strategy r).ending.isFinal = true
    · exact ⟨_, .of_final hfinal⟩
    · have habsorbed := Round.isFinal_eq_false_iff.mp (Bool.eq_false_iff.mpr hfinal)
      obtain ⟨had, hrest⟩ := ih (Round.of w runner strategy r).close
      exact ⟨_, hrest.cons habsorbed⟩

/-- Whatever the strategies are and whatever the runner answers, the loop has the shortest
beginning of its rounds that ends in success, in a failure that no other strategy can mend, or in
a standstill, and gives back what that round has come to; if there is none it has them all. So
when it succeeds, the last of its rounds has, all rounds before that one have failed in a way that
leaves the next strategy its turn, and the strategies after it had no round. -/
theorem drive_conducted (w : World) (runner : Runner) (strategies : List Strategy) (r : Run) :
    ∃ had, Conducted w runner strategies r had ∧
      ((drive w runner strategies r).1 = .value (.ok ()) →
        ∃ before last, had = before ++ [last] ∧ (∀ x ∈ before, x.Absorbed) ∧
          last.ending = .value (.ok ()) ∧ had.map (·.strategy) <+: strategies) := by
  obtain ⟨had, hhad⟩ := exists_conducted w runner strategies r
  refine ⟨had, hhad, fun hok ↦ ?_⟩
  have hstrategies := hhad.isPrefix_strategies
  have hconcluded := hhad.concluded
  generalize drive w runner strategies r = out at hconcluded hok
  rcases hconcluded with ⟨-, hbefore, -⟩ | -
  · exact ⟨_, _, rfl, hbefore, hok, hstrategies⟩
  · cases hok

/-- A runner with which `mount` declines, `clusterIp` fails and all else succeeds. -/
def Runner.sample : Runner := fun strategy _ r ↦
  match strategy with
  | .mount => (.value (.error .unaccepted), r)
  | .clusterIp => (.value (.error .noNodeAddress), r)
  | _ => (.value (.ok ()), r)

-- the strategy after the one that succeeds has no round
example :
    (drive ({} : Rehearsal).world .sample [.mount, .clusterIp, .nodePort, .viaLocal] {}).1 =
        .value (.ok ()) ∧
      (drive ({} : Rehearsal).world .sample [.mount, .clusterIp, .nodePort, .viaLocal]
        {}).2.history.attempts =
        [(.mount, "00000"), (.clusterIp, "00001"), (.nodePort, "00002")] := by
  decide +kernel

end VolumeMigration
