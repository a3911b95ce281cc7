import Mathlib.Data.List.Chain
import Mathlib.Tactic.Common
import VolumeMigration.Proofs.TailProtocol

/-!
# The course of a progress bar

While lines arrive, the position of a bar only grows: it is the largest count so far. The length is
another matter. It is the latest total, and totals go up and down, since they are estimates, and
since a log that is opened again tells old ones. So a total may come that is less than what was
transferred before, and then the bar stands beyond its end, and finishing takes it back.

A bar keeps up (`Bar.KeepsUp`) if it neither goes back nor stands beyond its end, all the way from
the new bar to the closed one. The main statement says when that is so: exactly if every positive
total covers all counts before it (`Bar.keepsUp_course_iff`).
-/

namespace VolumeMigration.Progress

/-! ### What a line tells -/

section

variable {line : String} {p : Progress}

theorem transferred_le_total_ofTransfer (transferred percentage : Nat) :
    (ofTransfer transferred percentage).transferred ≤
      (ofTransfer transferred percentage).total := by
  unfold ofTransfer
  split
  · exact le_rfl
  · exact le_max_right _ _

/-- A line tells of a whole transfer, or of a part with a percentage. -/
theorem complete_or_ofTransfer (h : ofLine? line = some p) :
    (∃ total, p = complete total) ∨
      ∃ transferred percentage, p = ofTransfer transferred percentage := by
  unfold ofLine? at h
  split at h
  · obtain ⟨total, -, rfl⟩ := Option.map_eq_some_iff.mp h
    exact .inl ⟨total, rfl⟩
  · obtain ⟨⟨digits, percent⟩, -, h⟩ := Option.bind_eq_some_iff.mp h
    obtain ⟨transferred, -, h⟩ := Option.bind_eq_some_iff.mp h
    dsimp only at h
    split at h
    · obtain rfl := Option.some.inj h
      exact .inr ⟨_, _, rfl⟩
    · cases h

/-- No line tells of more bytes than there are in all. -/
theorem transferred_le_total (h : ofLine? line = some p) : p.transferred ≤ p.total := by
  obtain ⟨total, rfl⟩ | ⟨transferred, percentage, rfl⟩ := complete_or_ofTransfer h
  · exact le_rfl
  · exact transferred_le_total_ofTransfer transferred percentage

end

/-! ### From the new bar to the closed one -/

namespace Sink

/-- The sink at the start, after each line, and after it was closed, if it was. -/
def course (sink : Sink) (closing : Option Closing) : List String → List Sink
  | [] => sink :: closing.toList.map (Closing.apply sink)
  | line :: lines => sink :: course (sink.observe line).1 closing lines

end Sink

namespace Bar

/-- The bars that are shown one after the other. -/
def course (bar : Bar) (closing : Option Closing) (lines : List String) : List Bar :=
  ((Sink.bar bar).course closing lines).filterMap Sink.bar?

/-- Whether bars neither go back nor stand beyond their ends. -/
structure KeepsUp (bars : List Bar) : Prop where
  forward : bars.IsChain fun bar next ↦ bar.position ≤ next.position
  within : ∀ bar ∈ bars, bar.position ≤ bar.length

section

variable {bar : Bar} {bars : List Bar} {closing : Option Closing} {line : String}
  {lines : List String} {p : Progress}

theorem course_nil (bar : Bar) (closing : Option Closing) :
    bar.course closing [] = bar :: closing.toList.map fun
      | .finish => bar.finish
      | .abandon => bar.abandon := by
  rcases closing with _ | _ | _ <;> rfl

/-- A line without progress leaves the bar as it is. -/
theorem course_cons_of_none (h : ofLine? line = Option.none) (bar : Bar) :
    bar.course closing (line :: lines) = bar :: bar.course closing lines := by
  rw [course, Sink.course, Sink.observe, h]
  rfl

theorem course_cons_of_some (h : ofLine? line = some p) (bar : Bar) :
    bar.course closing (line :: lines) = bar :: (bar.advance p).course closing lines := by
  rw [course, Sink.course, Sink.observe, h]
  rfl

/-- The course of a bar begins with it. -/
theorem exists_course_eq (bar : Bar) (closing : Option Closing) (lines : List String) :
    ∃ rest, bar.course closing lines = bar :: rest := by
  cases lines with
  | nil => exact ⟨_, course_nil bar closing⟩
  | cons line lines => exact ⟨_, rfl⟩

theorem keepsUp_cons_course_iff {next : Bar} :
    KeepsUp (bar :: next.course closing lines) ↔
      bar.position ≤ bar.length ∧ bar.position ≤ next.position ∧
        KeepsUp (next.course closing lines) := by
  obtain ⟨rest, hrest⟩ := exists_course_eq next closing lines
  rw [hrest]
  constructor
  · rintro ⟨hforward, hwithin⟩
    obtain ⟨hstep, hforward⟩ := List.isChain_cons_cons.mp hforward
    exact ⟨hwithin bar List.mem_cons_self, hstep, hforward,
      fun b hb ↦ hwithin b (List.mem_cons_of_mem _ hb)⟩
  · rintro ⟨hbar, hstep, hforward, hwithin⟩
    exact ⟨List.isChain_cons_cons.mpr ⟨hstep, hforward⟩,
      List.forall_mem_cons.mpr ⟨hbar, hwithin⟩⟩

/-- A bar that was closed keeps up if it was within its length before. -/
theorem keepsUp_course_nil_iff : KeepsUp (bar.course closing []) ↔ bar.position ≤ bar.length := by
  rw [course_nil]
  refine ⟨fun h ↦ h.within bar List.mem_cons_self, fun h ↦ ?_⟩
  rcases closing with _ | _ | _
  · exact ⟨List.isChain_singleton _, by simpa using h⟩
  · exact ⟨List.isChain_pair.mpr h, by simpa [finish] using h⟩
  · exact ⟨List.isChain_pair.mpr le_rfl, by simpa [abandon] using h⟩

/-- Whether a total covers a count that was told before; no total covers everything. -/
def Covers (q p : Progress) : Prop := 0 < p.total → q.transferred ≤ p.total

/-- A bar that was within its length leaves it behind exactly if the new total is less. -/
theorem advance_within_iff (hp : p.transferred ≤ p.total) (hbar : bar.position ≤ bar.length) :
    (bar.advance p).position ≤ (bar.advance p).length ↔ (0 < p.total → bar.position ≤ p.total) := by
  simp only [advance, max_eq_left hp]
  split <;> omega

/-- The course of a bar that starts within its length: totals have to cover where it stands, and
the counts before them. -/
theorem keepsUp_course_iff_of_within (hbar : bar.position ≤ bar.length) :
    KeepsUp (bar.course closing lines) ↔
      (∀ p ∈ lines.filterMap ofLine?, 0 < p.total → bar.position ≤ p.total) ∧
        (lines.filterMap ofLine?).Pairwise Covers := by
  -- the induction needs the bar within its length, which a total that covers it preserves
  induction lines generalizing bar with
  | nil => simpa [keepsUp_course_nil_iff] using hbar
  | cons line lines ih =>
    cases hline : ofLine? line with
    | none =>
      rw [course_cons_of_none hline, keepsUp_cons_course_iff, List.filterMap_cons_none hline,
        ← ih hbar]
      exact ⟨fun h ↦ h.2.2, fun h ↦ ⟨hbar, le_rfl, h⟩⟩
    | some p =>
      have hnext := advance_within_iff (transferred_le_total hline) hbar
      have hstep : bar.position ≤ (bar.advance p).position := le_max_left _ _
      rw [course_cons_of_some hline, keepsUp_cons_course_iff, List.filterMap_cons_some hline,
        List.forall_mem_cons, List.pairwise_cons, ← hnext]
      constructor
      · rintro ⟨-, -, h⟩
        have hwithin := h.within _ (by
          obtain ⟨rest, hrest⟩ := exists_course_eq (bar.advance p) closing lines
          rw [hrest]
          exact List.mem_cons_self)
        obtain ⟨hposition, hpairs⟩ := (ih hwithin).mp h
        exact ⟨⟨hwithin, fun q hq hpos ↦ le_trans hstep (hposition q hq hpos)⟩,
          fun q hq hpos ↦ le_trans (le_max_right _ _) (hposition q hq hpos), hpairs⟩
      -- the next bar stands at this bar or at the new count, and later totals cover both
      · rintro ⟨⟨hwithin, hbefore⟩, hcovers, hpairs⟩
        refine ⟨hbar, hstep, (ih hwithin).mpr ⟨fun q hq hpos ↦ ?_, hpairs⟩⟩
        exact max_le (hbefore q hq hpos) (hcovers q hq hpos)

/-- Whatever the lines tell, a bar does not go back before it is finished. -/
theorem isChain_course (bar : Bar) (hclosing : closing ≠ some .finish) (lines : List String) :
    (bar.course closing lines).IsChain fun bar next ↦ bar.position ≤ next.position := by
  induction lines generalizing bar with
  | nil =>
    rw [course_nil]
    rcases closing with _ | _ | _
    · exact List.isChain_singleton _
    · exact absurd rfl hclosing
    · exact List.isChain_pair.mpr le_rfl
  | cons line lines ih =>
    cases hline : ofLine? line with
    | none =>
      rw [course_cons_of_none hline]
      obtain ⟨rest, hrest⟩ := exists_course_eq bar closing lines
      have htail := ih bar
      rw [hrest] at htail ⊢
      exact List.isChain_cons_cons.mpr ⟨le_rfl, htail⟩
    | some p =>
      rw [course_cons_of_some hline]
      obtain ⟨rest, hrest⟩ := exists_course_eq (bar.advance p) closing lines
      have htail := ih (bar.advance p)
      rw [hrest] at htail ⊢
      exact List.isChain_cons_cons.mpr ⟨le_max_left _ _, htail⟩

end

/-- A new bar keeps up exactly if every positive total covers all counts before it. In any case it
does not go back as long as it is not finished. -/
theorem keepsUp_course_iff (lines : List String) (closing : Option Closing) :
    (KeepsUp (new.course closing lines) ↔ (lines.filterMap ofLine?).Pairwise Covers) ∧
      (closing ≠ some .finish →
        (new.course closing lines).IsChain fun bar next ↦ bar.position ≤ next.position) := by
  refine ⟨?_, fun hclosing ↦ isChain_course new hclosing lines⟩
  rw [keepsUp_course_iff_of_within (Nat.zero_le _)]
  exact and_iff_right fun _ _ _ ↦ Nat.zero_le _

/-- Files that grow while they are copied take a bar beyond the total of the summary, and finishing
takes it back. -/
theorem course_overtakes :
    (new.course (some .finish)
      ["  110,000 110%", "total size is 100,000  speedup is 1.00"]).map
        (fun bar ↦ (bar.position, bar.length)) =
      [(0, 1), (110000, 110000), (110000, 100000), (100000, 100000)] ∧
    ¬KeepsUp (new.course (some .finish)
      ["  110,000 110%", "total size is 100,000  speedup is 1.00"]) := by
  have hgrown : ofLine? "  110,000 110%" = some ⟨110000, 110000, 100⟩ := by decide +kernel
  have hsummary : ofLine? "total size is 100,000  speedup is 1.00" =
      some ⟨100000, 100000, 100⟩ := by decide +kernel
  have hcourse : new.course (some .finish)
      ["  110,000 110%", "total size is 100,000  speedup is 1.00"] =
      [⟨0, 1, false⟩, ⟨110000, 110000, false⟩, ⟨110000, 100000, false⟩,
        ⟨100000, 100000, true⟩] := by
    rw [course_cons_of_some hgrown, course_cons_of_some hsummary, course_nil]
    rfl
  rw [hcourse]
  refine ⟨rfl, fun h ↦ ?_⟩
  exact absurd (h.within ⟨110000, 100000, false⟩ (by simp)) (by decide)

end Bar

end VolumeMigration.Progress
