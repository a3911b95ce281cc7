import Mathlib.Data.List.TakeWhile
import Mathlib.Data.Nat.Digits.Defs
import Mathlib.Order.Bounds.Basic
import VolumeMigration.Proofs.BarCourse

/-!
# The grammar of progress lines

Which lines carry progress is said here without a reader: by the longest grouped run at a place, by
the first place where a summary stands, and by the first place where a run is followed by a
percentage. The places are those of the whole line, so a run may begin inside of another one that
is not followed by a percentage, and text of any kind may stand before and behind.

The main statement is that a line is read by this grammar and no other (`isReading_line`). The
reader goes through a line once, from place to place, and takes the first one where what it looks
for stands (`Searches`); at each place it takes a run that cannot be continued
(`length_le_of_continues`) and that is grouped (`exists_groupedRun`), which is the longest one.
-/

namespace VolumeMigration.Progress

/-! ### The grammar -/

/-- One digit or more. -/
def IsDigits (cs : List Char) : Prop := cs ≠ [] ∧ ∀ c ∈ cs, c.isDigit = true

/-- Digits in groups, with one comma between two of them. -/
def IsGrouped (run : List Char) : Prop :=
  ∃ (first : List Char) (groups : List (List Char)), IsDigits first ∧
    (∀ group ∈ groups, IsDigits group) ∧ run = first ++ groups.flatMap (',' :: ·)

/-- The longest grouped run that a text starts with. -/
structure IsLongestRun (run text : List Char) : Prop where
  grouped : IsGrouped run
  isPrefix : run <+: text
  length_le : ∀ other, IsGrouped other → other <+: text → other.length ≤ run.length

/-- The number that a run writes, commas aside. -/
def written (run : List Char) : Nat :=
  Nat.ofDigits 10 ((run.filter (· ≠ ',')).reverse.map fun c ↦ c.toNat - '0'.toNat)

/-- A gap of one blank or more, a percentage of one to three digits, and a percent sign. -/
def StartsWithPercentage (percent text : List Char) : Prop :=
  ∃ gap behind, text = gap ++ percent ++ '%' :: behind ∧ gap ≠ [] ∧
    (∀ c ∈ gap, Text.isBlank c = true) ∧ IsDigits percent ∧ percent.length ≤ 3

/-- Whether the label of the summary stands at a place, with a digit behind it. -/
def IsSummaryAt (line : List Char) (place : Nat) : Prop :=
  ∃ c behind, line.drop place = "total size is ".toList ++ c :: behind ∧ c.isDigit = true

/-- Whether the longest run at a place is followed by a percentage. -/
def IsTransferAt (line : List Char) (place : Nat) (run percent : List Char) : Prop :=
  IsLongestRun run (line.drop place) ∧ StartsWithPercentage percent (line.drop (place + run.length))

/-- What a line is to be read as. -/
structure IsReading (line : List Char) (result : Option Progress) : Prop where
  /-- The first summary is all that counts, even if its size does not fit 64 bits. -/
  summary : ∀ place, IsLeast {p | IsSummaryAt line p} place →
    ∃ run, IsLongestRun run (line.drop (place + "total size is ".length)) ∧
      result = if written run < 2 ^ 64 then some ⟨written run, written run, 100⟩ else Option.none
  /-- Neither a summary nor a run before a percentage is no progress. -/
  nothing : (∀ place, ¬IsSummaryAt line place) →
    (∀ place run percent, ¬IsTransferAt line place run percent) → result = Option.none
  /-- Without a summary, the first run before a percentage is all that counts. -/
  transfer : (∀ place, ¬IsSummaryAt line place) →
    ∀ place run percent, IsLeast {p | ∃ run percent, IsTransferAt line p run percent} place →
      IsTransferAt line place run percent →
        (2 ^ 64 ≤ written run ∨ 255 < written percent → result = Option.none) ∧
        (written run < 2 ^ 64 → written percent = 0 → result = some ⟨0, 0, 0⟩) ∧
        (written run < 2 ^ 64 → 0 < written percent → written percent ≤ 255 →
          ∃ total, written run ≤ total ∧
            result = some ⟨written run, total, min (written percent) 100⟩)
  /-- In any case, not more is transferred than there is, and not more than all of it. -/
  bounded : ∀ p, result = some p → p.transferred ≤ p.total ∧ p.percentage ≤ 100

section

variable {α : Type} {c : Char} {cs run other text digits percent rest line : List Char}

/-! ### Grouped runs -/

/-- How a grouped run goes on behind its first digit. -/
inductive Continues : List Char → Prop
  | nil : Continues []
  | digit {c : Char} {cs : List Char} (hc : c.isDigit = true) (hcs : Continues cs) :
      Continues (c :: cs)
  | group {c : Char} {cs : List Char} (hc : c.isDigit = true) (hcs : Continues cs) :
      Continues (',' :: c :: cs)

theorem Continues.digits_append (hcs : ∀ c ∈ cs, c.isDigit = true) (h : Continues rest) :
    Continues (cs ++ rest) := by
  induction cs with
  | nil => exact h
  | cons c cs ih =>
    obtain ⟨hc, hcs⟩ := List.forall_mem_cons.mp hcs
    exact .digit hc (ih hcs)

theorem continues_flatMap {groups : List (List Char)} (h : ∀ group ∈ groups, IsDigits group) :
    Continues (groups.flatMap (',' :: ·)) := by
  induction groups with
  | nil => exact .nil
  | cons group groups ih =>
    obtain ⟨⟨hne, hdigits⟩, hgroups⟩ := List.forall_mem_cons.mp h
    obtain ⟨c, cs, rfl⟩ := List.exists_cons_of_ne_nil hne
    obtain ⟨hc, hcs⟩ := List.forall_mem_cons.mp hdigits
    exact .group hc (Continues.digits_append hcs (ih hgroups))

theorem Continues.exists_groups (h : Continues cs) :
    ∃ (first : List Char) (groups : List (List Char)), (∀ c ∈ first, c.isDigit = true) ∧
      (∀ group ∈ groups, IsDigits group) ∧ cs = first ++ groups.flatMap (',' :: ·) := by
  induction h with
  | nil => exact ⟨[], [], nofun, nofun, rfl⟩
  | @digit c cs hc _ ih =>
    obtain ⟨first, groups, hfirst, hgroups, rfl⟩ := ih
    exact ⟨c :: first, groups, List.forall_mem_cons.mpr ⟨hc, hfirst⟩, hgroups, rfl⟩
  -- the digit behind the comma begins a group of its own
  | @group c cs hc _ ih =>
    obtain ⟨first, groups, hfirst, hgroups, rfl⟩ := ih
    have hdigits : IsDigits (c :: first) :=
      ⟨List.cons_ne_nil _ _, List.forall_mem_cons.mpr ⟨hc, hfirst⟩⟩
    exact ⟨[], (c :: first) :: groups, nofun, List.forall_mem_cons.mpr ⟨hdigits, hgroups⟩, rfl⟩

/-- A grouped run is a digit and what continues it. -/
theorem isGrouped_iff :
    IsGrouped run ↔ ∃ c cs, c.isDigit = true ∧ Continues cs ∧ run = c :: cs := by
  constructor
  · rintro ⟨first, groups, ⟨hne, hdigits⟩, hgroups, rfl⟩
    obtain ⟨c, cs, rfl⟩ := List.exists_cons_of_ne_nil hne
    obtain ⟨hc, hcs⟩ := List.forall_mem_cons.mp hdigits
    exact ⟨c, _, hc, Continues.digits_append hcs (continues_flatMap hgroups), rfl⟩
  · rintro ⟨c, cs, hc, hcs, rfl⟩
    obtain ⟨first, groups, hfirst, hgroups, rfl⟩ := hcs.exists_groups
    exact ⟨c :: first, groups, ⟨List.cons_ne_nil _ _, List.forall_mem_cons.mpr ⟨hc, hfirst⟩⟩,
      hgroups, rfl⟩

theorem ne_comma_of_isDigit (hc : c.isDigit = true) : c ≠ ',' := by
  rintro rfl
  exact absurd hc (by decide)

/-- Digits stay when commas are taken out. -/
theorem filter_cons_of_isDigit (hc : c.isDigit = true) (cs : List Char) :
    (c :: cs).filter (· ≠ ',') = c :: cs.filter (· ≠ ',') :=
  List.filter_cons_of_pos (by simpa using ne_comma_of_isDigit hc)

theorem groupedRun_digit (hc : c.isDigit = true) (cs : List Char) :
    groupedRun (c :: cs) = (c :: (groupedRun cs).1, (groupedRun cs).2) := by
  rw [groupedRun.eq_3 c cs fun _ _ h _ ↦ ne_comma_of_isDigit hc h, if_pos hc]

theorem groupedRun_group (hc : c.isDigit = true) (cs : List Char) :
    groupedRun (',' :: c :: cs) = (c :: (groupedRun cs).1, (groupedRun cs).2) := by
  rw [groupedRun, if_pos hc]

/-- The reader takes a run off a text. -/
theorem exists_groupedRun (text : List Char) :
    ∃ run, Continues run ∧ text = run ++ (groupedRun text).2 ∧
      (groupedRun text).1 = run.filter (· ≠ ',') := by
  fun_induction groupedRun text with
  | case1 => exact ⟨[], .nil, rfl, rfl⟩
  | case2 c cs hc digits rest hread ih =>
    obtain ⟨run, hrun, htext, hdigits⟩ := ih
    refine ⟨',' :: c :: run, .group hc hrun, ?_, ?_⟩
    · show ',' :: c :: cs = ',' :: c :: (run ++ rest)
      rw [htext, hread]
    · show c :: digits = _
      rw [List.filter_cons_of_neg (by simp), filter_cons_of_isDigit hc, ← hdigits, hread]
  | case3 c cs hc => exact ⟨[], .nil, rfl, rfl⟩
  | case4 c cs _ hc digits rest hread ih =>
    obtain ⟨run, hrun, htext, hdigits⟩ := ih
    refine ⟨c :: run, .digit hc hrun, ?_, ?_⟩
    · show c :: cs = c :: (run ++ rest)
      rw [htext, hread]
    · show c :: digits = _
      rw [filter_cons_of_isDigit hc, ← hdigits, hread]
  | case5 c cs _ hc => exact ⟨[], .nil, rfl, rfl⟩

/-- The reader does not stop before a run ends. -/
theorem length_le_of_continues (h : Continues other) (hstarts : other <+: text) :
    other.length + (groupedRun text).2.length ≤ text.length := by
  induction h generalizing text with
  | nil =>
    obtain ⟨run, -, htext, -⟩ := exists_groupedRun text
    have hlength := congrArg List.length htext
    rw [List.length_append] at hlength
    rw [List.length_nil]
    omega
  | @digit c cs hc _ ih =>
    obtain ⟨behind, rfl⟩ := hstarts
    have hle := ih (List.prefix_append cs behind)
    simp only [List.cons_append, groupedRun_digit hc, List.length_cons]
    omega
  | @group c cs hc _ ih =>
    obtain ⟨behind, rfl⟩ := hstarts
    have hle := ih (List.prefix_append cs behind)
    simp only [List.cons_append, groupedRun_group hc, List.length_cons]
    omega

theorem IsLongestRun.unique (h : IsLongestRun run text) (h' : IsLongestRun other text) :
    run = other := by
  have hlength : run.length = other.length :=
    Nat.le_antisymm (h'.length_le run h.grouped h.isPrefix)
      (h.length_le other h'.grouped h'.isPrefix)
  exact (List.prefix_of_prefix_length_le h.isPrefix h'.isPrefix hlength.le).eq_of_length hlength

/-- A text that starts with a digit starts with a run, and that is what the reader takes off. -/
theorem exists_isLongestRun (hc : c.isDigit = true) (cs : List Char) :
    ∃ run rest, IsLongestRun run (c :: cs) ∧ c :: cs = run ++ rest ∧
      groupedRun? (c :: cs) = some (run.filter (· ≠ ','), rest) := by
  obtain ⟨run, hrun, hcs, hdigits⟩ := exists_groupedRun cs
  refine ⟨c :: run, (groupedRun cs).2, ⟨isGrouped_iff.mpr ⟨c, run, hc, hrun, rfl⟩, ?_, ?_⟩, ?_, ?_⟩
  · exact ⟨(groupedRun cs).2, by rw [List.cons_append, ← hcs]⟩
  · rintro other hother hstarts
    obtain ⟨d, others, hd, hothers, rfl⟩ := isGrouped_iff.mp hother
    have hle := length_le_of_continues hothers (List.cons_prefix_cons.mp hstarts).2
    have hlength := congrArg List.length hcs
    rw [List.length_append] at hlength
    rw [List.length_cons, List.length_cons]
    omega
  · rw [List.cons_append, ← hcs]
  · rw [groupedRun?, if_pos hc, groupedRun_digit hc, hdigits, filter_cons_of_isDigit hc]

theorem groupedRun?_eq_some_iff :
    groupedRun? text = some (digits, rest) ↔
      ∃ run, IsLongestRun run text ∧ text = run ++ rest ∧ digits = run.filter (· ≠ ',') := by
  constructor
  · intro h
    rw [groupedRun?.eq_def] at h
    split at h
    next c cs =>
      split at h
      next hc =>
        obtain ⟨run, behind, hrun, htext, hread⟩ := exists_isLongestRun hc cs
        rw [groupedRun?, if_pos hc] at hread
        obtain ⟨rfl, rfl⟩ := Prod.mk.inj (Option.some.inj (h.symm.trans hread))
        exact ⟨run, hrun, htext, rfl⟩
      next => cases h
    next => cases h
  · rintro ⟨run, hrun, rfl, rfl⟩
    obtain ⟨c, cs, hc, hcs, rfl⟩ := isGrouped_iff.mp hrun.grouped
    obtain ⟨other, behind, hother, htext, hread⟩ := exists_isLongestRun hc (cs ++ rest)
    obtain rfl := hrun.unique hother
    obtain rfl : rest = behind := by simpa using htext
    exact hread

theorem ofDigits_filter (run : List Char) : ofDigits (run.filter (· ≠ ',')) = written run := by
  have hstep : (fun (n : Nat) (c : Char) ↦ n * 10 + (c.toNat - '0'.toNat)) =
      fun n c ↦ (c.toNat - '0'.toNat) + 10 * n := by
    funext n c
    omega
  rw [written, Nat.ofDigits_eq_foldr, List.foldr_map, List.foldr_reverse, ofDigits, hstep]
  rfl

/-! ### Percentages -/

theorem not_isBlank_of_isDigit (hc : c.isDigit = true) : Text.isBlank c = false := by
  have hrange : 48 ≤ c.toNat ∧ c.toNat ≤ 57 := by
    simpa [Char.isDigit, UInt32.le_iff_toNat_le] using hc
  simp only [Text.isBlank, Bool.or_eq_false_iff, Bool.and_eq_false_iff, decide_eq_false_iff_not,
    beq_eq_false_iff_ne]
  omega

theorem percentDigits?_eq_some_iff :
    percentDigits? text = some percent ↔ StartsWithPercentage percent text := by
  constructor
  · intro h
    rw [percentDigits?.eq_def] at h
    split at h
    next => cases h
    next c cs =>
      dsimp only at h
      split at h
      next hfits =>
        obtain rfl := Option.some.inj h
        simp only [Bool.and_eq_true, decide_eq_true_eq, beq_iff_eq] at hfits
        obtain ⟨⟨⟨hblank, hpos⟩, hle⟩, hsign⟩ := hfits
        obtain ⟨behind, hbehind⟩ := List.head?_eq_some_iff.mp hsign
        have hgap := List.takeWhile_append_dropWhile (p := Text.isBlank) (l := c :: cs)
        have hdigits := List.prefix_iff_eq_append.mp
          (List.takeWhile_prefix Char.isDigit (l := (c :: cs).dropWhile Text.isBlank))
        rw [hbehind] at hdigits
        refine ⟨(c :: cs).takeWhile Text.isBlank, behind, ?_, ?_, fun d hd ↦ ?_,
          ⟨?_, fun d hd ↦ ?_⟩, hle⟩
        · rw [List.append_assoc, hdigits, hgap]
        · rw [List.takeWhile_cons_of_pos hblank]
          exact List.cons_ne_nil _ _
        · exact List.mem_takeWhile_imp hd
        · exact List.ne_nil_of_length_pos hpos
        · exact List.mem_takeWhile_imp hd
      next => cases h
  · rintro ⟨gap, behind, rfl, hne, hgap, ⟨hpercent, hdigits⟩, hle⟩
    obtain ⟨c, gap, rfl⟩ := List.exists_cons_of_ne_nil hne
    have hafter : (c :: gap ++ (percent ++ '%' :: behind)).dropWhile Text.isBlank =
        percent ++ '%' :: behind := by
      obtain ⟨d, ds, rfl⟩ := List.exists_cons_of_ne_nil hpercent
      rw [List.dropWhile_append_of_pos hgap, List.cons_append, List.dropWhile_cons_of_neg]
      simp [not_isBlank_of_isDigit (hdigits d List.mem_cons_self)]
    have hread : (percent ++ '%' :: behind).takeWhile Char.isDigit = percent := by
      rw [List.takeWhile_append_of_pos hdigits, List.takeWhile_cons_of_neg (by decide),
        List.append_nil]
    have hpos : 1 ≤ percent.length := List.length_pos_iff.mpr hpercent
    rw [List.append_assoc, List.cons_append, percentDigits?, ← List.cons_append, hafter, hread,
      List.drop_left, if_pos]
    simp [hgap c List.mem_cons_self, hle, hpos]

/-! ### The first place -/

/-- Whether `search` goes through a text and gives what `here` gives at the first place where it
gives anything. -/
structure Searches (here search : List Char → Option α) : Prop where
  here_nil : here [] = .none
  search_nil : search [] = .none
  search_cons : ∀ c cs, search (c :: cs) = (here (c :: cs)).or (search cs)

namespace Searches

variable {here search : List Char → Option α} {place : Nat}

theorem eq_none (h : Searches here search) (hnone : ∀ place, here (line.drop place) = .none) :
    search line = .none := by
  induction line with
  | nil => exact h.search_nil
  | cons c cs ih =>
    rw [h.search_cons, Option.or_eq_none_iff]
    exact ⟨hnone 0, ih fun place ↦ hnone (place + 1)⟩

theorem eq_here (h : Searches here search)
    (hplace : IsLeast {p | ∃ x, here (line.drop p) = some x} place) :
    search line = here (line.drop place) := by
  induction line generalizing place with
  | nil => rw [List.drop_nil, h.search_nil, h.here_nil]
  | cons c cs ih =>
    obtain ⟨⟨x, hfound⟩, hleast⟩ := hplace
    rw [h.search_cons]
    cases place with
    | zero =>
      rw [List.drop_zero] at hfound ⊢
      rw [hfound, Option.some_or]
    -- nothing is found at the first character, and the place is one less in what follows
    | succ place =>
      have hhere : here (c :: cs) = .none := by
        by_contra hne
        obtain ⟨y, hy⟩ := Option.ne_none_iff_exists'.mp hne
        exact absurd (hleast (a := 0) ⟨y, hy⟩) (by omega)
      rw [hhere, Option.none_or, List.drop_succ_cons]
      refine ih ⟨⟨x, hfound⟩, fun other hother ↦ ?_⟩
      exact Nat.le_of_succ_le_succ (hleast (a := other + 1) hother)

end Searches

/-- The digits of a summary that a text starts with. -/
def summaryHere? (text : List Char) : Option (List Char) :=
  if summaryLabel.isPrefixOf text then
    (groupedRun? (text.drop summaryLabel.length)).map Prod.fst
  else .none

theorem searches_summary : Searches summaryHere? summaryDigits? where
  here_nil := rfl
  search_nil := rfl
  search_cons c cs := by
    rw [summaryDigits?, summaryHere?]
    by_cases hlabel : summaryLabel.isPrefixOf (c :: cs) = true
    · rw [if_pos hlabel, if_pos hlabel]
      cases groupedRun? ((c :: cs).drop summaryLabel.length) <;> rfl
    · rw [if_neg hlabel, if_neg hlabel]
      rfl

/-- The digits of a run that a text starts with and of the percentage behind it. -/
def transferHere? (text : List Char) : Option (List Char × List Char) :=
  (groupedRun? text).bind fun (digits, rest) ↦ (percentDigits? rest).map (digits, ·)

theorem searches_transfer : Searches transferHere? transferDigits? where
  here_nil := rfl
  search_nil := rfl
  search_cons c cs := by
    rw [transferDigits?, transferHere?]
    cases groupedRun? (c :: cs) with
    | none => rfl
    | some found =>
      cases hpercent : percentDigits? found.2 with
      | none => simp [hpercent]
      | some percent => simp [hpercent]

theorem summaryHere?_eq_some_iff {place : Nat} :
    summaryHere? (line.drop place) = some digits ↔ IsSummaryAt line place ∧
      ∃ run, IsLongestRun run (line.drop (place + "total size is ".length)) ∧
        digits = run.filter (· ≠ ',') := by
  have hbehind : line.drop (place + "total size is ".length) =
      (line.drop place).drop summaryLabel.length := List.drop_drop.symm
  rw [hbehind, summaryHere?, IsSummaryAt]
  constructor
  · intro h
    split at h
    next hlabel =>
      obtain ⟨⟨_, rest⟩, hread, rfl⟩ := Option.map_eq_some_iff.mp h
      obtain ⟨run, hrun, htext, rfl⟩ := groupedRun?_eq_some_iff.mp hread
      obtain ⟨c, cs, hc, -, rfl⟩ := isGrouped_iff.mp hrun.grouped
      have hline := List.prefix_iff_eq_append.mp (List.isPrefixOf_iff_prefix.mp hlabel)
      rw [htext] at hline
      exact ⟨⟨c, cs ++ rest, hline.symm, hc⟩, _, hrun, rfl⟩
    next => cases h
  · rintro ⟨⟨c, behind, hline, hc⟩, run, hrun, rfl⟩
    have hlabel : summaryLabel.isPrefixOf (line.drop place) = true :=
      List.isPrefixOf_iff_prefix.mpr ⟨c :: behind, hline.symm⟩
    obtain ⟨rest, hrest⟩ := hrun.isPrefix
    rw [if_pos hlabel, groupedRun?_eq_some_iff.mpr ⟨run, hrun, hrest.symm, rfl⟩]
    rfl

theorem transferHere?_eq_some_iff {place : Nat} :
    transferHere? (line.drop place) = some (digits, percent) ↔
      ∃ run, IsTransferAt line place run percent ∧ digits = run.filter (· ≠ ',') := by
  have hrest {run rest : List Char} (h : line.drop place = run ++ rest) :
      line.drop (place + run.length) = rest := by
    rw [← List.drop_drop, h, List.drop_left]
  rw [transferHere?, Option.bind_eq_some_iff]
  constructor
  · rintro ⟨⟨digits, rest⟩, hread, hmap⟩
    obtain ⟨percent, hpercent, hpair⟩ := Option.map_eq_some_iff.mp hmap
    obtain ⟨rfl, rfl⟩ := Prod.mk.inj hpair
    obtain ⟨run, hrun, htext, rfl⟩ := groupedRun?_eq_some_iff.mp hread
    exact ⟨run, ⟨hrun, (hrest htext).symm ▸ percentDigits?_eq_some_iff.mp hpercent⟩, rfl⟩
  · rintro ⟨run, ⟨hrun, hpercent⟩, rfl⟩
    obtain ⟨rest, htext⟩ := hrun.isPrefix
    rw [hrest htext.symm, ← percentDigits?_eq_some_iff] at hpercent
    refine ⟨(_, rest), groupedRun?_eq_some_iff.mpr ⟨run, hrun, htext.symm, rfl⟩, ?_⟩
    show (percentDigits? rest).map _ = _
    rw [hpercent]
    rfl

theorem isSummaryAt_iff {place : Nat} :
    IsSummaryAt line place ↔ ∃ digits, summaryHere? (line.drop place) = some digits := by
  constructor
  · rintro ⟨c, behind, hline, hc⟩
    obtain ⟨run, _, hrun, -, -⟩ := exists_isLongestRun hc behind
    refine ⟨_, summaryHere?_eq_some_iff.mpr ⟨⟨c, behind, hline, hc⟩, run, ?_, rfl⟩⟩
    rw [← List.drop_drop, hline]
    exact hrun
  · rintro ⟨digits, hhere⟩
    exact (summaryHere?_eq_some_iff.mp hhere).1

theorem summaryDigits?_eq_none (h : ∀ place, ¬IsSummaryAt line place) :
    summaryDigits? line = .none := by
  refine searches_summary.eq_none fun place ↦ ?_
  by_contra hne
  exact h place (isSummaryAt_iff.mpr (Option.ne_none_iff_exists'.mp hne))

/-! ### Lines -/

theorem count?_filter (run : List Char) :
    count? (run.filter (· ≠ ',')) = if written run < 2 ^ 64 then some (written run) else .none := by
  have hmax : maxCount + 1 = 2 ^ 64 := rfl
  rw [count?, ofDigits_filter, ← hmax]
  exact if_congr Nat.lt_succ_iff.symm rfl rfl

/-- Without a summary, what is told stands at the first run before a percentage. -/
theorem ofLine?_of_transfer {line : String} {place : Nat}
    (hsummary : ∀ place, ¬IsSummaryAt line.toList place)
    (hplace : IsLeast {p | ∃ run percent, IsTransferAt line.toList p run percent} place)
    (htransfer : IsTransferAt line.toList place run percent) :
    ofLine? line = (count? (run.filter (· ≠ ','))).bind fun transferred ↦
      if written percent ≤ 255 then some (ofTransfer transferred (written percent))
      else .none := by
  have hhere := transferHere?_eq_some_iff.mpr ⟨run, htransfer, rfl⟩
  have hleast : IsLeast {p | ∃ x, transferHere? (line.toList.drop p) = some x} place := by
    refine ⟨⟨_, hhere⟩, ?_⟩
    rintro other ⟨⟨digits, percent⟩, hother⟩
    obtain ⟨run, hrun, -⟩ := transferHere?_eq_some_iff.mp hother
    exact hplace.2 ⟨run, percent, hrun⟩
  have hpercent : ofDigits percent = written percent := by
    obtain ⟨-, -, -, -, -, ⟨-, hdigits⟩, -⟩ := htransfer.2
    rw [← ofDigits_filter, List.filter_eq_self.mpr]
    exact fun c hc ↦ by simpa using ne_comma_of_isDigit (hdigits c hc)
  rw [ofLine?, summaryDigits?_eq_none hsummary, searches_transfer.eq_here hleast, hhere,
    ← hpercent]
  rfl

/-- No line tells of more than all of the bytes. -/
theorem percentage_le {line : String} {p : Progress} (h : ofLine? line = some p) :
    p.percentage ≤ 100 := by
  obtain ⟨total, rfl⟩ | ⟨transferred, percentage, rfl⟩ := complete_or_ofTransfer h
  · exact le_rfl
  · rw [ofTransfer]
    split
    · exact Nat.zero_le _
    · exact min_le_right _ _

/-- Lines are read by the grammar. -/
theorem isReading_line (line : String) : IsReading line.toList (ofLine? line) where
  summary place hplace := by
    simp only [isSummaryAt_iff] at hplace
    obtain ⟨digits, hhere⟩ := hplace.1
    obtain ⟨-, run, hrun, rfl⟩ := summaryHere?_eq_some_iff.mp hhere
    refine ⟨run, hrun, ?_⟩
    rw [ofLine?, searches_summary.eq_here hplace, hhere]
    show (count? (run.filter (· ≠ ','))).map complete = _
    rw [count?_filter]
    split <;> rfl
  nothing hsummary htransfer := by
    have hnone : transferDigits? line.toList = .none := by
      refine searches_transfer.eq_none fun place ↦ ?_
      by_contra hne
      obtain ⟨⟨digits, percent⟩, hhere⟩ := Option.ne_none_iff_exists'.mp hne
      obtain ⟨run, hrun, -⟩ := transferHere?_eq_some_iff.mp hhere
      exact htransfer place run percent hrun
    rw [ofLine?, summaryDigits?_eq_none hsummary, hnone]
    rfl
  transfer hsummary place run percent hplace htransfer := by
    rw [ofLine?_of_transfer hsummary hplace htransfer, count?_filter]
    refine ⟨?_, fun hcount hzero ↦ ?_, fun hcount hpos hle ↦ ?_⟩
    · rintro (hcount | hlarge)
      · rw [if_neg (Nat.not_lt.mpr hcount)]
        rfl
      · rw [Option.bind_eq_none_iff]
        exact fun _ _ ↦ if_neg (Nat.not_le.mpr hlarge)
    · rw [if_pos hcount, Option.bind_some, hzero, if_pos (Nat.zero_le _)]
      rfl
    · refine ⟨estimatedTotal (written run) (written percent), le_max_right _ _, ?_⟩
      rw [if_pos hcount, Option.bind_some, if_pos hle, ofTransfer, if_neg (Nat.ne_of_gt hpos)]
  bounded p hp := ⟨transferred_le_total hp, percentage_le hp⟩

/-- Runs that a doubled comma breaks, and percentages of four digits, are passed over. -/
example : ofLine? "1,,234  1000% 12,345  67%" = some ⟨12345, 18425, 67⟩ := by decide +kernel

end

end VolumeMigration.Progress
