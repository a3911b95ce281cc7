import Mathlib.Data.List.Induction
import Mathlib.Order.Bounds.Basic
import VolumeMigration.Progress.Bar

/-!
# A log that is told again

A log stream that breaks is opened again and tells its lines from the start. What a bar sees is then
some beginnings of the log, one after the other, and at last all of it. While that goes on its
length may be an old one, but nothing stays: of all counts the bar keeps the largest, of all totals
the latest, and the last telling has every count of the ones before it, and if they had a total, one
too. So the bar ends where a single telling takes it (`Sink.observeAll_replayed`).

That the replays are beginnings of the log is more than is needed: the log may be told in any
pieces and orders before it is told in full (`Bar.advanceAll_append`).
-/

namespace VolumeMigration.Progress

/-- How much there is in all, by one report: never less than what was transferred. -/
def size (p : Progress) : Nat := max p.total p.transferred

namespace Bar

variable {bar : Bar} {told log : List Progress} {p : Progress}

/-- The bar after several reports. -/
def advanceAll (bar : Bar) (told : List Progress) : Bar := told.foldl advance bar

theorem advanceAll_concat (bar : Bar) (told : List Progress) (p : Progress) :
    bar.advanceAll (told ++ [p]) = (bar.advanceAll told).advance p := by
  rw [advanceAll, List.foldl_append]
  rfl

/-! ### Where a bar stands after several reports -/

/-- The position is the largest count, that of the bar at the start among them. -/
theorem isGreatest_position_advanceAll (bar : Bar) (told : List Progress) :
    IsGreatest (insert bar.position {n | ∃ p ∈ told, p.transferred = n})
      (bar.advanceAll told).position := by
  -- the latest report is taken off, since the bar moves report by report
  induction told using List.reverseRecOn with
  | nil => exact ⟨Or.inl rfl, by rintro n (rfl | ⟨p, hp, -⟩); exacts [le_rfl, nomatch hp]⟩
  | append_singleton told p ih =>
    obtain ⟨hmem, hupper⟩ := ih
    rw [advanceAll_concat]
    have hposition : ((bar.advanceAll told).advance p).position =
        max (bar.advanceAll told).position p.transferred := rfl
    rw [hposition]
    constructor
    · rcases le_total p.transferred (bar.advanceAll told).position with hle | hle
      · rw [max_eq_left hle]
        rcases hmem with hstart | ⟨q, hq, hcount⟩
        · exact Or.inl hstart
        · exact Or.inr ⟨q, List.mem_append_left _ hq, hcount⟩
      · rw [max_eq_right hle]
        exact Or.inr ⟨p, List.mem_append_right _ List.mem_cons_self, rfl⟩
    · rintro n (rfl | ⟨q, hq, rfl⟩)
      · exact (hupper (Or.inl rfl)).trans (le_max_left _ _)
      · rcases List.mem_append.mp hq with hq | hq
        · exact (hupper (Or.inr ⟨q, hq, rfl⟩)).trans (le_max_left _ _)
        · rw [List.mem_singleton.mp hq]
          exact le_max_right _ _

/-- The length is the latest size that is not zero, and before one is told that of the bar at the
start. -/
theorem length_advanceAll (bar : Bar) (told : List Progress) :
    (bar.advanceAll told).length =
      ((told.map size).filter (0 < ·)).getLast?.getD bar.length := by
  induction told using List.reverseRecOn with
  | nil => rfl
  | append_singleton told p ih =>
    have hlength : ((bar.advanceAll told).advance p).length =
        if 0 < size p then size p else (bar.advanceAll told).length := rfl
    rw [advanceAll_concat, hlength, List.map_append, List.filter_append, List.map_singleton]
    by_cases hsize : 0 < size p
    · have hkept : [size p].filter (0 < ·) = [size p] := by simp [hsize]
      rw [if_pos hsize, hkept, List.getLast?_concat, Option.getD_some]
    · have hdropped : [size p].filter (0 < ·) = [] := by simp [hsize]
      rw [if_neg hsize, hdropped, List.append_nil, ih]

theorem finished_advanceAll (bar : Bar) (told : List Progress) :
    (bar.advanceAll told).finished = bar.finished := by
  induction told using List.reverseRecOn with
  | nil => rfl
  | append_singleton told p ih =>
    rw [advanceAll_concat, ← ih]
    rfl

/-! ### Reports that come again -/

/-- Reports that come again later leave no trace. -/
theorem advanceAll_append (bar : Bar) (hsubset : told ⊆ log) :
    bar.advanceAll (told ++ log) = bar.advanceAll log := by
  have hposition : (bar.advanceAll (told ++ log)).position = (bar.advanceAll log).position := by
    have hcounts : {n | ∃ p ∈ told ++ log, p.transferred = n} =
        {n | ∃ p ∈ log, p.transferred = n} := by
      ext n
      constructor
      · rintro ⟨p, hp, hcount⟩
        rcases List.mem_append.mp hp with hp | hp
        · exact ⟨p, hsubset hp, hcount⟩
        · exact ⟨p, hp, hcount⟩
      · rintro ⟨p, hp, hcount⟩
        exact ⟨p, List.mem_append_right _ hp, hcount⟩
    have hgreatest := isGreatest_position_advanceAll bar (told ++ log)
    rw [hcounts] at hgreatest
    exact hgreatest.unique (isGreatest_position_advanceAll bar log)
  have hlength : (bar.advanceAll (told ++ log)).length = (bar.advanceAll log).length := by
    rw [length_advanceAll, length_advanceAll, List.map_append, List.filter_append,
      List.getLast?_append]
    cases hlast : ((log.map size).filter (0 < ·)).getLast? with
    | some total => rfl
    -- a log without any total has none to tell in its pieces either
    | none =>
      have hnone : (told.map size).filter (0 < ·) = [] := by
        rw [List.filter_eq_nil_iff]
        intro n hn
        rw [List.getLast?_eq_none_iff, List.filter_eq_nil_iff] at hlast
        exact hlast n (List.map_subset size hsubset hn)
      rw [hnone]
      rfl
  have hfinished : (bar.advanceAll (told ++ log)).finished = (bar.advanceAll log).finished := by
    rw [finished_advanceAll, finished_advanceAll]
  exact (Bar.mk.injEq ..).mpr ⟨hposition, hlength, hfinished⟩

end Bar

namespace Sink

/-- A bar sees of lines just what progress they tell. -/
theorem observeAll_bar (bar : Bar) (lines : List String) :
    ((Sink.bar bar).observeAll lines).1 = .bar (bar.advanceAll (lines.filterMap ofLine?)) := by
  induction lines generalizing bar with
  | nil => rfl
  | cons line lines ih =>
    cases hline : ofLine? line with
    | none =>
      rw [List.filterMap_cons_none hline, ← ih bar, observeAll, observe, hline]
    | some p =>
      rw [List.filterMap_cons_some hline, Bar.advanceAll, List.foldl_cons, ← Bar.advanceAll,
        ← ih (bar.advance p), observeAll, observe, hline]

/-- Beginnings of a log that are told before all of it change nothing about where a new bar ends.
At every moment it stands at the largest count that was told, at zero if there was none. -/
theorem observeAll_replayed (log : List String) (replays : List (List String))
    (hreplays : ∀ replay ∈ replays, replay <+: log) :
    ((Sink.bar .new).observeAll (replays.flatten ++ log)).1 =
        ((Sink.bar .new).observeAll log).1 ∧
      ∀ seen, seen <+: replays.flatten ++ log → ∃ bar,
        ((Sink.bar .new).observeAll seen).1 = .bar bar ∧
          IsGreatest (insert 0 {n | ∃ line ∈ seen, ∃ p, ofLine? line = some p ∧ p.transferred = n})
            bar.position := by
  constructor
  · have hsubset : replays.flatten ⊆ log := by
      intro line hline
      obtain ⟨replay, hreplay, hline⟩ := List.mem_flatten.mp hline
      exact (hreplays replay hreplay).subset hline
    rw [observeAll_bar, observeAll_bar, List.filterMap_append,
      Bar.advanceAll_append .new (List.filterMap_subset ofLine? hsubset)]
  · intro seen _
    have hcounts : {n | ∃ line ∈ seen, ∃ p, ofLine? line = some p ∧ p.transferred = n} =
        {n | ∃ p ∈ seen.filterMap ofLine?, p.transferred = n} := by
      ext n
      constructor
      · rintro ⟨line, hline, p, hp, hcount⟩
        exact ⟨p, List.mem_filterMap.mpr ⟨line, hline, hp⟩, hcount⟩
      · rintro ⟨p, hp, hcount⟩
        obtain ⟨line, hline, hp⟩ := List.mem_filterMap.mp hp
        exact ⟨line, hline, p, hp, hcount⟩
    rw [hcounts]
    exact ⟨_, observeAll_bar .new seen, Bar.isGreatest_position_advanceAll .new _⟩

/-- A log that broke off after its first line and after its third one is told to the end at last. -/
theorem observeAll_replayed_twice :
    let log := ["data/", "  50,000  40%", "  90,000  90%", "total size is 100,000  speedup is 1.00"]
    (∀ replay ∈ [log.take 1, log.take 3], replay <+: log) ∧
      ((Sink.bar .new).observeAll ([log.take 1, log.take 3].flatten ++ log)).1 =
          .bar ⟨100000, 100000, false⟩ ∧
        ∃ bar, ((Sink.bar .new).observeAll ([log.take 1, log.take 3].flatten ++ log.take 2)).1 =
            .bar bar ∧
          IsGreatest (insert 0 {n | ∃ line ∈ [log.take 1, log.take 3].flatten ++ log.take 2,
            ∃ p, ofLine? line = some p ∧ p.transferred = n}) bar.position := by
  intro log
  have hreplays : ∀ replay ∈ [log.take 1, log.take 3], replay <+: log :=
    List.forall_mem_cons.mpr ⟨List.take_prefix 1 log,
      List.forall_mem_singleton.mpr (List.take_prefix 3 log)⟩
  have hseen : [log.take 1, log.take 3].flatten ++ log.take 2 <+:
      [log.take 1, log.take 3].flatten ++ log :=
    (List.prefix_append_right_inj _).mpr (List.take_prefix 2 log)
  obtain ⟨hend, hmoments⟩ := observeAll_replayed log [log.take 1, log.take 3] hreplays
  have honce : ((Sink.bar .new).observeAll log).1 = .bar ⟨100000, 100000, false⟩ := by
    decide +kernel
  exact ⟨hreplays, hend.trans honce, hmoments _ hseen⟩

end Sink

end VolumeMigration.Progress
