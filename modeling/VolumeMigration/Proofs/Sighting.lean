import Mathlib.Tactic.Common
import VolumeMigration.Wait.Watch

/-!
# What a search in a watch finds

A watch is a list of states and a way of going on behind the last of them. A search ends with the
first state that something is made of, or as the watch goes on if there is none; the moments at
which states come have no say in it.
-/

namespace VolumeMigration

variable {α β : Type}

/-- `x` is the first in a list to have a property. -/
def IsFirst (P : α → Prop) (xs : List α) (x : α) : Prop :=
  ∃ before after, xs = before ++ x :: after ∧ P x ∧ ∀ y ∈ before, ¬P y

namespace IsFirst

variable {P Q : α → Prop} {xs : List α} {x : α}

theorem prop (h : IsFirst P xs x) : P x := h.choose_spec.choose_spec.2.1

theorem mem (h : IsFirst P xs x) : x ∈ xs := by
  obtain ⟨before, after, rfl, -⟩ := h
  simp

theorem head (hx : P x) : IsFirst P (x :: xs) x := ⟨[], xs, rfl, hx, by simp⟩

theorem cons {y : α} (hy : ¬P y) (h : IsFirst P xs x) : IsFirst P (y :: xs) x := by
  obtain ⟨before, after, rfl, hx, hbefore⟩ := h
  exact ⟨y :: before, after, rfl, hx, List.forall_mem_cons.mpr ⟨hy, hbefore⟩⟩

theorem congr (h : IsFirst P xs x) (hPQ : ∀ z, P z ↔ Q z) : IsFirst Q xs x := by
  obtain ⟨before, after, hxs, hx, hbefore⟩ := h
  exact ⟨before, after, hxs, (hPQ x).mp hx, fun z hz hQ ↦ hbefore z hz ((hPQ z).mpr hQ)⟩

/-- What holds of an element and of all before it does not change which one is the first. -/
theorem and_iff (hQ : xs.Pairwise fun y z ↦ Q z → Q y) :
    IsFirst (fun y ↦ Q y ∧ P y) xs x ↔ IsFirst P xs x ∧ Q x := by
  constructor
  · rintro ⟨before, after, rfl, ⟨hxQ, hxP⟩, hbefore⟩
    refine ⟨⟨before, after, rfl, hxP, fun y hy hyP ↦ hbefore y hy ⟨?_, hyP⟩⟩, hxQ⟩
    exact (List.pairwise_append.mp hQ).2.2 y hy x List.mem_cons_self hxQ
  · rintro ⟨⟨before, after, hxs, hxP, hbefore⟩, hxQ⟩
    exact ⟨before, after, hxs, ⟨hxQ, hxP⟩, fun y hy hyP ↦ hbefore y hy hyP.2⟩

end IsFirst

theorem find?_eq_some_iff_isFirst {p : α → Bool} {xs : List α} {x : α} :
    xs.find? p = some x ↔ IsFirst (fun y ↦ p y = true) xs x := by
  rw [List.find?_eq_some_iff_append]
  constructor
  · rintro ⟨hx, before, after, hxs, hbefore⟩
    exact ⟨before, after, hxs, hx, by simpa using hbefore⟩
  · rintro ⟨before, after, hxs, hx, hbefore⟩
    exact ⟨hx, before, after, hxs, by simpa using hbefore⟩

/-- A search gives what is made of the first element that something is made of. -/
theorem findSome?_eq_some_iff_isFirst {f : α → Option β} {xs : List α} {value : β} :
    xs.findSome? f = some value ↔
      ∃ x, IsFirst (fun y ↦ (f y).isSome = true) xs x ∧ f x = some value := by
  rw [List.findSome?_eq_some_iff]
  constructor
  · rintro ⟨before, x, after, hxs, hx, hbefore⟩
    exact ⟨x, ⟨before, after, hxs, by simp [hx], by simpa using hbefore⟩, hx⟩
  · rintro ⟨x, ⟨before, after, hxs, -, hbefore⟩, hx⟩
    exact ⟨before, x, after, hxs, hx, by simpa using hbefore⟩

namespace Watch

/-- How a watch goes on behind its last state. -/
inductive Rest where
  | silent
  | closed
  | failed (reason : String)
  deriving DecidableEq

/-- The states that a watch delivers. -/
def states : Watch α → List α
  | next _ state rest => state :: rest.states
  | _ => []

/-- How the watch goes on behind them. -/
def rest : Watch α → Rest
  | silent => .silent
  | closed _ => .closed
  | failed _ reason => .failed reason
  | next _ _ more => more.rest

end Watch

/-- How a search in a watch ends, whenever that is. -/
def Sighting.ends : Sighting β → Except Watch.Rest β
  | found _ value => .ok value
  | failed _ reason => .error (.failed reason)
  | closed _ => .error .closed
  | never => .error .silent

namespace Watch

variable {f : α → Option β} {w : Watch α}

/-- The moment at which a search begins has no say in how it ends. -/
theorem ends_findFrom (f : α → Option β) (clock : Duration) (w : Watch α) :
    (w.findFrom f clock).ends =
      match w.states.findSome? f with
      | some value => .ok value
      | none => .error w.rest := by
  induction w generalizing clock with
  | silent | closed | failed => rfl
  | next after state rest ih =>
    rw [findFrom, states, List.findSome?_cons]
    cases f state with
    | some value => rfl
    | none => exact ih (clock + after)

/-- A search finds what is made of the first state that something is made of. -/
theorem ends_find_eq_ok_iff {value : β} :
    (w.find f).ends = .ok value ↔
      ∃ x, IsFirst (fun y ↦ (f y).isSome = true) w.states x ∧ f x = some value := by
  rw [find, ends_findFrom, ← findSome?_eq_some_iff_isFirst]
  cases w.states.findSome? f <;> simp

/-- A search that finds nothing goes on as the watch does. -/
theorem ends_find_eq_error_iff {r : Rest} :
    (w.find f).ends = .error r ↔ (∀ x ∈ w.states, f x = none) ∧ w.rest = r := by
  rw [find, ends_findFrom, ← List.findSome?_eq_none_iff]
  cases w.states.findSome? f <;> simp

end Watch

end VolumeMigration
