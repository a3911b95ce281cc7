import Mathlib.Algebra.Ring.Int.Defs
import Mathlib.Data.List.Nodup
import Mathlib.Data.String.Basic
import VolumeMigration.Tree

/-!
# Equal trees, map order aside

The order of a map's entries has no meaning. Two trees are the same if one becomes the other when
maps in them, at any depth, change the order of their entries; the representative with all
entries in the order of their keys is the same tree as the one it comes from, and trees of values,
whose maps have no key twice, are the same exactly if they have this representative in common.
-/

namespace VolumeMigration.Tree

/-- What holds of the leaves, and of a list or a map if it holds of what is in it, holds of every
tree. -/
@[elab_as_elim]
theorem induct {motive : Tree → Prop} (null : motive null) (bool : ∀ b, motive (bool b))
    (int : ∀ n, motive (int n)) (real : ∀ x, motive (real x)) (string : ∀ s, motive (string s))
    (list : ∀ items, (∀ t ∈ items, motive t) → motive (list items))
    (map : ∀ entries, (∀ e ∈ entries, motive e.2) → motive (map entries)) (t : Tree) : motive t :=
  @Tree.rec motive (fun items ↦ ∀ t ∈ items, motive t) (fun entries ↦ ∀ e ∈ entries, motive e.2)
    (fun e ↦ motive e.2) null bool int real string list map (fun _ h ↦ absurd h List.not_mem_nil)
    (fun _ _ hhead htail ↦ List.forall_mem_cons.2 ⟨hhead, htail⟩)
    (fun _ h ↦ absurd h List.not_mem_nil)
    (fun _ _ hhead htail ↦ List.forall_mem_cons.2 ⟨hhead, htail⟩) (fun _ _ h ↦ h) t

/-- The trees that chart values can be: whole numbers have at most 64 bits, with a sign or
without, and no map has a key twice. -/
inductive IsValues : Tree → Prop
  | null : IsValues null
  | bool (b : Bool) : IsValues (bool b)
  | int {n : Int} (hlow : -2 ^ 63 ≤ n) (hhigh : n < 2 ^ 64) : IsValues (int n)
  | string (s : String) : IsValues (string s)
  | list {items : List Tree} (hitems : ∀ t ∈ items, IsValues t) : IsValues (list items)
  | map {entries : List (String × Tree)} (hkeys : (entries.map (·.1)).Nodup)
      (hentries : ∀ e ∈ entries, IsValues e.2) : IsValues (map entries)

/-- Equality of trees, map order aside: the least equivalence under which the entries of any map
in a tree may change places. -/
inductive Same : Tree → Tree → Prop
  | refl (t : Tree) : Same t t
  | symm {t u : Tree} (h : Same t u) : Same u t
  | trans {t u v : Tree} (h : Same t u) (h' : Same u v) : Same t v
  | order {entries entries' : List (String × Tree)} (h : entries.Perm entries') :
      Same (map entries) (map entries')
  | item (before : List Tree) {t u : Tree} (h : Same t u) (behind : List Tree) :
      Same (list (before ++ t :: behind)) (list (before ++ u :: behind))
  | value (before : List (String × Tree)) (key : String) {t u : Tree} (h : Same t u)
      (behind : List (String × Tree)) :
      Same (map (before ++ (key, t) :: behind)) (map (before ++ (key, u) :: behind))

/-! ### Entries in the order of their keys -/

/-- Entries in the order of their keys. -/
def inOrder (entries : List (String × Tree)) : List (String × Tree) :=
  entries.mergeSort fun a b ↦ a.1 ≤ b.1

mutual

/-- The tree with all its entries in the order of their keys. -/
def sorted : Tree → Tree
  | null => null
  | bool b => bool b
  | int n => int n
  | real x => real x
  | string s => string s
  | list items => list (sortedItems items)
  | map entries => map (inOrder (sortedValues entries))

/-- All items with their entries in order. -/
def sortedItems : List Tree → List Tree
  | [] => []
  | t :: items => t.sorted :: sortedItems items

/-- All values with their entries in order. -/
def sortedValues : List (String × Tree) → List (String × Tree)
  | [] => []
  | (key, t) :: entries => (key, t.sorted) :: sortedValues entries

end

theorem sortedItems_eq_map (items : List Tree) : sortedItems items = items.map sorted := by
  induction items with
  | nil => rfl
  | cons t items ih => rw [sortedItems, ih, List.map_cons]

theorem sortedValues_eq_map (entries : List (String × Tree)) :
    sortedValues entries = entries.map fun e ↦ (e.1, e.2.sorted) := by
  induction entries with
  | nil => rfl
  | cons e entries ih => rw [sortedValues, ih, List.map_cons]

theorem perm_inOrder (entries : List (String × Tree)) : (inOrder entries).Perm entries :=
  List.mergeSort_perm entries _

@[simp] theorem inOrder_nil : inOrder [] = [] := List.mergeSort_nil

theorem forall_mem_inOrder {p : String × Tree → Prop} {entries : List (String × Tree)}
    (h : ∀ e ∈ entries, p e) : ∀ e ∈ inOrder entries, p e :=
  fun e he ↦ h e ((perm_inOrder entries).subset he)

/-- Entries that there are have a first one in order. -/
theorem exists_inOrder_eq_cons {entries : List (String × Tree)} (hne : entries ≠ []) :
    ∃ first others, inOrder entries = first :: others :=
  List.exists_cons_of_ne_nil fun hnil ↦ hne (hnil ▸ (perm_inOrder entries).symm).eq_nil

theorem ne_nil_of_inOrder_eq_cons {entries others : List (String × Tree)} {first : String × Tree}
    (h : inOrder entries = first :: others) : entries ≠ [] := by
  rintro rfl
  rw [inOrder_nil] at h
  cases h

theorem pairwise_inOrder (entries : List (String × Tree)) :
    (inOrder entries).Pairwise fun a b ↦ a.1 ≤ b.1 := by
  have h : (inOrder entries).Pairwise fun a b ↦ decide (a.1 ≤ b.1) := by
    refine List.pairwise_mergeSort (fun a b c hab hbc ↦ ?_) (fun a b ↦ ?_) entries
    · exact decide_eq_true (le_trans (of_decide_eq_true hab) (of_decide_eq_true hbc))
    · simpa using le_total a.1 b.1
  exact h.imp of_decide_eq_true

/-- Entries in order stay as they are. -/
theorem inOrder_inOrder (entries : List (String × Tree)) :
    inOrder (inOrder entries) = inOrder entries :=
  List.mergeSort_of_pairwise ((pairwise_inOrder entries).imp fun h ↦ decide_eq_true h)

/-- Sorting the entries first, or their values, comes to the same. -/
theorem inOrder_sortedValues (entries : List (String × Tree)) :
    inOrder (sortedValues entries) = (inOrder entries).map fun e ↦ (e.1, e.2.sorted) := by
  have h : ∀ a ∈ entries, ∀ b ∈ entries, decide (a.1 ≤ b.1) =
      decide ((a.1, a.2.sorted).1 ≤ (b.1, b.2.sorted).1) := fun _ _ _ _ ↦ rfl
  rw [sortedValues_eq_map]
  exact (List.map_mergeSort h).symm

/-- Entries without a key twice have one order only. -/
theorem inOrder_eq_of_perm {entries entries' : List (String × Tree)} (h : entries.Perm entries')
    (hkeys : (entries.map (·.1)).Nodup) : inOrder entries = inOrder entries' := by
  have hperm : (inOrder entries).Perm (inOrder entries') :=
    ((perm_inOrder entries).trans h).trans (perm_inOrder entries').symm
  -- two entries that may stand either way round have one key, and so are one
  refine List.Perm.eq_of_pairwise (fun a b ha hb hab hba ↦ ?_) (pairwise_inOrder entries)
    (pairwise_inOrder entries') hperm
  have ha : a ∈ entries := (perm_inOrder entries).subset ha
  have hb : b ∈ entries := h.symm.subset ((perm_inOrder entries').subset hb)
  exact List.inj_on_of_nodup_map hkeys ha hb (le_antisymm hab hba)

theorem sorted_map_nil : (map []).sorted = map [] := by
  rw [sorted, sortedValues, inOrder_nil]

theorem sorted_map {entries others : List (String × Tree)} {first : String × Tree}
    (h : inOrder entries = first :: others) :
    (map entries).sorted = map ((first :: others).map fun e ↦ (e.1, e.2.sorted)) := by
  rw [sorted, inOrder_sortedValues, h]

/-! ### The representative is the same tree -/

/-- Items may be replaced by the same trees, one after the other. -/
theorem same_list_map {f : Tree → Tree} (before : List Tree) {items : List Tree}
    (h : ∀ t ∈ items, (f t).Same t) :
    (list (before ++ items.map f)).Same (list (before ++ items)) := by
  induction items generalizing before with
  | nil => exact .refl _
  | cons t items ih =>
    obtain ⟨ht, hitems⟩ := List.forall_mem_cons.1 h
    have htail := ih (before ++ [t]) hitems
    rw [List.append_assoc, List.append_assoc] at htail
    exact .trans (.item before ht _) htail

theorem same_map_map {f : Tree → Tree} (before : List (String × Tree))
    {entries : List (String × Tree)} (h : ∀ e ∈ entries, (f e.2).Same e.2) :
    (map (before ++ entries.map fun e ↦ (e.1, f e.2))).Same (map (before ++ entries)) := by
  induction entries generalizing before with
  | nil => exact .refl _
  | cons e entries ih =>
    obtain ⟨he, hentries⟩ := List.forall_mem_cons.1 h
    have htail := ih (before ++ [e]) hentries
    rw [List.append_assoc, List.append_assoc] at htail
    exact .trans (.value before e.1 he _) htail

/-- A tree in order is the tree that it comes from. -/
theorem sorted_same (t : Tree) : t.sorted.Same t := by
  induction t using induct with
  | null => exact .refl _
  | bool b => exact .refl _
  | int n => exact .refl _
  | real x => exact .refl _
  | string s => exact .refl _
  | list items ih =>
    rw [sorted, sortedItems_eq_map]
    exact same_list_map [] ih
  | map entries ih =>
    rw [sorted]
    refine .trans (.order (perm_inOrder _)) ?_
    rw [sortedValues_eq_map]
    exact same_map_map [] ih

theorem isValues_list_iff {items : List Tree} : (list items).IsValues ↔ ∀ t ∈ items, t.IsValues :=
  ⟨fun | .list h => h, .list⟩

theorem isValues_map_iff {entries : List (String × Tree)} :
    (map entries).IsValues ↔ (entries.map (·.1)).Nodup ∧ ∀ e ∈ entries, e.2.IsValues :=
  ⟨fun | .map hkeys h => ⟨hkeys, h⟩, fun h ↦ .map h.1 h.2⟩

/-- The same trees are values together. -/
theorem Same.isValues_iff {t u : Tree} (h : t.Same u) : t.IsValues ↔ u.IsValues := by
  induction h with
  | refl t => exact Iff.rfl
  | symm h ih => exact ih.symm
  | trans h h' ih ih' => exact ih.trans ih'
  | order h =>
    rw [isValues_map_iff, isValues_map_iff, (h.map _).nodup_iff]
    exact and_congr_right fun _ ↦ ⟨fun hall e he ↦ hall e (h.symm.subset he),
      fun hall e he ↦ hall e (h.subset he)⟩
  | item before h behind ih => simp [isValues_list_iff, or_imp, forall_and, ih]
  | value before key h behind ih => simp [isValues_map_iff, or_imp, forall_and, ih]

/-- The same values have the same representative. -/
theorem Same.sorted_eq {t u : Tree} (h : t.Same u) (ht : t.IsValues) : t.sorted = u.sorted := by
  induction h with
  | refl t => rfl
  | symm h ih => exact (ih (h.isValues_iff.2 ht)).symm
  | trans h h' ih ih' => exact (ih ht).trans (ih' (h.isValues_iff.1 ht))
  | order h =>
    rw [sorted, sorted, sortedValues_eq_map, sortedValues_eq_map,
      inOrder_eq_of_perm (h.map _) (by simpa [Function.comp_def] using (isValues_map_iff.1 ht).1)]
  | @item before t u h behind ih =>
    have ht := isValues_list_iff.1 ht t (by simp)
    simp [sorted, sortedItems_eq_map, ih ht]
  | @value before key t u h behind ih =>
    have ht := (isValues_map_iff.1 ht).2 (key, t) (by simp)
    simp [sorted, sortedValues_eq_map, ih ht]

/-- Values are the same exactly if their representatives are equal. -/
theorem same_iff_sorted_eq {t u : Tree} (ht : t.IsValues) : t.Same u ↔ t.sorted = u.sorted :=
  ⟨fun h ↦ h.sorted_eq ht, fun h ↦ .trans (.symm (sorted_same t)) (h ▸ sorted_same u)⟩

end VolumeMigration.Tree
