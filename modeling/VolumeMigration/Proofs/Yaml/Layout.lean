import VolumeMigration.Proofs.Trees
import VolumeMigration.Yaml.Document

/-!
# The lines of a written tree

A list is written as items, each behind its dash, and a map as entries in the order of their
keys, each behind its key. The first stands at the place of the node, and all others on lines of
their own at the same column.
-/

namespace VolumeMigration.Yaml

/-- An item of a list behind its indentation. -/
def itemText (indent : Nat) (item : Tree) : List Char := '-' :: block [' '] (indent + 2) item

/-- An entry of a map behind its indentation. -/
def entryText (indent : Nat) (entry : String × Tree) : List Char :=
  keyPart indent entry.1 ++
    if isSimpleKey entry.1 then keyValue indent entry.2 else block [' '] (indent + 2) entry.2

/-- Entries on lines of their own. -/
def entryLines (indent : Nat) (entries : List (String × Tree)) : List Char :=
  entries.flatMap fun e ↦ spaces indent ++ entryText indent e

/-- The lines of a list are those of its items, each behind the indent. -/
theorem itemLines_cons (indent : Nat) (item : Tree) (items : List Tree) :
    itemLines indent (item :: items) =
      spaces indent ++ (itemText indent item ++ itemLines indent items) := by
  rw [itemLines, itemText, List.append_assoc]

/-- The lines of a map are those of its entries, each behind the indent. -/
theorem entryLines_cons (indent : Nat) (entry : String × Tree) (entries : List (String × Tree)) :
    entryLines indent (entry :: entries) =
      spaces indent ++ (entryText indent entry ++ entryLines indent entries) := by
  rw [entryLines, List.flatMap_cons, List.append_assoc]
  rfl

/-! ### Lists -/

/-- The first item of a list stands behind what leads up to it. -/
theorem block_list (gap : List Char) (indent : Nat) (item : Tree) (items : List Tree) :
    block gap indent (.list (item :: items)) =
      gap ++ (itemText indent item ++ itemLines indent items) := by
  rw [block, itemText, List.append_assoc]

theorem keyValue_list (indent : Nat) (item : Tree) (items : List Tree) :
    keyValue indent (.list (item :: items)) = '\n' :: itemLines indent (item :: items) := by
  rw [keyValue, itemLines_cons, itemText]
  simp

/-! ### Maps -/

theorem entryBlocks_eq_map (indent : Nat) (entries : List (String × Tree)) :
    entryBlocks indent entries = entries.map fun e ↦ (e.1, entryText indent e) := by
  induction entries with
  | nil => rfl
  | cons e entries ih =>
    rw [entryBlocks, ih, List.map_cons, entryText]
    split <;> rfl

/-- Written entries are sorted as the entries are. -/
theorem mergeSort_entryBlocks (indent : Nat) (entries : List (String × Tree)) :
    (entryBlocks indent entries).mergeSort (fun a b ↦ a.1 ≤ b.1) =
      (Tree.inOrder entries).map fun e ↦ (e.1, entryText indent e) := by
  have h : ∀ a ∈ entries, ∀ b ∈ entries, decide (a.1 ≤ b.1) =
      decide ((a.1, entryText indent a).1 ≤ (b.1, entryText indent b).1) := fun _ _ _ _ ↦ rfl
  rw [entryBlocks_eq_map]
  exact (List.map_mergeSort h).symm

theorem flatten_intersperse (separator first : List Char) (others : List (List Char)) :
    ((first :: others).intersperse separator).flatten =
      first ++ others.flatMap (separator ++ ·) := by
  induction others generalizing first with
  | nil => rfl
  | cons second others ih =>
    rw [List.intersperse_cons_cons, List.flatten_cons, List.flatten_cons, ih, List.flatMap_cons]
    simp

/-- No entries are written only where there are none. -/
theorem entryBlocks_ne_nil {indent : Nat} {entries : List (String × Tree)} (h : entries ≠ []) :
    entryBlocks indent entries ≠ [] := by
  rw [entryBlocks_eq_map]
  exact fun hnil ↦ h (List.map_eq_nil_iff.1 hnil)

/-- So does the first entry of a map. -/
theorem block_map {gap : List Char} {indent : Nat} {entries : List (String × Tree)}
    {first : String × Tree} {others : List (String × Tree)}
    (h : Tree.inOrder entries = first :: others) :
    block gap indent (.map entries) =
      gap ++ (entryText indent first ++ entryLines indent others) := by
  rw [block]
  split
  · exact absurd ‹_› (entryBlocks_ne_nil (Tree.ne_nil_of_inOrder_eq_cons h))
  · rename_i hblocks
    rw [← hblocks, mergeSort_entryBlocks, h]
    simp only [List.map_cons, List.map_map, flatten_intersperse, entryLines, List.flatMap_map]
    rfl

theorem keyValue_map {indent : Nat} {entries : List (String × Tree)} (h : entries ≠ []) :
    keyValue indent (.map entries) = '\n' :: entryLines (indent + 2) (Tree.inOrder entries) := by
  rw [keyValue]
  split
  · exact absurd ‹_› (entryBlocks_ne_nil h)
  · rename_i hblocks
    rw [← hblocks, mergeSort_entryBlocks, entryLines, List.flatMap_def]
    simp only [List.map_map]
    rfl

end VolumeMigration.Yaml
