import VolumeMigration.Helm.Call
import VolumeMigration.Proofs.Yaml.Lines

/-!
# Values files are read back

A values file is one document, and reading it gives the tree that it was written from, with the
entries of its maps in the order of their keys. Since the text does not depend on the order of
entries, the trees of one text are one tree, map order aside, and no other tree has it.
-/

namespace VolumeMigration

namespace Yaml

/-! ### The written document -/

/-- The lines of a written tree are read as the tree with its entries in order. -/
theorem document_splitOn {t : Tree} (h : t.IsValues) :
    Reader.document 0 ((block [] 0 t).splitOn '\n') = .ok t.sorted := by
  have hnode : ReadsNode 0 0 true 0 (block [] 0 t) t.sorted :=
    @ReadsBack.node t (readsBack_of_isValues h) 0 0 0 0 rfl (Nat.le_refl 0)
  obtain ⟨behind, hread, l, hbehind⟩ := hnode .ends
    (show _ < 2 * (block [] 0 t).length + 4 by omega) (l := 0)
  have hend : behind.content.rest = [] := by rw [hbehind, Cursor.content_nil]
  rw [List.append_nil] at hread
  rw [Reader.document, List.intercalate_splitOn]
  simp only [hread]
  show (if !behind.content.rest.isEmpty then _ else _) = _
  rw [hend]
  rfl

/-- Without a byte order mark, all of a text is lines of its documents. -/
theorem documents_ofList {ch : Char} {behind : List Char} (hmark : ch ≠ '\uFEFF') :
    documents (String.ofList (ch :: behind)) =
      (Reader.split ((withLineFeeds (ch :: behind)).splitOn '\n') 0 0 false []).mapM
        fun (first, lines) ↦ Reader.document first lines := by
  rw [documents, String.toList_ofList]
  split
  · rename_i hcs
    exact absurd (List.cons.inj hcs).1 hmark
  · rfl

/-- A written tree is one document, and read as the tree with its entries in order. -/
theorem documents_document {t : Tree} (h : t.IsValues) :
    documents (document t) = .ok [t.sorted] := by
  obtain ⟨ch, behind, hcons, hch⟩ := exists_block_eq_cons [] 0 t
  have htidy : isTidy true (block [] 0 t) := by
    have htidy : isTidy true (block [] 0 t ++ []) := (isTidy_tree t).node (n := 0) rfl
    rwa [List.append_nil] at htidy
  have hprintable := isPrintable_of_isTidy htidy
  have hfeeds := withLineFeeds_eq hprintable
  have hread := document_splitOn h
  rw [List.nil_append] at hcons
  rw [hcons] at htidy hprintable hfeeds hread
  -- a byte order mark at the start would be dropped, but it cannot be written as it is
  have hmark : ch ≠ '\uFEFF' := by
    rintro rfl
    exact absurd (hprintable _ List.mem_cons_self) (by decide)
  rw [document, hcons, documents_ofList hmark, hfeeds, split_of_isTidy hch htidy, List.mapM_cons,
    List.mapM_nil]
  show (Reader.document 0 _ >>= _) = _
  rw [hread]
  rfl

/-! ### The text and the order of entries -/

/-- A tree is written as the tree with its entries in order. -/
structure WritesSorted (t : Tree) : Prop where
  node : ∀ gap indent, block gap indent t.sorted = block gap indent t
  value : ∀ indent, keyValue indent t.sorted = keyValue indent t

theorem WritesSorted.itemText {item : Tree} (h : WritesSorted item) (indent : Nat) :
    itemText indent item.sorted = itemText indent item := by
  rw [Yaml.itemText, h.node, Yaml.itemText]

theorem itemLines_map_sorted {items : List Tree} (h : ∀ t ∈ items, WritesSorted t) (indent : Nat) :
    itemLines indent (items.map Tree.sorted) = itemLines indent items := by
  induction items with
  | nil => rfl
  | cons item items ih =>
    obtain ⟨hitem, hitems⟩ := List.forall_mem_cons.1 h
    rw [List.map_cons, itemLines_cons, itemLines_cons, hitem.itemText, ih hitems]

theorem WritesSorted.entryText {entry : String × Tree} (h : WritesSorted entry.2) (indent : Nat) :
    entryText indent (entry.1, entry.2.sorted) = entryText indent entry := by
  rw [Yaml.entryText, Yaml.entryText, h.node, h.value]

theorem entryLines_map_sorted {entries : List (String × Tree)}
    (h : ∀ e ∈ entries, WritesSorted e.2) (indent : Nat) :
    entryLines indent (entries.map fun e ↦ (e.1, e.2.sorted)) = entryLines indent entries := by
  induction entries with
  | nil => rfl
  | cons entry entries ih =>
    obtain ⟨hentry, hentries⟩ := List.forall_mem_cons.1 h
    rw [List.map_cons, entryLines_cons, entryLines_cons, hentry.entryText, ih hentries]

theorem writesSorted (t : Tree) : WritesSorted t := by
  induction t using Tree.induct with
  | null => exact ⟨fun _ _ ↦ rfl, fun _ ↦ rfl⟩
  | bool b => exact ⟨fun _ _ ↦ rfl, fun _ ↦ rfl⟩
  | int n => exact ⟨fun _ _ ↦ rfl, fun _ ↦ rfl⟩
  | real x => exact ⟨fun _ _ ↦ rfl, fun _ ↦ rfl⟩
  | string s => exact ⟨fun _ _ ↦ rfl, fun _ ↦ rfl⟩
  | list items ih =>
    cases items with
    | nil => exact ⟨fun _ _ ↦ rfl, fun _ ↦ rfl⟩
    | cons item items =>
      obtain ⟨hitem, hitems⟩ := List.forall_mem_cons.1 ih
      have hsorted : (Tree.list (item :: items)).sorted =
          .list (item.sorted :: items.map Tree.sorted) := by
        rw [Tree.sorted, Tree.sortedItems_eq_map, List.map_cons]
      refine ⟨fun gap indent ↦ ?_, fun indent ↦ ?_⟩
      · rw [hsorted, block_list, block_list, hitem.itemText, itemLines_map_sorted hitems]
      · rw [hsorted, keyValue_list, keyValue_list, itemLines_cons, itemLines_cons, hitem.itemText,
          itemLines_map_sorted hitems]
  | map entries ih =>
    cases entries with
    | nil =>
      exact ⟨fun _ _ ↦ by rw [Tree.sorted_map_nil], fun _ ↦ by rw [Tree.sorted_map_nil]⟩
    | cons entry entries =>
      obtain ⟨first, others, horder⟩ := Tree.exists_inOrder_eq_cons (List.cons_ne_nil entry entries)
      have hall : ∀ e ∈ first :: others, WritesSorted e.2 := horder ▸ Tree.forall_mem_inOrder ih
      obtain ⟨hfirst, hothers⟩ := List.forall_mem_cons.1 hall
      -- entries in order are in order with their values in order, too
      have hinOrder : Tree.inOrder ((first :: others).map fun e ↦ (e.1, e.2.sorted)) =
          (first.1, first.2.sorted) :: others.map fun e ↦ (e.1, e.2.sorted) := by
        rw [← horder, ← Tree.inOrder_sortedValues, Tree.inOrder_inOrder, Tree.inOrder_sortedValues,
          horder, List.map_cons]
      refine ⟨fun gap indent ↦ ?_, fun indent ↦ ?_⟩
      · rw [Tree.sorted_map horder, block_map hinOrder, block_map horder, hfirst.entryText,
          entryLines_map_sorted hothers]
      · have hmapped : (first :: others).map (fun e ↦ (e.1, e.2.sorted)) ≠ [] :=
          List.cons_ne_nil _ _
        rw [Tree.sorted_map horder, keyValue_map hmapped, keyValue_map (List.cons_ne_nil _ _),
          hinOrder, horder, entryLines_cons, entryLines_cons, hfirst.entryText,
          entryLines_map_sorted hothers]

/-- The text does not tell the order of the entries. -/
theorem document_sorted (t : Tree) : document t.sorted = document t := by
  rw [document, document, (writesSorted t).node]

end Yaml

namespace Helm.ValuesFile

/-- A values file is read back as the tree that it was written from, map order aside, and the
trees that are written as one text are the same. -/
theorem contents_round_trip {t : Tree} (ht : t.IsValues) :
    (Yaml.documents (contents t) = .ok [t.sorted] ∧ t.sorted.Same t) ∧
      ∀ u : Tree, u.IsValues → (contents t = contents u ↔ t.Same u) := by
  refine ⟨⟨Yaml.documents_document ht, Tree.sorted_same t⟩, fun u hu ↦ ?_⟩
  rw [Tree.same_iff_sorted_eq ht]
  constructor
  · intro htext
    have hread : Yaml.documents (contents t) = .ok [u.sorted] :=
      htext ▸ Yaml.documents_document hu
    rw [contents, Yaml.documents_document ht] at hread
    simpa using hread
  · intro hsorted
    rw [contents, contents, ← Yaml.document_sorted t, hsorted, Yaml.document_sorted]

/-- Values of which nearly every text could be taken for something else. -/
def awkwardValues : Tree :=
  .map [("key", .string "-----BEGIN KEY-----\n b3Bl\n\n"), ("", .list [.string "null", .string "",
    .list [.int (-1), .string "-1", .string " - x: \t#\u2028"], .map [("a\nb", .map [])]]),
    ("1e3", .list [.string "1.5", .string "1e3", .string ".inf", .string ".nan", .string "007"])]

theorem isValues_awkwardValues : awkwardValues.IsValues := by
  have hint : (Tree.int (-1)).IsValues := .int (by decide) (by decide)
  simp [awkwardValues, Tree.isValues_map_iff, Tree.isValues_list_iff, Tree.IsValues.string, hint]

theorem contents_round_trip_awkward :
    (awkwardValues.IsValues ∧
      Yaml.documents (contents awkwardValues) = .ok [awkwardValues.sorted]) ∧
        contents (.int (-1)) ≠ contents (.string "-1") := by
  have hint : (Tree.int (-1)).IsValues := .int (by decide) (by decide)
  have hread := (contents_round_trip isValues_awkwardValues).1.1
  refine ⟨⟨isValues_awkwardValues, hread⟩, fun htext ↦ ?_⟩
  have hsame := ((contents_round_trip hint).2 (.string "-1") (.string _)).1 htext
  have hsorted := hsame.sorted_eq hint
  simp [Tree.sorted] at hsorted

end Helm.ValuesFile

end VolumeMigration
