import VolumeMigration.Proofs.Yaml.Leaves

/-!
# A written tree is read back

By induction over the tree: where a node of it is written, behind a dash, a question mark or a
colon, a reader takes the text for the node with its entries in the order of their keys, and goes
on at what stands further left behind it. The induction carries both places at which a tree can
stand, since a list stands deeper behind a dash than below a key.
-/

namespace VolumeMigration.Yaml

open Reader

variable {column place n l fuel : Nat} {opens atKey : Bool} {c start : Cursor} {rest : List Char}
  {begun : Mark}

/-! ### What follows a value -/

/-- Whether an item of a list starts by a character. -/
def startsItem (ch : Char) (behind : List Char) : Bool := ch == '-' && endsWord behind.head?

/-- What follows a list: something further left or, if the list stands no deeper than its key,
another entry. -/
abbrev AfterItems (atKey : Bool) (column : Nat) : List Char → Prop :=
  Onward fun k ch behind ↦ k < column ∨ atKey = true ∧ k = column ∧ startsItem ch behind = false

/-- What follows the value of an entry. -/
abbrev AfterEntry (column : Nat) : List Char → Prop := AfterItems true column

theorem AfterItems.leftOf (h : AfterItems atKey column rest) : LeftOf (column + 1) rest :=
  h.imp fun _ _ _ _ h ↦ by
    obtain h | ⟨-, rfl, -⟩ := h
    · exact Nat.lt_succ_of_lt h
    · exact Nat.lt_succ_self _

theorem isAt_dash (ch : Char) (behind : List Char) (l k : Nat) :
    (⟨ch :: behind, l, k⟩ : Cursor).isAt '-' = startsItem ch behind := by
  simp [Cursor.isAt, Cursor.head?, Cursor.second?, startsItem]

/-- From the colon at `place` on, a text is read as the value of an entry. -/
def ReadsValue (column place : Nat) (opens : Bool) (text : List Char) (t : Tree) : Prop :=
  ∀ ⦃rest : List Char⦄ ⦃l fuel : Nat⦄, AfterEntry column rest → 2 * text.length + 1 < fuel →
    ∃ behind, entryValue column opens ⟨':' :: (text ++ rest), l, place⟩ fuel = .ok (t, behind) ∧
      GoesOn behind rest

/-- A tree is read back wherever it is written. -/
structure ReadsBack (t : Tree) : Prop where
  node : ∀ ⦃n indent place column : Nat⦄, place + n = indent → column ≤ indent →
    ReadsNode (indent - 2) column true place (block (spaces n) indent t) t.sorted
  value : ∀ ⦃column place : Nat⦄ (opens : Bool), column ≤ place →
    ReadsValue column place opens (keyValue column t) t.sorted

/-- A tree is read back behind an indicator of a node at `column`. -/
theorem ReadsBack.behind {t : Tree} (h : ReadsBack t) (column : Nat) :
    ReadsNode column (column + 1) true (column + 1) (block [' '] (column + 2) t) t.sorted :=
  @ReadsBack.node t h 1 (column + 2) (column + 1) (column + 1) rfl (Nat.le_succ _)

/-- A value on the line of its colon is read as a node. -/
theorem ReadsNode.readsValue {text : List Char} {t : Tree} (opens : Bool)
    (h : ReadsNode column (column + 1) opens (place + 1) text t)
    (hline : ∀ rest l, ((⟨text ++ rest, l, place + 1⟩ : Cursor).content).line = l) :
    ReadsValue column place opens text t := by
  intro rest l fuel hrest hfuel
  obtain ⟨behind, hread, hbehind⟩ := h (l := l) hrest.leftOf hfuel
  refine ⟨behind, ?_, hbehind⟩
  have hnext : (⟨':' :: (text ++ rest), l, place⟩ : Cursor).next =
      ⟨text ++ rest, l, place + 1⟩ := rfl
  have hlist : opensList column ⟨':' :: (text ++ rest), l, place⟩ = false := by
    rw [opensList, hnext]
    simp [hline]
  rw [entryValue, hlist, hnext]
  exact hread

/-! ### What starts a written tree -/

/-- A text that starts by a token, which is no dash of an item. -/
def StartsEntry (cs : List Char) : Prop :=
  ∃ ch behind, cs = ch :: behind ∧ startsToken ch ∧ startsItem ch behind = false

theorem StartsScalar.startsEntry {cs : List Char} (h : StartsScalar cs) : StartsEntry cs := by
  obtain ⟨ch, behind, rfl, hch⟩ := h.exists_cons
  obtain ⟨hdash, -⟩ := dispatch (c := ⟨ch :: behind, 0, 0⟩) h
  rw [isAt_dash] at hdash
  exact ⟨ch, behind, rfl, hch, hdash⟩

/-- A simple key is written as a scalar before its colon. -/
theorem entryText_simple {indent : Nat} {entry : String × Tree} (h : isSimpleKey entry.1) :
    entryText indent entry =
      (write (styleOf true entry.1) indent entry.1).chars ++ ':' :: keyValue indent entry.2 := by
  rw [entryText, keyPart, if_pos h, if_pos h]
  simp

/-- Any other key is written as a node behind a question mark. -/
theorem entryText_long {indent : Nat} {entry : String × Tree} (h : isSimpleKey entry.1 = false) :
    entryText indent entry = '?' :: (spaces 1 ++ scalarLine indent entry.1 ++
      (spaces indent ++ ':' :: block (spaces 1) (indent + 2) entry.2)) := by
  rw [entryText, keyPart, h]
  simp [spaces]

theorem startsEntry_entryText (indent : Nat) (entry : String × Tree) (rest : List Char) :
    StartsEntry (entryText indent entry ++ rest) := by
  cases h : isSimpleKey entry.1 with
  | true =>
    rw [entryText_simple h, List.append_assoc]
    exact (startsScalar_write (holds_styleOf true entry.1) (styleOf_key_ne_literal entry.1) indent
      _).startsEntry
  | false =>
    rw [entryText_long h]
    exact ⟨'?', _, rfl, rfl, rfl⟩

theorem length_entryText_pos (indent : Nat) (entry : String × Tree) :
    0 < (entryText indent entry).length := by
  obtain ⟨ch, behind, hcons, -⟩ := startsEntry_entryText indent entry []
  rw [List.append_nil] at hcons
  rw [hcons]
  exact Nat.succ_pos _

/-- A node starts by a token behind its gap. -/
theorem exists_block_eq_cons (gap : List Char) (indent : Nat) (t : Tree) :
    ∃ ch behind, block gap indent t = gap ++ ch :: behind ∧ startsToken ch := by
  cases t with
  | null => exact ⟨'n', _, by rw [block]; rfl, rfl⟩
  | bool b => cases b <;> exact ⟨_, _, by rw [block]; rfl, rfl⟩
  | int n =>
    obtain ⟨ch, behind, hcons, hch⟩ := ((isPlain_toString n).startsScalar ['\n']).exists_cons
    exact ⟨ch, behind, by rw [block, wordLine, hcons], hch⟩
  | real x =>
    obtain ⟨ch, behind, hcons, hch⟩ := ((isPlain_realWord x).startsScalar ['\n']).exists_cons
    exact ⟨ch, behind, by rw [block, wordLine, hcons], hch⟩
  | string s =>
    by_cases hliteral : styleOf false s = .literal
    · exact ⟨'|', _, by rw [block, scalarLine_literal hliteral], rfl⟩
    · obtain ⟨ch, behind, hcons, hch⟩ := (startsScalar_write (holds_styleOf false s) hliteral
        (indent - 2 + 2) ['\n']).exists_cons
      exact ⟨ch, behind, by rw [block, scalarLine_of_ne_literal hliteral, hcons], hch⟩
  | list items =>
    cases items with
    | nil => exact ⟨'[', _, by rw [block]; rfl, rfl⟩
    | cons item items => exact ⟨'-', _, by rw [block_list, itemText]; rfl, rfl⟩
  | map entries =>
    cases entries with
    | nil => exact ⟨'\x7b', _, by rw [block]; rfl, rfl⟩
    | cons entry entries =>
      obtain ⟨first, others, h⟩ := Tree.exists_inOrder_eq_cons (List.cons_ne_nil entry entries)
      obtain ⟨ch, behind, hcons, hch, -⟩ :=
        startsEntry_entryText indent first (entryLines indent others)
      exact ⟨ch, behind, by rw [block_map h, hcons], hch⟩

/-- A value behind a colon starts by a space or by the end of the line. -/
theorem endsWord_keyValue (indent : Nat) (t : Tree) (rest : List Char) :
    endsWord (keyValue indent t ++ rest).head? := by
  by_cases hleaf : isLeaf t
  · obtain ⟨ch, behind, hcons, -⟩ := exists_block_eq_cons (spaces 1) (indent + 2) t
    rw [keyValue_leaf hleaf, hcons]
    rfl
  · cases t with
    | list items =>
      cases items with
      | nil => exact absurd rfl hleaf
      | cons item items =>
        rw [keyValue_list]
        rfl
    | map entries =>
      cases entries with
      | nil => exact absurd rfl hleaf
      | cons entry entries =>
        rw [keyValue_map (List.cons_ne_nil _ _)]
        rfl
    | null => exact absurd rfl hleaf
    | bool b => exact absurd rfl hleaf
    | int n => exact absurd rfl hleaf
    | real x => exact absurd rfl hleaf
    | string s => exact absurd rfl hleaf

/-- What stands behind a gap is on its line. -/
theorem line_content_block (indent : Nat) (t : Tree) (rest : List Char) (l k : Nat) :
    ((⟨block (spaces 1) indent t ++ rest, l, k⟩ : Cursor).content).line = l := by
  obtain ⟨ch, behind, hcons, hch⟩ := exists_block_eq_cons (spaces 1) indent t
  rw [hcons, List.append_assoc, List.cons_append, Cursor.content_spaces 1 hch]

/-! ### Items -/

/-- Where an item starts. -/
theorem content_itemText (indent : Nat) (item : Tree) (rest : List Char) (l k : Nat) :
    (⟨spaces n ++ (itemText indent item ++ rest), l, k⟩ : Cursor).content =
      ⟨itemText indent item ++ rest, l, k + n⟩ := Cursor.content_spaces n rfl

theorem content_itemLines (indent : Nat) (item : Tree) (items : List Tree) (rest : List Char)
    (l : Nat) : (⟨itemLines indent (item :: items) ++ rest, l, 0⟩ : Cursor).content =
      ⟨itemText indent item ++ (itemLines indent items ++ rest), l, indent⟩ := by
  rw [itemLines_cons, List.append_assoc, List.append_assoc, content_itemText, Nat.zero_add]

theorem isAt_dash_itemText (indent : Nat) (item : Tree) (rest : List Char) (l k : Nat) :
    (⟨itemText indent item ++ rest, l, k⟩ : Cursor).isAt '-' := by
  obtain ⟨ch, behind, hcons, -⟩ := exists_block_eq_cons [' '] (indent + 2) item
  rw [itemText, hcons]
  rfl

/-- The items behind an item start no deeper than it. -/
theorem leftOf_itemLines (items : List Tree) (hrest : AfterItems atKey column rest) :
    LeftOf (column + 1) (itemLines column items ++ rest) := by
  cases items with
  | nil => exact hrest.leftOf
  | cons item items =>
    rw [itemLines_cons, List.append_assoc, List.append_assoc]
    exact .goes column '-' _ rfl (Nat.lt_succ_self column)

/-- Items are read back one after the other. -/
theorem exists_blockItems {items : List Tree} (hitems : ∀ t ∈ items, ReadsBack t)
    (hc : c.content = (⟨itemLines column items ++ rest, l, 0⟩ : Cursor).content)
    (hrest : AfterItems atKey column rest) (hpos : 0 < fuel)
    (hfuel : 2 * (itemLines column items).length < fuel + 2 * column) :
    ∃ last, blockItems begun atKey column c fuel = .ok (items.map Tree.sorted, last) ∧
      GoesOn last rest := by
  -- one of the fuel is taken for each item, and the dash alone makes up for it
  induction items generalizing c l fuel with
  | nil =>
    obtain ⟨fuel, rfl⟩ := Nat.exists_eq_add_one.2 hpos
    refine ⟨c, blockItems_end hc ?_, l, hc⟩
    show _ ∨ _
    rw [itemLines, List.nil_append]
    cases hrest with
    | ends => exact .inl rfl
    | goes k ch behind hch hp =>
      rw [Cursor.content_spaces k hch, Nat.zero_add, isAt_dash]
      exact .inr (hp.imp_right fun h ↦ ⟨h.1, h.2.2⟩)
  | cons item items ih =>
    obtain ⟨hitem, hitems⟩ := List.forall_mem_cons.1 hitems
    obtain ⟨fuel, rfl⟩ := Nat.exists_eq_add_one.2 hpos
    rw [content_itemLines] at hc
    rw [itemLines_cons, List.length_append, List.length_append, length_spaces, itemText,
      List.length_cons] at hfuel
    obtain ⟨behind, hread, l', hbehind⟩ := hitem.behind column (l := l)
      (leftOf_itemLines items hrest) (show _ < fuel by omega)
    obtain ⟨last, hlast, hgoes⟩ := ih hitems hbehind (show 0 < fuel by omega) (by omega)
    refine ⟨last, ?_, hgoes⟩
    exact blockItems_item hc rfl (isAt_dash_itemText _ _ _ _ _) hread hlast

/-! ### Entries -/

/-- Where an entry starts. -/
theorem content_entryText (indent : Nat) (entry : String × Tree) (rest : List Char) (l k : Nat) :
    (⟨spaces n ++ (entryText indent entry ++ rest), l, k⟩ : Cursor).content =
      ⟨entryText indent entry ++ rest, l, k + n⟩ := by
  obtain ⟨ch, behind, hcons, hch, -⟩ := startsEntry_entryText indent entry rest
  rw [hcons]
  exact Cursor.content_spaces n hch

theorem content_entryLines (indent : Nat) (entry : String × Tree)
    (entries : List (String × Tree)) (rest : List Char) (l : Nat) :
    (⟨entryLines indent (entry :: entries) ++ rest, l, 0⟩ : Cursor).content =
      ⟨entryText indent entry ++ (entryLines indent entries ++ rest), l, indent⟩ := by
  rw [entryLines_cons, List.append_assoc, List.append_assoc, content_entryText, Nat.zero_add]

/-- The entries behind an entry start at its column. -/
theorem afterEntry_entryLines (entries : List (String × Tree)) (hrest : LeftOf column rest) :
    AfterEntry column (entryLines column entries ++ rest) := by
  cases entries with
  | nil => exact hrest.imp fun _ _ _ _ h ↦ .inl h
  | cons entry entries =>
    obtain ⟨ch, behind, hcons, hch, hdash⟩ :=
      startsEntry_entryText column entry (entryLines column entries ++ rest)
    rw [entryLines_cons, List.append_assoc, List.append_assoc, hcons]
    exact .goes column ch behind hch (.inr ⟨rfl, rfl, hdash⟩)

/-- A simple key is read as itself, up to its colon. -/
theorem exists_scalar_key {entry : String × Tree} (h : isSimpleKey entry.1) (indent : Nat)
    (rest : List Char) (l k : Nat) :
    StartsScalar (entryText indent entry ++ rest) ∧ ∃ quoted k',
      scalar false ⟨entryText indent entry ++ rest, l, k⟩ = .ok ((entry.1.toList, quoted),
        ⟨':' :: (keyValue indent entry.2 ++ rest), l, k'⟩) ∧ k ≤ k' ∧
      keyText (scalarTree entry.1.toList quoted) = entry.1 := by
  have hholds := holds_styleOf true entry.1
  have hliteral := styleOf_key_ne_literal entry.1
  have hline : ∀ c ∈ entry.1.toList, isBreak c = false := by
    rw [isSimpleKey, Bool.and_eq_true, Bool.not_eq_true', List.any_eq_false] at h
    exact fun c hc ↦ Bool.eq_false_iff.2 (h.2 c hc)
  obtain ⟨quoted, hread, hmeans⟩ := exists_scalar_write (l := l) (k := k) hholds hliteral
    (.colon (keyValue indent entry.2 ++ rest) (endsWord_keyValue indent entry.2 rest))
  rw [Cursor.skip_append (isBreak_of_mem_write hholds hliteral hline)] at hread
  rw [entryText_simple h, List.append_assoc]
  exact ⟨startsScalar_write hholds hliteral indent _, quoted, _, hread, Nat.le_add_right k _,
    by rw [hmeans]; rfl⟩

/-- Any other key is read as itself behind its question mark, up to the colon on a line of its
own. -/
theorem exists_block_longKey (column : Nat) (key : String) (behind : List Char) (l : Nat)
    (hfuel : 2 * (spaces 1 ++ scalarLine column key).length + 1 < fuel) :
    ∃ after l', Reader.block column (column + 1) true
        ⟨spaces 1 ++ scalarLine column key ++ (spaces column ++ ':' :: behind), l, column + 1⟩
          fuel = .ok (.string key, after) ∧ after.content = ⟨':' :: behind, l', column⟩ := by
  have hcolon : LeftOf (column + 1) (spaces column ++ ':' :: behind) :=
    .goes column ':' behind rfl (Nat.lt_succ_self column)
  obtain ⟨after, hread, l', hafter⟩ := readsNode_string key (Nat.le_succ (column + 1))
    (Nat.le_succ (column + 1)) (l := l) hcolon hfuel
  rw [Cursor.content_spaces column rfl, Nat.zero_add] at hafter
  exact ⟨after, l', hread, hafter⟩

/-- An entry is read at a place, and then whatever can be read of the entries in `rest`. -/
def ReadsEntry (begun : Mark) (column fuel : Nat) (c : Cursor) (entry : String × Tree)
    (rest : List Char) : Prop :=
  ∃ behind, GoesOn behind rest ∧ ∀ ⦃entries : List (String × Tree)⦄ ⦃last : Cursor⦄,
    blockEntries begun column behind fuel = .ok (entries, last) →
      blockEntries begun column c (fuel + 1) = .ok ((entry.1, entry.2.sorted) :: entries, last)

section

variable {entry : String × Tree} (hvalue : ReadsBack entry.2)
  (hc : c.content = ⟨entryText column entry ++ rest, l, column⟩) (hrest : AfterEntry column rest)
  (hfuel : 2 * (entryText column entry).length ≤ fuel)

include hvalue hc hrest hfuel

/-- An entry whose key stands before its colon. -/
theorem readsEntry_simple (begun : Mark) (hkey : isSimpleKey entry.1) :
    ReadsEntry begun column fuel c entry rest := by
  obtain ⟨hstart, quoted, k, hread, hle, hmeans⟩ := exists_scalar_key hkey column rest l column
  have hcolon := endsWord_keyValue column entry.2 rest
  rw [entryText_simple hkey, List.length_append, List.length_cons] at hfuel
  obtain ⟨behind, hbehind, hgoes⟩ := hvalue.value false hle (l := l) hrest (show _ < fuel by omega)
  exact ⟨behind, hgoes, fun _ _ ↦ blockEntries_key hc rfl hstart hread hmeans hcolon hbehind⟩

/-- An entry whose key is announced by a question mark. -/
theorem readsEntry_long (begun : Mark) (hkey : isSimpleKey entry.1 = false) :
    ReadsEntry begun column fuel c entry rest := by
  have htext : entryText column entry ++ rest =
      '?' :: (spaces 1 ++ scalarLine column entry.1 ++ (spaces column ++ ':' ::
        (block (spaces 1) (column + 2) entry.2 ++ rest))) := by
    rw [entryText_long hkey]
    simp
  rw [htext] at hc
  rw [entryText_long hkey] at hfuel
  -- first the key, up to the line of the colon, then the value behind it
  simp only [List.length_cons, List.length_append, length_spaces] at hfuel
  obtain ⟨after, l₁, hread, hcontent⟩ := exists_block_longKey column entry.1
    (block (spaces 1) (column + 2) entry.2 ++ rest) l
    (show _ < fuel by simp only [List.length_append, length_spaces]; omega)
  obtain ⟨behind, hbehind, hgoes⟩ := (hvalue.behind column).readsValue true
    (fun rest l ↦ line_content_block (column + 2) entry.2 rest l (column + 1)) (l := l₁) hrest
    (show 2 * (block (spaces 1) (column + 2) entry.2).length + 1 < fuel by omega)
  obtain ⟨ch, tail, hcons, -⟩ := exists_block_eq_cons (spaces 1) (column + 2) entry.2
  have hcolon : after.content.isAt ':' := by
    rw [hcontent, hcons]
    rfl
  exact ⟨behind, hgoes, fun _ _ ↦
    blockEntries_question hc rfl rfl hread hcolon (hcontent ▸ hbehind)⟩

end

/-- Entries are read back one after the other. -/
theorem exists_blockEntries {entries : List (String × Tree)}
    (hentries : ∀ e ∈ entries, ReadsBack e.2)
    (hc : c.content = (⟨entryLines column entries ++ rest, l, 0⟩ : Cursor).content)
    (hrest : LeftOf column rest) (hpos : 0 < fuel)
    (hfuel : 2 * (entryLines column entries).length < fuel + 2 * column) :
    ∃ last, blockEntries begun column c fuel =
      .ok (entries.map fun e ↦ (e.1, e.2.sorted), last) ∧ GoesOn last rest := by
  induction entries generalizing c l fuel with
  | nil =>
    obtain ⟨fuel, rfl⟩ := Nat.exists_eq_add_one.2 hpos
    refine ⟨c, blockEntries_end hc ?_, l, hc⟩
    show _ ∨ _
    cases hrest with
    | ends => exact .inl rfl
    | goes k ch behind hch hlt =>
      rw [entryLines, List.flatMap_nil, List.nil_append, Cursor.content_spaces k hch, Nat.zero_add]
      exact .inr hlt
  | cons entry entries ih =>
    obtain ⟨hvalue, hentries⟩ := List.forall_mem_cons.1 hentries
    obtain ⟨fuel, rfl⟩ := Nat.exists_eq_add_one.2 hpos
    have hafter := afterEntry_entryLines entries hrest
    rw [content_entryLines] at hc
    rw [entryLines_cons, List.length_append, List.length_append, length_spaces] at hfuel
    have hlength := length_entryText_pos column entry
    have henough : 2 * (entryText column entry).length ≤ fuel := by omega
    have hentry : ReadsEntry begun column fuel c entry (entryLines column entries ++ rest) := by
      cases hkey : isSimpleKey entry.1 with
      | true => exact readsEntry_simple hvalue hc hafter henough begun hkey
      | false => exact readsEntry_long hvalue hc hafter henough begun hkey
    obtain ⟨behind, ⟨l', hbehind⟩, hread⟩ := hentry
    obtain ⟨last, hlast, hgoes⟩ := ih hentries hbehind (show 0 < fuel by omega) (by omega)
    exact ⟨last, hread hlast, hgoes⟩

/-- A map begins by its first entry. -/
theorem block_entryText {parent : Nat} {entry : String × Tree} {entries : List (String × Tree)}
    {n : Nat} {last : Cursor}
    (hcontent : c.content = ⟨entryText n entry ++ rest, l, n⟩) (hcolumn : column ≤ n)
    (hopens : opens = true ∨ c.line < l)
    (hread : blockEntries ⟨l, n⟩ n ⟨entryText n entry ++ rest, l, n⟩ fuel = .ok (entries, last)) :
    Reader.block parent column opens c (fuel + 1) = .ok (.map entries, last) := by
  cases hkey : isSimpleKey entry.1 with
  | true =>
    obtain ⟨hstart, quoted, k, hscalar, -, -⟩ := exists_scalar_key hkey n rest l n
    have hspaces : (⟨':' :: (keyValue n entry.2 ++ rest), l, k⟩ : Cursor).skipSpaces =
        ⟨':' :: (keyValue n entry.2 ++ rest), l, k⟩ :=
      Cursor.skipSpaces_of_head fun d hd ↦ by
        obtain rfl : ':' = d := Option.some.inj hd
        rfl
    have hcolon := endsWord_keyValue n entry.2 rest
    exact block_key hcontent hcolumn hstart hscalar (by rw [hspaces]; exact hcolon) rfl hopens hread
  | false =>
    refine block_question hcontent hcolumn ?_ hread
    rw [entryText_long hkey]
    rfl

/-! ### Trees -/

/-- A leaf is read back. -/
theorem readsBack_leaf {t : Tree} (ht : isLeaf t) (hvalues : t.IsValues) : ReadsBack t where
  node n indent place column hplace hcolumn := by
    exact readsNode_leaf ht hvalues (hcolumn.trans_eq hplace.symm) hcolumn
  value column place opens hle := by
    rw [keyValue_leaf ht]
    exact (readsNode_leaf ht hvalues (by omega) (Nat.le_succ _)).readsValue opens
      fun rest l ↦ line_content_block (column + 2) t rest l (place + 1)

section

variable {item : Tree} {items : List Tree} (hitems : ∀ t ∈ item :: items, ReadsBack t)

include hitems

/-- The items of a list, from the first one on. -/
theorem exists_blockItems_first {indent : Nat} (begun : Mark) (l : Nat)
    (hrest : AfterItems atKey indent rest)
    (hfuel : 2 * (itemText indent item ++ itemLines indent items).length < fuel) :
    ∃ last, blockItems begun atKey indent
        ⟨itemText indent item ++ (itemLines indent items ++ rest), l, indent⟩ fuel =
          .ok ((item :: items).map Tree.sorted, last) ∧ GoesOn last rest := by
  have hstart : (⟨itemText indent item ++ (itemLines indent items ++ rest), l, indent⟩ :
      Cursor).content = (⟨itemLines indent (item :: items) ++ rest, l, 0⟩ : Cursor).content := by
    rw [content_itemLines]
    exact Cursor.content_token rfl
  refine exists_blockItems hitems hstart hrest (Nat.zero_lt_of_lt hfuel) ?_
  rw [itemLines_cons, List.length_append, length_spaces]
  omega

theorem readsNode_list {indent : Nat} (hplace : place + n = indent) (hcolumn : column ≤ indent) :
    ReadsNode (indent - 2) column true place (block (spaces n) indent (.list (item :: items)))
      (Tree.list (item :: items)).sorted := by
  intro rest l fuel hrest hfuel
  rw [block_list, List.length_append] at hfuel
  obtain ⟨fuel, rfl⟩ := Nat.exists_eq_add_one.2 (Nat.zero_lt_of_lt hfuel)
  have hafter : AfterItems false indent rest :=
    hrest.imp fun _ _ _ _ h ↦ .inl (Nat.lt_of_lt_of_le h hcolumn)
  obtain ⟨last, hread, hlast⟩ := exists_blockItems_first hitems ⟨l, indent⟩ l hafter
    (show _ < fuel by omega)
  refine ⟨last, ?_, hlast⟩
  rw [block_list, List.append_assoc, List.append_assoc, Tree.sorted, Tree.sortedItems_eq_map]
  exact block_dash (by rw [content_itemText, hplace]) hcolumn (isAt_dash_itemText _ _ _ _ _) hread

/-- Below a key, a list stands no deeper than the key. -/
theorem readsValue_list :
    ReadsValue column place opens (keyValue column (.list (item :: items)))
      (Tree.list (item :: items)).sorted := by
  intro rest l fuel hrest hfuel
  rw [keyValue_list, itemLines_cons, List.length_cons, List.length_append] at hfuel
  obtain ⟨last, hread, hlast⟩ := exists_blockItems_first hitems ⟨l + 1, column⟩ (l + 1) hrest
    (show _ < fuel by omega)
  have hnext : (⟨':' :: (keyValue column (.list (item :: items)) ++ rest), l, place⟩ :
      Cursor).next.content =
        ⟨itemText column item ++ (itemLines column items ++ rest), l + 1, column⟩ := by
    rw [keyValue_list, Cursor.next_char rfl, List.cons_append, Cursor.content_break rfl,
      content_itemLines]
  have hlist : opensList column
      ⟨':' :: (keyValue column (.list (item :: items)) ++ rest), l, place⟩ = true := by
    rw [opensList, hnext]
    simp [isAt_dash_itemText]
  refine ⟨last, ?_, hlast⟩
  rw [entryValue, if_pos hlist, hnext, Tree.sorted, Tree.sortedItems_eq_map]
  show (blockItems ⟨l + 1, column⟩ true column _ fuel >>= _) = _
  rw [hread]
  rfl

end

section

variable {entries others : List (String × Tree)} {first : String × Tree}
  (horder : Tree.inOrder entries = first :: others) (hentries : ∀ e ∈ entries, ReadsBack e.2)

include horder hentries


/-- The entries of a map, from the first one on. -/
theorem exists_blockEntries_first {indent : Nat} (begun : Mark) (l : Nat)
    (hrest : LeftOf indent rest)
    (hfuel : 2 * (entryText indent first ++ entryLines indent others).length < fuel) :
    ∃ last, blockEntries begun indent
        ⟨entryText indent first ++ (entryLines indent others ++ rest), l, indent⟩ fuel =
          .ok ((first :: others).map fun e ↦ (e.1, e.2.sorted), last) ∧ GoesOn last rest := by
  have hall : ∀ e ∈ first :: others, ReadsBack e.2 := horder ▸ Tree.forall_mem_inOrder hentries
  have hstart : (⟨entryText indent first ++ (entryLines indent others ++ rest), l, indent⟩ :
      Cursor).content = (⟨entryLines indent (first :: others) ++ rest, l, 0⟩ : Cursor).content := by
    rw [content_entryLines]
    exact content_entryText indent first (entryLines indent others ++ rest) l indent (n := 0)
  refine exists_blockEntries hall hstart hrest (Nat.zero_lt_of_lt hfuel) ?_
  rw [entryLines_cons, List.length_append, length_spaces]
  omega

theorem readsNode_map {indent : Nat} (hplace : place + n = indent) (hcolumn : column ≤ indent) :
    ReadsNode (indent - 2) column true place (block (spaces n) indent (.map entries))
      (Tree.map entries).sorted := by
  intro rest l fuel hrest hfuel
  rw [block_map horder, List.length_append] at hfuel
  obtain ⟨fuel, rfl⟩ := Nat.exists_eq_add_one.2 (Nat.zero_lt_of_lt hfuel)
  obtain ⟨last, hread, hlast⟩ := exists_blockEntries_first horder hentries ⟨l, indent⟩ l
    (hrest.mono hcolumn) (show _ < fuel by omega)
  refine ⟨last, ?_, hlast⟩
  rw [block_map horder, List.append_assoc, List.append_assoc, Tree.sorted_map horder]
  exact block_entryText (by rw [content_entryText, hplace]) hcolumn (.inl rfl) hread

/-- Below a key, a map stands two spaces deeper than the key. -/
theorem readsValue_map :
    ReadsValue column place opens (keyValue column (.map entries)) (Tree.map entries).sorted := by
  intro rest l fuel hrest hfuel
  have hkey : keyValue column (.map entries) =
      '\n' :: (spaces (column + 2) ++ (entryText (column + 2) first ++
        entryLines (column + 2) others)) := by
    rw [keyValue_map (Tree.ne_nil_of_inOrder_eq_cons horder), horder, entryLines_cons]
  rw [hkey, List.length_cons, List.length_append] at hfuel
  obtain ⟨fuel, rfl⟩ := Nat.exists_eq_add_one.2 (Nat.zero_lt_of_lt hfuel)
  have hleft : LeftOf (column + 2) rest := hrest.leftOf.mono (Nat.le_succ _)
  obtain ⟨last, hread, hlast⟩ := exists_blockEntries_first horder hentries ⟨l + 1, column + 2⟩
    (l + 1) hleft (show _ < fuel by omega)
  have hnext : (⟨':' :: (keyValue column (.map entries) ++ rest), l, place⟩ : Cursor).next =
      ⟨keyValue column (.map entries) ++ rest, l, place + 1⟩ := rfl
  have hcontent : (⟨keyValue column (.map entries) ++ rest, l, place + 1⟩ : Cursor).content =
      ⟨entryText (column + 2) first ++ (entryLines (column + 2) others ++ rest), l + 1,
        column + 2⟩ := by
    rw [hkey, List.cons_append, Cursor.content_break rfl, List.append_assoc, List.append_assoc,
      content_entryText, Nat.zero_add]
  -- the entries stand right of the key, so what is below the colon is no list of it
  have hlist : opensList column ⟨':' :: (keyValue column (.map entries) ++ rest), l, place⟩ =
      false := by
    rw [opensList, hnext, hcontent]
    simp
  refine ⟨last, ?_, hlast⟩
  rw [entryValue, hlist, hnext, Tree.sorted_map horder]
  exact block_entryText hcontent (Nat.le_succ _) (.inr (Nat.lt_succ_self l)) hread

end

/-- Every tree of values is read back. -/
theorem readsBack_of_isValues {t : Tree} (h : t.IsValues) : ReadsBack t := by
  induction h with
  | null => exact readsBack_leaf rfl .null
  | bool b => exact readsBack_leaf rfl (.bool b)
  | int hlow hhigh => exact readsBack_leaf rfl (.int hlow hhigh)
  | string s => exact readsBack_leaf rfl (.string s)
  | @list items hitems ih =>
    cases items with
    | nil => exact readsBack_leaf rfl (.list hitems)
    | cons item items =>
      exact ⟨fun _ _ _ _ hplace hcolumn ↦ readsNode_list ih hplace hcolumn,
        fun _ _ _ _ ↦ readsValue_list ih⟩
  | @map entries hkeys hentries ih =>
    cases entries with
    | nil => exact readsBack_leaf rfl (.map hkeys hentries)
    | cons entry entries =>
      obtain ⟨first, others, horder⟩ := Tree.exists_inOrder_eq_cons (List.cons_ne_nil entry entries)
      exact ⟨fun _ _ _ _ hplace hcolumn ↦ readsNode_map horder ih hplace hcolumn,
        fun _ _ _ _ ↦ readsValue_map horder ih⟩

end VolumeMigration.Yaml
