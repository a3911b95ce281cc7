import VolumeMigration.Proofs.Yaml.Scalars

/-!
# How a reader goes on at a token

What a block node, the items of a list and the entries of a map are read as, by what stands at
their place: one lemma for each way to go on. The written form of a tree is read through these
alone.
-/

namespace VolumeMigration.Yaml.Reader

variable {parent column fuel l k : Nat} {opens : Bool} {c start behind last : Cursor}
  {cs rest : List Char} {begun : Mark}

/-- Where an indicator stands, it is the next character. -/
theorem head?_of_isAt {indicator : Char} (h : c.isAt indicator) : c.head? = some indicator := by
  rw [Cursor.isAt, Bool.and_eq_true] at h
  exact beq_iff_eq.1 h.1

theorem isAt_of_head? {ch indicator : Char} (h : c.head? = some ch) (hne : ch ≠ indicator) :
    c.isAt indicator = false := by
  rw [Cursor.isAt, h]
  simp [hne]

/-- A token that stands far enough to the right belongs to the node. -/
theorem belongs {ch : Char} (hhead : start.head? = some ch) (hcolumn : column ≤ start.column) :
    (start.rest.isEmpty || decide (start.column < column)) = false := by
  have hne : start.rest ≠ [] := by
    intro h
    rw [Cursor.head?, h] at hhead
    cases hhead
  simp [hne, hcolumn]

/-! ### Block nodes -/

/-- What is read where a scalar stands: the scalar, or the first key of a map. -/
def scalarOrMap (column : Nat) (opens : Bool) (start : Cursor) (fuel : Nat) :
    (List Char × Bool) × Cursor → Except ReadError (Tree × Cursor)
  | ((cs, quoted), behind) => do
    if behind.skipSpaces.isAt ':' && start.line == behind.line then
      if !opens then failValue behind.skipSpaces
      let (entries, behind) ← blockEntries start.mark start.column start fuel
      return (.map entries, behind)
    if quoted then return (scalarTree cs true, behind)
    let (lines, last) := plainLines false column behind start.rest.length
    if last.skipSpaces.isAt ':' then failValue last.skipSpaces
    return (resolve (String.ofList (cs ++ lines)), last)

theorem block_startsScalar (hcontent : c.content = start) (hcolumn : column ≤ start.column)
    (hstart : StartsScalar start.rest) {read : (List Char × Bool) × Cursor}
    (hscalar : scalar false start = .ok read) :
    block parent column opens c (fuel + 1) =
      scalarOrMap column (opens || c.line < start.line) start fuel read := by
  obtain ⟨hdash, hquestion, hbar, hbracket, hbrace, hnothing⟩ := hstart.dispatch
  obtain ⟨ch, tail, hcons, -⟩ := hstart.exists_cons
  have hgoes := belongs (congrArg List.head? hcons) hcolumn
  rw [block, hcontent]
  simp only [hgoes, hdash, hquestion, hnothing, hscalar, Bool.false_eq_true, if_false]
  rfl

/-- A scalar with nothing but the end of its line behind it. -/
theorem block_scalar {quoted : Bool} (hcontent : c.content = start)
    (hcolumn : column ≤ start.column) (hstart : StartsScalar start.rest)
    (hscalar : scalar false start = .ok ((cs, quoted), ⟨'\n' :: rest, l, k⟩))
    (hrest : LeftOf column rest) :
    block parent column opens c (fuel + 1) = .ok (scalarTree cs quoted, ⟨'\n' :: rest, l, k⟩) := by
  have hspaces : (⟨'\n' :: rest, l, k⟩ : Cursor).skipSpaces = ⟨'\n' :: rest, l, k⟩ :=
    Cursor.skipSpaces_of_head fun d hd ↦ by
      obtain rfl : '\n' = d := Option.some.inj hd
      rfl
  have hcolon : (⟨'\n' :: rest, l, k⟩ : Cursor).isAt ':' = false := rfl
  rw [block_startsScalar hcontent hcolumn hstart hscalar]
  simp only [scalarOrMap, hspaces, hcolon, plainLines_of_leftOf hrest, Bool.false_and,
    Bool.false_eq_true, if_false, List.append_nil]
  cases quoted <;> rfl

/-- The first key of a map, at a place where a map may begin. -/
theorem block_key {quoted : Bool} {entries : List (String × Tree)} (hcontent : c.content = start)
    (hcolumn : column ≤ start.column) (hstart : StartsScalar start.rest)
    (hscalar : scalar false start = .ok ((cs, quoted), behind))
    (hcolon : behind.skipSpaces.isAt ':')
    (hline : start.line = behind.line) (hopens : opens = true ∨ c.line < start.line)
    (hread : blockEntries start.mark start.column start fuel = .ok (entries, last)) :
    block parent column opens c (fuel + 1) = .ok (.map entries, last) := by
  have hopens : (opens || decide (c.line < start.line)) = true := by simpa using hopens
  rw [block_startsScalar hcontent hcolumn hstart hscalar, hopens]
  simp only [scalarOrMap, hcolon, hline, hread, beq_self_eq_true, Bool.and_self, if_true,
    Bool.not_true, Bool.false_eq_true, if_false]
  rfl

/-- A literal block. -/
theorem block_bar (hcontent : c.content = start) (hcolumn : column ≤ start.column)
    (hbar : start.head? = some '|') (hread : literal parent start = (cs, last)) :
    block parent column opens c (fuel + 1) = .ok (.string (String.ofList cs), last) := by
  have hgoes := belongs hbar hcolumn
  have hdash : start.isAt '-' = false := isAt_of_head? hbar (by decide)
  rw [block, hcontent]
  simp only [hgoes, hdash, hbar, hread, Bool.false_eq_true, if_false]
  rfl

/-- A node in flow style. -/
theorem block_bracket {bracket : Char} {t : Tree} (hcontent : c.content = start)
    (hcolumn : column ≤ start.column) (hbracket : bracket = '[' ∨ bracket = '\x7b')
    (hstart : start.head? = some bracket) (hread : flow start fuel = .ok (t, last)) :
    block parent column opens c (fuel + 1) = .ok (t, last) := by
  have hgoes := belongs hstart hcolumn
  have hdash : start.isAt '-' = false :=
    isAt_of_head? hstart (by obtain rfl | rfl := hbracket <;> decide)
  rw [block, hcontent]
  obtain rfl | rfl := hbracket <;>
    simp only [hgoes, hdash, hstart, hread, Bool.false_eq_true, if_false]

/-- The first item of a list. -/
theorem block_dash {items : List Tree} (hcontent : c.content = start)
    (hcolumn : column ≤ start.column) (hdash : start.isAt '-')
    (hread : blockItems start.mark false start.column start fuel = .ok (items, last)) :
    block parent column opens c (fuel + 1) = .ok (.list items, last) := by
  have hgoes := belongs (head?_of_isAt hdash) hcolumn
  rw [block, hcontent]
  simp only [hgoes, hdash, hread, Bool.false_eq_true, if_false, if_true]
  rfl

/-- The first key of a map, behind a question mark. -/
theorem block_question {entries : List (String × Tree)} (hcontent : c.content = start)
    (hcolumn : column ≤ start.column) (hquestion : start.isAt '?')
    (hread : blockEntries start.mark start.column start fuel = .ok (entries, last)) :
    block parent column opens c (fuel + 1) = .ok (.map entries, last) := by
  have hhead := head?_of_isAt hquestion
  have hgoes := belongs hhead hcolumn
  have hdash : start.isAt '-' = false := isAt_of_head? hhead (by decide)
  rw [block, hcontent]
  simp only [hgoes, hdash, hhead, hquestion, hread, Bool.false_eq_true, if_false, if_true]
  rfl

/-! ### Items -/

/-- A list ends at the end of the text, before what stands further left and, if it stands no
deeper than its key, before what is no dash. -/
theorem blockItems_end {atKey : Bool} (hcontent : c.content = start)
    (hend : start.rest = [] ∨ start.column < column ∨ atKey = true ∧ start.isAt '-' = false) :
    blockItems begun atKey column c (fuel + 1) = .ok ([], c) := by
  have hstops : (start.column != column || !start.isAt '-') = true := by
    obtain h | h | ⟨-, h⟩ := hend
    · have hdash : start.isAt '-' = false := by rw [Cursor.isAt, Cursor.head?, h]; rfl
      rw [hdash, Bool.not_false, Bool.or_true]
    · rw [bne_iff_ne.2 (Nat.ne_of_lt h), Bool.true_or]
    · rw [h, Bool.not_false, Bool.or_true]
  have hfine : (!atKey && decide (column ≤ start.column) && !start.rest.isEmpty) = false := by
    obtain h | h | ⟨h, -⟩ := hend
    · rw [h, List.isEmpty_nil, Bool.not_true, Bool.and_false]
    · rw [decide_eq_false (Nat.not_le.2 h), Bool.and_false, Bool.false_and]
    · rw [h, Bool.not_true, Bool.false_and, Bool.false_and]
  rw [blockItems, hcontent]
  simp only [hstops, hfine, Bool.false_eq_true, if_false, if_true]
  rfl

/-- An item behind its dash, and the items behind it. -/
theorem blockItems_item {atKey : Bool} {item : Tree} {items : List Tree}
    (hcontent : c.content = start) (hcolumn : start.column = column) (hdash : start.isAt '-')
    (hitem : block column (column + 1) true start.next fuel = .ok (item, behind))
    (hitems : blockItems begun atKey column behind fuel = .ok (items, last)) :
    blockItems begun atKey column c (fuel + 1) = .ok (item :: items, last) := by
  have hgoes : (start.column != column || !start.isAt '-') = false := by simp [hcolumn, hdash]
  rw [blockItems, hcontent]
  simp only [hgoes, hitem, Bool.false_eq_true, if_false, bind, Except.bind, hitems]
  rfl

/-! ### Entries -/

/-- A map ends at the end of the text, and before what stands further left. -/
theorem blockEntries_end (hcontent : c.content = start)
    (hend : start.rest = [] ∨ start.column < column) :
    blockEntries begun column c (fuel + 1) = .ok ([], c) := by
  have hstops : (start.rest.isEmpty || decide (start.column < column)) = true := by
    obtain h | h := hend
    · rw [h, List.isEmpty_nil, Bool.true_or]
    · rw [decide_eq_true h, Bool.or_true]
  rw [blockEntries, hcontent]
  simp only [hstops, if_true]
  rfl

/-- Whether the value of an entry, at the colon, is a list that stands no deeper than its key. -/
def opensList (column : Nat) (colon : Cursor) : Bool :=
  let after := colon.next.content
  after.column == column && after.isAt '-' && colon.line < after.line

/-- The value of an entry, at the colon. -/
def entryValue (column : Nat) (opens : Bool) (colon : Cursor) (fuel : Nat) :
    Except ReadError (Tree × Cursor) :=
  if opensList column colon then do
    let (items, last) ← blockItems colon.next.content.mark true column colon.next.content fuel
    return (.list items, last)
  else block column (column + 1) opens colon.next fuel

theorem entryValue_cases {value : Tree} {colon : Cursor}
    (h : entryValue column opens colon fuel = .ok (value, behind)) :
    (opensList column colon = true ∧ ∃ items, value = .list items ∧
      blockItems colon.next.content.mark true column colon.next.content fuel =
        .ok (items, behind)) ∨
    (opensList column colon = false ∧
      block column (column + 1) opens colon.next fuel = .ok (value, behind)) := by
  cases hlist : opensList column colon with
  | false =>
    rw [entryValue, hlist] at h
    exact .inr ⟨rfl, h⟩
  | true =>
    rw [entryValue, hlist, if_pos rfl] at h
    cases hread : blockItems colon.next.content.mark true column colon.next.content fuel with
    | error e =>
      rw [hread] at h
      cases h
    | ok read =>
      rw [hread] at h
      cases h
      exact .inl ⟨rfl, read.1, rfl, rfl⟩

/-- An entry with a simple key. -/
theorem blockEntries_key {quoted : Bool} {key : String} {value : Tree} {colon : Cursor}
    {entries : List (String × Tree)} (hcontent : c.content = start)
    (hcolumn : start.column = column) (hstart : StartsScalar start.rest)
    (hscalar : scalar false start = .ok ((cs, quoted), colon))
    (hkey : keyText (scalarTree cs quoted) = key) (hcolon : colon.isAt ':')
    (hvalue : entryValue column false colon fuel = .ok (value, behind))
    (hentries : blockEntries begun column behind fuel = .ok (entries, last)) :
    blockEntries begun column c (fuel + 1) = .ok ((key, value) :: entries, last) := by
  obtain ⟨hdash, hquestion, -⟩ := hstart.dispatch
  obtain ⟨ch, tail, hcons, -⟩ := hstart.exists_cons
  have hgoes := belongs (congrArg List.head? hcons) (Nat.le_of_eq hcolumn.symm)
  have hfits : (decide (column < start.column) || start.isAt '-') = false := by
    simp [hcolumn, hdash]
  have hspaces : colon.skipSpaces = colon := Cursor.skipSpaces_of_head fun d hd ↦ by
    have hhead := head?_of_isAt hcolon
    rw [Cursor.head?, Option.mem_def.1 hd] at hhead
    obtain rfl := Option.some.inj hhead
    rfl
  rw [blockEntries, hcontent]
  simp only [hgoes, hfits, hquestion, hscalar, hspaces, hkey, hcolon, Bool.false_eq_true, if_false,
    bind, Except.bind, pure, Except.pure, Bool.not_true]
  obtain ⟨hlist, items, rfl, hread⟩ | ⟨hlist, hread⟩ := entryValue_cases hvalue
  · rw [opensList] at hlist
    simp only [hlist, hread, hentries, if_true]
  · rw [opensList] at hlist
    simp only [hlist, hread, hentries, Bool.false_eq_true, if_false]

/-- An entry whose key stands behind a question mark. -/
theorem blockEntries_question {key value : Tree} {after : Cursor}
    {entries : List (String × Tree)} (hcontent : c.content = start)
    (hcolumn : start.column = column) (hquestion : start.isAt '?')
    (hkey : block column (column + 1) true start.next fuel = .ok (key, after))
    (hcolon : after.content.isAt ':')
    (hvalue : entryValue column true after.content fuel = .ok (value, behind))
    (hentries : blockEntries begun column behind fuel = .ok (entries, last)) :
    blockEntries begun column c (fuel + 1) = .ok ((keyText key, value) :: entries, last) := by
  have hhead := head?_of_isAt hquestion
  have hgoes := belongs hhead (Nat.le_of_eq hcolumn.symm)
  have hfits : (decide (column < start.column) || start.isAt '-') = false := by
    simp [hcolumn, isAt_of_head? hhead (show '?' ≠ '-' by decide)]
  rw [blockEntries, hcontent]
  simp only [hgoes, hfits, hquestion, hkey, hcolon, Bool.false_eq_true, if_false, if_true,
    bind, Except.bind, pure, Except.pure, Bool.not_true]
  obtain ⟨hlist, items, rfl, hread⟩ | ⟨hlist, hread⟩ := entryValue_cases hvalue
  · rw [opensList] at hlist
    simp only [hlist, hread, hentries, if_true]
  · rw [opensList] at hlist
    simp only [hlist, hread, hentries, Bool.false_eq_true, if_false]

end VolumeMigration.Yaml.Reader
