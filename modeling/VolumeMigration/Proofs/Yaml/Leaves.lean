import VolumeMigration.Proofs.Yaml.Layout
import VolumeMigration.Proofs.Yaml.Nodes

/-!
# Written leaves are read back

Null, truth values, whole numbers, texts and the brackets of what is empty: a reader takes each of
them for the tree it was written from, and goes on at the line behind it.
-/

namespace VolumeMigration.Yaml

open Reader

/-- Reading goes on at a place as at the beginning of the lines `rest`. -/
def GoesOn (behind : Cursor) (rest : List Char) : Prop :=
  ∃ l, behind.content = (⟨rest, l, 0⟩ : Cursor).content

theorem goesOn_break (rest : List Char) (l k : Nat) : GoesOn ⟨'\n' :: rest, l, k⟩ rest :=
  ⟨l + 1, Cursor.content_break rfl⟩

/-- From `place` on, a text is read as a node, whatever starts further left behind it. -/
def ReadsNode (parent column : Nat) (opens : Bool) (place : Nat) (text : List Char) (t : Tree) :
    Prop :=
  ∀ ⦃rest : List Char⦄ ⦃l fuel : Nat⦄, LeftOf column rest → 2 * text.length + 1 < fuel →
    ∃ behind, Reader.block parent column opens ⟨text ++ rest, l, place⟩ fuel = .ok (t, behind) ∧
      GoesOn behind rest

variable {parent column place n : Nat} {opens : Bool} {cs : List Char}

theorem content_startsScalar (n : Nat) {l : Nat} (h : StartsScalar cs) :
    (⟨spaces n ++ cs, l, place⟩ : Cursor).content = ⟨cs, l, place + n⟩ := by
  obtain ⟨ch, tail, rfl, hch⟩ := h.exists_cons
  exact Cursor.content_spaces n hch

/-- A word or a number. -/
theorem readsNode_word {word : String} {t : Tree} (hword : IsPlain word.toList)
    (hmeans : resolve word = t) (hcolumn : column ≤ place + n) :
    ReadsNode parent column opens place (spaces n ++ wordLine word) t := by
  intro rest l fuel hrest hfuel
  obtain ⟨fuel, rfl⟩ := Nat.exists_eq_add_one.2 (Nat.zero_lt_of_lt hfuel)
  have htext : spaces n ++ wordLine word ++ rest = spaces n ++ (word.toList ++ '\n' :: rest) := by
    simp [wordLine]
  have hstart := hword.startsScalar ('\n' :: rest)
  have hread := scalar_plain (l := l) (k := place + n) hword (.line rest)
  rw [Cursor.skip_append fun c hc ↦ isBreak_of_isLineChar (hword.line c hc)] at hread
  have htree : scalarTree word.toList false = t := by
    rw [scalarTree, String.ofList_toList]
    exact hmeans
  rw [htext, ← htree]
  exact ⟨_, block_scalar (content_startsScalar n hstart) hcolumn hstart hread hrest,
    goesOn_break rest _ _⟩

/-- A literal block ends its own last line. -/
theorem scalarLine_literal {s : String} (h : styleOf false s = .literal) (indent : Nat) :
    scalarLine indent s = '|' :: (literalHints s.toList ++ '\n' ::
      literalBody (indent + 2) true (closed s.toList)) := by
  rw [scalarLine, h, literalBody_closed, Written.line, write]
  split <;> simp

/-- Every other scalar has the end of its line behind it. -/
theorem scalarLine_of_ne_literal {s : String} (h : styleOf false s ≠ .literal) (indent : Nat) :
    scalarLine indent s = (write (styleOf false s) (indent + 2) s).chars ++ ['\n'] := by
  rw [scalarLine, Written.line]
  cases hstyle : styleOf false s with
  | literal => exact absurd hstyle h
  | plain => rfl
  | single => rfl
  | double => rfl

/-- A text, in whatever style it is written. -/
theorem readsNode_string (s : String) {indent : Nat} (hcolumn : column ≤ place + n)
    (hindent : column ≤ indent + 2) :
    ReadsNode indent column opens place (spaces n ++ scalarLine indent s) (.string s) := by
  intro rest l fuel hrest hfuel
  obtain ⟨fuel, rfl⟩ := Nat.exists_eq_add_one.2 (Nat.zero_lt_of_lt hfuel)
  have hholds := holds_styleOf false s
  by_cases hliteral : styleOf false s = .literal
  · rw [hliteral] at hholds
    cases hholds with
    | literal hne hprintable =>
      obtain ⟨l', hread⟩ := literal_literalBody (l := l) (k := place + n) hne (hrest.mono hindent)
      rw [scalarLine_literal hliteral, List.append_assoc, List.cons_append, List.append_assoc,
        List.cons_append]
      refine ⟨⟨rest, l', 0⟩, ?_, l', rfl⟩
      rw [block_bar (Cursor.content_spaces n rfl) hcolumn rfl hread, String.ofList_toList]
  · have hstart := startsScalar_write hholds hliteral (indent + 2) ('\n' :: rest)
    obtain ⟨quoted, hread, hmeans⟩ := exists_scalar_write (l := l) (k := place + n) hholds hliteral
      (.line rest)
    obtain ⟨l', k', hskip⟩ := Cursor.exists_skip_append
      (write (styleOf false s) (indent + 2) s).chars ('\n' :: rest) l (place + n)
    have htext : spaces n ++ scalarLine indent s ++ rest =
        spaces n ++ ((write (styleOf false s) (indent + 2) s).chars ++ '\n' :: rest) := by
      rw [scalarLine_of_ne_literal hliteral]
      simp
    rw [hskip] at hread
    rw [htext]
    refine ⟨⟨'\n' :: rest, l', k'⟩, ?_, goesOn_break rest l' k'⟩
    rw [block_scalar (content_startsScalar n hstart) hcolumn hstart hread hrest, hmeans]

theorem flow_brackets {brackets : List Char} {t : Tree}
    (h : brackets = ['[', ']'] ∧ t = .list [] ∨ brackets = ['\x7b', '\x7d'] ∧ t = .map [])
    (rest : List Char) (l k fuel : Nat) :
    flow ⟨brackets ++ rest, l, k⟩ (fuel + 2) = .ok (t, ⟨rest, l, k + 2⟩) := by
  obtain ⟨rfl, rfl⟩ | ⟨rfl, rfl⟩ := h
  · have hopen : (⟨'[' :: ']' :: rest, l, k⟩ : Cursor).content = ⟨'[' :: ']' :: rest, l, k⟩ :=
      Cursor.content_token rfl
    have hclose : (⟨']' :: rest, l, k + 1⟩ : Cursor).content = ⟨']' :: rest, l, k + 1⟩ :=
      Cursor.content_token rfl
    show flow ⟨'[' :: ']' :: rest, l, k⟩ (fuel + 2) = _
    rw [flow, hopen]
    show (flowItems _ ⟨']' :: rest, l, k + 1⟩ (fuel + 1) >>= _) = _
    rw [flowItems, hclose]
    rfl
  · have hopen : (⟨'\x7b' :: '\x7d' :: rest, l, k⟩ : Cursor).content =
        ⟨'\x7b' :: '\x7d' :: rest, l, k⟩ := Cursor.content_token rfl
    have hclose : (⟨'\x7d' :: rest, l, k + 1⟩ : Cursor).content = ⟨'\x7d' :: rest, l, k + 1⟩ :=
      Cursor.content_token rfl
    show flow ⟨'\x7b' :: '\x7d' :: rest, l, k⟩ (fuel + 2) = _
    rw [flow, hopen]
    show (flowEntries _ ⟨'\x7d' :: rest, l, k + 1⟩ (fuel + 1) >>= _) = _
    rw [flowEntries, hclose]
    rfl

/-- Nothing in a list or in a map. -/
theorem readsNode_brackets {brackets : List Char} {t : Tree}
    (h : brackets = ['[', ']'] ∧ t = .list [] ∨ brackets = ['\x7b', '\x7d'] ∧ t = .map [])
    (hcolumn : column ≤ place + n) :
    ReadsNode parent column opens place (spaces n ++ (brackets ++ ['\n'])) t := by
  intro rest l fuel hrest hfuel
  have hlength : brackets.length = 2 := by obtain ⟨rfl, -⟩ | ⟨rfl, -⟩ := h <;> rfl
  have hthree : 3 ≤ fuel := by
    simp only [List.length_append, hlength] at hfuel
    omega
  obtain ⟨fuel, rfl⟩ := Nat.exists_eq_add_of_le' hthree
  have hread := flow_brackets h ('\n' :: rest) l (place + n) fuel
  have htext : spaces n ++ (brackets ++ ['\n']) ++ rest =
      spaces n ++ (brackets ++ '\n' :: rest) := by
    simp
  rw [htext]
  refine ⟨⟨'\n' :: rest, l, place + n + 2⟩, ?_, goesOn_break rest _ _⟩
  obtain ⟨rfl, -⟩ | ⟨rfl, -⟩ := h
  · exact block_bracket (Cursor.content_spaces n rfl) hcolumn (.inl rfl) rfl hread
  · exact block_bracket (Cursor.content_spaces n rfl) hcolumn (.inr rfl) rfl hread

/-! ### Leaves -/

/-- Whether a tree is written without lines of its own for what is in it. -/
def isLeaf : Tree → Bool
  | .list (_ :: _) => false
  | .map (_ :: _) => false
  | _ => true

/-- Behind a colon a leaf stands as it does behind a dash. -/
theorem keyValue_leaf {t : Tree} (ht : isLeaf t) (indent : Nat) :
    keyValue indent t = block (spaces 1) (indent + 2) t := by
  cases t with
  | null => rw [keyValue, block]; rfl
  | bool b => rw [keyValue, block]; rfl
  | int n => rw [keyValue, block]; rfl
  | real x => rw [keyValue, block]; rfl
  | string s => rw [keyValue, block]; rfl
  | list items =>
    cases items with
    | nil => rw [keyValue, block]; rfl
    | cons item items => cases ht
  | map entries =>
    cases entries with
    | nil => rw [keyValue, block]; rfl
    | cons entry entries => cases ht

/-- A leaf is read back. -/
theorem readsNode_leaf {t : Tree} (ht : isLeaf t) (hvalues : t.IsValues) {indent : Nat}
    (hcolumn : column ≤ place + n) (hindent : column ≤ indent) :
    ReadsNode (indent - 2) column opens place (block (spaces n) indent t) t.sorted := by
  cases hvalues with
  | null =>
    rw [block, Tree.sorted]
    exact readsNode_word isPlain_null resolve_null hcolumn
  | bool b =>
    rw [block, Tree.sorted]
    exact readsNode_word (isPlain_boolWord b) (resolve_boolWord b) hcolumn
  | @int n hlow hhigh =>
    rw [block, Tree.sorted]
    exact readsNode_word (isPlain_toString n) (resolve_toString (by omega) (by omega)) hcolumn
  | string s =>
    rw [block, Tree.sorted]
    exact readsNode_string s hcolumn (by omega)
  | @list items hitems =>
    cases items with
    | nil =>
      rw [block, Tree.sorted]
      exact readsNode_brackets (.inl ⟨rfl, rfl⟩) hcolumn
    | cons item items => cases ht
  | @map entries hkeys hentries =>
    cases entries with
    | nil =>
      rw [block, Tree.sorted_map_nil]
      exact readsNode_brackets (.inr ⟨rfl, rfl⟩) hcolumn
    | cons entry entries => cases ht

end VolumeMigration.Yaml
