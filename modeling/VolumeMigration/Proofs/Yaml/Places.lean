import Mathlib.Tactic.Common
import VolumeMigration.Yaml.Cursor

/-!
# Moving over a text

Where a place is after a piece of text has been read. Text without breaks moves it along its
line, blanks and breaks in front of a token are passed over, and a line that starts further left
than some column ends whatever stands at that column.
-/

namespace VolumeMigration.Yaml

/-! ### Characters -/

/-- Whether a token may start with a character: no blank, no break, no comment. -/
def startsToken (ch : Char) : Bool := !(Cursor.isSpace ch || isBreak ch || ch == '#')

/-- Blanks and breaks, between which a reader folds lines. -/
def isBlank (ch : Char) : Bool := Cursor.isSpace ch || isBreak ch

theorem isBlank_of_startsToken {ch : Char} (h : startsToken ch) : isBlank ch = false := by
  simp only [startsToken, isBlank, Bool.not_eq_true', Bool.or_eq_false_iff] at h ⊢
  exact h.1

theorem isBreak_of_startsToken {ch : Char} (h : startsToken ch) : isBreak ch = false :=
  (Bool.or_eq_false_iff.1 (isBlank_of_startsToken h)).2

theorem isSpace_of_startsToken {ch : Char} (h : startsToken ch) : Cursor.isSpace ch = false :=
  (Bool.or_eq_false_iff.1 (isBlank_of_startsToken h)).1

theorem ne_hash_of_startsToken {ch : Char} (h : startsToken ch) : (ch == '#') = false := by
  simp only [startsToken, Bool.not_eq_true', Bool.or_eq_false_iff] at h
  exact h.2

/-- What starts a token is neither blank nor the start of a comment. -/
theorem startsToken_iff {ch : Char} : startsToken ch ↔ isBlank ch = false ∧ ch ≠ '#' := by
  simp [startsToken, isBlank]

theorem ne_feed_of_isBreak {ch : Char} (h : isBreak ch = false) : ch ≠ '\n' := by
  rintro rfl
  cases h

theorem mem_spaces {n : Nat} {ch : Char} (h : ch ∈ spaces n) : ch = ' ' :=
  List.eq_of_mem_replicate h

theorem length_spaces (n : Nat) : (spaces n).length = n := List.length_replicate

/-- A break is not a space, so blanks never hide one. -/
theorem isSpace_of_isBreak {ch : Char} (h : isBreak ch) : Cursor.isSpace ch = false := by
  cases hspace : Cursor.isSpace ch with
  | false => rfl
  | true =>
    simp only [Cursor.isSpace, Bool.or_eq_true, beq_iff_eq] at hspace
    obtain rfl | rfl := hspace <;> cases h

namespace Cursor

variable {rest w : List Char} {ch : Char} {l k : Nat} {p : Char → Bool}

/-! ### Moving along a line -/

/-- A line break leads to the start of the next line. -/
@[simp] theorem next_break (h : isBreak ch) :
    (⟨ch :: rest, l, k⟩ : Cursor).next = ⟨rest, l + 1, 0⟩ :=
  if_pos h

/-- Any other character leads one column on. -/
@[simp] theorem next_char (h : isBreak ch = false) :
    (⟨ch :: rest, l, k⟩ : Cursor).next = ⟨rest, l, k + 1⟩ :=
  if_neg (by simp [h])

/-- Text without breaks moves a place along its line. -/
theorem skip_append (h : ∀ c ∈ w, isBreak c = false) :
    (⟨w ++ rest, l, k⟩ : Cursor).skip w.length = ⟨rest, l, k + w.length⟩ := by
  induction w generalizing k with
  | nil => rfl
  | cons c w ih =>
    rw [List.length_cons, skip, List.cons_append, next_char (h c List.mem_cons_self),
      ih fun c hc ↦ h c (List.mem_cons_of_mem _ hc)]
    congr 1
    omega

/-- Any text is behind the place once it has been skipped. -/
theorem exists_skip_append (w rest : List Char) (l k : Nat) :
    ∃ l' k', (⟨w ++ rest, l, k⟩ : Cursor).skip w.length = ⟨rest, l', k'⟩ := by
  induction w generalizing l k with
  | nil => exact ⟨l, k, rfl⟩
  | cons c w ih =>
    rw [List.length_cons, skip, List.cons_append]
    cases hbreak : isBreak c with
    | true => rw [next_break hbreak]; exact ih _ _
    | false => rw [next_char hbreak]; exact ih _ _

theorem skip_add (c : Cursor) (m n : Nat) : c.skip (m + n) = (c.skip m).skip n := by
  induction m generalizing c with
  | zero => rw [Nat.zero_add]; rfl
  | succ m ih => rw [Nat.succ_add]; exact ih c.next

/-- A run ends where the first character behind it does not belong to it. -/
theorem takeWhile_append_of_head (hw : ∀ c ∈ w, p c) (hrest : ∀ c ∈ rest.head?, p c = false) :
    (w ++ rest).takeWhile p = w := by
  rw [List.takeWhile_append_of_pos hw]
  cases rest with
  | nil => exact List.append_nil w
  | cons c rest => rw [List.takeWhile_cons_of_neg (by simp [hrest c rfl]), List.append_nil]

/-- A stretch of one line is taken up to where the test fails. -/
theorem span_append (hw : ∀ c ∈ w, p c) (hline : ∀ c ∈ w, isBreak c = false)
    (hrest : ∀ c ∈ rest.head?, p c = false) :
    (⟨w ++ rest, l, k⟩ : Cursor).span p = (w, ⟨rest, l, k + w.length⟩) := by
  simp only [span, takeWhile_append_of_head hw hrest, skip_append hline]

theorem skip_spaces (n : Nat) :
    (⟨spaces n ++ rest, l, k⟩ : Cursor).skip (spaces n).length = ⟨rest, l, k + n⟩ := by
  rw [skip_append fun c hc ↦ by rw [mem_spaces hc]; rfl, length_spaces]

/-- Spaces are passed, and their number is the column. -/
theorem skipSpaces_spaces (n : Nat) (hrest : ∀ c ∈ rest.head?, isSpace c = false) :
    (⟨spaces n ++ rest, l, k⟩ : Cursor).skipSpaces = ⟨rest, l, k + n⟩ := by
  rw [skipSpaces, span_append (fun c hc ↦ by rw [mem_spaces hc]; rfl)
    (fun c hc ↦ by rw [mem_spaces hc]; rfl) hrest, length_spaces]

theorem skipSpaces_of_head (hrest : ∀ c ∈ rest.head?, isSpace c = false) :
    (⟨rest, l, k⟩ : Cursor).skipSpaces = ⟨rest, l, k⟩ := skipSpaces_spaces 0 hrest

/-! ### The next content -/

/-- The end of a line is passed over. -/
@[simp] theorem content_break (hbreak : isBreak ch) :
    (⟨ch :: rest, l, k⟩ : Cursor).content = (⟨rest, l + 1, 0⟩ : Cursor).content := by
  have hspaces : (⟨ch :: rest, l, k⟩ : Cursor).skipSpaces = ⟨ch :: rest, l, k⟩ :=
    skipSpaces_of_head fun c hc ↦ by
      obtain rfl : ch = c := Option.some.inj hc
      exact isSpace_of_isBreak hbreak
  have hcomment : (ch == '#') = false := by
    rw [beq_eq_false_iff_ne]
    rintro rfl
    cases hbreak
  show skipBlanks _ (rest.length + 1 + 1) = skipBlanks _ (rest.length + 1)
  rw [skipBlanks, hspaces]
  simp [head?, hcomment, hbreak]

/-- The end of a text is the next content where nothing else follows. -/
@[simp] theorem content_nil : (⟨[], l, k⟩ : Cursor).content = ⟨[], l, k⟩ := by
  have hspaces : (⟨[], l, k⟩ : Cursor).skipSpaces = ⟨[], l, k⟩ := rfl
  rw [content, skipBlanks, hspaces]
  simp [head?]

/-- Content stands behind spaces. -/
@[simp] theorem content_spaces (n : Nat) (hch : startsToken ch) :
    (⟨spaces n ++ ch :: rest, l, k⟩ : Cursor).content = ⟨ch :: rest, l, k + n⟩ := by
  have hspaces : (⟨spaces n ++ ch :: rest, l, k⟩ : Cursor).skipSpaces = ⟨ch :: rest, l, k + n⟩ :=
    skipSpaces_spaces n fun c hc ↦ by
      obtain rfl : ch = c := Option.some.inj hc
      exact isSpace_of_startsToken hch
  rw [content, skipBlanks, hspaces]
  simp [head?, ne_hash_of_startsToken hch, isBreak_of_startsToken hch]

/-- Content is where its token starts. -/
@[simp] theorem content_token (hch : startsToken ch) :
    (⟨ch :: rest, l, k⟩ : Cursor).content = ⟨ch :: rest, l, k⟩ := content_spaces 0 hch

end Cursor

/-! ### Where lines start -/

/-- The text `rest` is at its end, or a line of it starts by a token, at a column of which the
condition holds. -/
inductive Onward (p : Nat → Char → List Char → Prop) : List Char → Prop
  | ends : Onward p []
  | goes (k : Nat) (ch : Char) (behind : List Char) (hch : startsToken ch) (hp : p k ch behind) :
      Onward p (spaces k ++ ch :: behind)

/-- What follows starts left of a column. -/
abbrev LeftOf (column : Nat) : List Char → Prop := Onward fun k _ _ ↦ k < column

theorem Onward.imp {p q : Nat → Char → List Char → Prop} {rest : List Char} (h : Onward p rest)
    (himp : ∀ k ch behind, startsToken ch → p k ch behind → q k ch behind) : Onward q rest := by
  cases h with
  | ends => exact .ends
  | goes k ch behind hch hp => exact .goes k ch behind hch (himp k ch behind hch hp)

/-- What is to the left of a column is to the left of every later one. -/
theorem LeftOf.mono {column column' : Nat} {rest : List Char} (h : LeftOf column rest)
    (hle : column ≤ column') : LeftOf column' rest :=
  h.imp fun _ _ _ _ hlt ↦ Nat.lt_of_lt_of_le hlt hle

end VolumeMigration.Yaml
