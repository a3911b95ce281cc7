import Mathlib.Tactic.IntervalCases
import VolumeMigration.Proofs.Numerals
import VolumeMigration.Yaml.Reader

/-!
# What plain words mean

The digits of a number are read as that number, in base ten and, for escapes, in base sixteen.
A word for null, for a truth value or for a whole number means that value again, and a text that
is not ambiguous means itself.
-/

namespace VolumeMigration.Yaml

open Numeral

/-! ### Digits -/

/-- Reading digits goes on from the value of those before. -/
def digitStep (base n : Nat) (c : Char) : Option Nat := (digit? base c).map (n * base + ·)

theorem ofDigits?_of_ne_nil {base : Nat} {cs : List Char} (h : cs ≠ []) :
    ofDigits? base cs = cs.foldlM (digitStep base) 0 := by
  rw [ofDigits?, if_neg (by simpa using h)]
  rfl

/-- The digits of a number, in whatever form a reader knows them, are read as the number. -/
theorem foldlM_toDigits {base : Nat} {form : Char → Char} (hbase : 1 < base)
    (hform : ∀ d < base, digit? base (form d.digitChar) = some d) (n : Nat) :
    ((Nat.toDigits base n).map form).foldlM (digitStep base) 0 = some n := by
  induction n using Nat.strongRecOn with
  | ind n ih =>
    by_cases hlt : n < base
    · rw [Nat.toDigits_of_lt_base hlt]
      simp [digitStep, hform n hlt]
    · have hdigit : n % base < base := Nat.mod_lt n (by omega)
      have hvalue : n / base * base + n % base = n := Nat.div_add_mod' n base
      rw [Nat.toDigits_of_base_le hbase (by omega), List.map_append, List.foldlM_append,
        ih (n / base) (Nat.div_lt_self (by omega) hbase)]
      simp [digitStep, hform _ hdigit, hvalue]

/-- Every decimal digit is read as its value. -/
theorem digit?_ten : ∀ d < 10, digit? 10 d.digitChar = some d := by decide

/-- Every hexadecimal digit in upper case is read as its value. -/
theorem digit?_sixteen : ∀ d < 16, digit? 16 d.digitChar.toUpper = some d := by decide

/-- A decimal numeral is read as its number. -/
theorem ofDigits?_toDigits (n : Nat) : ofDigits? 10 (Nat.toDigits 10 n) = some n := by
  rw [ofDigits?_of_ne_nil Nat.toDigits_ne_nil]
  have hread : ((Nat.toDigits 10 n).map id).foldlM (digitStep 10) 0 = some n :=
    foldlM_toDigits (by decide) digit?_ten n
  rwa [List.map_id] at hread

/-! ### Hexadecimal digits of a fixed width -/

/-- A number that fits its width has exactly so many digits. -/
theorem length_hex {width n : Nat} (hwidth : 0 < width) (hn : n < 16 ^ width) :
    (hex width n).length = width := by
  have hle : (Nat.toDigits 16 n).length ≤ width :=
    (Nat.length_toDigits_le_iff (by decide) hwidth).2 hn
  simp only [hex, List.length_append, List.length_replicate, List.length_map]
  omega

theorem foldlM_replicate_zero (count : Nat) :
    (List.replicate count '0').foldlM (digitStep 16) 0 = some 0 := by
  induction count with
  | zero => rfl
  | succ count ih => exact ih

/-- A hexadecimal numeral is read as its number, however it is filled up. -/
theorem ofDigits?_hex (width n : Nat) : ofDigits? 16 (hex width n) = some n := by
  have hne : hex width n ≠ [] := List.append_ne_nil_of_right_ne_nil _ (by simp)
  rw [ofDigits?_of_ne_nil hne, hex, List.foldlM_append, foldlM_replicate_zero]
  exact foldlM_toDigits (by decide) digit?_sixteen n

/-! ### Whole numbers -/

/-- No number is written with leading zeros. -/
theorem not_zeroPadded_toDigits (n : Nat) :
    (1 < (Nat.toDigits 10 n).length && (Nat.toDigits 10 n).head? == some '0' &&
      (Nat.toDigits 10 n).all Char.isDigit) = false := by
  rcases Nat.eq_zero_or_pos n with rfl | hpos
  · rfl
  · simp [head?_toDigits_ne hpos]

/-- A text of digits starts by no word that announces another base. -/
theorem afterWord?_toDigits (word : String) (c : Char) (hc : c ∈ word.toList)
    (hdigit : c.isDigit = false) (n : Nat) : afterWord? word (Nat.toDigits 10 n) = none := by
  refine if_neg fun hprefix ↦ ?_
  have hmem : c ∈ Nat.toDigits 10 n := (List.isPrefixOf_iff_prefix.1 hprefix).subset hc
  rw [isDigit_of_mem_toDigits hmem] at hdigit
  cases hdigit

theorem magnitude?_toDigits {limit n : Nat} (hn : n < limit) :
    magnitude? limit (Nat.toDigits 10 n) = some n := by
  simp only [magnitude?, bases, List.findSome?_cons, List.findSome?_nil, ofDigits?_toDigits,
    afterWord?_toDigits "0x" 'x' (by decide) rfl, afterWord?_toDigits "0o" 'o' (by decide) rfl,
    afterWord?_toDigits "0b" 'b' (by decide) rfl]
  simp [hn]

/-- A digit is no sign. -/
theorem ne_of_isDigit {d c : Char} (hd : d.isDigit = true) (hc : c.isDigit = false) : d ≠ c := by
  rintro rfl
  rw [hd] at hc
  cases hc

theorem wholeValue?_toDigits {n : Nat} (hn : n < 1 <<< 128) :
    wholeValue? (Nat.toDigits 10 n) = some (n : Int) := by
  obtain ⟨d, digits, heq, hd⟩ := exists_toDigits_eq_cons n
  have hpadded := not_zeroPadded_toDigits n
  have hmagnitude := magnitude?_toDigits hn
  have hminus := ne_of_isDigit (c := '-') hd rfl
  have hplus := ne_of_isDigit (c := '+') hd rfl
  rw [heq] at hpadded hmagnitude ⊢
  have hzero : isZeroPadded (d :: digits) = false := by
    rw [isZeroPadded.eq_def]
    split
    · cases hminus (List.cons.inj ‹_›).1
    · cases hplus (List.cons.inj ‹_›).1
    · exact hpadded
  rw [wholeValue?.eq_def, if_neg (by simp [hzero])]
  split
  · cases hminus (List.cons.inj ‹_›).1
  · cases hplus (List.cons.inj ‹_›).1
  · rw [hmagnitude]
    rfl

theorem wholeValue?_minus {n : Nat} (hn : n < 1 <<< 127 + 1) :
    wholeValue? ('-' :: Nat.toDigits 10 n) = some (-(n : Int)) := by
  have hzero : isZeroPadded ('-' :: Nat.toDigits 10 n) = false := not_zeroPadded_toDigits n
  rw [wholeValue?, if_neg (by simp [hzero]), magnitude?_toDigits hn]
  rfl

/-- An integer is written as a numeral, behind a minus sign if it is negative. -/
theorem toList_toString_int (n : Int) :
    (toString n).toList =
      if 0 ≤ n then Nat.toDigits 10 n.toNat else '-' :: Nat.toDigits 10 (-n).toNat := by
  rw [Int.toString_eq_repr, Int.repr_eq_if]
  split
  · exact Nat.toList_repr
  · rw [String.toList_append, Nat.toList_repr]
    rfl

/-- A whole number of 128 bits is read as it was written. -/
theorem wholeValue?_toString {n : Int} (hlow : -2 ^ 127 ≤ n) (hhigh : n < 2 ^ 128) :
    wholeValue? (toString n).toList = some n := by
  rw [toList_toString_int]
  split
  · rw [wholeValue?_toDigits (by rw [Nat.shiftLeft_eq]; omega)]
    congr 1
    omega
  · rw [wholeValue?_minus (by rw [Nat.shiftLeft_eq]; omega)]
    congr 1
    omega

/-! ### Meanings -/

/-- Every text but the words for null and for truth values means the number that it looks like, or
itself. -/
theorem resolve_of_not_mem_words {s : String} (h : s ∉ "" :: words) :
    resolve s = (number? s.toList).getD (.string s) := by
  obtain ⟨hempty, hwords⟩ := not_or.1 (mt List.mem_cons.2 h)
  have hword {list : List String} (hsub : list ⊆ words) : list.contains s = false := by
    rw [Bool.eq_false_iff, ne_eq, List.contains_iff_mem]
    exact fun hmem ↦ hwords (hsub hmem)
  have hempty : s.isEmpty = false := by simpa using hempty
  rw [resolve, hempty, hword (by decide), hword (by decide), hword (by decide)]
  rfl

/-- No word for null or for a truth value means a text, or looks like a number. -/
theorem of_mem_words : ∀ word ∈ "" :: words, (resolve word).string? = none ∧
    isAmbiguous word = true ∧ isZeroPadded word.toList = false ∧
      wholeValue? word.toList = none := by
  decide +kernel

/-- A text means itself exactly if it is not ambiguous, or if all that makes it so is a zero before
its digits. -/
theorem resolve_eq_string_iff {s : String} :
    resolve s = .string s ↔ isAmbiguous s = false ∨ isZeroPadded s.toList = true := by
  by_cases hmem : s ∈ "" :: words
  · obtain ⟨hmeans, hambiguous, hpadded, -⟩ := of_mem_words s hmem
    have hne : resolve s ≠ .string s := by
      intro heq
      rw [heq] at hmeans
      cases hmeans
    simp [hne, hambiguous, hpadded]
  · have hambiguous : isAmbiguous s =
        (isWhole s.toList || isZeroPadded s.toList || isReal s.toList) := by
      obtain ⟨hempty, hwords⟩ := not_or.1 (mt List.mem_cons.2 hmem)
      have hempty : s.isEmpty = false := by simpa using hempty
      simp [isAmbiguous, hempty, hwords]
    rw [resolve_of_not_mem_words hmem, hambiguous, number?, isWhole, isReal]
    cases hpadded : isZeroPadded s.toList with
    | true => simp [wholeValue?.eq_def, realValue?, hpadded]
    | false => cases wholeValue? s.toList <;> cases realValue? s.toList <;> simp

/-- A text that is not ambiguous means itself. -/
theorem resolve_of_not_isAmbiguous {s : String} (h : isAmbiguous s = false) :
    resolve s = .string s := resolve_eq_string_iff.2 (Or.inl h)

theorem resolve_null : resolve "null" = .null := rfl

theorem resolve_boolWord (b : Bool) : resolve (if b then "true" else "false") = .bool b := by
  cases b <;> rfl

theorem resolve_toString {n : Int} (hlow : -2 ^ 127 ≤ n) (hhigh : n < 2 ^ 128) :
    resolve (toString n) = .int n := by
  have hwhole := wholeValue?_toString hlow hhigh
  have hword : toString n ∉ "" :: words := by
    intro hmem
    rw [(of_mem_words _ hmem).2.2.2] at hwhole
    cases hwhole
  rw [resolve_of_not_mem_words hword, number?, hwhole]
  rfl

end VolumeMigration.Yaml
