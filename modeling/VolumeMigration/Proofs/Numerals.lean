import Mathlib.Tactic.Common

/-!
# Decimal numerals

The numeral of a number is `Nat.toDigits 10`. A sequence of digits is the numeral of its value
unless it begins by a zero that others follow (`toDigits_ofDigitChars`), and no numeral does
(`isNumeral_toDigits`).
-/

namespace VolumeMigration.Numeral

/-- Digits, of which the first is a zero only if no other follows. -/
structure IsNumeral (cs : List Char) : Prop where
  ne_nil : cs ≠ []
  digits : ∀ c ∈ cs, c.isDigit = true
  unpadded : 1 < cs.length → cs.head? ≠ some '0'

section

variable {cs : List Char} {c : Char} {n : Nat}

/-! ### Digits -/

theorem bounds_of_isDigit (hc : c.isDigit = true) : '0'.toNat ≤ c.toNat ∧ c.toNat ≤ '9'.toNat := by
  simpa [Char.isDigit, UInt32.le_iff_toNat_le] using hc

/-- The value of a digit. -/
theorem digit_lt (hc : c.isDigit = true) : c.toNat - '0'.toNat < 10 := by
  have hhigh : c.toNat ≤ 57 := (bounds_of_isDigit hc).2
  show c.toNat - 48 < 10
  omega

theorem digitChar_of_isDigit (hc : c.isDigit = true) : (c.toNat - '0'.toNat).digitChar = c := by
  apply Char.toNat_inj.mp
  rw [Nat.toNat_digitChar_of_lt_ten (digit_lt hc)]
  show 48 + (c.toNat - 48) = c.toNat
  have hlow : 48 ≤ c.toNat := (bounds_of_isDigit hc).1
  omega

theorem isDigit_of_mem_toDigits (h : c ∈ Nat.toDigits 10 n) : c.isDigit = true :=
  Nat.isDigit_of_mem_toDigits (by decide) (by decide) h

/-- The first digit of a number, and those behind it. -/
theorem exists_toDigits_eq_cons (n : Nat) :
    ∃ d digits, Nat.toDigits 10 n = d :: digits ∧ d.isDigit = true := by
  obtain ⟨d, digits, heq⟩ := List.exists_cons_of_ne_nil (Nat.toDigits_ne_nil (n := n) (b := 10))
  exact ⟨d, digits, heq, isDigit_of_mem_toDigits (heq ▸ List.mem_cons_self)⟩

/-- Only zero starts by the digit zero. -/
theorem head?_toDigits_ne (hn : 0 < n) : (Nat.toDigits 10 n).head? ≠ some '0' := by
  induction n using Nat.strongRecOn with
  | ind n ih =>
    by_cases hlt : n < 10
    · rw [Nat.toDigits_of_lt_base hlt]
      simp
      omega
    · rw [Nat.toDigits_of_base_le (by decide) (by omega), List.head?_append,
        Option.or_of_isSome (by simp)]
      exact ih (n / 10) (by omega) (by omega)

/-! ### Numerals and values -/

theorem isNumeral_toDigits (n : Nat) : IsNumeral (Nat.toDigits 10 n) where
  ne_nil := Nat.toDigits_ne_nil
  digits _ := isDigit_of_mem_toDigits
  unpadded hlength := by
    refine head?_toDigits_ne (Nat.pos_of_ne_zero ?_)
    rintro rfl
    exact absurd hlength (by decide)

/-- A number does not get less by more digits. -/
theorem le_ofDigitChars (cs : List Char) (n : Nat) : n ≤ Nat.ofDigitChars 10 cs n := by
  rw [Nat.ofDigitChars_eq_ofDigitChars_zero]
  have hscaled : n ≤ 10 ^ cs.length * n := Nat.le_mul_of_pos_left n (Nat.pow_pos (by decide))
  omega

/-- More digits behind those of a number that is not zero. -/
theorem toDigits_append_of_isDigit {start : Nat} (hstart : 0 < start)
    (hcs : ∀ c ∈ cs, c.isDigit = true) :
    Nat.toDigits 10 start ++ cs = Nat.toDigits 10 (Nat.ofDigitChars 10 cs start) := by
  induction cs generalizing start with
  | nil => rw [List.append_nil, Nat.ofDigitChars_nil]
  | cons c cs ih =>
    have hc := hcs c List.mem_cons_self
    have hdigit := digit_lt hc
    have hnext : Nat.toDigits 10 start ++ [c] =
        Nat.toDigits 10 (10 * start + (c.toNat - '0'.toNat)) := by
      rw [← Nat.toDigits_append_toDigits (by decide) hstart hdigit,
        Nat.toDigits_of_lt_base hdigit, digitChar_of_isDigit hc]
    have hpos : 0 < 10 * start + (c.toNat - '0'.toNat) := by omega
    have hrest := ih hpos fun d hd ↦ hcs d (List.mem_cons_of_mem _ hd)
    calc Nat.toDigits 10 start ++ c :: cs
      _ = Nat.toDigits 10 start ++ [c] ++ cs := by simp
      _ = Nat.toDigits 10 (Nat.ofDigitChars 10 (c :: cs) start) := by
        rw [hnext, hrest, Nat.ofDigitChars_cons]

/-- A numeral is that of its value. -/
theorem toDigits_ofDigitChars (h : IsNumeral cs) :
    Nat.toDigits 10 (Nat.ofDigitChars 10 cs 0) = cs := by
  obtain ⟨c, cs, rfl⟩ := List.exists_cons_of_ne_nil h.ne_nil
  have hc := h.digits c List.mem_cons_self
  have hfirst : Nat.toDigits 10 (c.toNat - '0'.toNat) = [c] := by
    rw [Nat.toDigits_of_lt_base (digit_lt hc), digitChar_of_isDigit hc]
  rw [Nat.ofDigitChars_cons, Nat.mul_zero, Nat.zero_add]
  by_cases hcs : cs = []
  · rw [hcs, Nat.ofDigitChars_nil, hfirst]
  · -- behind the first digit there are others, so it is not zero
    have hpos : 0 < c.toNat - '0'.toNat := by
      refine Nat.pos_of_ne_zero fun hzero ↦ ?_
      have hlong : 1 < (c :: cs).length := by
        have hlength := List.length_pos_iff.mpr hcs
        rw [List.length_cons]
        omega
      refine h.unpadded hlong ?_
      rw [List.head?_cons, ← digitChar_of_isDigit hc, hzero]
      rfl
    have hdigits := fun d hd ↦ h.digits d (List.mem_cons_of_mem c hd)
    rw [← toDigits_append_of_isDigit hpos hdigits, hfirst, List.singleton_append]

end

end VolumeMigration.Numeral
