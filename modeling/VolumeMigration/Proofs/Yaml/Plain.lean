import VolumeMigration.Proofs.Yaml.Quoted

/-!
# Plain scalars are read as they were written

A text that may stand plain has no character that a reader would take for structure, and ends
where its line ends, or at the colon of a key. The words for null, truth values and whole numbers
are such texts.
-/

namespace VolumeMigration.Yaml

open Numeral

/-! ### Texts that may stand plain -/

/-- Whether a character that is structure where a word ends behind it stands at the start. -/
def startsStructure (cs : List Char) : Bool :=
  match cs with
  | [] => true
  | ch :: rest => isIndicator ch || ((ch == '?' || ch == ':' || ch == '-') && endsWord rest.head?)

/-- A text that is read back where it stands plain: it is a piece of a line without blanks at its
edges, and nothing in it is structure. -/
structure IsPlain (cs : List Char) : Prop where
  line : ∀ c ∈ cs, Reader.isLineChar c
  start : ∀ c ∈ cs.head?, c ≠ ' '
  ends : ∀ c ∈ cs.getLast?, c ≠ ' '
  inner : hasInnerIndicator 'x' cs = false
  outer : startsStructure cs = false
  noDashes : "---".toList.isPrefixOf cs = false
  noDots : "...".toList.isPrefixOf cs = false

/-- What the emitter leaves plain meets the conditions under which it is read back. -/
theorem isPlain_of_allowsPlain {cs : List Char} (h : allowsPlain cs) (hne : cs ≠ []) :
    IsPlain cs := by
  rw [allowsPlain, Bool.not_eq_true'] at h
  simp only [Bool.or_eq_false_iff] at h
  obtain ⟨⟨⟨hescapes, hedge⟩, hbreak⟩, hindicator⟩ := h
  rw [hasBlankEdge, Bool.or_eq_false_iff] at hedge
  have hprintable := isPrintable_of_not_needsEscapes hescapes
  have hedge' {o : Option Char}
      (ho : (o.map fun c ↦ c == ' ' || isBreak c).getD false = false) : ∀ c ∈ o, c ≠ ' ' := by
    rintro c hc rfl
    rw [Option.mem_def.1 hc] at ho
    cases ho
  cases cs with
  | nil => exact absurd rfl hne
  | cons ch cs =>
    simp only [hasIndicator, Bool.or_eq_false_iff] at hindicator
    obtain ⟨⟨⟨⟨hdashes, hdots⟩, hfirst⟩, halone⟩, hinner⟩ := hindicator
    have hhash : (ch == '#') = false := by
      rw [beq_eq_false_iff_ne]
      rintro rfl
      cases hfirst
    refine ⟨fun c hc ↦ ?_, hedge' hedge.1, hedge' hedge.2, ?_, ?_, hdashes, hdots⟩
    · rw [Reader.isLineChar, hprintable c hc, Bool.eq_false_iff.2 (List.any_eq_false.1 hbreak c hc)]
      rfl
    · have hcolon : (ch == ':' && endsWord cs.head?) = false := by
        cases hends : endsWord cs.head? with
        | false => exact Bool.and_false _
        | true =>
          rw [hends, Bool.and_true, Bool.or_eq_false_iff, Bool.or_eq_false_iff] at halone
          rw [halone.1.2, Bool.false_and]
      rw [hasInnerIndicator, hcolon, hhash, hinner]
      rfl
    · rw [startsStructure, hfirst, halone]
      rfl

/-! ### Reading them -/

/-- What ends a plain scalar: the end of its line, or the colon behind a key. -/
inductive EndsPlain : List Char → Prop
  | line (behind : List Char) : EndsPlain ('\n' :: behind)
  | colon (behind : List Char) (h : endsWord behind.head?) : EndsPlain (':' :: behind)

namespace Reader

variable {cs after rest : List Char} {before : Char} {l k : Nat}

theorem plainChars_of_endsPlain (h : EndsPlain after) : plainChars false before after = [] := by
  cases h with
  | line behind => rfl
  | colon behind h => simp [plainChars, h]

/-- A plain text is taken up to where it ends. -/
theorem plainChars_append (hline : ∀ c ∈ cs, isLineChar c)
    (hinner : hasInnerIndicator before cs = false) (hafter : EndsPlain after) :
    plainChars false before (cs ++ after) = cs := by
  induction cs generalizing before with
  | nil => exact plainChars_of_endsPlain hafter
  | cons ch cs ih =>
    rw [hasInnerIndicator, Bool.or_eq_false_iff, Bool.or_eq_false_iff] at hinner
    obtain ⟨⟨hcolon, hhash⟩, hinner⟩ := hinner
    have hbreak := isBreak_of_isLineChar (hline ch List.mem_cons_self)
    have hcolon' : (ch == ':' && endsWord (cs ++ after).head?) = false := by
      cases cs with
      | nil =>
        have hne : (ch == ':') = false := by simpa [endsWord] using hcolon
        rw [hne, Bool.false_and]
      | cons d cs => exact hcolon
    have hhash' : (ch == '#' && Cursor.isSpace before) = false := by
      cases hspace : Cursor.isSpace before with
      | false => exact Bool.and_false _
      | true =>
        rw [Cursor.isSpace] at hspace
        rwa [endsWord, hspace, Bool.true_or, Bool.true_or] at hhash
    rw [List.cons_append, plainChars, hbreak]
    simp only [Bool.false_and, Bool.or_false, hcolon', hhash']
    simp [ih (fun c hc ↦ hline c (List.mem_cons_of_mem _ hc)) hinner]

/-- A plain text is a line of a scalar. -/
theorem plainLine_append (hcs : IsPlain cs) (hafter : EndsPlain after) :
    plainLine false ⟨cs ++ after, l, k⟩ = (cs, (⟨cs ++ after, l, k⟩ : Cursor).skip cs.length) := by
  have hlast : cs.reverse.dropWhile Cursor.isSpace = cs.reverse := by
    cases hreverse : cs.reverse with
    | nil => rfl
    | cons c initial =>
      have hmem : c ∈ cs := List.mem_reverse.1 (hreverse ▸ List.mem_cons_self)
      have hprintable : isPrintable c := (Bool.and_eq_true_iff.1 (hcs.line c hmem)).1
      have hspace : c ≠ ' ' := hcs.ends c (by rw [List.getLast?_eq_head?_reverse, hreverse]; rfl)
      rw [List.dropWhile_cons_of_neg]
      rw [isSpace_of_isPrintable hprintable]
      simpa using hspace
  rw [plainLine]
  simp only [plainChars_append hcs.line hcs.inner hafter, hlast, List.length_reverse,
    List.reverse_reverse]

/-- The further lines of a plain scalar end before a line that starts too far left. -/
theorem plainLines_of_leftOf {column fuel : Nat} (hrest : LeftOf column rest) :
    plainLines false column ⟨'\n' :: rest, l, k⟩ fuel = ([], ⟨'\n' :: rest, l, k⟩) := by
  cases fuel with
  | zero => rfl
  | succ fuel =>
    rw [plainLines, breaks_eq]
    cases hrest with
    | ends => exact if_pos (by simp [plainChars, Cursor.skip, Cursor.next, isBlank, isBreak])
    | goes n ch behind hch hlt =>
      have htaken : ('\n' :: (spaces n ++ ch :: behind)).takeWhile isBlank = '\n' :: spaces n := by
        rw [← List.cons_append]
        refine Cursor.takeWhile_append_of_head (fun d hd ↦ ?_) (fun d hd ↦ ?_)
        · obtain rfl | hd := List.mem_cons.1 hd
          · rfl
          · rw [mem_spaces hd]
            rfl
        · obtain rfl : ch = d := Option.some.inj hd
          exact isBlank_of_startsToken hch
      have hbehind : (⟨'\n' :: (spaces n ++ ch :: behind), l, k⟩ : Cursor).skip
          ('\n' :: spaces n).length = ⟨ch :: behind, l + 1, n⟩ := by
        have hspaces : (⟨spaces n ++ ch :: behind, l + 1, 0⟩ : Cursor).skip (spaces n).length =
            ⟨ch :: behind, l + 1, 0 + n⟩ := Cursor.skip_spaces n
        rw [Nat.zero_add] at hspaces
        exact hspaces
      simp only [htaken, hbehind]
      exact if_pos (by simp [hlt])

theorem head?_of_endsPlain (h : EndsPlain after) : after.head? ≠ some '\'' := by
  cases h <;> simp

end Reader

/-! ### Words and numbers -/

theorem isPlain_null : IsPlain "null".toList := isPlain_of_allowsPlain (by decide) (by decide)

theorem isPlain_boolWord (b : Bool) : IsPlain (if b then "true" else "false").toList := by
  cases b <;> exact isPlain_of_allowsPlain (by decide) (by decide)

/-- What holds of the ten digits holds of every digit. -/
theorem of_isDigit {p : Char → Prop} (h : ∀ d < 10, p d.digitChar) {c : Char}
    (hc : c.isDigit = true) : p c := by
  rw [← digitChar_of_isDigit hc]
  exact h _ (digit_lt hc)

/-- Without colons and hashes nothing can look like an indicator. -/
theorem hasInnerIndicator_of_forall {cs : List Char} (h : ∀ c ∈ cs, c ≠ ':' ∧ c ≠ '#')
    (before : Char) : hasInnerIndicator before cs = false := by
  induction cs generalizing before with
  | nil => rfl
  | cons c cs ih =>
    have hc := h c List.mem_cons_self
    rw [hasInnerIndicator, ih fun d hd ↦ h d (List.mem_cons_of_mem _ hd)]
    simp [hc.1, hc.2]

/-- Characters that are no structure anywhere in a plain scalar. -/
def isTame (c : Char) : Bool := Reader.isLineChar c && c != ' ' && c != ':' && c != '#'

/-- Tame characters that begin like no structure and no marker stand plain. -/
theorem isPlain_of_isTame {cs : List Char} (h : ∀ c ∈ cs, isTame c)
    (houter : startsStructure cs = false) (hdashes : "---".toList.isPrefixOf cs = false)
    (hdots : "...".toList.isPrefixOf cs = false) : IsPlain cs := by
  have htame : ∀ c ∈ cs, ((Reader.isLineChar c = true ∧ c ≠ ' ') ∧ c ≠ ':') ∧ c ≠ '#' := by
    simpa [isTame] using h
  exact ⟨fun c hc ↦ (htame c hc).1.1.1, fun c hc ↦ (htame c (List.mem_of_mem_head? hc)).1.1.2,
    fun c hc ↦ (htame c (List.mem_of_getLast? hc)).1.1.2,
    hasInnerIndicator_of_forall (fun c hc ↦ ⟨(htame c hc).1.2, (htame c hc).2⟩) 'x', houter,
    hdashes, hdots⟩

theorem isTame_of_isDigit {c : Char} (hc : c.isDigit = true) : isTame c :=
  of_isDigit (p := (isTame · = true)) (by decide) hc

/-- A digit is neither an indicator nor the beginning of a document's edge. -/
theorem starts_of_isDigit {d : Char} (hd : d.isDigit = true) :
    (isIndicator d || (d == '?' || d == ':' || d == '-')) = false ∧ endsWord (some d) = false ∧
      ('-' == d) = false ∧ ('.' == d) = false :=
  of_isDigit (p := fun d ↦ (isIndicator d || (d == '?' || d == ':' || d == '-')) = false ∧
    endsWord (some d) = false ∧ ('-' == d) = false ∧ ('.' == d) = false) (by decide) hd

/-- A text that begins by a digit and has none but tame characters. -/
structure IsNumeric (cs : List Char) : Prop where
  first : ∃ d, cs.head? = some d ∧ d.isDigit = true
  tame : ∀ c ∈ cs, isTame c

namespace IsNumeric

variable {cs : List Char}

theorem of_isDigit (hne : cs ≠ []) (h : ∀ c ∈ cs, c.isDigit = true) : IsNumeric cs where
  first := by
    obtain ⟨d, rest, rfl⟩ := List.exists_cons_of_ne_nil hne
    exact ⟨d, rfl, h d List.mem_cons_self⟩
  tame c hc := isTame_of_isDigit (h c hc)

/-- What stands behind the first digit does not matter much. -/
theorem append (h : IsNumeric cs) {behind : List Char} (hbehind : ∀ c ∈ behind, isTame c) :
    IsNumeric (cs ++ behind) where
  first := by
    obtain ⟨d, hd, hdigit⟩ := h.first
    exact ⟨d, by rw [List.head?_append, hd, Option.some_or], hdigit⟩
  tame := List.forall_mem_append.2 ⟨h.tame, hbehind⟩

/-- With a sign or without, such a text stands plain. -/
theorem isPlain_signed (h : IsNumeric cs) (negative : Bool) :
    IsPlain (Double.signed negative cs) := by
  obtain ⟨d, hfirst, hd⟩ := h.first
  obtain ⟨rest, rfl⟩ := List.head?_eq_some_iff.1 hfirst
  obtain ⟨hstart, hends, hminus, hdot⟩ := starts_of_isDigit hd
  cases negative with
  | false =>
    rw [Bool.or_eq_false_iff] at hstart
    refine isPlain_of_isTame h.tame ?_ ?_ ?_
    · show startsStructure (d :: rest) = false
      rw [startsStructure, hstart.1, hstart.2]
      rfl
    · show ('-' == d && _) = false
      rw [hminus, Bool.false_and]
    · show ('.' == d && _) = false
      rw [hdot, Bool.false_and]
  | true =>
    refine isPlain_of_isTame (List.forall_mem_cons.2 ⟨rfl, h.tame⟩) ?_ ?_ rfl
    · show startsStructure ('-' :: d :: rest) = false
      rw [startsStructure]
      simp only [List.head?_cons, hends, Bool.and_false]
      rfl
    · show (_ && ('-' == d && _)) = false
      rw [hminus, Bool.false_and, Bool.and_false]

theorem toDigits (n : Nat) : IsNumeric (Nat.toDigits 10 n) :=
  of_isDigit Nat.toDigits_ne_nil fun _ ↦ isDigit_of_mem_toDigits

theorem orZero (h : ∀ c ∈ cs, c.isDigit = true) : IsNumeric (Decimal.orZero cs) := by
  cases cs with
  | nil => exact of_isDigit (List.cons_ne_nil _ _) (List.forall_mem_singleton.mpr rfl)
  | cons c cs => exact of_isDigit (List.cons_ne_nil _ _) h

end IsNumeric

/-- A whole number stands plain. -/
theorem isPlain_toString (n : Int) : IsPlain (toString n).toList := by
  rw [toList_toString_int]
  split
  · exact (IsNumeric.toDigits _).isPlain_signed false
  · exact (IsNumeric.toDigits _).isPlain_signed true

theorem isTame_of_mem_toString {n : Int} : ∀ c ∈ (toString n).toList, isTame c := by
  rw [toList_toString_int]
  split
  · exact (IsNumeric.toDigits _).tame
  · exact List.forall_mem_cons.2 ⟨rfl, (IsNumeric.toDigits _).tame⟩

theorem isTame_of_mem_zeros {n : Nat} : ∀ c ∈ List.replicate n '0', isTame c := by
  intro c hc
  rw [List.eq_of_mem_replicate hc]
  rfl

/-- A number that is written out has the form of one. -/
theorem isNumeric_positional (x : Decimal) : IsNumeric x.positional := by
  have hbefore : IsNumeric (Decimal.orZero (x.digits.take x.point.toNat)) :=
    .orZero fun c hc ↦ x.isDigit c (List.mem_of_mem_take hc)
  have hbehind : IsNumeric (Decimal.orZero (x.digits.drop x.point.toNat)) :=
    .orZero fun c hc ↦ x.isDigit c (List.mem_of_mem_drop hc)
  refine (hbefore.append isTame_of_mem_zeros).append (List.forall_mem_cons.2 ⟨rfl, ?_⟩)
  exact List.forall_mem_append.2 ⟨isTame_of_mem_zeros, hbehind.tame⟩

/-- A number with an exponent has the form, too. -/
theorem isNumeric_scientific (x : Decimal) : IsNumeric x.scientific := by
  have hfirst : IsNumeric (Decimal.orZero (x.digits.take 1)) :=
    .orZero fun c hc ↦ x.isDigit c (List.mem_of_mem_take hc)
  refine (hfirst.append ?_).append (List.forall_mem_cons.2 ⟨rfl, isTame_of_mem_toString⟩)
  split
  · exact fun c hc ↦ absurd hc List.not_mem_nil
  · exact List.forall_mem_cons.2
      ⟨rfl, fun c hc ↦ isTame_of_isDigit (x.isDigit c (List.mem_of_mem_tail hc))⟩

/-- A number of double precision stands plain. -/
theorem isPlain_realWord (x : Double) : IsPlain (realWord x).toList := by
  cases x with
  | nan => exact isPlain_of_allowsPlain (by decide) (by decide)
  | infinite negative => cases negative <;> exact isPlain_of_allowsPlain (by decide) (by decide)
  | finite negative units =>
    rw [realWord, String.toList_ofList]
    split
    · exact (isNumeric_positional _).isPlain_signed negative
    · exact (isNumeric_scientific _).isPlain_signed negative

end VolumeMigration.Yaml
