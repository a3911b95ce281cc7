import VolumeMigration.Proofs.Yaml.Literals
import VolumeMigration.Proofs.Yaml.Plain
import VolumeMigration.Yaml.Document

/-!
# Every text is read as it was written

A text gets a style that can hold it, and a scalar in such a style is read as the text it was
written from: what starts it is taken for no structure, and what stands behind it is left.
-/

namespace VolumeMigration.Yaml

/-! ### The style of a text holds it -/

/-- Whether a text is read back from a scalar of a style. -/
inductive Style.Holds : Style → String → Prop
  | plain {s : String} (hplain : IsPlain s.toList) (hmeans : resolve s = .string s) :
      Holds .plain s
  | single {s : String} (hsingle : IsSingle s.toList) : Holds .single s
  | double (s : String) : Holds .double s
  | literal {s : String} (hne : s.toList ≠ []) (hprintable : ∀ c ∈ s.toList, isPrintable c) :
      Holds .literal s

/-- Every text is written in a style that holds it. -/
theorem holds_styleOf (simpleKey : Bool) (s : String) : (styleOf simpleKey s).Holds s := by
  rw [styleOf]
  split
  · exact .double s
  split
  · rename_i hfeed
    split
    · rename_i hliteral
      rw [Bool.and_eq_true, allowsLiteral, Bool.not_eq_true', Bool.or_eq_false_iff] at hliteral
      refine .literal (fun hnil ↦ ?_) (isPrintable_of_not_needsEscapes hliteral.1.1)
      rw [hnil] at hfeed
      cases hfeed
    · exact .double s
  rename_i hfeed
  split
  · rename_i hplain
    rw [Bool.and_eq_true, Bool.not_eq_true'] at hplain
    have hne : s.toList ≠ [] := by
      rintro hnil
      rw [String.toList_eq_nil_iff.1 hnil] at hplain
      cases hplain.1
    exact .plain (isPlain_of_allowsPlain hplain.2 hne) (resolve_of_not_isAmbiguous hplain.1)
  split
  · exact .single (isSingle_of_allowsSingle ‹_› (by simpa using hfeed))
  · exact .double s

/-- No simple key is a block. -/
theorem styleOf_key_ne_literal (s : String) : styleOf true s ≠ .literal := by
  rw [styleOf, Bool.not_true, Bool.and_false]
  repeat' split
  all_goals simp_all

/-! ### What starts a scalar -/

/-- A text that starts by a scalar: by a quote, or by a character that is no structure. -/
inductive StartsScalar : List Char → Prop
  | single (behind : List Char) : StartsScalar ('\'' :: behind)
  | double (behind : List Char) : StartsScalar ('"' :: behind)
  | plain {ch : Char} {behind : List Char} (hch : startsToken ch)
      (hstart : startsStructure (ch :: behind) = false) : StartsScalar (ch :: behind)

theorem startsToken_of_isPlain {ch : Char} {cs : List Char} (h : IsPlain (ch :: cs)) :
    startsToken ch := by
  have hline := h.line ch List.mem_cons_self
  have hprintable : isPrintable ch := (Bool.and_eq_true_iff.1 hline).1
  have houter := h.outer
  refine startsToken_iff.2 ⟨?_, ?_⟩
  · rw [isBlank, isSpace_of_isPrintable hprintable, Reader.isBreak_of_isLineChar hline,
      Bool.or_false, beq_eq_false_iff_ne]
    exact h.start ch rfl
  · rintro rfl
    cases houter

/-- What follows a plain text does not make its beginning structure. -/
theorem startsStructure_append {cs : List Char} (h : startsStructure cs = false)
    (after : List Char) : startsStructure (cs ++ after) = false := by
  cases cs with
  | nil => cases h
  | cons ch cs =>
    cases cs with
    | cons d cs => exact h
    | nil =>
      rw [startsStructure, Bool.or_eq_false_iff] at h
      have halone : (ch == '?' || ch == ':' || ch == '-') = false := by
        simpa [endsWord] using h.2
      show (isIndicator ch || (_ && _)) = false
      rw [h.1, halone]
      rfl

theorem IsPlain.startsScalar {cs : List Char} (h : IsPlain cs) (after : List Char) :
    StartsScalar (cs ++ after) := by
  have hstart := startsStructure_append h.outer after
  cases cs with
  | nil => cases h.outer
  | cons ch cs => exact .plain (startsToken_of_isPlain h) hstart

namespace StartsScalar

variable {cs : List Char}

theorem exists_cons (h : StartsScalar cs) :
    ∃ ch behind, cs = ch :: behind ∧ startsToken ch := by
  cases h with
  | single behind => exact ⟨'\'', behind, rfl, rfl⟩
  | double behind => exact ⟨'"', behind, rfl, rfl⟩
  | plain hch hstart => exact ⟨_, _, rfl, hch⟩

/-- No item, long key or bracket begins where a scalar begins. -/
theorem dispatch {c : Cursor} (h : StartsScalar c.rest) :
    c.isAt '-' = false ∧ c.isAt '?' = false ∧
      c.head? ≠ some '|' ∧ c.head? ≠ some '[' ∧ c.head? ≠ some '\x7b' ∧
        (Reader.startsNothing c && c.head? != some '\'' && c.head? != some '"') = false := by
  obtain ⟨rest, l, k⟩ := c
  cases h with
  | single behind => exact ⟨rfl, rfl, by simp [Cursor.head?], by simp [Cursor.head?],
      by simp [Cursor.head?], by simp [Cursor.head?]⟩
  | double behind => exact ⟨rfl, rfl, by simp [Cursor.head?], by simp [Cursor.head?],
      by simp [Cursor.head?], by simp [Cursor.head?]⟩
  | @plain ch behind hch hstart =>
    rw [startsStructure, Bool.or_eq_false_iff] at hstart
    obtain ⟨hindicator, halone⟩ := hstart
    have hat {d : Char} (hd : (d == '?' || d == ':' || d == '-') = true) :
        (⟨ch :: behind, l, k⟩ : Cursor).isAt d = false := by
      rw [Cursor.isAt, Bool.and_eq_false_imp]
      intro hhead
      obtain rfl : ch = d := by simpa [Cursor.head?] using hhead
      rw [hd, Bool.true_and] at halone
      exact halone
    have hne {d : Char} (hd : isIndicator d = true) :
        (⟨ch :: behind, l, k⟩ : Cursor).head? ≠ some d := by
      intro hhead
      obtain rfl : ch = d := Option.some.inj hhead
      rw [hd] at hindicator
      cases hindicator
    refine ⟨hat (by decide), hat (by decide), hne (by decide), hne (by decide), hne (by decide), ?_⟩
    have hnothing : Reader.startsNothing ⟨ch :: behind, l, k⟩ = false := by
      show (isIndicator ch || ((ch == '-' || ch == '?' || ch == ':') && endsWord behind.head?)) =
        false
      have horder :
          (ch == '-' || ch == '?' || ch == ':') = (ch == '?' || ch == ':' || ch == '-') := by
        rw [Bool.or_assoc, Bool.or_comm]
      rw [hindicator, horder, halone]
      rfl
    rw [hnothing]
    rfl

end StartsScalar

namespace Reader

variable {cs after : List Char} {indent l k : Nat}

/-! ### Scalars on their own -/

theorem scalar_plain (h : IsPlain cs) (hafter : EndsPlain after) :
    scalar false ⟨cs ++ after, l, k⟩ =
      .ok ((cs, false), (⟨cs ++ after, l, k⟩ : Cursor).skip cs.length) := by
  have hline := plainLine_append (l := l) (k := k) h hafter
  have hne {q : Char} (hq : isIndicator q = true) :
      (⟨cs ++ after, l, k⟩ : Cursor).head? ≠ some q := by
    have houter := h.outer
    cases cs with
    | nil => cases houter
    | cons ch cs =>
      intro hhead
      obtain rfl : ch = q := Option.some.inj hhead
      rw [startsStructure, hq] at houter
      cases houter
  rw [scalar]
  split
  · exact absurd ‹_› (hne (by decide))
  · exact absurd ‹_› (hne (by decide))
  · rw [hline]
    rfl

theorem scalar_single (h : IsSingle cs) (hafter : after.head? ≠ some '\'') :
    scalar false ⟨'\'' :: (singleBody indent false cs ++ '\'' :: after), l, k⟩ =
      .ok ((cs, true), (⟨'\'' :: (singleBody indent false cs ++ '\'' :: after), l, k⟩ : Cursor).skip
        ((singleBody indent false cs).length + 2)) := by
  have hfuel : cs.length < ('\'' :: (singleBody indent false cs ++ '\'' :: after)).length + 1 := by
    have := length_le_singleBody indent false cs
    simp only [List.length_cons, List.length_append]
    omega
  have hread := single_singleBody ⟨l, k⟩
    (⟨'\'' :: (singleBody indent false cs ++ '\'' :: after), l, k⟩ : Cursor).next h hfuel rfl hafter
  show (single ⟨l, k⟩ _ _ >>= fun x ↦ pure ((x.1, true), x.2)) = _
  rw [hread]
  rfl

theorem scalar_double (cs after : List Char) :
    scalar false ⟨'"' :: (cs.flatMap escape ++ '"' :: after), l, k⟩ =
      .ok ((cs, true), (⟨'"' :: (cs.flatMap escape ++ '"' :: after), l, k⟩ : Cursor).skip
        ((cs.flatMap escape).length + 2)) := by
  have hfuel : cs.length < ('"' :: (cs.flatMap escape ++ '"' :: after)).length + 1 := by
    have := length_le_flatMap_escape cs
    simp only [List.length_cons, List.length_append]
    omega
  have hread := double_flatMap_escape ⟨l, k⟩
    (⟨'"' :: (cs.flatMap escape ++ '"' :: after), l, k⟩ : Cursor).next hfuel rfl
  show (double ⟨l, k⟩ _ _ >>= fun x ↦ pure ((x.1, true), x.2)) = _
  rw [hread]
  rfl

theorem startsScalar_write {style : Style} {s : String} (h : style.Holds s)
    (hliteral : style ≠ .literal) (indent : Nat) (after : List Char) :
    StartsScalar ((write style indent s).chars ++ after) := by
  cases h with
  | plain hplain hmeans => exact hplain.startsScalar after
  | single hsingle => exact .single _
  | double s => exact .double _
  | literal hne hprintable => exact absurd rfl hliteral

/-- A text in a style that holds it is read as itself, wherever it ends. -/
theorem exists_scalar_write {style : Style} {s : String} (h : style.Holds s)
    (hliteral : style ≠ .literal) (hafter : EndsPlain after) :
    ∃ quoted, scalar false ⟨(write style indent s).chars ++ after, l, k⟩ =
        .ok ((s.toList, quoted), (⟨(write style indent s).chars ++ after, l, k⟩ : Cursor).skip
          (write style indent s).chars.length) ∧ scalarTree s.toList quoted = .string s := by
  have hquoted : scalarTree s.toList true = .string s := by
    rw [scalarTree, String.ofList_toList]
    rfl
  cases h with
  | plain hplain hmeans =>
    refine ⟨false, scalar_plain hplain hafter, ?_⟩
    rw [scalarTree, String.ofList_toList]
    exact hmeans
  | single hsingle =>
    have hwritten : (write .single indent s).chars ++ after =
        '\'' :: (singleBody indent false s.toList ++ '\'' :: after) := by
      rw [write]
      simp
    have hlength : (write .single indent s).chars.length =
        (singleBody indent false s.toList).length + 2 := by
      rw [write]
      simp
    rw [hwritten, hlength]
    exact ⟨true, scalar_single hsingle (head?_of_endsPlain hafter), hquoted⟩
  | double s =>
    have hwritten : (write .double indent s).chars ++ after =
        '"' :: (s.toList.flatMap escape ++ '"' :: after) := by
      rw [write]
      simp
    have hlength : (write .double indent s).chars.length =
        (s.toList.flatMap escape).length + 2 := by
      rw [write]
      simp
    rw [hwritten, hlength]
    exact ⟨true, scalar_double s.toList after, hquoted⟩
  | literal hne hprintable => exact absurd rfl hliteral

/-- Outside blocks, a break is written as it is only where it is no line feed. -/
theorem mem_write {style : Style} {s : String} {c : Char} (h : style.Holds s)
    (hliteral : style ≠ .literal) (hc : c ∈ (write style indent s).chars) :
    isLineChar c ∨ c ∈ s.toList ∧ isPrintable c ∧ c ≠ '\n' := by
  cases h with
  | plain hplain hmeans => exact .inl (hplain.line c hc)
  | single hsingle =>
    have hc : c ∈ ('\'' :: singleBody indent false s.toList ++ ['\'']) := hc
    simp only [List.cons_append, List.mem_cons, List.mem_append, List.not_mem_nil, or_false] at hc
    obtain rfl | hc | rfl := hc
    · exact .inl rfl
    · obtain hc | rfl | rfl := mem_singleBody hc
      · exact .inr ⟨hc, hsingle.printable c hc, fun hfeed ↦ hsingle.noFeed (hfeed ▸ hc)⟩
      · exact .inl rfl
      · exact .inl rfl
    · exact .inl rfl
  | double s =>
    have hc : c ∈ ('"' :: s.toList.flatMap escape ++ ['"']) := hc
    simp only [List.cons_append, List.mem_cons, List.mem_append, List.not_mem_nil, or_false] at hc
    obtain rfl | hc | rfl := hc
    · exact .inl rfl
    · exact .inl (isLineChar_flatMap_escape hc)
    · exact .inl rfl
  | literal hne hprintable => exact absurd rfl hliteral

/-- A text of one line is written on one line. -/
theorem isBreak_of_mem_write {style : Style} {s : String} (h : style.Holds s)
    (hliteral : style ≠ .literal) (hs : ∀ c ∈ s.toList, isBreak c = false) :
    ∀ c ∈ (write style indent s).chars, isBreak c = false := by
  intro c hc
  obtain hline | ⟨hmem, -, -⟩ := mem_write h hliteral hc
  · exact isBreak_of_isLineChar hline
  · exact hs c hmem

end Reader

end VolumeMigration.Yaml
