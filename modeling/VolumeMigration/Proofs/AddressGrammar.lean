import VolumeMigration.Proofs.HostForms
import VolumeMigration.Proofs.Numerals

/-!
# The grammar of IPv6 literals

What an IPv6 literal is, said without a reader (`IsAddress`): eight groups of one to four
hexadecimal digits between colons, or at most seven with one `::` among them, in front of them or
behind them; the last two groups may be written as four decimal octets, but only at the very end.

`Text.Ipv6.isLiteral` decides this grammar (`isLiteral_iff_isAddress`). It cuts a text at its first
`::`, and the literal is accepted by what stands on either side. That the first `::` is the only
one, so that there is no other way to cut, is a property of the grammar (`eq_of_gap_eq`): groups
are not empty, so no further colon stands beside the two.
-/

namespace VolumeMigration.Text.Ipv6

/-! ### The grammar -/

/-- The hexadecimal digits, of either case. -/
def hexDigits : List Char := "0123456789abcdefABCDEF".toList

/-- One to four hexadecimal digits. -/
structure IsGroup (cs : List Char) : Prop where
  ne_nil : cs ≠ []
  length_le : cs.length ≤ 4
  digits : ∀ c ∈ cs, c ∈ hexDigits

/-- The numeral of a number up to 255, which has no leading zeros. -/
def IsOctet (cs : List Char) : Prop := ∃ n ≤ 255, cs = Nat.toDigits 10 n

/-- Four octets between dots. -/
def IsQuad (cs : List Char) : Prop :=
  ∃ a b c d, IsOctet a ∧ IsOctet b ∧ IsOctet c ∧ IsOctet d ∧
    cs = a ++ '.' :: (b ++ '.' :: (c ++ '.' :: d))

/-- Parts that amount to so many groups. The last part may be a quad, which counts twice. -/
inductive Amounts : List (List Char) → Nat → Prop
  | nil : Amounts [] 0
  | quad {part : List Char} (hpart : IsQuad part) : Amounts [part] 2
  | group {part : List Char} {parts : List (List Char)} {n : Nat} (hpart : IsGroup part)
      (hparts : Amounts parts n) : Amounts (part :: parts) (n + 1)

/-- Parts with a colon between each two of them. -/
def joined (parts : List (List Char)) : List Char := [':'].intercalate parts

/-- An IPv6 literal. -/
inductive IsAddress : List Char → Prop
  /-- All eight groups are there. -/
  | full {parts : List (List Char)} (hparts : Amounts parts 8) : IsAddress (joined parts)
  /-- One group at least is left out, and a gap stands in its place. -/
  | gapped {front back : List (List Char)} {n : Nat} (hfront : ∀ part ∈ front, IsGroup part)
      (hback : Amounts back n) (hle : front.length + n ≤ 7) :
      IsAddress (joined front ++ ':' :: ':' :: joined back)

section

variable {cs part before after rest : List Char} {parts front back : List (List Char)} {c : Char}
  {n : Nat}

/-! ### Digits, octets and quads -/

/-- The reader's digits are those of the list. -/
theorem isHexDigit_iff_mem : isHexDigit c = true ↔ c ∈ hexDigits := by
  constructor
  · intro hc
    have hrange : c.toNat < 128 := by
      simp only [isHexDigit, Char.isDigit, Char.le_def, Bool.or_eq_true, Bool.and_eq_true,
        decide_eq_true_eq, UInt32.le_iff_toNat_le] at hc
      have hdigit : '9'.val.toNat = 57 := rfl
      have hlower : 'f'.val.toNat = 102 := rfl
      have hupper : 'F'.val.toNat = 70 := rfl
      show c.val.toNat < 128
      omega
    have hall : ∀ n : Fin 128, isHexDigit (Char.ofNat n) = true → Char.ofNat n ∈ hexDigits := by
      decide
    rw [← Char.ofNat_toNat c] at hc ⊢
    exact hall ⟨c.toNat, hrange⟩ hc
  · intro hc
    have hall : hexDigits.all isHexDigit = true := by decide
    exact List.all_eq_true.mp hall c hc

/-- The reader's groups are those of the grammar. -/
theorem isGroup_iff : isGroup cs = true ↔ IsGroup cs := by
  simp only [isGroup, Bool.and_eq_true, Bool.not_eq_true', List.isEmpty_eq_false_iff,
    decide_eq_true_eq, List.all_eq_true, isHexDigit_iff_mem]
  constructor
  · intro h
    exact { ne_nil := h.1.1, length_le := h.1.2, digits := h.2 }
  · intro h
    exact ⟨⟨h.ne_nil, h.length_le⟩, h.digits⟩

open Numeral in
/-- An octet is a numeral of a small value. -/
theorem isOctet_iff_isNumeral : IsOctet cs ↔ IsNumeral cs ∧ Nat.ofDigitChars 10 cs 0 ≤ 255 := by
  constructor
  · rintro ⟨n, hn, rfl⟩
    rw [Nat.ofDigitChars_toDigits (by decide) (by decide)]
    exact ⟨isNumeral_toDigits n, hn⟩
  · rintro ⟨hnumeral, hvalue⟩
    exact ⟨_, hvalue, (toDigits_ofDigitChars hnumeral).symm⟩

/-- The reader's octets are the numerals up to 255. -/
theorem isOctet_iff : isOctet cs = true ↔ IsOctet cs := by
  constructor
  · intro h
    have hdigits : ∀ c ∈ cs, c.isDigit = true := fun c ↦ isDigit_of_isOctet h
    have hvalues : ∀ c ∈ cs, c.toNat - '0'.toNat < 10 := fun c hc ↦ Numeral.digit_lt (hdigits c hc)
    rw [isOctet_iff_isNumeral]
    unfold isOctet at h
    split at h
    any_goals
      simp only [List.forall_mem_cons, List.not_mem_nil, false_imp_iff, implies_true, and_true,
        Nat.ofDigitChars_cons, Nat.ofDigitChars_nil] at hvalues ⊢
    next a =>
      refine ⟨⟨List.cons_ne_nil _ _, hdigits, fun hlong ↦ absurd hlong (by simp)⟩, ?_⟩
      omega
    next a b =>
      simp only [Bool.and_eq_true, bne_iff_ne] at h
      refine ⟨⟨List.cons_ne_nil _ _, hdigits, fun _ ↦ by simpa using h.2⟩, ?_⟩
      omega
    next b c =>
      refine ⟨⟨List.cons_ne_nil _ _, hdigits, fun _ ↦ by simp⟩, ?_⟩
      show 10 * (10 * (10 * 0 + 1) + _) + _ ≤ 255
      omega
    next b c =>
      refine ⟨⟨List.cons_ne_nil _ _, hdigits, fun _ ↦ by simp⟩, ?_⟩
      show 10 * (10 * (10 * 0 + 2) + (b.toNat - 48)) + (c.toNat - 48) ≤ 255
      simp only [Bool.or_eq_true, Bool.and_eq_true, decide_eq_true_eq, beq_iff_eq, Char.lt_def,
        Char.le_def, UInt32.lt_iff_toNat_lt, UInt32.le_iff_toNat_le] at h
      have hfive : '5'.val.toNat = 53 := rfl
      rcases h with ⟨⟨-, hb⟩, -⟩ | ⟨⟨rfl, -⟩, hc⟩
      · have hb' : b.toNat < 53 := hb
        have hc' : c.toNat - 48 < 10 := hvalues.2.2
        omega
      · have hc' : c.toNat ≤ 53 := hc
        show 10 * (10 * (10 * 0 + 2) + 5) + (c.toNat - 48) ≤ 255
        omega
    next => cases h
  · rintro ⟨n, hn, rfl⟩
    have hall : ∀ n ≤ 255, isOctet (Nat.toDigits 10 n) = true := by decide +kernel
    exact hall n hn

theorem IsOctet.isDigit (h : IsOctet cs) (hc : c ∈ cs) : c.isDigit = true := by
  obtain ⟨n, -, rfl⟩ := h
  exact Numeral.isDigit_of_mem_toDigits hc

theorem IsOctet.dot_not_mem (h : IsOctet cs) : '.' ∉ cs :=
  fun hdot ↦ absurd (h.isDigit hdot) (by decide)

/-- The reader's quads are four octets between dots: an octet has no dot, so there is one way to
cut. -/
theorem isDottedQuad_iff : isDottedQuad cs = true ↔ IsQuad cs := by
  rw [isDottedQuad, Bool.and_eq_true, beq_iff_eq, List.all_eq_true, List.length_eq_four]
  constructor
  · rintro ⟨⟨a, b, c, d, hsplit⟩, hoctets⟩
    rw [hsplit] at hoctets
    simp only [List.forall_mem_cons, isOctet_iff] at hoctets
    obtain ⟨ha, hb, hc, hd, -⟩ := hoctets
    refine ⟨a, b, c, d, ha, hb, hc, hd, ?_⟩
    have hcs : ['.'].intercalate (cs.splitOn '.') = cs := List.intercalate_splitOn '.'
    rw [← hcs, hsplit]
    simp
  · rintro ⟨a, b, c, d, ha, hb, hc, hd, rfl⟩
    have hcs : a ++ '.' :: (b ++ '.' :: (c ++ '.' :: d)) = ['.'].intercalate [a, b, c, d] := by
      simp
    have hsplit : (['.'].intercalate [a, b, c, d]).splitOn '.' = [a, b, c, d] := by
      refine List.splitOn_intercalate '.' ?_ (by simp)
      simp [ha.dot_not_mem, hb.dot_not_mem, hc.dot_not_mem, hd.dot_not_mem]
    rw [hcs, hsplit]
    exact ⟨⟨a, b, c, d, rfl⟩, by simp [isOctet_iff, ha, hb, hc, hd]⟩

/-! ### Parts -/

/-- Something without colons. -/
structure IsPart (cs : List Char) : Prop where
  ne_nil : cs ≠ []
  colon_not_mem : ':' ∉ cs

theorem IsGroup.isPart (h : IsGroup cs) : IsPart cs where
  ne_nil := h.ne_nil
  colon_not_mem hcolon := absurd (h.digits ':' hcolon) (by decide)

/-- A dot tells a quad from a group. -/
theorem IsGroup.dot_not_mem (h : IsGroup cs) : '.' ∉ cs :=
  fun hdot ↦ absurd (h.digits '.' hdot) (by decide)

theorem IsQuad.dot_mem (h : IsQuad cs) : '.' ∈ cs := by
  obtain ⟨a, b, c, d, -, -, -, -, rfl⟩ := h
  simp

theorem IsQuad.isPart (h : IsQuad cs) : IsPart cs where
  ne_nil := List.ne_nil_of_mem h.dot_mem
  colon_not_mem hcolon :=
    absurd (isDigit_or_of_isDottedQuad (isDottedQuad_iff.mpr h) hcolon) (by decide)

/-- Groups and quads are neither empty nor do they hold a colon. -/
theorem Amounts.isPart (h : Amounts parts n) : ∀ part ∈ parts, IsPart part := by
  induction h with
  | nil => exact fun _ hpart ↦ absurd hpart List.not_mem_nil
  | quad hquad => exact List.forall_mem_singleton.mpr hquad.isPart
  | group hgroup _ ih => exact List.forall_mem_cons.mpr ⟨hgroup.isPart, ih⟩

/-- The reader counts as the grammar does. A part is not both, so its two tests do not compete. -/
theorem groupCount?_eq_some_iff : groupCount? parts = some n ↔ Amounts parts n := by
  constructor
  · intro h
    induction parts generalizing n with
    | nil =>
      obtain rfl : 0 = n := Option.some.inj h
      exact .nil
    | cons part parts ih =>
      rcases groupCount?_cons h with ⟨hgroup, k, hk, rfl⟩ | ⟨rfl, hquad, rfl⟩
      · exact .group (isGroup_iff.mp hgroup) (ih hk)
      · exact .quad (isDottedQuad_iff.mp hquad)
  · intro h
    induction h with
    | nil => rfl
    | @quad part hquad =>
      have hgroup : ¬isGroup part = true :=
        fun h ↦ (isGroup_iff.mp h).dot_not_mem hquad.dot_mem
      rw [groupCount?, if_neg hgroup, if_pos (isDottedQuad_iff.mpr hquad)]
    | @group part parts n hgroup hparts ih =>
      rcases parts with _ | ⟨next, parts⟩
      · obtain rfl : 0 = n := Option.some.inj ih
        rw [groupCount?, if_pos (isGroup_iff.mpr hgroup)]
      · rw [groupCount?.eq_3 _ _ (List.cons_ne_nil next parts), if_pos (isGroup_iff.mpr hgroup),
          ih]
        rfl

/-! ### Joining and splitting -/

theorem joined_cons (part : List Char) (parts : List (List Char)) :
    joined (part :: parts) = part ++ parts.flatMap (':' :: ·) := by
  induction parts generalizing part with
  | nil => simp [joined]
  | cons next parts ih =>
    have hnext : [':'].intercalate (next :: parts) = next ++ parts.flatMap (':' :: ·) := ih next
    rw [joined, List.intercalate_cons_cons, hnext]
    simp

/-- To cut at the colons and to join again changes nothing. -/
theorem joined_parts (cs : List Char) : joined (Ipv6.parts cs) = cs := by
  unfold Ipv6.parts
  split
  next hempty => exact (List.isEmpty_iff.mp hempty).symm
  next => exact List.intercalate_splitOn ':'

theorem splitOn_joined (hparts : ∀ part ∈ parts, IsPart part) (hne : parts ≠ []) :
    (joined parts).splitOn ':' = parts :=
  List.splitOn_intercalate ':' (fun part hpart ↦ (hparts part hpart).colon_not_mem) hne

/-- Parts that were joined are found again. -/
theorem parts_joined (hparts : ∀ part ∈ parts, IsPart part) :
    Ipv6.parts (joined parts) = parts := by
  rcases parts with _ | ⟨part, others⟩
  · rfl
  · have hne : joined (part :: others) ≠ [] := by
      rw [joined_cons]
      exact List.append_ne_nil_of_left_ne_nil (hparts part List.mem_cons_self).ne_nil _
    rw [Ipv6.parts, if_neg (by simpa using hne), splitOn_joined hparts (List.cons_ne_nil _ _)]

/-! ### Gaps -/

/-- A colon cuts a text in two, whatever stands on either side. -/
theorem splitOn_append_colon (before after : List Char) :
    (before ++ ':' :: after).splitOn ':' = before.splitOn ':' ++ after.splitOn ':' :=
  List.splitOnP_append_cons before after rfl

/-- No colon that has nothing on one side of it stands between parts. -/
theorem nil_not_mem_splitOn_joined (hparts : ∀ part ∈ parts, IsPart part) (hcs : cs ≠ [])
    (hjoined : joined parts = cs) : [] ∉ cs.splitOn ':' := by
  have hne : parts ≠ [] := by
    rintro rfl
    exact hcs hjoined.symm
  rw [← hjoined, splitOn_joined hparts hne]
  exact fun hnil ↦ (hparts [] hnil).ne_nil rfl

/-- What is joined does not start by a colon. -/
theorem joined_ne_colon_cons (hparts : ∀ part ∈ parts, IsPart part) (after : List Char) :
    joined parts ≠ ':' :: after := by
  intro hjoined
  refine nil_not_mem_splitOn_joined hparts (List.cons_ne_nil _ _) hjoined ?_
  have hsplit := splitOn_append_colon [] after
  rw [List.nil_append] at hsplit
  rw [hsplit]
  exact List.mem_append_left _ (List.mem_singleton_self _)

/-- What is joined does not end by a colon. -/
theorem joined_ne_concat_colon (hparts : ∀ part ∈ parts, IsPart part) (before : List Char) :
    joined parts ≠ before ++ [':'] := by
  intro hjoined
  refine nil_not_mem_splitOn_joined hparts (by simp) hjoined ?_
  rw [splitOn_append_colon]
  exact List.mem_append_right _ (List.mem_singleton_self _)

/-- What is joined has no gap. -/
theorem joined_ne_gap (hparts : ∀ part ∈ parts, IsPart part) (before after : List Char) :
    joined parts ≠ before ++ ':' :: ':' :: after := by
  intro hjoined
  refine nil_not_mem_splitOn_joined hparts (by simp) hjoined ?_
  have hsplit := splitOn_append_colon [] after
  rw [List.nil_append] at hsplit
  rw [splitOn_append_colon, hsplit]
  exact List.mem_append_right _ (List.mem_append_left _ (List.mem_singleton_self _))

/-- There is one way only to cut a text at a gap between parts. -/
theorem eq_of_gap_eq (hfront : ∀ part ∈ front, IsPart part) (hback : ∀ part ∈ back, IsPart part)
    (h : joined front ++ ':' :: ':' :: joined back = before ++ ':' :: ':' :: after) :
    before = joined front ∧ after = joined back := by
  rcases List.append_eq_append_iff.mp h with ⟨between, hbefore, hrest⟩ | ⟨between, hjoined, hrest⟩
  -- the other gap begins later, in the first one or behind it
  · rcases between with _ | ⟨x, _ | ⟨y, between⟩⟩
    · rw [List.nil_append, List.cons.injEq, List.cons.injEq] at hrest
      exact ⟨hbefore.trans (List.append_nil _), hrest.2.2.symm⟩
    · simp only [List.singleton_append, List.cons.injEq] at hrest
      exact absurd hrest.2.2 (joined_ne_colon_cons hback after)
    · simp only [List.cons_append, List.cons.injEq] at hrest
      exact absurd hrest.2.2 (joined_ne_gap hback between after)
  -- it begins earlier
  · rcases between with _ | ⟨x, _ | ⟨y, between⟩⟩
    · rw [List.nil_append, List.cons.injEq, List.cons.injEq] at hrest
      exact ⟨(hjoined.trans (List.append_nil _)).symm, hrest.2.2⟩
    · simp only [List.singleton_append, List.cons.injEq] at hrest
      rw [← hrest.1] at hjoined
      exact absurd hjoined (joined_ne_concat_colon hfront before)
    · simp only [List.cons_append, List.cons.injEq] at hrest
      rw [← hrest.1, ← hrest.2.1] at hjoined
      exact absurd hjoined (joined_ne_gap hfront before between)

/-- Whether a gap stands at a place. -/
def GapAt (cs : List Char) (place : Nat) : Prop := [':', ':'] <+: cs.drop place

theorem GapAt.eq_append {place : Nat} (h : GapAt cs place) :
    ∃ after, cs = cs.take place ++ ':' :: ':' :: after ∧ (cs.take place).length = place := by
  obtain ⟨after, hafter⟩ := h
  refine ⟨after, ?_, ?_⟩
  · have hcut := List.take_append_drop place cs
    rw [← hafter] at hcut
    exact hcut.symm
  · have hlength := congrArg List.length hafter
    simp only [List.length_append, List.length_cons, List.length_nil, List.length_drop] at hlength
    rw [List.length_take]
    omega

/-- A literal has no second gap. -/
theorem IsAddress.gapAt_unique (h : IsAddress cs) {p q : Nat} (hp : GapAt cs p) (hq : GapAt cs q) :
    p = q := by
  obtain ⟨afterP, hcutP, hlengthP⟩ := hp.eq_append
  obtain ⟨afterQ, hcutQ, hlengthQ⟩ := hq.eq_append
  cases h with
  | full hparts => exact absurd hcutP (joined_ne_gap hparts.isPart _ _)
  | gapped hfront hback _ =>
    have hfront' := fun part hpart ↦ (hfront part hpart).isPart
    have hsameP := (eq_of_gap_eq hfront' hback.isPart hcutP).1
    have hsameQ := (eq_of_gap_eq hfront' hback.isPart hcutQ).1
    rw [← hlengthP, ← hlengthQ, hsameP, hsameQ]

/-! ### The decision -/

/-- A text with a gap is cut somewhere. -/
theorem exists_splitAtGap? (before after : List Char) :
    ∃ front back, splitAtGap? (before ++ ':' :: ':' :: after) = some (front, back) := by
  induction before with
  | nil => exact ⟨[], after, rfl⟩
  | cons c before ih =>
    obtain ⟨front, back, hsplit⟩ := ih
    rw [List.cons_append, splitAtGap?.eq_def]
    split
    next => exact ⟨_, _, rfl⟩
    next heq =>
      obtain ⟨rfl, rfl⟩ := List.cons.inj heq
      exact ⟨c :: front, back, by rw [hsplit]; rfl⟩
    next heq => exact absurd heq (List.cons_ne_nil _ _)

/-- Where the grammar has a gap, the reader cuts. -/
theorem splitAtGap?_gap (hfront : ∀ part ∈ front, IsPart part)
    (hback : ∀ part ∈ back, IsPart part) :
    splitAtGap? (joined front ++ ':' :: ':' :: joined back) = some (joined front, joined back) := by
  obtain ⟨before, after, hsplit⟩ := exists_splitAtGap? (joined front) (joined back)
  obtain ⟨rfl, rfl⟩ := eq_of_gap_eq hfront hback (splitAtGap?_eq_some hsplit)
  exact hsplit

/-- Where the grammar has none, the reader does not cut. -/
theorem splitAtGap?_joined (hparts : ∀ part ∈ parts, IsPart part) :
    splitAtGap? (joined parts) = none := by
  refine Option.eq_none_iff_forall_ne_some.mpr fun ⟨before, after⟩ hsplit ↦ ?_
  exact joined_ne_gap hparts before after (splitAtGap?_eq_some hsplit)

/-- The reader accepts exactly the literals of the grammar. -/
theorem isLiteral_iff_isAddress : isLiteral cs = true ↔ IsAddress cs := by
  constructor
  · intro h
    unfold isLiteral at h
    split at h
    next =>
      have hparts := groupCount?_eq_some_iff.mp (beq_iff_eq.mp h)
      rw [← joined_parts cs]
      exact .full hparts
    next before after hsplit =>
      split at h
      next => cases h
      next n hcount =>
        rw [Bool.and_eq_true, List.all_eq_true, decide_eq_true_eq] at h
        have hfront : ∀ part ∈ Ipv6.parts before, IsGroup part :=
          fun part hpart ↦ isGroup_iff.mp (h.1 part hpart)
        rw [splitAtGap?_eq_some hsplit, ← joined_parts before, ← joined_parts after]
        exact .gapped hfront (groupCount?_eq_some_iff.mp hcount) h.2
  · intro h
    cases h with
    | full hparts =>
      rw [isLiteral, splitAtGap?_joined hparts.isPart]
      show (groupCount? _ == some 8) = true
      rw [parts_joined hparts.isPart, groupCount?_eq_some_iff.mpr hparts]
      rfl
    | gapped hfront hback hle =>
      have hfront' := fun part hpart ↦ (hfront part hpart).isPart
      simp only [isLiteral, splitAtGap?_gap hfront' hback.isPart, parts_joined hback.isPart,
        groupCount?_eq_some_iff.mpr hback, parts_joined hfront', Bool.and_eq_true,
        List.all_eq_true, decide_eq_true_eq]
      exact ⟨fun part hpart ↦ isGroup_iff.mpr (hfront part hpart), hle⟩

instance : DecidablePred IsAddress := fun _ ↦ decidable_of_iff _ isLiteral_iff_isAddress

/-- A quad counts twice, and its place is the end. -/
example : IsAddress "1:2::3:4:5:1.2.3.4".toList ∧ ¬IsAddress "1:2:3::4:5:6:1.2.3.4".toList ∧
    ¬IsAddress "1:2:1.2.3.4::".toList := by decide

/-- A literal holds nothing but digits, colons and dots. -/
theorem IsAddress.of_mem (h : IsAddress cs) (hc : c ∈ cs) : c ∈ hexDigits ∨ c = ':' ∨ c = '.' := by
  have hliteral := isLiteralChar_of_mem (isLiteral_iff_isAddress.mpr h) hc
  simpa only [isLiteralChar, Bool.or_eq_true, beq_iff_eq, isHexDigit_iff_mem, or_assoc]
    using hliteral

/-- Every literal holds a colon, which no name and no IPv4 address does. -/
theorem IsAddress.colon_mem (h : IsAddress cs) : ':' ∈ cs :=
  colon_mem_of_isLiteral (isLiteral_iff_isAddress.mpr h)

end

end VolumeMigration.Text.Ipv6
