import Mathlib.Data.List.Basic
import VolumeMigration.Text.Ipv6

/-!
# Forms of hosts

A host is a name, an IPv4 address or an IPv6 address (`IsHost`). What matters where a host is
embedded in a text is which characters it may hold: an IPv6 literal holds hexadecimal digits, dots
and at least one colon, and nothing else (`Text.Ipv6.isLiteralChar_of_mem`,
`Text.Ipv6.colon_mem_of_isLiteral`); a host of another form holds no colon.
-/

namespace VolumeMigration

namespace Text.Ipv6

/-- A character that may stand in an IPv6 literal. -/
def isLiteralChar (c : Char) : Bool := isHexDigit c || c == ':' || c == '.'

variable {cs before after : List Char} {c sep : Char}

theorem isHexDigit_of_isDigit (h : c.isDigit = true) : isHexDigit c = true := by
  simp [isHexDigit, h]

/-- Hexadecimal digits may stand in a literal. -/
theorem isLiteralChar_of_isHexDigit (h : isHexDigit c = true) : isLiteralChar c = true := by
  simp [isLiteralChar, h]

/-! ### Parts -/

theorem mem_intercalate {parts : List (List Char)} (h : c ∈ [sep].intercalate parts) :
    c = sep ∨ ∃ part ∈ parts, c ∈ part := by
  induction parts with
  | nil => cases h
  | cons part parts ih =>
    rcases parts with _ | ⟨next, parts⟩
    · rw [List.intercalate_singleton] at h
      exact Or.inr ⟨part, List.mem_singleton_self _, h⟩
    · rw [List.intercalate_cons_cons, List.mem_append, List.mem_append, List.mem_singleton] at h
      rcases h with (h | h) | h
      · exact Or.inr ⟨part, List.mem_cons_self, h⟩
      · exact Or.inl h
      · rcases ih h with hsep | ⟨other, hother, hc⟩
        · exact Or.inl hsep
        · exact Or.inr ⟨other, List.mem_cons_of_mem _ hother, hc⟩

/-- A character is a separator or belongs to a part. -/
theorem mem_splitOn (sep : Char) (h : c ∈ cs) : c = sep ∨ ∃ part ∈ cs.splitOn sep, c ∈ part := by
  have hjoined : [sep].intercalate (cs.splitOn sep) = cs := List.intercalate_splitOn sep
  rw [← hjoined] at h
  exact mem_intercalate h

theorem isDigit_of_isOctet (h : isOctet cs = true) (hc : c ∈ cs) : c.isDigit = true := by
  unfold isOctet at h
  split at h
  next a =>
    obtain rfl := List.mem_singleton.mp hc
    exact h
  next a b =>
    simp only [Bool.and_eq_true] at h
    rcases List.mem_pair.mp hc with rfl | rfl
    · exact h.1.1
    · exact h.1.2
  next a b =>
    simp only [Bool.and_eq_true] at h
    rcases List.mem_cons.mp hc with rfl | hc
    · rfl
    · rcases List.mem_pair.mp hc with rfl | rfl
      · exact h.1
      · exact h.2
  next a b =>
    simp only [Bool.and_eq_true, Bool.or_eq_true, beq_iff_eq] at h
    rcases List.mem_cons.mp hc with rfl | hc
    · rfl
    · rcases List.mem_pair.mp hc with rfl | rfl <;> rcases h with ⟨⟨h₁, -⟩, h₂⟩ | ⟨⟨h₁, h₂⟩, -⟩
      · exact h₁
      · rw [h₁]
        rfl
      · exact h₂
      · exact h₂
  next => cases h

theorem isDigit_or_of_isDottedQuad (h : isDottedQuad cs = true) (hc : c ∈ cs) :
    c.isDigit = true ∨ c = '.' := by
  rw [isDottedQuad, Bool.and_eq_true, List.all_eq_true] at h
  rcases mem_splitOn '.' hc with hdot | ⟨octet, hoctet, hmem⟩
  · exact Or.inr hdot
  · exact Or.inl (isDigit_of_isOctet (h.2 octet hoctet) hmem)

/-- So may whatever stands in a group. -/
theorem isLiteralChar_of_isGroup (h : isGroup cs = true) (hc : c ∈ cs) :
    isLiteralChar c = true := by
  rw [isGroup, Bool.and_eq_true, List.all_eq_true] at h
  exact isLiteralChar_of_isHexDigit (h.2 c hc)

/-- And whatever stands in a quad. -/
theorem isLiteralChar_of_isDottedQuad (h : isDottedQuad cs = true) (hc : c ∈ cs) :
    isLiteralChar c = true := by
  rcases isDigit_or_of_isDottedQuad h hc with hdigit | rfl
  · exact isLiteralChar_of_isHexDigit (isHexDigit_of_isDigit hdigit)
  · rfl

/-- Before the last part there are groups only. -/
theorem groupCount?_cons {first : List Char} {rest : List (List Char)} {n : Nat}
    (h : groupCount? (first :: rest) = some n) :
    (isGroup first = true ∧ ∃ k, groupCount? rest = some k ∧ n = k + 1) ∨
      (rest = [] ∧ isDottedQuad first = true ∧ n = 2) := by
  rcases rest with _ | ⟨next, rest⟩
  · rw [groupCount?] at h
    split at h
    next hgroup => exact Or.inl ⟨hgroup, 0, rfl, (Option.some.inj h).symm⟩
    next =>
      split at h
      next hquad => exact Or.inr ⟨rfl, hquad, (Option.some.inj h).symm⟩
      next => cases h
  · rw [groupCount?.eq_3 _ _ (List.cons_ne_nil next rest)] at h
    split at h
    next hgroup =>
      obtain ⟨k, hk, rfl⟩ := Option.map_eq_some_iff.mp h
      exact Or.inl ⟨hgroup, k, hk, rfl⟩
    next => cases h

/-- And whatever stands in parts that are counted as groups. -/
theorem isLiteralChar_of_groupCount? {parts : List (List Char)} {n : Nat}
    (h : groupCount? parts = some n) {part : List Char} (hpart : part ∈ parts) (hc : c ∈ part) :
    isLiteralChar c = true := by
  induction parts generalizing n with
  | nil => cases hpart
  | cons first rest ih =>
    rcases groupCount?_cons h with ⟨hgroup, k, hk, -⟩ | ⟨rfl, hquad, -⟩
    · rcases List.mem_cons.mp hpart with rfl | hrest
      · exact isLiteralChar_of_isGroup hgroup hc
      · exact ih hk hrest
    · obtain rfl := List.mem_singleton.mp hpart
      exact isLiteralChar_of_isDottedQuad hquad hc

theorem isLiteralChar_of_parts {n : Nat} (h : groupCount? (parts cs) = some n) (hc : c ∈ cs) :
    isLiteralChar c = true := by
  have hparts : parts cs = cs.splitOn ':' := if_neg (by simpa using List.ne_nil_of_mem hc)
  rw [hparts] at h
  rcases mem_splitOn ':' hc with rfl | ⟨part, hpart, hmem⟩
  · rfl
  · exact isLiteralChar_of_groupCount? h hpart hmem

/-! ### Literals -/

/-- Where a text is cut at a gap, the gap stands. -/
theorem splitAtGap?_eq_some (h : splitAtGap? cs = some (before, after)) :
    cs = before ++ ':' :: ':' :: after := by
  induction cs using splitAtGap?.induct generalizing before with
  | case1 cs =>
    rw [splitAtGap?] at h
    obtain ⟨rfl, rfl⟩ := Prod.mk.inj (Option.some.inj h)
    rfl
  | case2 c cs hgap ih =>
    rw [splitAtGap?.eq_2 _ _ hgap, Option.map_eq_some_iff] at h
    obtain ⟨⟨before', after'⟩, hsplit, heq⟩ := h
    obtain ⟨rfl, rfl⟩ := Prod.mk.inj heq
    rw [ih hsplit]
    rfl
  | case3 => cases h

/-- An IPv6 literal holds nothing but hexadecimal digits, colons and dots. -/
theorem isLiteralChar_of_mem (h : isLiteral cs = true) (hc : c ∈ cs) : isLiteralChar c = true := by
  unfold isLiteral at h
  split at h
  next => exact isLiteralChar_of_parts (by simpa using h) hc
  next before after hgap =>
    split at h
    next => cases h
    next n hcount =>
      rw [Bool.and_eq_true, List.all_eq_true] at h
      rw [splitAtGap?_eq_some hgap, List.mem_append, List.mem_cons, List.mem_cons] at hc
      rcases hc with hbefore | rfl | rfl | hafter
      · have hparts : parts before = before.splitOn ':' :=
          if_neg (by simpa using List.ne_nil_of_mem hbefore)
        rcases mem_splitOn ':' hbefore with rfl | ⟨part, hpart, hmem⟩
        · rfl
        · exact isLiteralChar_of_isGroup (h.1 part (hparts ▸ hpart)) hmem
      · rfl
      · rfl
      · exact isLiteralChar_of_parts hcount hafter

/-- An IPv6 literal has a colon in it. -/
theorem colon_mem_of_isLiteral (h : isLiteral cs = true) : ':' ∈ cs := by
  unfold isLiteral at h
  split at h
  next =>
    by_contra hcolon
    have hparts : parts cs = [] ∨ parts cs = [cs] := by
      unfold parts
      split
      · exact Or.inl rfl
      · exact Or.inr (List.splitOn_eq_singleton hcolon)
    have hcount : groupCount? (parts cs) = some 8 := by simpa using h
    rcases hparts with hnone | hone
    · rw [hnone] at hcount
      cases hcount
    · rw [hone] at hcount
      rcases groupCount?_cons hcount with ⟨-, k, hk, hsum⟩ | ⟨-, -, hsum⟩
      · obtain rfl : 0 = k := Option.some.inj hk
        omega
      · omega
  next before after hgap =>
    rw [splitAtGap?_eq_some hgap]
    simp

end Text.Ipv6

/-- The forms of a host. -/
inductive IsHost (host : String) : Prop where
  /-- A name in a domain, of labels between dots. -/
  | name : host ≠ "" → (∀ c ∈ host.toList, c.isAlphanum = true ∨ c ∈ ['-', '_', '.']) → IsHost host
  | ipv4 : Text.Ipv6.isDottedQuad host.toList = true → IsHost host
  | ipv6 : Text.Ipv6.isLiteral host.toList = true → IsHost host

namespace IsHost

variable {host : String} {c : Char}

/-- A character that may stand in a host. -/
def admits (c : Char) : Bool :=
  c.isAlphanum || ['-', '_', '.'].contains c || Text.Ipv6.isLiteralChar c

theorem admits_of_mem (h : IsHost host) (hc : c ∈ host.toList) : admits c = true := by
  rw [admits, Bool.or_eq_true, Bool.or_eq_true, List.contains_iff_mem]
  cases h with
  | name _ hall => exact Or.inl (hall c hc)
  | ipv4 hquad => exact Or.inr (Text.Ipv6.isLiteralChar_of_isDottedQuad hquad hc)
  | ipv6 hliteral => exact Or.inr (Text.Ipv6.isLiteralChar_of_mem hliteral hc)

theorem ne_empty (h : IsHost host) : host ≠ "" := by
  rintro rfl
  cases h with
  | name hne _ => exact hne rfl
  | ipv4 hquad => exact absurd hquad (by decide)
  | ipv6 hliteral => exact absurd hliteral (by decide)

/-- A host without brackets around it holds none, and no NUL. -/
theorem not_mem (h : IsHost host) (hc : c ∈ ['[', ']', '\x00']) : c ∉ host.toList := by
  intro hmem
  have hadmits : admits c = true := h.admits_of_mem hmem
  have hnone : admits c = false := by
    simp only [List.mem_cons, List.not_mem_nil, or_false] at hc
    rcases hc with rfl | rfl | rfl <;> rfl
  rw [hnone] at hadmits
  cases hadmits

/-- A host that is bracketed is still there. -/
theorem bracketed_ne_empty (h : IsHost host) : Text.Ipv6.bracketed host ≠ "" := by
  unfold Text.Ipv6.bracketed
  split
  next =>
    intro hempty
    have hlist := congrArg String.toList hempty
    simp at hlist
  next => exact h.ne_empty

theorem nul_not_mem_bracketed (h : IsHost host) :
    '\x00' ∉ (Text.Ipv6.bracketed host).toList := by
  have hnul : '\x00' ∉ host.toList := h.not_mem (by simp)
  unfold Text.Ipv6.bracketed
  split
  next => simp [hnul]
  next => exact hnul

/-- Only IPv6 literals have colons. -/
theorem isLiteral_of_colon_mem (h : IsHost host) (hcolon : ':' ∈ host.toList) :
    Text.Ipv6.isLiteral host.toList = true := by
  cases h with
  | name _ hall => exact absurd (hall ':' hcolon) (by decide)
  | ipv4 hquad => exact absurd (Text.Ipv6.isDigit_or_of_isDottedQuad hquad hcolon) (by decide)
  | ipv6 hliteral => exact hliteral

end IsHost

end VolumeMigration
