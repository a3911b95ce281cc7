import Mathlib.Data.List.TakeWhile
import VolumeMigration.Proofs.AddressGrammar

/-!
# Reading IPv6 literals from left to right

The usual reader of IPv6 addresses (`Reader.accepts`) never looks ahead and never goes back by
more than one part. It takes as many digits as there are, tries a quad wherever two groups would
fit before it tries a group, stops where neither is found, expects a gap there unless eight groups
are complete, and goes on in the same way behind the gap, with room for one group less than are
missing. It accepts a text of which nothing is left then.

Taking what comes first is never a mistake (`take_complete`): a group is not the beginning of a
quad, since a group is followed by a colon where an octet would be followed by a dot. So the
reader accepts the literals of the grammar and nothing else (`accepts_iff_isAddress`), and hosts
are bracketed by the reader's decision (`bracketed_exact`).
-/

namespace VolumeMigration.Text.Ipv6

namespace Reader

/-! ### The reader -/

/-- Takes all digits that a text starts with, of which there must be one and at most so many. -/
def digits? (isDigit : Char → Bool) (most : Nat) (cs : List Char) :
    Option (List Char × List Char) :=
  let digits := cs.takeWhile isDigit
  if digits.isEmpty || most < digits.length then none else some (digits, cs.dropWhile isDigit)

/-- Takes a group. -/
def group? (cs : List Char) : Option (List Char) := (digits? isHexDigit 4 cs).map (·.2)

/-- Takes an octet. -/
def octet? (cs : List Char) : Option (List Char) := do
  let (digits, rest) ← digits? Char.isDigit 3 cs
  if 1 < digits.length ∧ digits.head? = some '0' then none
  else if 255 < Nat.ofDigitChars 10 digits 0 then none
  else some rest

/-- Takes this character. -/
def char? (c : Char) : List Char → Option (List Char)
  | [] => none
  | d :: rest => if d = c then some rest else none

/-- Takes a quad. -/
def quad? (cs : List Char) : Option (List Char) := do
  let second ← char? '.' (← octet? cs)
  let third ← char? '.' (← octet? second)
  let fourth ← char? '.' (← octet? third)
  octet? fourth

/-- What was taken off a text, and what is left of it. -/
structure Taken where
  /-- The number of groups. -/
  count : Nat
  endsInQuad : Bool := false
  rest : List Char

/-- Takes groups as long as there are any and there is room for them, with a colon before each
but the first. A quad takes the room of two and is the last. -/
def take : Nat → Bool → List Char → Taken
  | 0, _, cs => { count := 0, rest := cs }
  | room + 1, isFirst, cs =>
    let start := if isFirst then some cs else char? ':' cs
    match if 0 < room then start.bind quad? else none with
    | some rest => { count := 2, endsInQuad := true, rest }
    | none =>
      match start.bind group? with
      | none => { count := 0, rest := cs }
      | some rest =>
        let others := take room false rest
        { others with count := others.count + 1 }

/-- Whether a text is read as an IPv6 address. -/
def accepts (cs : List Char) : Bool :=
  let front := take 8 true cs
  if front.count = 8 then front.rest.isEmpty
  else if front.endsInQuad then false
  else
    match front.rest with
    | ':' :: ':' :: rest => (take (7 - front.count) true rest).rest.isEmpty
    | _ => false

/-! ### What it takes -/

section

variable {cs rest part : List Char} {parts : List (List Char)} {c : Char} {n room : Nat}
  {isDigit : Char → Bool} {most : Nat} {digits : List Char} {isFirst : Bool}

/-- Whether a text does not go on with a digit. -/
def EndsDigits (isDigit : Char → Bool) (rest : List Char) : Prop :=
  ∀ c ∈ rest.head?, isDigit c = false

theorem digits?_eq_some_iff : digits? isDigit most cs = some (digits, rest) ↔
    cs = digits ++ rest ∧ digits ≠ [] ∧ digits.length ≤ most ∧ (∀ c ∈ digits, isDigit c = true) ∧
      EndsDigits isDigit rest := by
  simp only [digits?, Option.ite_none_left_eq_some, Bool.or_eq_true, List.isEmpty_iff,
    decide_eq_true_eq, not_or, Nat.not_lt, Option.some.injEq, Prod.mk.injEq]
  constructor
  · rintro ⟨⟨hne, hle⟩, rfl, rfl⟩
    refine ⟨List.takeWhile_append_dropWhile.symm, hne, hle, fun c ↦ List.mem_takeWhile_imp, ?_⟩
    intro c hc
    have hnot := List.head?_dropWhile_not isDigit cs
    rw [Option.mem_def.mp hc] at hnot
    exact hnot
  · rintro ⟨rfl, hne, hle, hdigits, hends⟩
    have hnone : rest.takeWhile isDigit = [] ∧ rest.dropWhile isDigit = rest := by
      rcases rest with _ | ⟨c, rest⟩
      · exact ⟨rfl, rfl⟩
      · have hc : ¬isDigit c = true := Bool.eq_false_iff.mp (hends c rfl)
        exact ⟨List.takeWhile_cons_of_neg hc, List.dropWhile_cons_of_neg hc⟩
    rw [List.takeWhile_append_of_pos hdigits, List.dropWhile_append_of_pos hdigits, hnone.1,
      hnone.2, List.append_nil]
    exact ⟨⟨hne, hle⟩, rfl, rfl⟩

theorem group?_eq_some_iff : group? cs = some rest ↔
    ∃ part, IsGroup part ∧ cs = part ++ rest ∧ EndsDigits isHexDigit rest := by
  simp only [group?, Option.map_eq_some_iff, Prod.exists, exists_eq_right, digits?_eq_some_iff,
    isHexDigit_iff_mem]
  exact exists_congr fun part ↦
    ⟨fun ⟨hcs, hne, hle, hdigits, hends⟩ ↦ ⟨⟨hne, hle, hdigits⟩, hcs, hends⟩,
      fun ⟨⟨hne, hle, hdigits⟩, hcs, hends⟩ ↦ ⟨hcs, hne, hle, hdigits, hends⟩⟩

theorem octet?_eq_some_iff : octet? cs = some rest ↔
    ∃ part, IsOctet part ∧ cs = part ++ rest ∧ EndsDigits Char.isDigit rest := by
  simp only [octet?, Option.bind_eq_bind, Option.bind_eq_some_iff, Prod.exists,
    digits?_eq_some_iff, Option.ite_none_left_eq_some, isOctet_iff_isNumeral, Nat.not_lt,
    Option.some.injEq]
  constructor
  · rintro ⟨part, rest, ⟨hcs, hne, -, hdigits, hends⟩, hunpadded, hvalue, rfl⟩
    exact ⟨part, ⟨⟨hne, hdigits, fun hlong hzero ↦ hunpadded ⟨hlong, hzero⟩⟩, hvalue⟩, hcs, hends⟩
  · rintro ⟨part, ⟨hnumeral, hvalue⟩, hcs, hends⟩
    have hlength : part.length ≤ 3 := by
      rw [← Numeral.toDigits_ofDigitChars hnumeral, Nat.length_toDigits_le_iff (by decide)
        (by decide)]
      omega
    exact ⟨part, rest, ⟨hcs, hnumeral.ne_nil, hlength, hnumeral.digits, hends⟩,
      fun ⟨hlong, hzero⟩ ↦ hnumeral.unpadded hlong hzero, hvalue, rfl⟩

theorem char?_eq_some_iff : char? c cs = some rest ↔ cs = c :: rest := by
  rcases cs with _ | ⟨d, cs⟩
  · simp [char?]
  · simp [char?, Option.ite_none_right_eq_some]

theorem quad?_eq_some_iff : quad? cs = some rest ↔
    ∃ part, IsQuad part ∧ cs = part ++ rest ∧ EndsDigits Char.isDigit rest := by
  simp only [quad?, Option.bind_eq_bind, Option.bind_eq_some_iff, octet?_eq_some_iff,
    char?_eq_some_iff]
  constructor
  · rintro ⟨_, ⟨a, ha, rfl, -⟩, _, rfl, _, ⟨b, hb, rfl, -⟩, _, rfl, _, ⟨c, hc, rfl, -⟩, _, rfl,
      d, hd, rfl, hends⟩
    refine ⟨_, ⟨a, b, c, d, ha, hb, hc, hd, rfl⟩, ?_, hends⟩
    simp
  · rintro ⟨_, ⟨a, b, c, d, ha, hb, hc, hd, rfl⟩, rfl, hends⟩
    have hdot (text : List Char) : EndsDigits Char.isDigit ('.' :: text) := by
      rintro c ⟨⟩
      rfl
    refine ⟨_, ⟨a, ha, ?_, hdot _⟩, _, rfl, _, ⟨b, hb, rfl, hdot _⟩, _, rfl, _,
      ⟨c, hc, rfl, hdot _⟩, _, rfl, d, hd, rfl, hends⟩
    simp

/-! ### Taking parts -/

/-- Parts with a colon between each two of them, and in front of all but the first of a text. -/
def opened (isFirst : Bool) (parts : List (List Char)) : List Char :=
  if isFirst then joined parts else parts.flatMap (':' :: ·)

theorem opened_true (parts : List (List Char)) : opened true parts = joined parts := rfl

theorem opened_nil (isFirst : Bool) : opened isFirst [] = [] := by
  cases isFirst <;> rfl

/-- Where a part would begin. -/
def start (isFirst : Bool) (cs : List Char) : Option (List Char) :=
  if isFirst then some cs else char? ':' cs

theorem start_opened_cons (isFirst : Bool) (part : List Char) (parts : List (List Char))
    (rest : List Char) :
    start isFirst (opened isFirst (part :: parts) ++ rest) =
      some (part ++ (opened false parts ++ rest)) := by
  cases isFirst with
  | true =>
    rw [opened_true, joined_cons, List.append_assoc]
    rfl
  | false =>
    show char? ':' ((':' :: part ++ parts.flatMap (':' :: ·)) ++ rest) = _
    rw [char?_eq_some_iff, List.append_assoc, List.cons_append]
    rfl

theorem eq_opened_of_start {after : List Char} (h : start isFirst cs = some (part ++ after)) :
    cs = opened isFirst [part] ++ after := by
  cases isFirst with
  | true =>
    rw [opened_true, joined_cons, List.flatMap_nil, List.append_nil]
    exact Option.some.inj h
  | false =>
    rw [char?_eq_some_iff.mp h]
    simp [opened]

theorem opened_cons (isFirst : Bool) (part : List Char) (parts : List (List Char)) :
    opened isFirst (part :: parts) = opened isFirst [part] ++ opened false parts := by
  cases isFirst with
  | true => simp [opened, joined_cons]
  | false => simp [opened]

theorem take_succ (room : Nat) (isFirst : Bool) (cs : List Char) :
    take (room + 1) isFirst cs =
      match if 0 < room then (start isFirst cs).bind quad? else none with
      | some rest => { count := 2, endsInQuad := true, rest }
      | none =>
        match (start isFirst cs).bind group? with
        | none => { count := 0, rest := cs }
        | some rest =>
          { take room false rest with count := (take room false rest).count + 1 } :=
  rfl

/-- What is taken are parts that amount to what is counted. -/
theorem exists_take (room : Nat) (isFirst : Bool) (cs : List Char) :
    ∃ parts, cs = opened isFirst parts ++ (take room isFirst cs).rest ∧
      (take room isFirst cs).count ≤ room ∧ Amounts parts (take room isFirst cs).count ∧
      ((take room isFirst cs).endsInQuad = false → ∀ part ∈ parts, IsGroup part) := by
  induction room generalizing isFirst cs with
  | zero => exact ⟨[], by rw [opened_nil]; rfl, Nat.le_refl 0, .nil, fun _ ↦ nofun⟩
  | succ room ih =>
    rw [take_succ]
    split
    next rest hquad =>
      rw [Option.ite_none_right_eq_some, Option.bind_eq_some_iff] at hquad
      obtain ⟨hroom, text, hstart, htext⟩ := hquad
      obtain ⟨part, hpart, rfl, -⟩ := quad?_eq_some_iff.mp htext
      exact ⟨[part], eq_opened_of_start hstart, Nat.succ_le_succ hroom, .quad hpart, nofun⟩
    next =>
      split
      next => exact ⟨[], by rw [opened_nil]; rfl, Nat.zero_le _, .nil, fun _ ↦ nofun⟩
      next rest hgroup =>
        obtain ⟨text, hstart, htext⟩ := Option.bind_eq_some_iff.mp hgroup
        obtain ⟨part, hpart, rfl, -⟩ := group?_eq_some_iff.mp htext
        obtain ⟨parts, hrest, hle, hamounts, hgroups⟩ := ih false rest
        refine ⟨part :: parts, ?_, Nat.succ_le_succ hle, .group hpart hamounts,
          fun hends ↦ List.forall_mem_cons.mpr ⟨hpart, hgroups hends⟩⟩
        calc cs
          _ = opened isFirst [part] ++ rest := eq_opened_of_start hstart
          _ = opened isFirst [part] ++ (opened false parts ++ (take room false rest).rest) := by
            rw [← hrest]
          _ = opened isFirst (part :: parts) ++ (take room false rest).rest := by
            rw [opened_cons isFirst part parts, List.append_assoc]

/-- Where parts end: at the end of the text or at a gap. -/
def IsEnd (rest : List Char) : Prop := rest = [] ∨ ∃ after, rest = ':' :: ':' :: after

theorem IsEnd.endsDigits (h : IsEnd rest) (hcolon : isDigit ':' = false) :
    EndsDigits isDigit rest := by
  rcases h with rfl | ⟨after, rfl⟩
  · exact nofun
  · rintro c ⟨⟩
    exact hcolon

/-- No part begins where parts end. -/
theorem IsEnd.start_ne (h : IsEnd rest) (isFirst : Bool) (hpart : IsPart part)
    (after : List Char) : start isFirst rest ≠ some (part ++ after) := by
  obtain ⟨c, part, rfl⟩ := List.exists_cons_of_ne_nil hpart.ne_nil
  have hc : c ≠ ':' := fun heq ↦ hpart.colon_not_mem (heq ▸ List.mem_cons_self)
  intro hstart
  rw [List.cons_append] at hstart
  rcases h with rfl | ⟨rest, rfl⟩ <;> cases isFirst <;> simp [start, char?, hc.symm] at hstart

theorem IsEnd.bind_quad?_eq_none (h : IsEnd rest) (isFirst : Bool) :
    (start isFirst rest).bind quad? = none := by
  refine Option.eq_none_iff_forall_ne_some.mpr fun after hafter ↦ ?_
  obtain ⟨text, hstart, htext⟩ := Option.bind_eq_some_iff.mp hafter
  obtain ⟨part, hpart, rfl, -⟩ := quad?_eq_some_iff.mp htext
  exact h.start_ne isFirst hpart.isPart after hstart

theorem IsEnd.bind_group?_eq_none (h : IsEnd rest) (isFirst : Bool) :
    (start isFirst rest).bind group? = none := by
  refine Option.eq_none_iff_forall_ne_some.mpr fun after hafter ↦ ?_
  obtain ⟨text, hstart, htext⟩ := Option.bind_eq_some_iff.mp hafter
  obtain ⟨part, hpart, rfl, -⟩ := group?_eq_some_iff.mp htext
  exact h.start_ne isFirst hpart.isPart after hstart

/-- A group is not the beginning of a quad, if a colon follows it or nothing at all. -/
theorem quad?_group_append (hpart : IsGroup part)
    (hrest : rest = [] ∨ ∃ after, rest = ':' :: after) : quad? (part ++ rest) = none := by
  refine Option.eq_none_iff_forall_ne_some.mpr fun after hafter ↦ ?_
  obtain ⟨quad, hquad, heq, -⟩ := quad?_eq_some_iff.mp hafter
  -- the dot of the quad would have to stand behind the group, and so the colon before it
  rcases List.append_eq_append_iff.mp heq with ⟨more, hmore, hrest'⟩ | ⟨more, hmore, -⟩
  · rcases more with _ | ⟨c, more⟩
    · rw [List.append_nil] at hmore
      exact hpart.dot_not_mem (hmore ▸ hquad.dot_mem)
    · have hc : c ∈ quad := by
        rw [hmore]
        exact List.mem_append_right _ List.mem_cons_self
      rcases hrest with rfl | ⟨text, rfl⟩
      · exact absurd hrest' (by simp)
      · rw [List.cons_append, List.cons.injEq] at hrest'
        exact hquad.isPart.colon_not_mem (hrest'.1 ▸ hc)
  · exact hpart.dot_not_mem (hmore ▸ List.mem_append_left _ hquad.dot_mem)

/-- All parts of a text are taken, if there is room for them. -/
theorem take_complete (hparts : Amounts parts n) (hroom : n ≤ room) (hrest : IsEnd rest)
    (isFirst : Bool) :
    (take room isFirst (opened isFirst parts ++ rest)).count = n ∧
      (take room isFirst (opened isFirst parts ++ rest)).rest = rest ∧
      ((∀ part ∈ parts, IsGroup part) →
        (take room isFirst (opened isFirst parts ++ rest)).endsInQuad = false) := by
  induction hparts generalizing room isFirst with
  | nil =>
    rw [opened_nil, List.nil_append]
    rcases room with _ | room
    · exact ⟨rfl, rfl, fun _ ↦ rfl⟩
    · rw [take_succ, hrest.bind_quad?_eq_none, hrest.bind_group?_eq_none, ite_self]
      exact ⟨rfl, rfl, fun _ ↦ rfl⟩
  | @quad part hquad =>
    obtain ⟨room, rfl⟩ := Nat.exists_eq_add_of_le' (show 1 ≤ room by omega)
    have hread : quad? (part ++ rest) = some rest :=
      quad?_eq_some_iff.mpr ⟨part, hquad, rfl, hrest.endsDigits rfl⟩
    have hstart := start_opened_cons isFirst part [] rest
    rw [opened_nil, List.nil_append] at hstart
    rw [take_succ, hstart, Option.bind_some, hread, if_pos (by omega)]
    refine ⟨rfl, rfl, fun hgroups ↦ ?_⟩
    exact absurd hquad.dot_mem (hgroups part (List.mem_singleton_self _)).dot_not_mem
  | @group part parts n hgroup hparts ih =>
    obtain ⟨room, rfl⟩ := Nat.exists_eq_add_of_le' (show 1 ≤ room by omega)
    have hroom' : n ≤ room := Nat.le_of_succ_le_succ hroom
    have hfollows : opened false parts ++ rest = [] ∨
        ∃ after, opened false parts ++ rest = ':' :: after := by
      rcases parts with _ | ⟨next, parts⟩
      · rcases hrest with rfl | ⟨after, rfl⟩
        · exact Or.inl rfl
        · exact Or.inr ⟨_, rfl⟩
      · exact Or.inr ⟨_, rfl⟩
    have hends : EndsDigits isHexDigit (opened false parts ++ rest) := by
      rcases hfollows with hnone | ⟨after, hcolon⟩
      · rw [hnone]
        exact nofun
      · rw [hcolon]
        rintro c ⟨⟩
        rfl
    have hread : group? (part ++ (opened false parts ++ rest)) =
        some (opened false parts ++ rest) :=
      group?_eq_some_iff.mpr ⟨part, hgroup, rfl, hends⟩
    obtain ⟨hcount, hleft, hquads⟩ := ih hroom' false
    rw [take_succ, start_opened_cons, Option.bind_some, Option.bind_some,
      quad?_group_append hgroup hfollows, ite_self, hread]
    refine ⟨congrArg (· + 1) hcount, hleft, fun hgroups ↦ hquads ?_⟩
    exact (List.forall_mem_cons.mp hgroups).2

end

/-! ### What it accepts -/

theorem amounts_of_isGroup {parts : List (List Char)} (h : ∀ part ∈ parts, IsGroup part) :
    Amounts parts parts.length := by
  induction parts with
  | nil => exact .nil
  | cons part parts ih =>
    obtain ⟨hpart, hparts⟩ := List.forall_mem_cons.mp h
    exact .group hpart (ih hparts)

theorem eq_length_of_isGroup {parts : List (List Char)} {n : Nat} (hparts : Amounts parts n)
    (h : ∀ part ∈ parts, IsGroup part) : n = parts.length := by
  have hlength := groupCount?_eq_some_iff.mpr (amounts_of_isGroup h)
  rw [groupCount?_eq_some_iff.mpr hparts] at hlength
  exact Option.some.inj hlength

/-- The reader accepts what the grammar derives. -/
theorem accepts_iff_isAddress {cs : List Char} : accepts cs = true ↔ IsAddress cs := by
  constructor
  · intro h
    obtain ⟨front, hcs, hroom, hfront, hgroups⟩ := exists_take 8 true cs
    rw [accepts] at h
    generalize take 8 true cs = taken at *
    obtain ⟨count, endsInQuad, rest⟩ := taken
    dsimp only at *
    split at h
    next hcount =>
      rw [hcs, List.isEmpty_iff.mp h, List.append_nil, opened_true]
      rw [hcount] at hfront
      exact .full hfront
    next hcount =>
      split at h
      next => cases h
      next hquad =>
        have hgroups' := hgroups (Bool.eq_false_iff.mpr hquad)
        have hlength := eq_length_of_isGroup hfront hgroups'
        split at h
        next rest =>
          obtain ⟨back, hrest, hle, hback, -⟩ := exists_take (7 - count) true rest
          rw [List.isEmpty_iff.mp h, List.append_nil, opened_true] at hrest
          rw [hcs, hrest, opened_true]
          exact .gapped hgroups' hback (by omega)
        next => cases h
  · intro h
    cases h with
    | @full parts hparts =>
      have htaken := take_complete hparts (Nat.le_refl 8) (Or.inl rfl : IsEnd []) true
      rw [List.append_nil, opened_true] at htaken
      rw [accepts, if_pos htaken.1, htaken.2.1]
      rfl
    | @gapped front back n hfront hback hle =>
      have hamounts := amounts_of_isGroup hfront
      have hgap : IsEnd (':' :: ':' :: joined back) := Or.inr ⟨_, rfl⟩
      obtain ⟨hcount, hrest, hquad⟩ := take_complete hamounts (by omega : _ ≤ 8) hgap true
      obtain ⟨-, hnone, -⟩ := take_complete hback (by omega : n ≤ 7 - front.length)
        (Or.inl rfl : IsEnd []) true
      rw [opened_true] at hcount hrest hquad
      rw [opened_true, List.append_nil] at hnone
      have hshort : front.length ≠ 8 := by omega
      simp only [accepts, hcount, hrest, hquad hfront, if_neg hshort, Bool.false_eq_true, if_false,
        hnone, List.isEmpty_nil]

end Reader

/-! ### Bracketing -/

section

variable {host : String}

theorem bracketed_of_isAddress (h : IsAddress host.toList) : bracketed host = "[" ++ host ++ "]" :=
  if_pos (isLiteral_iff_isAddress.mpr h)

theorem bracketed_of_not_isAddress (h : ¬IsAddress host.toList) : bracketed host = host :=
  if_neg fun hliteral ↦ h (isLiteral_iff_isAddress.mp hliteral)

/-- What has brackets around it is no literal. -/
theorem not_isAddress_brackets (host : String) : ¬IsAddress ("[" ++ host ++ "]").toList := by
  intro h
  have hbracket : '[' ∈ ("[" ++ host ++ "]").toList := by simp
  exact absurd (h.of_mem hbracket) (by decide)

theorem bracketed_bracketed (host : String) : bracketed (bracketed host) = bracketed host := by
  by_cases h : IsAddress host.toList
  · rw [bracketed_of_isAddress h, bracketed_of_not_isAddress (not_isAddress_brackets host)]
  · rw [bracketed_of_not_isAddress h, bracketed_of_not_isAddress h]

end

/-- How a host is bracketed. -/
structure IsBracketedExactly (host : String) : Prop where
  address : IsAddress host.toList → bracketed host = "[" ++ host ++ "]"
  other : ¬IsAddress host.toList → bracketed host = host
  /-- The decision is that of the reader. -/
  accepts_iff : Reader.accepts host.toList = true ↔ IsAddress host.toList
  /-- A literal holds no brackets, no zone and no blanks. -/
  of_mem : IsAddress host.toList → ∀ c ∈ host.toList, c ∈ hexDigits ∨ c = ':' ∨ c = '.'
  gapAt_unique : IsAddress host.toList → ∀ p q, GapAt host.toList p → GapAt host.toList q → p = q
  again : bracketed (bracketed host) = bracketed host
  ipv4 : IsQuad host.toList → bracketed host = host
  noColon : ':' ∉ host.toList → bracketed host = host

/-- IPv6 literals are bracketed, and no other host is changed. -/
theorem bracketed_exact (host : String) : IsBracketedExactly host := by
  have hnoColon : ':' ∉ host.toList → bracketed host = host :=
    fun hcolon ↦ bracketed_of_not_isAddress fun h ↦ hcolon h.colon_mem
  exact
    { address := bracketed_of_isAddress
      other := bracketed_of_not_isAddress
      accepts_iff := Reader.accepts_iff_isAddress
      of_mem := fun h _ ↦ h.of_mem
      gapAt_unique := fun h _ _ ↦ h.gapAt_unique
      again := bracketed_bracketed host
      ipv4 := fun hquad ↦ hnoColon hquad.isPart.colon_not_mem
      noColon := hnoColon }

end VolumeMigration.Text.Ipv6
