import Mathlib.Data.List.TakeWhile
import VolumeMigration.Proofs.Yaml.Meanings
import VolumeMigration.Proofs.Yaml.Places

/-!
# Quoted scalars are read as they were written

Between double quotes every character stands for itself or as an escape, on one line. Between
single quotes a quote is doubled, and the breaks of the text stay, with the indentation behind
them left out again.
-/

namespace VolumeMigration.Yaml

/-! ### Printable characters -/

/-- Of the blanks that are no breaks only the space can be written as it is. -/
theorem isSpace_of_isPrintable {c : Char} (h : isPrintable c) : Cursor.isSpace c = (c == ' ') := by
  have htab : c ≠ '\t' := by
    rintro rfl
    cases h
  rw [Cursor.isSpace, beq_eq_false_iff_ne.2 htab, Bool.or_false]

/-! ### Breaks between the words of a scalar -/

namespace Cursor

/-- A step forward drops one character. -/
theorem rest_next (c : Cursor) : c.next.rest = c.rest.drop 1 := by
  rw [next.eq_def]
  split
  · rename_i h
    rw [h, List.drop_nil]
  · rename_i h
    split <;> rw [h, List.drop_one, List.tail_cons]

/-- So many steps drop so many characters. -/
theorem rest_skip (c : Cursor) (n : Nat) : (c.skip n).rest = c.rest.drop n := by
  induction n generalizing c with
  | zero => rfl
  | succ n ih => rw [skip, ih, rest_next, List.drop_drop, Nat.add_comm]

/-- A place behind a piece of text. -/
theorem rest_skip_append {c : Cursor} {w rest : List Char} (hc : c.rest = w ++ rest) :
    (c.skip w.length).rest = rest := by
  rw [rest_skip, hc, List.drop_left]

end Cursor

namespace Reader

variable {c last : Cursor} {ch : Char} {w rest cs : List Char} {fuel : Nat} {begun : Mark}

/-- The blanks at a cursor are passed at once; the line breaks among them are kept. -/
theorem breaks_eq (c : Cursor) :
    breaks c = ((c.rest.takeWhile isBlank).filter isBreak,
      c.skip (c.rest.takeWhile isBlank).length) := rfl

/-- There is no break before the end of a line. -/
theorem breaks_fst_of_line (hc : c.rest = w ++ ch :: rest) (hw : ∀ d ∈ w, isBreak d = false)
    (hch : isBlank ch = false) : (breaks c).1 = [] := by
  have hsub : ∀ d ∈ c.rest.takeWhile isBlank, d ∈ w := by
    intro d hd
    rw [hc, List.takeWhile_append] at hd
    split at hd
    · rwa [List.takeWhile_cons_of_neg (by simp [hch]), List.append_nil] at hd
    · exact (List.takeWhile_prefix _).subset hd
  rw [breaks_eq]
  refine List.filter_eq_nil_iff.2 fun d hd ↦ ?_
  rw [hw d (hsub d hd)]
  exact Bool.false_ne_true

/-! ### Double quotes -/

/-- Characters that a written scalar holds inside its lines. -/
def isLineChar (c : Char) : Bool := isPrintable c && !isBreak c

/-- What may stand on a line breaks none. -/
theorem isBreak_of_isLineChar (h : isLineChar ch) : isBreak ch = false := by
  rw [isLineChar, Bool.and_eq_true, Bool.not_eq_true'] at h
  exact h.2

/-- How a character stands between double quotes. -/
inductive Escaped (ch : Char) : List Char → Prop
  | plain (hline : isLineChar ch) (hquote : ch ≠ '"') (hslash : ch ≠ '\\') : Escaped ch [ch]
  | letter (a : Char) (hline : isLineChar a) (ha : letterEscapes.lookup a = some ch) :
      Escaped ch ['\\', a]
  | code (a : Char) (width : Nat) (hline : isLineChar a) (hletter : letterEscapes.lookup a = none)
      (ha : codeEscapes.lookup a = some width) (hwidth : 0 < width) (hch : ch.toNat < 16 ^ width) :
      Escaped ch ('\\' :: a :: hex width ch.toNat)

theorem toNat_lt (ch : Char) : ch.toNat < 0x110000 := by
  obtain h | h : ch.toNat < 0xD800 ∨ 0xDFFF < ch.toNat ∧ ch.toNat < 0x110000 := ch.valid
  · omega
  · exact h.2

/-- Every character is written in one of these forms. -/
theorem escaped_escape (ch : Char) : Escaped ch (escape ch) := by
  unfold escape
  split
  case h_12 _ _ _ _ _ _ _ _ _ _ hquote hslash =>
    -- what has no letter of its own is told by its code, which has at most eight digits
    have hlt := toNat_lt ch
    have hnamed {d : Char} (h : ch.toNat = d.toNat) : ch = d := Char.toNat_inj.1 h
    dsimp only
    split
    · exact .plain ‹_› hquote hslash
    split
    · exact .letter 'N' rfl (congrArg some (hnamed (d := '\u0085') ‹_›).symm)
    split
    · exact .letter 'L' rfl (congrArg some (hnamed (d := '\u2028') ‹_›).symm)
    split
    · exact .letter 'P' rfl (congrArg some (hnamed (d := '\u2029') ‹_›).symm)
    split
    · exact .code 'x' 2 rfl rfl rfl (by decide) (by omega)
    split
    · exact .code 'u' 4 rfl rfl rfl (by decide) (by omega)
    · exact .code 'U' 8 rfl rfl rfl (by decide) (by omega)
  all_goals exact .letter _ rfl rfl

/-- The digits of a numeral are digits of its base. -/
theorem mem_toDigits {base n : Nat} {c : Char} (hbase : 1 < base) (h : c ∈ Nat.toDigits base n) :
    ∃ d < base, c = d.digitChar := by
  induction n using Nat.strongRecOn with
  | ind n ih =>
    by_cases hlt : n < base
    · rw [Nat.toDigits_of_lt_base hlt, List.mem_singleton] at h
      exact ⟨n, hlt, h⟩
    · rw [Nat.toDigits_of_base_le hbase (by omega), List.mem_append, List.mem_singleton] at h
      obtain h | h := h
      · exact ih _ (Nat.div_lt_self (by omega) hbase) h
      · exact ⟨n % base, Nat.mod_lt n (by omega), h⟩

theorem isLineChar_digitChar : ∀ k < 16, isLineChar k.digitChar.toUpper := by decide

/-- Hexadecimal digits may stand on a line. -/
theorem isLineChar_hex {width n : Nat} {c : Char} (h : c ∈ hex width n) : isLineChar c := by
  rw [hex, List.mem_append, List.mem_map] at h
  obtain h | ⟨d, hd, rfl⟩ := h
  · rw [List.eq_of_mem_replicate h]
    rfl
  · obtain ⟨k, hk, rfl⟩ := mem_toDigits (by decide) hd
    exact isLineChar_digitChar k hk

/-- What stands between double quotes is on one line. -/
theorem Escaped.isLineChar (hw : Escaped ch w) {d : Char} (hd : d ∈ w) : isLineChar d := by
  have hslash : Reader.isLineChar '\\' := rfl
  cases hw with
  | plain hline => rwa [List.eq_of_mem_singleton hd]
  | letter a hline =>
    obtain rfl | rfl : d = '\\' ∨ d = a := by simpa using hd
    · exact hslash
    · exact hline
  | code a width hline =>
    rw [List.mem_cons, List.mem_cons] at hd
    obtain rfl | rfl | hd := hd
    · exact hslash
    · exact hline
    · exact isLineChar_hex hd

/-- Escaped text stands on one line. -/
theorem isLineChar_flatMap_escape {d : Char} (h : d ∈ cs.flatMap escape) : isLineChar d := by
  obtain ⟨ch, -, hd⟩ := List.mem_flatMap.1 h
  exact (escaped_escape ch).isLineChar hd

/-- Escapes do not make a text shorter, so the reader's fuel lasts for what they stand for. -/
theorem length_le_flatMap_escape (cs : List Char) : cs.length ≤ (cs.flatMap escape).length := by
  induction cs with
  | nil => exact Nat.zero_le _
  | cons c cs ih =>
    have hpos : 0 < (escape c).length := by
      cases hw : escape c with
      | nil => cases hw ▸ escaped_escape c
      | cons d w => exact Nat.succ_pos _
    rw [List.flatMap_cons, List.length_append, List.length_cons]
    omega

/-- One escape is one character again. -/
theorem escaped_code {a : Char} {width : Nat} (hletter : letterEscapes.lookup a = none)
    (ha : codeEscapes.lookup a = some width) (hwidth : 0 < width) (hch : ch.toNat < 16 ^ width)
    (hc : c.rest = a :: hex width ch.toNat ++ rest) :
    escaped begun c a = .ok (ch, c.skip (width + 1)) := by
  have hlength := length_hex hwidth hch
  have hdigits : c.next.rest.take width = hex width ch.toNat := by
    rw [Cursor.rest_next, hc]
    show ((hex width ch.toNat) ++ rest).take width = _
    rw [List.take_append_of_le_length (by omega), List.take_of_length_le (by omega)]
  have hvalid : ch.toNat.isValidChar := ch.valid
  rw [escaped, hletter, ha]
  simp only [hdigits, ofDigits?_hex, hlength, hvalid, Char.ofNat_toNat]
  simp

/-- What stands for a character is read as the character. -/
theorem double_escaped {more : List Char} (hw : Escaped ch w) (hc : c.rest = w ++ more)
    (hbreaks : (breaks c).1 = []) (hread : double begun (c.skip w.length) fuel = .ok (cs, last)) :
    double begun c (fuel + 1) = .ok (ch :: cs, last) := by
  cases hw with
  | plain hline hquote hslash =>
    have hread : double begun c.next fuel = .ok (cs, last) := hread
    rw [double, hc]
    simp [hslash, hbreaks, hread]
  | letter a hline ha =>
    have hread : double begun c.next.next fuel = .ok (cs, last) := hread
    have hescaped : escaped begun c.next a = .ok (ch, c.next.next) := by rw [escaped, ha]
    rw [double, hc]
    simp [isBreak_of_isLineChar hline, hescaped, hread, bind, Except.bind, pure, Except.pure]
  | code a width hline hletter ha hwidth hch =>
    have hescaped : escaped begun c.next a = .ok (ch, c.next.skip (width + 1)) :=
      escaped_code hletter ha hwidth hch (by rw [Cursor.rest_next, hc]; rfl)
    have hread : double begun (c.next.skip (width + 1)) fuel = .ok (cs, last) := by
      rw [List.length_cons, List.length_cons, length_hex hwidth hch] at hread
      exact hread
    rw [double, hc]
    simp [isBreak_of_isLineChar hline, hescaped, hread, bind, Except.bind, pure, Except.pure]

/-- The quote ends the text. -/
theorem double_end (hc : c.rest = '"' :: rest) : double begun c (fuel + 1) = .ok ([], c.next) := by
  rw [double, hc]
  rfl

/-- A text between double quotes is read back, whatever it holds. -/
theorem double_flatMap_escape (begun : Mark) (c : Cursor) (hfuel : cs.length < fuel)
    (hc : c.rest = cs.flatMap escape ++ '"' :: rest) :
    double begun c fuel = .ok (cs, c.skip ((cs.flatMap escape).length + 1)) := by
  induction cs generalizing c fuel with
  | nil =>
    obtain ⟨fuel, rfl⟩ := Nat.exists_eq_add_one.2 hfuel
    exact double_end hc
  | cons ch cs ih =>
    obtain ⟨fuel, rfl⟩ := Nat.exists_eq_add_one.2 (Nat.zero_lt_of_lt hfuel)
    have hbreaks : (breaks c).1 = [] :=
      breaks_fst_of_line hc (fun d hd ↦ isBreak_of_isLineChar (isLineChar_flatMap_escape hd)) rfl
    rw [List.flatMap_cons, List.append_assoc] at hc
    have hread := ih (c.skip (escape ch).length) (Nat.lt_of_succ_lt_succ hfuel)
      (Cursor.rest_skip_append hc)
    rw [← Cursor.skip_add] at hread
    rw [double_escaped (escaped_escape ch) hc hbreaks hread, List.flatMap_cons, List.length_append,
      Nat.add_assoc]

end Reader

/-! ### Texts that single quotes can hold -/

theorem hasAdjacent_tail {p q : Char → Bool} {a : Char} {cs : List Char}
    (h : hasAdjacent p q (a :: cs) = false) : hasAdjacent p q cs = false := by
  cases cs with
  | nil => rfl
  | cons b cs => exact (Bool.or_eq_false_iff.1 h).2

/-- What follows such a character is not of the other kind. -/
theorem head?_of_hasAdjacent {p q : Char → Bool} {a : Char} {cs : List Char}
    (h : hasAdjacent p q (a :: cs) = false) (ha : p a) : ∀ b ∈ cs.head?, q b = false := by
  cases cs with
  | nil => simp
  | cons b cs =>
    intro d hd
    obtain rfl : b = d := Option.some.inj hd
    simpa [ha] using (Bool.or_eq_false_iff.1 h).1

/-- A text that is read back from between single quotes: every character can be written, no
space stands next to a break, where a reader would drop it, and no break is a line feed, which a
reader would fold. -/
structure IsSingle (cs : List Char) : Prop where
  printable : ∀ c ∈ cs, isPrintable c
  noFeed : '\n' ∉ cs
  noSpaceBefore : hasAdjacent (· == ' ') isBreak cs = false
  noSpaceBehind : hasAdjacent isBreak (· == ' ') cs = false

/-- A text that needs no escapes can be printed. -/
theorem isPrintable_of_not_needsEscapes {cs : List Char} (h : needsEscapes cs = false) :
    ∀ c ∈ cs, isPrintable c := by
  intro c hc
  have hspecial := List.any_eq_false.1 (Bool.or_eq_false_iff.1 h).1 c hc
  simpa [isSpecial] using hspecial

/-- What the emitter writes between single quotes meets the conditions under which it is read back.
-/
theorem isSingle_of_allowsSingle {cs : List Char} (h : allowsSingle cs) (hfeed : '\n' ∉ cs) :
    IsSingle cs := by
  rw [allowsSingle, Bool.not_eq_true', Bool.or_eq_false_iff] at h
  exact ⟨isPrintable_of_not_needsEscapes h.1, hfeed, (Bool.or_eq_false_iff.1 h.1).2, h.2⟩

namespace IsSingle

variable {c : Char} {cs : List Char}

/-- The conditions hold on behind a character. -/
theorem tail (h : IsSingle (c :: cs)) : IsSingle cs where
  printable d hd := h.printable d (List.mem_cons_of_mem _ hd)
  noFeed hmem := h.noFeed (List.mem_cons_of_mem _ hmem)
  noSpaceBefore := hasAdjacent_tail h.noSpaceBefore
  noSpaceBehind := hasAdjacent_tail h.noSpaceBehind

/-- And behind any run of characters. -/
theorem dropWhile (h : IsSingle cs) (p : Char → Bool) : IsSingle (cs.dropWhile p) := by
  induction cs with
  | nil => exact h
  | cons c cs ih =>
    rw [List.dropWhile_cons]
    split
    · exact ih h.tail
    · exact h

/-- The text behind a run of breaks starts by no space. -/
theorem head?_dropWhile (h : IsSingle (c :: cs)) (hc : isBreak c) :
    ∀ d ∈ (cs.dropWhile isBreak).head?, isBlank d = false := by
  induction cs generalizing c with
  | nil => simp
  | cons b cs ih =>
    rw [List.dropWhile_cons]
    cases hb : isBreak b with
    | true => simpa using ih h.tail hb
    | false =>
      have hspace : (b == ' ') = false := head?_of_hasAdjacent h.noSpaceBehind hc b rfl
      have hprintable := h.printable b (by simp)
      simp [isBlank, isSpace_of_isPrintable hprintable, hspace, hb]

end IsSingle

/-! ### Single quotes -/

section

variable {indent : Nat} {afterBreak : Bool} {c : Char} {cs : List Char}

/-- A quote is written twice. -/
theorem singleBody_quote :
    singleBody indent false ('\'' :: cs) = '\'' :: '\'' :: singleBody indent false cs := rfl

/-- Any other character on a line is written as it is. -/
theorem singleBody_char (hbreak : isBreak c = false) (hquote : c ≠ '\'') :
    singleBody indent false (c :: cs) = c :: singleBody indent false cs := by
  simp [singleBody, hbreak, hquote]

theorem singleBody_break (hbreak : isBreak c) :
    singleBody indent afterBreak (c :: cs) = c :: singleBody indent true cs := by
  rw [singleBody, if_pos hbreak]

end

/-- Behind a break come further breaks, and then the indentation. -/
theorem singleBody_true (indent : Nat) (cs : List Char) :
    singleBody indent true cs = cs.takeWhile isBreak ++
      (spaces indent ++ singleBody indent false (cs.dropWhile isBreak)) := by
  induction cs with
  | nil => exact (List.append_nil _).symm
  | cons c cs ih =>
    cases hc : isBreak c with
    | true => simp [singleBody, hc, ih]
    | false => simp [singleBody, hc]

/-- Between single quotes stand the characters of the text, with spaces and quotes. -/
theorem mem_singleBody {indent : Nat} {afterBreak : Bool} {cs : List Char} {c : Char}
    (h : c ∈ singleBody indent afterBreak cs) : c ∈ cs ∨ c = ' ' ∨ c = '\'' := by
  induction cs generalizing afterBreak with
  | nil =>
    rw [singleBody] at h
    split at h
    · exact .inr (.inl (mem_spaces h))
    · cases h
  | cons d cs ih =>
    have htail {b : Bool} (h : c ∈ singleBody indent b cs) : c ∈ d :: cs ∨ c = ' ' ∨ c = '\'' :=
      (ih h).imp_left (List.mem_cons_of_mem _)
    rw [singleBody] at h
    split at h
    · obtain rfl | h := List.mem_cons.1 h
      · exact .inl List.mem_cons_self
      · exact htail h
    · obtain h | h := List.mem_append.1 h
      · obtain h | h := List.mem_append.1 h
        · split at h
          · exact .inr (.inl (mem_spaces h))
          · cases h
        · split at h
          · exact .inr (.inr (by simpa using h))
          · exact .inl (by simp [List.eq_of_mem_singleton h])
      · exact htail h

/-- Writing does not make a text shorter, so the reader's fuel lasts. -/
theorem length_le_singleBody (indent : Nat) (afterBreak : Bool) (cs : List Char) :
    cs.length ≤ (singleBody indent afterBreak cs).length := by
  induction cs generalizing afterBreak with
  | nil => exact Nat.zero_le _
  | cons c cs ih =>
    rw [singleBody]
    split
    · exact Nat.succ_le_succ (ih true)
    · have := ih false
      have hquote : 1 ≤ (if c = '\'' then ['\'', '\''] else [c]).length := by split <;> simp
      simp only [List.length_append, List.length_cons]
      omega

namespace Reader

variable {c last : Cursor} {ch : Char} {rest cs : List Char} {fuel indent : Nat} {begun : Mark}

/-- Where no line breaks, there is nothing to fold. -/
theorem fold_of_ne (h : ch ≠ '\n') (cs : List Char) : fold (ch :: cs) = ch :: cs := by
  simp [fold, h]

/-- Spaces inside a line are followed by no break. -/
theorem breaks_singleBody (hcs : IsSingle cs) (hstart : ∀ d ∈ cs.head?, isBreak d = false)
    (hc : c.rest = singleBody indent false cs ++ '\'' :: rest) : (breaks c).1 = [] := by
  rw [breaks_eq, hc]
  refine List.filter_eq_nil_iff.2 ?_
  clear hc
  -- along a run of spaces: the character behind a space is no break
  induction cs with
  | nil => exact fun d hd ↦ absurd hd List.not_mem_nil
  | cons ch cs ih =>
    have hbreak : isBreak ch = false := hstart ch rfl
    by_cases hspace : ch = ' '
    · subst hspace
      have htail := ih hcs.tail (head?_of_hasAdjacent hcs.noSpaceBefore rfl)
      intro d hd
      obtain rfl | hd := List.mem_cons.1 hd
      · exact Bool.false_ne_true
      · exact htail d hd
    · have hblank : isBlank ch = false := by
        rw [isBlank, isSpace_of_isPrintable (hcs.printable ch List.mem_cons_self), hbreak]
        simp [hspace]
      by_cases hquote : ch = '\''
      · subst hquote
        exact fun d hd ↦ absurd hd List.not_mem_nil
      · rw [singleBody_char hbreak hquote, List.cons_append,
          List.takeWhile_cons_of_neg (by simp [hblank])]
        exact fun d hd ↦ absurd hd List.not_mem_nil

/-- A quote that is not followed by another one ends the text. -/
theorem single_end (hc : c.rest = '\'' :: rest) (hrest : rest.head? ≠ some '\'') :
    single begun c (fuel + 1) = .ok ([], c.next) := by
  rw [single, hc]
  cases rest with
  | nil => rfl
  | cons ch rest =>
    have hch : ch ≠ '\'' := fun h ↦ hrest (congrArg some h)
    simp [hch]

/-- Two quotes are read as one. -/
theorem single_quote (hc : c.rest = '\'' :: '\'' :: rest)
    (hread : single begun (c.skip 2) fuel = .ok (cs, last)) :
    single begun c (fuel + 1) = .ok ('\'' :: cs, last) := by
  rw [single, hc]
  simp [hread]

/-- Any other character that no line break follows is read as it is. -/
theorem single_char (hc : c.rest = ch :: rest) (hch : ch ≠ '\'') (hbreaks : (breaks c).1 = [])
    (hread : single begun c.next fuel = .ok (cs, last)) :
    single begun c (fuel + 1) = .ok (ch :: cs, last) := by
  rw [single, hc]
  simp [hch, hbreaks, hread]

/-- Line breaks, with the blanks between them, are read as one fold. -/
theorem single_breaks {run : List Char} {behind : Cursor} (hc : c.rest = ch :: rest)
    (hch : ch ≠ '\'') (hbreaks : breaks c = (run, behind)) (hrun : run ≠ [])
    (hread : single begun behind fuel = .ok (cs, last)) :
    single begun c (fuel + 1) = .ok (fold run ++ cs, last) := by
  rw [single, hc]
  simp [hch, hbreaks, hrun, hread]

/-- A text that starts by no blank does not do so between quotes either. -/
theorem head?_singleBody (hcs : ∀ d ∈ cs.head?, isBlank d = false) :
    ∀ d ∈ (singleBody indent false cs ++ '\'' :: rest).head?, isBlank d = false := by
  intro d hd
  cases cs with
  | nil =>
    obtain rfl : '\'' = d := Option.some.inj hd
    rfl
  | cons ch cs =>
    have hblank : isBlank ch = false := hcs ch rfl
    by_cases hquote : ch = '\''
    · subst hquote
      obtain rfl : '\'' = d := Option.some.inj hd
      rfl
    · rw [singleBody_char (Bool.or_eq_false_iff.1 hblank).2 hquote] at hd
      obtain rfl : ch = d := Option.some.inj hd
      exact hblank

/-- A break, the breaks behind it and the indentation of the line that follows. -/
theorem breaks_run (hcs : IsSingle (ch :: cs)) (hch : isBreak ch)
    (hc : c.rest = (ch :: cs.takeWhile isBreak ++ spaces indent) ++
      (singleBody indent false (cs.dropWhile isBreak) ++ '\'' :: rest)) :
    breaks c = (ch :: cs.takeWhile isBreak,
      c.skip (ch :: cs.takeWhile isBreak ++ spaces indent).length) := by
  have hrun : ∀ d ∈ ch :: cs.takeWhile isBreak, isBreak d := by
    intro d hd
    obtain rfl | hd := List.mem_cons.1 hd
    · exact hch
    · exact List.mem_takeWhile_imp hd
  have hblanks : ∀ d ∈ ch :: cs.takeWhile isBreak ++ spaces indent, isBlank d := by
    intro d hd
    obtain hd | hd := List.mem_append.1 hd
    · rw [isBlank, hrun d hd, Bool.or_true]
    · rw [mem_spaces hd]
      rfl
  have hnext : ∀ d ∈ (singleBody indent false (cs.dropWhile isBreak) ++ '\'' :: rest).head?,
      isBlank d = false := head?_singleBody (hcs.head?_dropWhile hch)
  have hspaces : (spaces indent).filter isBreak = [] :=
    List.filter_eq_nil_iff.2 fun d hd ↦ by
      rw [mem_spaces hd]
      exact Bool.false_ne_true
  rw [breaks_eq, hc, Cursor.takeWhile_append_of_head hblanks hnext, List.filter_append, hspaces,
    List.append_nil, List.filter_eq_self.2 hrun]

/-- A text between single quotes is read back if it is one that they can hold. -/
theorem single_singleBody (begun : Mark) (c : Cursor) (hcs : IsSingle cs) (hfuel : cs.length < fuel)
    (hc : c.rest = singleBody indent false cs ++ '\'' :: rest) (hrest : rest.head? ≠ some '\'') :
    single begun c fuel = .ok (cs, c.skip ((singleBody indent false cs).length + 1)) := by
  -- by the length, since a break is read with all breaks that follow it
  induction hn : cs.length using Nat.strongRecOn generalizing cs c fuel with
  | ind n ih =>
    obtain ⟨fuel, rfl⟩ := Nat.exists_eq_add_one.2 (Nat.zero_lt_of_lt hfuel)
    cases cs with
    | nil => exact single_end hc hrest
    | cons ch cs =>
      rw [List.length_cons] at hfuel hn
      cases hbreak : isBreak ch with
      | true =>
        have hne : ch ≠ '\n' := by
          rintro rfl
          exact hcs.noFeed List.mem_cons_self
        have hbody : singleBody indent false (ch :: cs) = (ch :: cs.takeWhile isBreak ++
            spaces indent) ++ singleBody indent false (cs.dropWhile isBreak) := by
          rw [singleBody_break hbreak, singleBody_true]
          simp
        rw [hbody, List.append_assoc] at hc
        have hlength := (List.dropWhile_sublist (p := isBreak) (l := cs)).length_le
        have hread := ih (cs.dropWhile isBreak).length (by omega) _ (hcs.tail.dropWhile isBreak)
          (Nat.lt_of_le_of_lt hlength (Nat.lt_of_succ_lt_succ hfuel))
          (Cursor.rest_skip_append hc) rfl
        rw [← Cursor.skip_add, ← Nat.add_assoc, ← List.length_append, ← hbody] at hread
        have hstep := single_breaks hc (fun h ↦ by subst h; cases hbreak)
          (breaks_run hcs hbreak hc) (List.cons_ne_nil _ _) hread
        rw [hstep, fold_of_ne hne, List.cons_append, List.takeWhile_append_dropWhile]
      | false =>
        have hlast := breaks_singleBody hcs (fun d hd ↦ Option.some.inj hd ▸ hbreak) hc
        by_cases hquote : ch = '\''
        · subst hquote
          rw [singleBody_quote] at hc ⊢
          have hread := ih cs.length (by omega) (c.skip 2) hcs.tail (Nat.lt_of_succ_lt_succ hfuel)
            (by rw [Cursor.rest_skip, hc]; rfl) rfl
          rw [single_quote hc hread, ← Cursor.skip_add]
          congr 3
          simp only [List.length_cons]
          omega
        · rw [singleBody_char hbreak hquote] at hc ⊢
          have hread := ih cs.length (by omega) c.next hcs.tail (Nat.lt_of_succ_lt_succ hfuel)
            (by rw [Cursor.rest_next, hc]; rfl) rfl
          rw [single_char hc hquote hlast hread]
          rfl

end Reader

end VolumeMigration.Yaml
