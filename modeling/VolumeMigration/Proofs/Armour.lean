import Mathlib.Tactic.Common
import VolumeMigration.Ssh.Container

/-!
# Armour loses nothing

Keys are bytes, and they are handed on as text: base64 letters, for a private key wrapped into
lines between a BEGIN and an END line, for a public key behind its type on one line. Each layer is
taken off again by its reader: the letters (`Text.Base64.decode?_encode`), the lines of a text
(`Ssh.Pem.lines?_join`), the armour of a private key (`Ssh.Pem.decode?_encode`) and the line of a
public key (`Ssh.PublicLine.ofText?_authorizedLine`).
-/

namespace VolumeMigration

/-! ### Letters -/

namespace Text.Base64

/-- Every letter is read as the value it was written for. -/
theorem value?_letter : ∀ n < 64, value? (letter n) = some n := by decide

theorem letter_ne_pad : ∀ n < 64, letter n ≠ '=' := by decide

/-- Letters are read back as the bytes that they were made of. -/
theorem decode?_encode (bytes : List UInt8) : decode? (encode bytes) = some bytes := by
  have hbyte : ∀ {n : Nat} {b : UInt8}, n = b.toNat → UInt8.ofNat n = b := by
    rintro _ b rfl
    exact UInt8.ofNat_toNat
  fun_induction encode bytes with
  | case1 => rfl
  | case2 a =>
    have ha := a.toNat_lt
    rw [decode?, value?_letter _ (by omega), value?_letter _ (by omega)]
    show (if a.toNat % 4 * 16 % 16 = 0 then
      some [UInt8.ofNat (a.toNat / 4 * 4 + a.toNat % 4 * 16 / 16)] else none) = some [a]
    rw [if_pos (by omega), hbyte (b := a) (by omega)]
  | case3 a b =>
    have ha := a.toNat_lt
    have hb := b.toNat_lt
    rw [decode?, value?_letter _ (by omega), value?_letter _ (by omega),
      value?_letter _ (by omega)]
    · show (if b.toNat % 16 * 4 % 4 = 0 then
        some [UInt8.ofNat (a.toNat / 4 * 4 + (a.toNat % 4 * 16 + b.toNat / 16) / 16),
          UInt8.ofNat ((a.toNat % 4 * 16 + b.toNat / 16) % 16 * 16 + b.toNat % 16 * 4 / 4)]
        else none) = some [a, b]
      rw [if_pos (by omega), hbyte (b := a) (by omega), hbyte (b := b) (by omega)]
    · exact letter_ne_pad _ (by omega)
  | case4 a b c rest ih =>
    have ha := a.toNat_lt
    have hb := b.toNat_lt
    have hc := c.toNat_lt
    rw [decode?, value?_letter _ (by omega), value?_letter _ (by omega),
      value?_letter _ (by omega), value?_letter _ (by omega), ih]
    · show some (UInt8.ofNat (a.toNat / 4 * 4 + (a.toNat % 4 * 16 + b.toNat / 16) / 16) ::
        UInt8.ofNat ((a.toNat % 4 * 16 + b.toNat / 16) % 16 * 16 +
          (b.toNat % 16 * 4 + c.toNat / 64) / 4) ::
        UInt8.ofNat ((b.toNat % 16 * 4 + c.toNat / 64) % 4 * 64 + c.toNat % 64) :: rest) =
          some (a :: b :: c :: rest)
      rw [hbyte (b := a) (by omega), hbyte (b := b) (by omega), hbyte (b := c) (by omega)]
    · exact fun h _ _ ↦ letter_ne_pad _ (by omega) h
    · exact fun h _ ↦ letter_ne_pad _ (by omega) h

/-- The alphabet, with the padding. -/
def IsLetter (c : Char) : Prop := c = '=' ∨ (value? c).isSome

theorem isLetter_letter {n : Nat} (h : n < 64) : IsLetter (letter n) :=
  Or.inr (by rw [value?_letter n h]; rfl)

/-- What is encoded consists of letters and padding. -/
theorem isLetter_of_mem_encode {bytes : List UInt8} : ∀ c ∈ encode bytes, IsLetter c := by
  have hpad : IsLetter '=' := Or.inl rfl
  fun_induction encode bytes with
  | case1 => simp
  | case2 a =>
    have ha := a.toNat_lt
    have hletter (n : Nat) (h : n < 64) := isLetter_letter h
    simp only [List.forall_mem_cons]
    exact ⟨hletter _ (by omega), hletter _ (by omega), hpad, hpad, by simp⟩
  | case3 a b =>
    have ha := a.toNat_lt
    have hb := b.toNat_lt
    have hletter (n : Nat) (h : n < 64) := isLetter_letter h
    simp only [List.forall_mem_cons]
    exact ⟨hletter _ (by omega), hletter _ (by omega), hletter _ (by omega), hpad, by simp⟩
  | case4 a b c rest ih =>
    have ha := a.toNat_lt
    have hb := b.toNat_lt
    have hc := c.toNat_lt
    have hletter (n : Nat) (h : n < 64) := isLetter_letter h
    simp only [List.forall_mem_cons]
    exact ⟨hletter _ (by omega), hletter _ (by omega), hletter _ (by omega),
      hletter _ (by omega), ih⟩

/-- What is no letter, such as a blank or a line feed, does not stand among letters. -/
theorem not_mem_encode {c : Char} (h : ¬IsLetter c) (bytes : List UInt8) : c ∉ encode bytes :=
  fun hmem ↦ h (isLetter_of_mem_encode c hmem)

instance (c : Char) : Decidable (IsLetter c) := inferInstanceAs (Decidable (_ ∨ _))

end Text.Base64

namespace Ssh

/-! ### Lines -/

namespace Pem

/-- To wrap loses no letter. -/
theorem flatten_wrap (letters : List Char) : (wrap letters).flatten = letters := by
  fun_induction wrap letters with
  | case1 letters h => rw [List.isEmpty_iff.mp h, List.flatten_nil]
  | case2 letters h ih => rw [List.flatten_cons, ih, List.take_append_drop]

theorem mem_of_mem_wrap {letters line : List Char} {c : Char} (hline : line ∈ wrap letters)
    (hc : c ∈ line) : c ∈ letters := by
  rw [← flatten_wrap letters]
  exact List.mem_flatten_of_mem hline hc

theorem map_toList_ofList (lines : List (List Char)) :
    (lines.map String.ofList).map String.toList = lines := by
  rw [List.map_map]
  exact (List.map_congr_left fun _ _ ↦ String.toList_ofList).trans lines.map_id

/-- Ended lines are told apart again, and nothing is behind the last of them. -/
theorem splitOn_join {lines : List String} (h : ∀ line ∈ lines, '\n' ∉ line.toList) :
    (String.join (lines.map (· ++ "\n"))).toList.splitOn '\n' =
      lines.map String.toList ++ [[]] := by
  rw [String.toList_join]
  induction lines with
  | nil => rfl
  | cons line lines ih =>
    obtain ⟨hline, hlines⟩ := List.forall_mem_cons.mp h
    have hrest := ih hlines
    rw [List.map_cons, List.flatMap_cons, String.toList_append, List.append_assoc]
    show (line.toList ++ '\n' :: _).splitOn '\n' =
      line.toList :: (lines.map String.toList ++ [[]])
    rw [List.splitOn_append_cons_self_of_not_mem hline]
    exact congrArg _ hrest

/-- Lines that hold no line feed are found again. -/
theorem lines?_join {lines : List String} (h : ∀ line ∈ lines, '\n' ∉ line.toList) :
    lines? (String.join (lines.map (· ++ "\n"))) = some lines := by
  rw [lines?, splitOn_join h, List.reverse_append]
  show some ((lines.map String.toList).reverse.reverse.map String.ofList) = some lines
  rw [List.reverse_reverse, List.map_map]
  exact congrArg some ((List.map_congr_left fun _ _ ↦ String.ofList_toList).trans lines.map_id)

/-- What is neither a letter nor part of the frame comes into armour by the tag alone. -/
theorem not_mem_lines {c : Char} {tag : String} (hletter : ¬Text.Base64.IsLetter c)
    (hframe : c ∉ (opening "" ++ closing "").toList) (htag : c ∉ tag.toList)
    (contents : List UInt8) : ∀ line ∈ lines tag contents, c ∉ line.toList := by
  simp only [opening, closing, String.toList_append, List.mem_append, not_or] at hframe
  intro line hline
  simp only [lines, List.mem_append, List.mem_singleton, List.mem_map] at hline
  rcases hline with (rfl | ⟨letters, hwrap, rfl⟩) | rfl
  · simp only [opening, String.toList_append, List.mem_append, not_or]
    exact ⟨⟨hframe.1.1.1, htag⟩, hframe.1.2⟩
  · rw [String.toList_ofList]
    exact fun hmem ↦ Text.Base64.not_mem_encode hletter contents (mem_of_mem_wrap hwrap hmem)
  · simp only [closing, String.toList_append, List.mem_append, not_or]
    exact ⟨⟨hframe.2.1.1, htag⟩, hframe.2.2⟩

/-! ### The armour of a private key -/

/-- The tag stands in the opening line. -/
theorem tag_opening (tag : String) :
    String.ofList (((opening tag).toList.drop "-----BEGIN ".length).take
      ((opening tag).length - "-----BEGIN -----".length)) = tag := by
  have hlength : (opening tag).length - "-----BEGIN -----".length = tag.toList.length := by
    rw [opening, String.length_append, String.length_append, String.length_toList]
    show 11 + tag.length + 5 - 16 = tag.length
    omega
  have hdrop : (opening tag).toList.drop "-----BEGIN ".length =
      tag.toList ++ "-----".toList := by
    rw [opening, String.toList_append, String.toList_append, List.append_assoc]
    exact List.drop_left
  rw [hlength, hdrop, List.take_left, String.ofList_toList]

/-- Armour is taken off again. -/
theorem decode?_encode {tag : String} (htag : '\n' ∉ tag.toList) (contents : List UInt8) :
    decode? (encode tag contents) = some (tag, contents) := by
  have hlines := not_mem_lines (by decide) (by decide) htag contents
  have hcons : lines tag contents = opening tag ::
      ((wrap (Text.Base64.encode contents)).map String.ofList ++ [closing tag]) := rfl
  rw [decode?, encode, lines?_join hlines, hcons]
  simp only [Option.bind_eq_bind, Option.bind_some, tag_opening, List.reverse_append,
    List.reverse_singleton, List.singleton_append, List.reverse_reverse, map_toList_ofList,
    flatten_wrap, Text.Base64.decode?_encode, beq_self_eq_true, Bool.and_self, if_true]
  rfl

end Pem

/-! ### The line of a public key -/

namespace PublicLine

theorem splitOn_fields {keyType : List Char} (hblank : ' ' ∉ keyType) (blob : List UInt8) :
    (keyType ++ ' ' :: Text.Base64.encode blob).splitOn ' ' =
      [keyType, Text.Base64.encode blob] := by
  have hmem := Text.Base64.not_mem_encode (c := ' ') (by decide) blob
  rw [List.splitOn_append_cons_self_of_not_mem hblank, List.splitOn_eq_singleton hmem]

/-- The type and the blob of a public key are read back from its line. -/
theorem ofText?_authorizedLine {keyType : String} (hblank : ' ' ∉ keyType.toList)
    (hfeed : '\n' ∉ keyType.toList) (blob : List UInt8) :
    ofText? (authorizedLine keyType blob) = some { keyType, blob } := by
  set letters := Text.Base64.encode blob with hletters
  have hline : '\n' ∉ (keyType ++ " " ++ String.ofList letters).toList := by
    have hmem := Text.Base64.not_mem_encode (c := '\n') (by decide) blob
    simp [hfeed, hletters, hmem]
  have hlines : Pem.lines? (authorizedLine keyType blob) =
      some [keyType ++ " " ++ String.ofList letters] := by
    have hsole : ∀ line ∈ [keyType ++ " " ++ String.ofList letters], '\n' ∉ line.toList := by
      simpa using hline
    simpa [String.join, authorizedLine, hletters] using Pem.lines?_join hsole
  have hfields : (keyType ++ " " ++ String.ofList letters).toList.splitOn ' ' =
      [keyType.toList, letters] := by
    rw [String.toList_append, String.toList_append, List.append_assoc,
      String.toList_ofList (l := letters)]
    exact splitOn_fields hblank blob
  have hdecode : Text.Base64.decode? letters = some blob := Text.Base64.decode?_encode blob
  simp only [ofText?, hlines, Option.bind_eq_bind, Option.bind_some, hfields, hdecode,
    String.ofList_toList]
  rfl

end PublicLine

end Ssh

end VolumeMigration
