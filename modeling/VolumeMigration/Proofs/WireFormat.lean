import Mathlib.Tactic.Common
import VolumeMigration.Ssh.Container

/-!
# The wire format is read as it was written

What was put at the front of a buffer is taken off again, and what stands behind it is left, so a
reader that asks for the same kinds in the same order gets the values back. A word has to fit its
four bytes, and so has the length of a string.
-/

namespace VolumeMigration.Ssh

/-- The bytes of an array are the array again. -/
theorem mk_toList_toArray (bytes : ByteArray) : ByteArray.mk bytes.toList.toArray = bytes := by
  have hloop (i : Nat) (read : List UInt8) :
      ByteArray.toList.loop bytes i read = read.reverse ++ bytes.data.toList.drop i := by
    fun_induction ByteArray.toList.loop bytes i read with
    | case1 i read hlt ih =>
      have hlength : i < bytes.data.toList.length := hlt
      have hget : bytes.get! i = bytes.data.toList[i] := by
        show bytes.data[i]! = _
        rw [getElem!_pos bytes.data i hlt, Array.getElem_toList]
      rw [ih, List.drop_eq_getElem_cons hlength, hget, List.reverse_cons, List.append_assoc]
      rfl
    | case2 i read hge =>
      have hlength : bytes.data.toList.length ≤ i := Nat.le_of_not_lt hge
      rw [List.drop_eq_nil_of_le hlength, List.append_nil]
  have hlist : bytes.toList = bytes.data.toList := hloop 0 []
  rw [hlist, Array.toArray_toList]

theorem fromUTF8?_toUTF8 (s : String) : String.fromUTF8? s.toUTF8 = some s :=
  dif_pos s.isValidUTF8

namespace Wire

section

variable {n : Nat} {bytes rest : Bytes}

/-! ### Words, strings and texts -/

theorem length_word (n : Nat) : (word n).length = 4 := rfl

theorem length_string (bytes : Bytes) : (string bytes).length = 4 + bytes.length := by
  rw [string, List.length_append, length_word]

/-- A word is taken off the front. -/
theorem word?_word (hn : n < 1 <<< 32) (rest : Bytes) :
    word? (word n ++ rest) = some (n, rest) := by
  have hvalue : (UInt8.ofNat (n >>> 24)).toNat <<< 24 + (UInt8.ofNat (n >>> 16)).toNat <<< 16 +
      (UInt8.ofNat (n >>> 8)).toNat <<< 8 + (UInt8.ofNat n).toNat = n := by
    simp only [UInt8.toNat_ofNat', Nat.shiftRight_eq_div_pow, Nat.shiftLeft_eq] at hn ⊢
    omega
  show some (_, rest) = some (n, rest)
  rw [hvalue]

/-- A string is taken off the front. -/
theorem string?_string (hlength : bytes.length < 1 <<< 32) (rest : Bytes) :
    string? (string bytes ++ rest) = some (bytes, rest) := by
  rw [string?, string, List.append_assoc, word?_word hlength]
  show (if bytes.length ≤ (bytes ++ rest).length then
    some ((bytes ++ rest).take bytes.length, (bytes ++ rest).drop bytes.length) else none) =
      some (bytes, rest)
  rw [if_pos (by simp), List.take_left, List.drop_left]

/-- A text is taken off the front. -/
theorem text?_text {s : String} (hlength : s.toUTF8.toList.length < 1 <<< 32) (rest : Bytes) :
    text? (text s ++ rest) = some (s, rest) := by
  rw [text?, text, string?_string hlength]
  show (String.fromUTF8? ⟨s.toUTF8.toList.toArray⟩).bind (fun s ↦ some (s, rest)) = some (s, rest)
  rw [mk_toList_toArray, fromUTF8?_toUTF8]
  rfl

/-! ### Padding -/

/-- A padded buffer fills whole blocks. -/
theorem dvd_length_padTo {block : Nat} (hblock : 0 < block) (buffer : Bytes) :
    block ∣ (padTo block buffer).length := by
  have hrest := Nat.mod_lt buffer.length hblock
  have hdiv := Nat.div_add_mod buffer.length block
  refine ⟨buffer.length / block + 1, ?_⟩
  rw [padTo, List.length_append, padding, List.length_map, List.length_range, Nat.mul_succ]
  omega

/-- The padding counts from one, up to a block at most. -/
theorem exists_padding_eq {block : Nat} (hblock : 0 < block) (length : Nat) :
    ∃ n, 1 ≤ n ∧ n ≤ block ∧ padding length block = (List.range' 1 n).map UInt8.ofNat := by
  have hrest := Nat.mod_lt length hblock
  refine ⟨block - length % block, by omega, Nat.sub_le _ _, ?_⟩
  rw [padding, List.range'_eq_map_range, List.map_map]
  refine List.map_congr_left fun i _ ↦ ?_
  show UInt8.ofNat (i + 1) = UInt8.ofNat (1 + i)
  rw [Nat.add_comm]

end

end Wire

end VolumeMigration.Ssh
