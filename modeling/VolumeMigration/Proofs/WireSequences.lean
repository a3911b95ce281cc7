import Mathlib.Data.Nat.Digits.Lemmas
import VolumeMigration.Proofs.WireFormat
import VolumeMigration.Ssh.KeyPair

/-!
# Sequences on the wire

A buffer holds words, strings and integers one after the other, with nothing between them and no
sign of what they are. A reader that asks for the same kinds in the same order gets back what was
put in, whatever follows (`readAll?_written`); integers come back by their value, which two's
complement gives them (`signed`).

An integer is written in one way only, however many zeros its bytes begin with: as the shortest
string with its value (`IsShortForm.isCanonical`). Bytes without leading zeros are determined
by the number they stand for (`dropWhile_eq_of_magnitude_eq`), and the zero that keeps a high bit
from being a sign is there just where it is needed.
-/

namespace VolumeMigration.Ssh

namespace Wire

/-! ### What is put and what is read -/

/-- What can be put on the wire: strings no longer than their length can tell, and integers with
room for a zero in front. -/
inductive Put where
  | word (n : UInt32)
  | string (bytes : Bytes) (fits : bytes.length < 2 ^ 32)
  | integer (bytes : Bytes) (fits : bytes.length < 2 ^ 32 - 1)

/-- What a reader can ask for. -/
inductive Kind where
  | word
  | string
  | integer
  deriving DecidableEq

/-- What a reader gets. -/
inductive Value where
  | word (n : Nat)
  | string (bytes : Bytes)
  | integer (n : Int)
  deriving DecidableEq

/-- The integer that a string stands for in two's complement, the highest byte first. -/
def signed : Bytes → Int
  | [] => 0
  | first :: rest =>
    if first.toNat < 0x80 then magnitude (first :: rest)
    else magnitude (first :: rest) - 256 ^ (rest.length + 1)

/-- The one way to write a number: as the shortest string with its value. -/
structure IsCanonical (contents : Bytes) (n : Nat) : Prop where
  signed_eq : signed contents = n
  length_le : ∀ other, signed other = n → contents.length ≤ other.length
  eq_nil_iff : contents = [] ↔ n = 0
  head_lt : ∀ first ∈ contents.head?, first.toNat < 0x80
  /-- A leading zero stands only before a byte that would be read as a sign. -/
  le_of_zero : ∀ rest, contents = 0 :: rest → ∃ next ∈ rest.head?, 0x80 ≤ next.toNat

namespace Put

/-- The bytes that are appended to a buffer. -/
def written : Put → Bytes
  | word n => Wire.word n.toNat
  | string bytes _ => Wire.string bytes
  | integer bytes _ => Wire.integer bytes

def kind : Put → Kind
  | word _ => .word
  | string _ _ => .string
  | integer _ _ => .integer

def value : Put → Value
  | word n => .word n.toNat
  | string bytes _ => .string bytes
  | integer bytes _ => .integer (magnitude bytes)

end Put

/-- Reads a value of a kind. -/
def Kind.read? : Kind → Bytes → Option (Value × Bytes)
  | word, bytes => (word? bytes).map fun (n, rest) ↦ (.word n, rest)
  | string, bytes => (string? bytes).map fun (contents, rest) ↦ (.string contents, rest)
  | integer, bytes => (string? bytes).map fun (contents, rest) ↦ (.integer (signed contents), rest)

/-- Reads values of several kinds. -/
def readAll? : List Kind → Bytes → Option (List Value × Bytes)
  | [], bytes => some ([], bytes)
  | kind :: kinds, bytes => do
    let (value, rest) ← kind.read? bytes
    let (values, rest) ← readAll? kinds rest
    pure (value :: values, rest)

section

variable {a b bytes rest : Bytes}

/-! ### Numbers by their bytes -/

/-- A byte behind the others counts by itself, and shifts them. -/
theorem magnitude_concat (bytes : Bytes) (last : UInt8) :
    magnitude (bytes ++ [last]) = magnitude bytes * 256 + last.toNat := by
  rw [magnitude, List.foldl_append]
  rfl

theorem magnitude_eq_ofDigits (bytes : Bytes) :
    magnitude bytes = Nat.ofDigits 256 (bytes.reverse.map UInt8.toNat) := by
  induction bytes using List.reverseRecOn with
  | nil => rfl
  | append_singleton bytes last ih =>
    rw [magnitude_concat, ih, List.reverse_concat, List.map_cons, Nat.ofDigits_cons]
    show _ = last.toNat + 256 * _
    omega

theorem magnitude_cons (first : UInt8) (bytes : Bytes) :
    magnitude (first :: bytes) = first.toNat * 256 ^ bytes.length + magnitude bytes := by
  rw [magnitude_eq_ofDigits, magnitude_eq_ofDigits, List.reverse_cons, List.map_append,
    Nat.ofDigits_append, List.length_map, List.length_reverse, List.map_singleton,
    Nat.ofDigits_singleton]
  ring

/-- A number of `n` bytes is less than `256 ^ n`. -/
theorem magnitude_lt (bytes : Bytes) : magnitude bytes < 256 ^ bytes.length := by
  have hlt := Nat.ofDigits_lt_base_pow_length (b := 256) (l := bytes.reverse.map UInt8.toNat)
    (by decide) (fun d hd ↦ by
      obtain ⟨byte, -, rfl⟩ := List.mem_map.mp hd
      exact byte.toNat_lt)
  rwa [← magnitude_eq_ofDigits, List.length_map, List.length_reverse] at hlt

/-- Leading zeros do not count. -/
theorem magnitude_dropWhile (bytes : Bytes) :
    magnitude (bytes.dropWhile (· == 0)) = magnitude bytes := by
  induction bytes with
  | nil => rfl
  | cons first bytes ih =>
    by_cases hfirst : first = 0
    · rw [List.dropWhile_cons_of_pos (by simpa using hfirst), ih, magnitude_cons, hfirst]
      simp
    · rw [List.dropWhile_cons_of_neg (by simpa using hfirst)]

theorem first_ne_zero {first : UInt8} (h : bytes.dropWhile (· == 0) = first :: rest) :
    first ≠ 0 := by
  have hnot := List.head?_dropWhile_not (· == 0) bytes
  rw [h] at hnot
  simpa using hnot

/-- Bytes are determined by their number, but for zeros in front. -/
theorem dropWhile_eq_of_magnitude_eq (h : magnitude a = magnitude b) :
    a.dropWhile (· == 0) = b.dropWhile (· == 0) := by
  have hdigits (bytes : Bytes) : ((bytes.dropWhile (· == 0)).reverse.map UInt8.toNat) =
      Nat.digits 256 (magnitude bytes) := by
    rw [← magnitude_dropWhile, magnitude_eq_ofDigits]
    refine (Nat.digits_ofDigits 256 (by decide) _ (fun d hd ↦ ?_) fun hne ↦ ?_).symm
    · obtain ⟨byte, -, rfl⟩ := List.mem_map.mp hd
      exact byte.toNat_lt
    · have hne' : bytes.dropWhile (· == 0) ≠ [] := by simpa using hne
      obtain ⟨first, rest, hbytes⟩ := List.exists_cons_of_ne_nil hne'
      simpa [hbytes, ← UInt8.toNat_inj] using first_ne_zero hbytes
  have hmap := (hdigits a).trans ((congrArg (Nat.digits 256) h).trans (hdigits b).symm)
  exact List.reverse_injective
    ((List.map_injective_iff.mpr fun x y hxy ↦ UInt8.toNat_inj.mp hxy) hmap)

/-! ### Integers -/

/-- A string that two's complement reads as a number has its highest bit clear. -/
theorem magnitude_of_signed {n : Nat} (h : signed bytes = n) :
    magnitude bytes = n ∧ 2 * magnitude bytes < 256 ^ bytes.length := by
  cases bytes with
  | nil =>
    obtain rfl : 0 = n := Int.ofNat.inj h
    exact ⟨rfl, by decide⟩
  | cons first bytes =>
    rw [signed] at h
    rw [List.length_cons, pow_succ]
    split at h
    next hfirst =>
      have hlt := magnitude_lt bytes
      have hmul : first.toNat * 256 ^ bytes.length ≤ 127 * 256 ^ bytes.length :=
        Nat.mul_le_mul_right _ (by omega)
      refine ⟨Int.ofNat.inj h, ?_⟩
      rw [magnitude_cons]
      omega
    -- otherwise the integer would be negative
    next =>
      have hlt : (magnitude (first :: bytes) : Int) < 256 ^ (bytes.length + 1) := by
        exact_mod_cast magnitude_lt (first :: bytes)
      omega

/-- What a number is written as, by its first byte. -/
inductive IsShortForm : Nat → Bytes → Prop
  | zero : IsShortForm 0 []
  | bare {first : UInt8} {rest : Bytes} (hne : first ≠ 0) (hlow : first.toNat < 0x80) :
      IsShortForm (magnitude (first :: rest)) (first :: rest)
  | guarded {first : UInt8} {rest : Bytes} (hhigh : 0x80 ≤ first.toNat) :
      IsShortForm (magnitude (first :: rest)) (0 :: first :: rest)

namespace IsShortForm

variable {n : Nat} {contents other : Bytes}

theorem pow_le_magnitude {first : UInt8} (hne : first ≠ 0) (rest : Bytes) :
    256 ^ rest.length ≤ magnitude (first :: rest) := by
  have hpos : 0 < first.toNat := Nat.pos_of_ne_zero fun h ↦ hne (UInt8.toNat_inj.mp h)
  rw [magnitude_cons]
  exact (Nat.le_mul_of_pos_left _ hpos).trans (Nat.le_add_right _ _)

theorem pow_le_two_mul_magnitude {first : UInt8} (hhigh : 0x80 ≤ first.toNat) (rest : Bytes) :
    256 ^ (rest.length + 1) ≤ 2 * magnitude (first :: rest) := by
  have hmul := Nat.mul_le_mul_right (256 ^ rest.length) hhigh
  rw [magnitude_cons, pow_succ]
  omega

theorem signed_eq (h : IsShortForm n contents) : signed contents = n := by
  cases h with
  | zero => rfl
  | bare _ hlow => rw [signed, if_pos hlow]
  | @guarded first rest hhigh =>
    rw [signed, if_pos (by decide), magnitude_cons]
    simp

/-- In fewer bytes the number would not fit below the bit of the sign. -/
theorem length_le (h : IsShortForm n contents) (hother : signed other = n) :
    contents.length ≤ other.length := by
  obtain ⟨hn, hclear⟩ := magnitude_of_signed hother
  rw [hn] at hclear
  cases h with
  | zero => exact Nat.zero_le _
  | @bare first rest hne _ =>
    have hpow : 256 ^ rest.length < 256 ^ other.length :=
      (pow_le_magnitude hne rest).trans_lt (by omega)
    exact (Nat.pow_lt_pow_iff_right (by decide)).mp hpow
  | @guarded first rest hhigh =>
    have hpow : 256 ^ (rest.length + 1) < 256 ^ other.length :=
      (pow_le_two_mul_magnitude hhigh rest).trans_lt hclear
    exact (Nat.pow_lt_pow_iff_right (by decide)).mp hpow

theorem eq_nil_iff (h : IsShortForm n contents) : contents = [] ↔ n = 0 := by
  cases h with
  | zero => exact iff_of_true rfl rfl
  | @bare first rest hne _ =>
    have hpow := pow_le_magnitude hne rest
    have hpos : 0 < 256 ^ rest.length := Nat.pow_pos (by decide)
    exact iff_of_false (List.cons_ne_nil _ _) (by omega)
  | @guarded first rest hhigh =>
    have hpow := pow_le_two_mul_magnitude hhigh rest
    have hpos : 0 < 256 ^ (rest.length + 1) := Nat.pow_pos (by decide)
    exact iff_of_false (List.cons_ne_nil _ _) (by omega)

/-- The short form is the canonical one. -/
theorem isCanonical (h : IsShortForm n contents) : IsCanonical contents n where
  signed_eq := h.signed_eq
  length_le _ hother := h.length_le hother
  eq_nil_iff := h.eq_nil_iff
  head_lt := by
    cases h with
    | zero => nofun
    | bare _ hlow => simpa using hlow
    | guarded _ => simp
  le_of_zero rest hrest := by
    cases h with
    | zero => cases hrest
    | bare hne _ => exact absurd (List.cons.inj hrest).1 hne
    | @guarded first behind hhigh =>
      obtain rfl := (List.cons.inj hrest).2
      exact ⟨first, rfl, hhigh⟩

end IsShortForm

theorem exists_integer_eq (bytes : Bytes) :
    ∃ contents, integer bytes = string contents ∧ IsShortForm (magnitude bytes) contents ∧
      contents.length ≤ bytes.length + 1 := by
  have hlength := (List.dropWhile_suffix (l := bytes) (· == 0)).length_le
  rw [integer, ← magnitude_dropWhile]
  cases hbytes : bytes.dropWhile (· == 0) with
  | nil => exact ⟨[], rfl, .zero, Nat.zero_le _⟩
  | cons first rest =>
    rw [hbytes] at hlength
    by_cases hlow : first.toNat < 0x80
    · exact ⟨first :: rest, if_pos hlow, .bare (first_ne_zero hbytes) hlow,
        Nat.le_succ_of_le hlength⟩
    · exact ⟨0 :: first :: rest, if_neg hlow, .guarded (Nat.le_of_not_lt hlow),
        Nat.succ_le_succ hlength⟩

theorem string_injective (h : string a = string b) : a = b := by
  rw [string, string] at h
  exact List.append_inj_right h rfl

/-- Numbers are told apart by how they are written, and nothing else is. -/
theorem integer_eq_integer_iff : integer a = integer b ↔ magnitude a = magnitude b := by
  constructor
  · intro h
    obtain ⟨contents, ha, hcontents, -⟩ := exists_integer_eq a
    obtain ⟨other, hb, hother, -⟩ := exists_integer_eq b
    obtain rfl := string_injective (ha.symm.trans (h.trans hb))
    exact Int.ofNat.inj (hcontents.signed_eq.symm.trans hother.signed_eq)
  · intro h
    rw [integer, integer, dropWhile_eq_of_magnitude_eq h]

/-- What was put is taken off the front. -/
theorem read?_written (put : Put) (rest : Bytes) :
    put.kind.read? (put.written ++ rest) = some (put.value, rest) := by
  cases put with
  | word n =>
    rw [Put.kind, Put.written, Kind.read?, word?_word n.toNat_lt]
    rfl
  | string bytes fits =>
    rw [Put.kind, Put.written, Kind.read?, string?_string fits]
    rfl
  | integer bytes fits =>
    obtain ⟨contents, hcontents, hform, hlength⟩ := exists_integer_eq bytes
    have hfits : contents.length < 2 ^ 32 := by omega
    rw [Put.kind, Put.written, Kind.read?, hcontents, string?_string hfits, Put.value,
      ← hform.signed_eq]
    rfl

/-- What is put in a row is read back in that row, whatever follows. -/
theorem readAll?_written (puts : List Put) (rest : Bytes) :
    readAll? (puts.map Put.kind) (puts.flatMap Put.written ++ rest) =
      some (puts.map Put.value, rest) := by
  induction puts with
  | nil => rfl
  | cons put puts ih =>
    rw [List.map_cons, List.map_cons, List.flatMap_cons, List.append_assoc, readAll?,
      read?_written]
    show (readAll? _ _).bind _ = _
    rw [ih]
    rfl

/-- Whatever is put on the wire is read back, whatever follows it. Integers are written in their
one canonical way, so zeros in front of their bytes make no difference and everything else does. -/
theorem puts_read_back :
    (∀ (puts : List Put) (rest : Bytes),
      readAll? (puts.map Put.kind) (puts.flatMap Put.written ++ rest) =
        some (puts.map Put.value, rest)) ∧
    (∀ bytes : Bytes, ∃ contents, integer bytes = string contents ∧
      IsCanonical contents (magnitude bytes)) ∧
    (∀ (zeros : Nat) (bytes : Bytes),
      integer (List.replicate zeros 0 ++ bytes) = integer bytes) ∧
    ∀ a b : Bytes, integer a = integer b ↔ magnitude a = magnitude b := by
  refine ⟨readAll?_written, fun bytes ↦ ?_, fun zeros bytes ↦ ?_, fun a b ↦ integer_eq_integer_iff⟩
  · obtain ⟨contents, hcontents, hform, -⟩ := exists_integer_eq bytes
    exact ⟨contents, hcontents, hform.isCanonical⟩
  · have hzeros : ∀ byte ∈ List.replicate zeros (0 : UInt8), (byte == 0) = true := by
      intro byte hbyte
      rw [List.eq_of_mem_replicate hbyte]
      rfl
    rw [integer, integer, List.dropWhile_append_of_pos hzeros]

end

end Wire

/-! ### The public key of an RSA pair -/

theorem magnitude_bytesOfNat (n : Nat) : Wire.magnitude (bytesOfNat n) = n := by
  fun_induction bytesOfNat n with
  | case1 => rfl
  | case2 n _ ih =>
    rw [Wire.magnitude_concat, ih, UInt8.toNat_ofNat']
    omega

/-- The public key tells its type and both of its numbers, and nothing else. -/
theorem RsaMaterial.readAll?_publicBlob (m : RsaMaterial)
    (hexponent : (bytesOfNat m.publicExponent).length < 2 ^ 32 - 1)
    (hmodulus : (bytesOfNat m.modulus).length < 2 ^ 32 - 1) :
    Wire.readAll? [.string, .integer, .integer] m.publicBlob =
      some ([.string Algorithm.rsa.keyType.toUTF8.toList, .integer m.publicExponent,
        .integer m.modulus], []) := by
  have htype : Algorithm.rsa.keyType.toUTF8.toList.length < 2 ^ 32 := by decide +kernel
  have hblob : m.publicBlob =
      ([.string _ htype, .integer _ hexponent, .integer _ hmodulus] : List Wire.Put).flatMap
        Wire.Put.written ++ [] := by
    simp [publicBlob, Wire.Put.written, Wire.text]
  rw [hblob]
  have hread := Wire.readAll?_written
    [.string _ htype, .integer _ hexponent, .integer _ hmodulus] []
  simpa only [List.map_cons, List.map_nil, Wire.Put.kind, Wire.Put.value, magnitude_bytesOfNat]
    using hread

end VolumeMigration.Ssh
