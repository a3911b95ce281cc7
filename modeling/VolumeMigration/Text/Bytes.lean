/-!
# Bytes as text

Three ways from bytes to text and back: hexadecimal digits in lower case, base64 with
padding, and UTF-8 as far as it can be read.
-/

namespace VolumeMigration.Text.Hex

/-! ### Hexadecimal digits -/

/-- The digit for a value below sixteen. -/
def digit (n : Nat) : Char :=
  if n < 10 then Char.ofNat ('0'.toNat + n) else Char.ofNat ('a'.toNat + (n - 10))

/-- The value of a digit. -/
def value? (c : Char) : Option Nat :=
  if '0' ≤ c ∧ c ≤ '9' then some (c.toNat - '0'.toNat)
  else if 'a' ≤ c ∧ c ≤ 'f' then some (c.toNat - 'a'.toNat + 10)
  else none

/-- The last digits of a number, as many as asked for. -/
def digits : Nat → Nat → List Char
  | 0, _ => []
  | width + 1, n => digits width (n / 16) ++ [digit (n % 16)]

/-- A number at a fixed width. -/
def ofNat (width n : Nat) : String := String.ofList (digits width n)

/-- The digits of bytes. -/
def encode (bytes : List UInt8) : String :=
  String.ofList (bytes.flatMap fun byte ↦ digits 2 byte.toNat)

/-- Reads the digits of bytes. -/
def decodeChars? : List Char → Option (List UInt8)
  | [] => some []
  | a :: b :: rest => do
    let high ← value? a
    let low ← value? b
    return UInt8.ofNat (high * 16 + low) :: (← decodeChars? rest)
  | [_] => none

/-- Reads the digits of bytes. -/
def decode? (text : String) : Option (List UInt8) := decodeChars? text.toList

theorem length_digits (width n : Nat) : (digits width n).length = width := by
  induction width generalizing n with
  | zero => rfl
  | succ width ih => simp [digits, ih]

end VolumeMigration.Text.Hex

namespace VolumeMigration.Text.Base64

/-! ### Base64

Three bytes are four letters. `decode?` reads back exactly what `encode` writes; it refuses
stray bits in the last letter, missing or superfluous padding and every character outside the
alphabet. -/

/-- The letter for a value of six bits. -/
def letter (n : Nat) : Char :=
  if n < 26 then Char.ofNat ('A'.toNat + n)
  else if n < 52 then Char.ofNat ('a'.toNat + (n - 26))
  else if n < 62 then Char.ofNat ('0'.toNat + (n - 52))
  else if n = 62 then '+' else '/'

/-- The six bits that a letter stands for. -/
def value? (c : Char) : Option Nat :=
  if 'A' ≤ c ∧ c ≤ 'Z' then some (c.toNat - 'A'.toNat)
  else if 'a' ≤ c ∧ c ≤ 'z' then some (c.toNat - 'a'.toNat + 26)
  else if '0' ≤ c ∧ c ≤ '9' then some (c.toNat - '0'.toNat + 52)
  else if c = '+' then some 62
  else if c = '/' then some 63
  else none

/-- The letters for a text of bytes. -/
def encode : List UInt8 → List Char
  | [] => []
  | [a] => [letter (a.toNat / 4), letter (a.toNat % 4 * 16), '=', '=']
  | [a, b] =>
    [letter (a.toNat / 4), letter (a.toNat % 4 * 16 + b.toNat / 16),
      letter (b.toNat % 16 * 4), '=']
  | a :: b :: c :: rest =>
    letter (a.toNat / 4) :: letter (a.toNat % 4 * 16 + b.toNat / 16) ::
      letter (b.toNat % 16 * 4 + c.toNat / 64) :: letter (c.toNat % 64) :: encode rest

/-- The byte with this value. -/
private def byte (n : Nat) : UInt8 := UInt8.ofNat n

/-- The bytes that a text of letters stands for. -/
def decode? : List Char → Option (List UInt8)
  | [] => some []
  | [a, b, '=', '='] => do
    let a ← value? a
    let b ← value? b
    if b % 16 = 0 then pure [byte (a * 4 + b / 16)] else none
  | [a, b, c, '='] => do
    let a ← value? a
    let b ← value? b
    let c ← value? c
    if c % 4 = 0 then pure [byte (a * 4 + b / 16), byte (b % 16 * 16 + c / 4)] else none
  | a :: b :: c :: d :: rest => do
    let a ← value? a
    let b ← value? b
    let c ← value? c
    let d ← value? d
    let others ← decode? rest
    pure (byte (a * 4 + b / 16) :: byte (b % 16 * 16 + c / 4) :: byte (c % 4 * 64 + d) :: others)
  | _ => none

end VolumeMigration.Text.Base64

namespace VolumeMigration.Text.Utf8

/-! ### UTF-8

What a program writes need not be valid. `decodeLossy` reads any bytes: each longest start of a
character that cannot be completed becomes one replacement character, and so does each byte
that starts no character. -/

/-- The character that stands for bytes that are none. -/
def replacement : Char := Char.ofNat 0xFFFD

/-- What is missing of a character. -/
structure Pending where
  /-- The bits read so far. -/
  bits : Nat
  /-- Bytes missing after the next one. -/
  more : Nat
  /-- The bounds of the next byte; the first one after a lead byte rules out overlong
  forms, surrogates and what lies beyond the last code point. -/
  low : Nat
  high : Nat
  deriving DecidableEq, Repr

/-- What a byte at the start of a character means: a whole character, a lead byte, or
nothing. -/
def start (b : Nat) : Char ⊕ Pending :=
  if b < 0x80 then .inl (Char.ofNat b)
  else if 0xC2 ≤ b ∧ b ≤ 0xDF then .inr ⟨b - 0xC0, 0, 0x80, 0xBF⟩
  else if 0xE0 ≤ b ∧ b ≤ 0xEF then
    .inr ⟨b - 0xE0, 1, if b = 0xE0 then 0xA0 else 0x80, if b = 0xED then 0x9F else 0xBF⟩
  else if 0xF0 ≤ b ∧ b ≤ 0xF4 then
    .inr ⟨b - 0xF0, 2, if b = 0xF0 then 0x90 else 0x80, if b = 0xF4 then 0x8F else 0xBF⟩
  else .inl replacement

/-- Reads bytes, in the middle of a character or between characters. -/
def decodeFrom : Option Pending → List UInt8 → List Char
  | none, [] => []
  | some _, [] => [replacement]
  | pending, b :: bytes =>
    let begin := fun (_ : Unit) ↦ match start b.toNat with
      | .inl c => c :: decodeFrom none bytes
      | .inr p => decodeFrom (some p) bytes
    match pending with
    | none => begin ()
    | some p =>
      if p.low ≤ b.toNat ∧ b.toNat ≤ p.high then
        let bits := p.bits * 64 + (b.toNat - 0x80)
        match p.more with
        | 0 => Char.ofNat bits :: decodeFrom none bytes
        | more + 1 => decodeFrom (some ⟨bits, more, 0x80, 0xBF⟩) bytes
      else replacement :: begin ()

/-- Reads bytes as text. -/
def decodeLossy (bytes : List UInt8) : String := String.ofList (decodeFrom none bytes)

end VolumeMigration.Text.Utf8
