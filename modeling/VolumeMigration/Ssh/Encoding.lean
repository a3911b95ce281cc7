import VolumeMigration.Text.Bytes

/-!
# How keys are encoded

The wire format in which ssh writes numbers and texts, and the armour of a PEM file, which is
base64 text between a BEGIN and an END line, 64 letters to a line.
-/

namespace VolumeMigration.Ssh.Wire

/-- A text of bytes. -/
abbrev Bytes := List UInt8

/-! ### Writing -/

/-- The four bytes of a word, the highest first. -/
def word (n : Nat) : Bytes :=
  [UInt8.ofNat (n >>> 24), UInt8.ofNat (n >>> 16), UInt8.ofNat (n >>> 8), UInt8.ofNat n]

/-- A string: its length and its bytes. -/
def string (bytes : Bytes) : Bytes := word bytes.length ++ bytes

/-- The string form of a text. -/
def text (s : String) : Bytes := string s.toUTF8.toList

/-- A non-negative integer, given by its bytes, the highest first. Leading zeros go; one
comes back where the first byte would otherwise make the integer negative. -/
def integer (magnitude : Bytes) : Bytes :=
  match magnitude.dropWhile (· == 0) with
  | [] => string []
  | first :: rest =>
    if first.toNat < 0x80 then string (first :: rest) else string (0 :: first :: rest)

/-- Bytes `1, 2, 3, …` that fill a buffer of this length up to a multiple of the block
length. A buffer that is full already gets a whole block. -/
def padding (length block : Nat) : Bytes :=
  (List.range (block - length % block)).map fun i ↦ UInt8.ofNat (i + 1)

/-- The buffer with padding behind it. -/
def padTo (block : Nat) (buffer : Bytes) : Bytes :=
  buffer ++ padding buffer.length block

/-! ### Reading -/

/-- Reads a word. -/
def word? : Bytes → Option (Nat × Bytes)
  | a :: b :: c :: d :: rest =>
    some (a.toNat <<< 24 + b.toNat <<< 16 + c.toNat <<< 8 + d.toNat, rest)
  | _ => none

/-- Reads a string. -/
def string? (bytes : Bytes) : Option (Bytes × Bytes) := do
  let (length, rest) ← word? bytes
  if length ≤ rest.length then pure (rest.take length, rest.drop length) else none

/-- The number that bytes stand for, the highest first. -/
def magnitude (bytes : Bytes) : Nat := bytes.foldl (fun n b ↦ n * 256 + b.toNat) 0

/-- Reads a non-negative integer. -/
def integer? (bytes : Bytes) : Option (Nat × Bytes) := do
  let (digits, rest) ← string? bytes
  match digits with
  | first :: _ => if first.toNat < 0x80 then pure (magnitude digits, rest) else none
  | [] => pure (0, rest)

end VolumeMigration.Ssh.Wire

namespace VolumeMigration.Ssh.Pem

/-! ### PEM armour -/

/-- Letters on a full line. -/
def width : Nat := 64

/-- Cuts letters into full lines and a last one. -/
def wrap (letters : List Char) : List (List Char) :=
  if letters.isEmpty then []
  else letters.take width :: wrap (letters.drop width)
termination_by letters.length
decreasing_by
  rename_i h
  have : letters ≠ [] := by simpa using h
  have := List.length_pos_iff.2 this
  simp only [List.length_drop, width]
  omega

/-- The line that opens the armour. -/
def opening (tag : String) : String := "-----BEGIN " ++ tag ++ "-----"

/-- The line that closes the armour. -/
def closing (tag : String) : String := "-----END " ++ tag ++ "-----"

/-- The lines of the armour. -/
def lines (tag : String) (contents : List UInt8) : List String :=
  [opening tag] ++ (wrap (Text.Base64.encode contents)).map String.ofList ++ [closing tag]

/-- Armoured bytes: every line, the last one too, ends by a line feed. -/
def encode (tag : String) (contents : List UInt8) : String :=
  String.join ((lines tag contents).map (· ++ "\n"))

end VolumeMigration.Ssh.Pem
