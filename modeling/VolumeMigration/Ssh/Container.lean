import VolumeMigration.Ssh.KeyPair

/-!
# Reading keys back

What an `authorized_keys` line and the private key of an Ed25519 pair consist of. Both
readers accept just what the writers of `KeyPair` write, up to the values in it.
-/

namespace VolumeMigration.Ssh

namespace Pem

/-- The lines of a text all of whose lines are ended. -/
def lines? (text : String) : Option (List String) :=
  match (text.toList.splitOn '\n').reverse with
  | [] :: rest => some (rest.reverse.map String.ofList)
  | _ => none

/-- The tag and the bytes of armour. -/
def decode? (text : String) : Option (String × List UInt8) := do
  match ← lines? text with
  | first :: rest =>
    let tag := String.ofList ((first.toList.drop "-----BEGIN ".length).take
      (first.length - "-----BEGIN -----".length))
    match rest.reverse with
    | last :: body =>
      if first == opening tag && last == closing tag then
        let bytes ← Text.Base64.decode? (body.reverse.map String.toList).flatten
        pure (tag, bytes)
      else none
    | [] => none
  | [] => none

end Pem

/-- A line of an `authorized_keys` file. -/
structure PublicLine where
  keyType : String
  blob : List UInt8
  deriving DecidableEq, Repr

namespace PublicLine

/-- Reads a line with its end. -/
def ofText? (text : String) : Option PublicLine := do
  match ← Pem.lines? text with
  | [line] =>
    match line.toList.splitOn ' ' with
    | [keyType, letters] =>
      pure { keyType := String.ofList keyType, blob := ← Text.Base64.decode? letters }
    | _ => none
  | _ => none

end PublicLine

/-- A string of the wire format as a text. -/
def text? (bytes : List UInt8) : Option (String × List UInt8) := do
  let (string, rest) ← Wire.string? bytes
  pure (← String.fromUTF8? ⟨string.toArray⟩, rest)

/-- What an `openssh-key-v1` container of one key holds. -/
structure Container where
  cipher : String
  kdf : String
  kdfOptions : String
  keys : Nat
  publicBlob : List UInt8
  secret : List UInt8
  /-- What follows the last part. -/
  rest : List UInt8
  deriving DecidableEq, Repr

namespace Container

/-- Reads a container. -/
def ofBytes? (bytes : List UInt8) : Option Container := do
  let magic := Ed25519Material.magic
  if bytes.take magic.length != magic then none
  let (cipher, rest) ← text? (bytes.drop magic.length)
  let (kdf, rest) ← text? rest
  let (kdfOptions, rest) ← text? rest
  let (keys, rest) ← Wire.word? rest
  let (publicBlob, rest) ← Wire.string? rest
  let (secret, rest) ← Wire.string? rest
  pure { cipher, kdf, kdfOptions, keys, publicBlob, secret, rest }

end Container

/-- What the private section of an Ed25519 key holds. -/
structure PrivateSection where
  check₁ : Nat
  check₂ : Nat
  keyType : String
  point : List UInt8
  pair : List UInt8
  comment : String
  padding : List UInt8
  deriving DecidableEq, Repr

namespace PrivateSection

/-- Reads a private section. -/
def ofBytes? (bytes : List UInt8) : Option PrivateSection := do
  let (check₁, rest) ← Wire.word? bytes
  let (check₂, rest) ← Wire.word? rest
  let (keyType, rest) ← text? rest
  let (point, rest) ← Wire.string? rest
  let (pair, rest) ← Wire.string? rest
  let (comment, padding) ← text? rest
  pure { check₁, check₂, keyType, point, pair, comment, padding }

end PrivateSection

end VolumeMigration.Ssh
