import VolumeMigration.Report
import VolumeMigration.Ssh.Encoding
import VolumeMigration.Text.Classes
import VolumeMigration.Text.Quoted

/-!
# Key pairs

The two kinds of key pair that a migration can log in with, and the texts by which a key pair
is handed on: the public key as a line of an `authorized_keys` file, the private key as a PEM
file. An Ed25519 key goes into the container `openssh-key-v1`, unencrypted; an RSA key into the
structure of PKCS #1.

The numbers themselves come from outside; what is made here is their written form. Where only
the shape matters, sample keys stand for fresh ones.
-/

namespace VolumeMigration.Ssh

/-! ### Algorithms -/

/-- The kind of a key pair. -/
inductive Algorithm where
  | ed25519
  /-- RSA with a modulus of 2048 bits. -/
  | rsa
  deriving DecidableEq, Repr

namespace Algorithm

/-- The short name. -/
def name : Algorithm → String
  | ed25519 => "ed25519"
  | rsa => "rsa"

/-- Where the private key is mounted in the pods of a migration. -/
def mountPath (a : Algorithm) : String := "/tmp/id_" ++ a.name

/-- The type by which public keys of this kind announce themselves. -/
def keyType (a : Algorithm) : String := "ssh-" ++ a.name

/-- Reads a short name, in any case of its ASCII letters. -/
def ofName (name : String) : Except MigrationError Algorithm :=
  match name.map Char.toLower with
  | "ed25519" => .ok ed25519
  | "rsa" => .ok rsa
  | other => .error (.key ("unsupported key algorithm: " ++ other))

/-- Every algorithm is read back from its name. -/
theorem ofName_name (a : Algorithm) : ofName a.name = .ok a := by
  have hlower : a.name.map Char.toLower = a.name := by
    cases a <;> decide +kernel
  rw [ofName, hlower]
  cases a <;> rfl

end Algorithm

/-! ### Written forms -/

/-- A key pair in its written form. -/
structure KeyPair where
  algorithm : Algorithm
  /-- A line of an `authorized_keys` file, with its line feed. -/
  publicKey : String
  /-- A PEM file. -/
  privateKey : String
  deriving DecidableEq, Repr

/-- A line of an `authorized_keys` file. -/
def authorizedLine (keyType : String) (blob : List UInt8) : String :=
  keyType ++ " " ++ String.ofList (Text.Base64.encode blob) ++ "\n"

namespace KeyPair

/-- How a pair is described. The private key does not appear. -/
def describe (keys : KeyPair) : String :=
  let algorithm := match keys.algorithm with
    | .ed25519 => "Ed25519"
    | .rsa => "Rsa"
  "KeyPair \x7b algorithm: " ++ algorithm ++ ", public_key: " ++
    Text.quoted (Text.trimEnd keys.publicKey) ++ ", .. \x7d"

end KeyPair

/-! ### Ed25519 -/

/-- What an Ed25519 key pair consists of. -/
structure Ed25519Material where
  /-- The public point, 32 bytes. -/
  point : List UInt8
  /-- The secret seed and the public point, 64 bytes. -/
  pair : List UInt8
  /-- A random word that a reader compares with itself, to see a failed decryption. -/
  check : Nat
  deriving DecidableEq, Repr

namespace Ed25519Material

/-- What the container begins with. -/
def magic : List UInt8 := "openssh-key-v1".toUTF8.toList ++ [0]

/-- The private section is filled up to a multiple of this length. -/
def blockLength : Nat := 8

/-- The public key: its type and the point. -/
def publicBlob (m : Ed25519Material) : List UInt8 :=
  Wire.text Algorithm.ed25519.keyType ++ Wire.string m.point

/-- The private section, with an empty comment. -/
def privateSection (m : Ed25519Material) : List UInt8 :=
  Wire.padTo blockLength
    (Wire.word m.check ++ Wire.word m.check ++ Wire.text Algorithm.ed25519.keyType ++
      Wire.string m.point ++ Wire.string m.pair ++ Wire.text "")

/-- The container: no cipher, no key derivation, one key. -/
def container (m : Ed25519Material) : List UInt8 :=
  magic ++ Wire.text "none" ++ Wire.text "none" ++ Wire.text "" ++ Wire.word 1 ++
    Wire.string m.publicBlob ++ Wire.string m.privateSection

/-- The written form. -/
def keyPair (m : Ed25519Material) : KeyPair where
  algorithm := .ed25519
  publicKey := authorizedLine Algorithm.ed25519.keyType m.publicBlob
  privateKey := Pem.encode "OPENSSH PRIVATE KEY" m.container

end Ed25519Material

/-! ### RSA -/

/-- The bytes of a number, the highest first, without leading zeros. -/
def bytesOfNat (n : Nat) : List UInt8 :=
  if n = 0 then [] else bytesOfNat (n / 256) ++ [UInt8.ofNat n]

/-- What an RSA key pair consists of. -/
structure RsaMaterial where
  modulus : Nat
  publicExponent : Nat
  privateExponent : Nat
  prime₁ : Nat
  prime₂ : Nat
  deriving DecidableEq, Repr

namespace RsaMaterial

/-- The length of a value in the distinguished encoding: one byte, or a count of bytes and
the bytes. -/
def derLength (n : Nat) : List UInt8 :=
  if n < 0x80 then [UInt8.ofNat n]
  else
    let digits := bytesOfNat n
    UInt8.ofNat (0x80 + digits.length) :: digits

/-- An integer in the distinguished encoding. -/
def derInteger (n : Nat) : List UInt8 :=
  let digits := match bytesOfNat n with
    | [] => [0]
    | first :: rest => if first.toNat < 0x80 then first :: rest else 0 :: first :: rest
  0x02 :: derLength digits.length ++ digits

/-- A sequence in the distinguished encoding. -/
def derSequence (parts : List (List UInt8)) : List UInt8 :=
  0x30 :: derLength parts.flatten.length ++ parts.flatten

/-- The coefficient of the Chinese remainder theorem: the inverse of the second prime
modulo the first, by Fermat's little theorem. -/
def coefficient (m : RsaMaterial) : Nat :=
  let rec power (base exponent : Nat) : Nat :=
    if exponent = 0 then 1 % m.prime₁
    else
      let half := power (base * base % m.prime₁) (exponent / 2)
      if exponent % 2 = 0 then half else half * base % m.prime₁
  power (m.prime₂ % m.prime₁) (m.prime₁ - 2)

/-- The structure of PKCS #1. -/
def der (m : RsaMaterial) : List UInt8 :=
  derSequence ([0, m.modulus, m.publicExponent, m.privateExponent, m.prime₁, m.prime₂,
    m.privateExponent % (m.prime₁ - 1), m.privateExponent % (m.prime₂ - 1),
    m.coefficient].map derInteger)

/-- The public key: its type, the exponent and the modulus. -/
def publicBlob (m : RsaMaterial) : List UInt8 :=
  Wire.text Algorithm.rsa.keyType ++ Wire.integer (bytesOfNat m.publicExponent) ++
    Wire.integer (bytesOfNat m.modulus)

/-- The written form. -/
def keyPair (m : RsaMaterial) : KeyPair where
  algorithm := .rsa
  publicKey := authorizedLine Algorithm.rsa.keyType m.publicBlob
  privateKey := Pem.encode "RSA PRIVATE KEY" m.der

end RsaMaterial

/-! ### Samples

Key pairs of the usual shape and size that are no secret. -/

/-- A point that counts up, with itself in place of a seed. -/
def Ed25519Material.sample : Ed25519Material :=
  let point := (List.range 32).map UInt8.ofNat
  ⟨point, point ++ point, 7⟩

/-- A modulus of 2048 bits. -/
def RsaMaterial.sample : RsaMaterial where
  modulus := 1 <<< 2048 - 1
  publicExponent := 65537
  privateExponent := 1 <<< 2047 + 1
  prime₁ := 1 <<< 1024 - 105
  prime₂ := 1 <<< 1023 + 1155

/-- A key pair that is no secret. -/
def KeyPair.sample : Algorithm → KeyPair
  | .ed25519 => Ed25519Material.sample.keyPair
  | .rsa => RsaMaterial.sample.keyPair

end VolumeMigration.Ssh
