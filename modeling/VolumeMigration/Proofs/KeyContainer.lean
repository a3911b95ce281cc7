import VolumeMigration.Proofs.Armour
import VolumeMigration.Proofs.WireFormat
import VolumeMigration.Ssh.KeyPair

/-!
# Ed25519 keys are read back

The private key of an Ed25519 pair is armour around a container around a private section, each with
length prefixes of its own, and the public point stands in it three times: in the public blob, in
the private section, and behind the seed. The readers take one layer off after the other and find
just what the writers put in, with nothing left over but the padding of the section
(`Ed25519Material.readsAs_keyPair`).
-/

namespace VolumeMigration.Ssh

/-- Reads a public blob of one string: the type of the key, the string and what follows it. -/
def publicBlob? (blob : List UInt8) : Option (String × List UInt8 × List UInt8) := do
  let (keyType, rest) ← text? blob
  let (point, rest) ← Wire.string? rest
  pure (keyType, point, rest)

/-- What the readers are to find in the written forms of an Ed25519 key, layer by layer. -/
def KeyPair.ReadsAs (keys : KeyPair) (m : Ed25519Material) : Prop :=
  ∃ contents blob secret padding,
    Pem.decode? keys.privateKey = some ("OPENSSH PRIVATE KEY", contents) ∧
    contents.take 15 = "openssh-key-v1\x00".toUTF8.toList ∧
    Container.ofBytes? contents =
      some { cipher := "none", kdf := "none", kdfOptions := "", keys := 1,
             publicBlob := blob, secret, rest := [] } ∧
    publicBlob? blob = some ("ssh-ed25519", m.point, []) ∧
    PublicLine.ofText? keys.publicKey = some { keyType := "ssh-ed25519", blob } ∧
    8 ∣ secret.length ∧
    PrivateSection.ofBytes? secret =
      some { check₁ := m.check, check₂ := m.check, keyType := "ssh-ed25519", point := m.point,
             pair := m.pair, comment := "", padding } ∧
    ∃ n, 1 ≤ n ∧ n ≤ 8 ∧ padding = (List.range' 1 n).map UInt8.ofNat

namespace Ed25519Material

/-- Whether the parts have the lengths that those of a key have. -/
structure IsSized (m : Ed25519Material) : Prop where
  point : m.point.length = 32
  pair : m.pair.length = 64
  check : m.check < 1 <<< 32

section

variable {m : Ed25519Material}

theorem length_keyType : Algorithm.ed25519.keyType.toUTF8.toList.length = 11 := by
  decide +kernel

theorem length_publicBlob (h : m.IsSized) : m.publicBlob.length = 51 := by
  rw [publicBlob, List.length_append, Wire.text, Wire.length_string, Wire.length_string,
    length_keyType, h.point]

/-- The private section is its fields and then the padding, which is never left out. -/
theorem exists_privateSection_eq (m : Ed25519Material) :
    ∃ n, 1 ≤ n ∧ n ≤ 8 ∧ m.privateSection =
      (Wire.word m.check ++ Wire.word m.check ++ Wire.text Algorithm.ed25519.keyType ++
        Wire.string m.point ++ Wire.string m.pair ++ Wire.text "") ++
          (List.range' 1 n).map UInt8.ofNat := by
  obtain ⟨n, hpos, hle, hpadding⟩ := Wire.exists_padding_eq (show 0 < blockLength by decide)
    (Wire.word m.check ++ Wire.word m.check ++ Wire.text Algorithm.ed25519.keyType ++
      Wire.string m.point ++ Wire.string m.pair ++ Wire.text "").length
  exact ⟨n, hpos, hle, by rw [privateSection, Wire.padTo, hpadding]⟩

theorem length_privateSection_lt (h : m.IsSized) : m.privateSection.length < 1 <<< 32 := by
  obtain ⟨n, -, hn, hsection⟩ := exists_privateSection_eq m
  have hempty : "".toUTF8.toList.length = 0 := by decide +kernel
  rw [hsection]
  simp only [List.length_append, List.length_map, List.length_range', Wire.text,
    Wire.length_word, Wire.length_string, length_keyType, h.point, h.pair, hempty]
  omega

theorem publicBlob?_publicBlob (h : m.IsSized) :
    publicBlob? m.publicBlob = some ("ssh-ed25519", m.point, []) := by
  have hpoint : Wire.string? (Wire.string m.point) = some (m.point, []) := by
    have hlength : m.point.length < 1 <<< 32 := by rw [h.point]; decide
    have hread := Wire.string?_string hlength []
    rwa [List.append_nil] at hread
  rw [publicBlob?, publicBlob, Wire.text?_text (by rw [length_keyType]; decide)]
  show (Wire.string? (Wire.string m.point)).bind (fun (point, rest) ↦
    some (Algorithm.ed25519.keyType, point, rest)) = _
  rw [hpoint]
  rfl

/-- What the container is read as. -/
theorem ofBytes?_container (h : m.IsSized) :
    Container.ofBytes? m.container =
      some { cipher := "none", kdf := "none", kdfOptions := "", keys := 1,
             publicBlob := m.publicBlob, secret := m.privateSection, rest := [] } := by
  have hnone : "none".toUTF8.toList.length < 1 <<< 32 := by decide +kernel
  have hempty : "".toUTF8.toList.length < 1 <<< 32 := by decide +kernel
  have hone : 1 < 1 <<< 32 := by decide
  have hblob : m.publicBlob.length < 1 <<< 32 := by
    rw [length_publicBlob h]
    decide
  have hsecret : Wire.string? (Wire.string m.privateSection) = some (m.privateSection, []) := by
    have := Wire.string?_string (length_privateSection_lt h) []
    rwa [List.append_nil] at this
  simp only [Container.ofBytes?, container, List.append_assoc, List.take_left, List.drop_left,
    bne_self_eq_false, Bool.false_eq_true, if_false, Wire.text?_text hnone,
    Wire.text?_text hempty, Wire.word?_word hone, Wire.string?_string hblob, hsecret,
    Option.bind_eq_bind, Option.bind_some, Option.pure_def]

/-- What the private section is read as. -/
theorem ofBytes?_privateSection (h : m.IsSized) :
    ∃ n, 1 ≤ n ∧ n ≤ 8 ∧ PrivateSection.ofBytes? m.privateSection =
      some { check₁ := m.check, check₂ := m.check, keyType := "ssh-ed25519", point := m.point,
             pair := m.pair, comment := "", padding := (List.range' 1 n).map UInt8.ofNat } := by
  obtain ⟨n, hpos, hle, hsection⟩ := exists_privateSection_eq m
  have htype : Algorithm.ed25519.keyType.toUTF8.toList.length < 1 <<< 32 := by
    rw [length_keyType]
    decide
  have hpoint : m.point.length < 1 <<< 32 := by
    rw [h.point]
    decide
  have hpair : m.pair.length < 1 <<< 32 := by
    rw [h.pair]
    decide
  have hempty : "".toUTF8.toList.length < 1 <<< 32 := by decide +kernel
  refine ⟨n, hpos, hle, ?_⟩
  -- each field is taken off the front, and what is left at the end is the padding
  rw [hsection]
  simp only [PrivateSection.ofBytes?, List.append_assoc, Wire.word?_word h.check,
    Wire.text?_text htype, Wire.string?_string hpoint, Wire.string?_string hpair,
    Wire.text?_text hempty, Option.bind_eq_bind, Option.bind_some, Option.pure_def]
  rfl

end

/-- The written forms of an Ed25519 key are read back as the key. -/
theorem readsAs_keyPair (m : Ed25519Material) (h : m.IsSized) : m.keyPair.ReadsAs m := by
  obtain ⟨n, hpos, hle, hsection⟩ := ofBytes?_privateSection h
  -- the container begins with its magic word, NUL included
  have hmagic : m.container.take 15 = "openssh-key-v1\x00".toUTF8.toList := by
    have hbytes : magic = "openssh-key-v1\x00".toUTF8.toList := by decide +kernel
    have hlength : magic.length = 15 := by decide +kernel
    rw [← hbytes, ← hlength, container]
    simp only [List.append_assoc, List.take_left]
  have htag : '\n' ∉ "OPENSSH PRIVATE KEY".toList := by decide +kernel
  have hblank : ' ' ∉ Algorithm.ed25519.keyType.toList := by decide +kernel
  have hfeed : '\n' ∉ Algorithm.ed25519.keyType.toList := by decide +kernel
  exact ⟨m.container, m.publicBlob, m.privateSection, _, Pem.decode?_encode htag m.container,
    hmagic, ofBytes?_container h, publicBlob?_publicBlob h,
    PublicLine.ofText?_authorizedLine hblank hfeed m.publicBlob,
    Wire.dvd_length_padTo (by decide) _, hsection, n, hpos, hle, rfl⟩

theorem readsAs_keyPair_sample : sample.IsSized ∧ sample.keyPair.ReadsAs sample := by
  have hsized : sample.IsSized := ⟨by decide, by decide, by decide⟩
  exact ⟨hsized, readsAs_keyPair sample hsized⟩

end Ed25519Material

end VolumeMigration.Ssh
