import VolumeMigration.Proofs.Armour

/-!
# The form of armour

Keys are read by other programs, so their texts are described here without the functions that write
them: a public key is one line of two fields (`Ssh.PublicLine.IsLine`), and a private key stands in
lines of letters, full but for the last, between a BEGIN and an END line (`Ssh.Pem.IsArmour`). The
letters decode to the bytes, and every line has an end of its own, a line feed. That holds of bytes
of every length: if the letters fill their last line, no empty one follows, and if there are none,
there is no line for them.
-/

namespace VolumeMigration

namespace Text.Base64

theorem encode_eq_nil_iff {bytes : List UInt8} : encode bytes = [] ↔ bytes = [] := by
  fun_cases encode bytes <;> simp

/-- The letters of base64 are graphic characters of ASCII. -/
theorem bounds_of_isLetter {c : Char} (h : IsLetter c) : '!' ≤ c ∧ c ≤ 'z' := by
  have between {lower upper : Char} (hlower : '!' ≤ lower) (hupper : upper ≤ 'z')
      (hc : lower ≤ c ∧ c ≤ upper) : '!' ≤ c ∧ c ≤ 'z' :=
    ⟨Char.le_trans hlower hc.1, Char.le_trans hc.2 hupper⟩
  rcases h with rfl | h
  · decide
  · unfold value? at h
    split_ifs at h with hcapital hsmall hdigit hplus hslash
    · exact between (by decide) (by decide) hcapital
    · exact between (by decide) (by decide) hsmall
    · exact between (by decide) (by decide) hdigit
    · subst hplus
      decide
    · subst hslash
      decide
    · cases h

theorem not_isBlank_of_isLetter {c : Char} (h : IsLetter c) : isBlank c = false := by
  have hlower : '!'.toNat ≤ c.toNat := (bounds_of_isLetter h).1
  have hupper : c.toNat ≤ 'z'.toNat := (bounds_of_isLetter h).2
  simp only [Char.reduceToNat] at hlower hupper
  simp only [isBlank, Bool.or_eq_false_iff, Bool.and_eq_false_iff, decide_eq_false_iff_not,
    beq_eq_false_iff_ne]
  omega

end Text.Base64

namespace Ssh

/-! ### A public key -/

/-- A line of an `authorized_keys` file, with these letters for the blob. -/
structure PublicLine.IsLine (keyType : String) (letters : List Char) (text : String) : Prop where
  /-- It is a single line: the one line feed is the last character. -/
  ended : text.toList.count '\n' = 1 ∧ text.toList.getLast? = some '\n'
  /-- Two fields stand in it, with a space between them. -/
  fields : text.toList.dropLast.splitOn ' ' = [keyType.toList, letters]
  /-- So it reads if any blank may separate fields. -/
  blanks : text.toList.splitOnP Text.isBlank = [keyType.toList, letters, []]

section

variable {keyType : String}

/-- The line, character by character. -/
theorem toList_authorizedLine (keyType : String) (blob : List UInt8) :
    (authorizedLine keyType blob).toList =
      keyType.toList ++ ' ' :: Text.Base64.encode blob ++ ['\n'] := by
  simp [authorizedLine]

/-- The line of a key whose type has no blanks has the form of a public line. -/
theorem isLine_authorizedLine (hblank : ∀ c ∈ keyType.toList, Text.isBlank c = false)
    (blob : List UInt8) :
    PublicLine.IsLine keyType (Text.Base64.encode blob) (authorizedLine keyType blob) := by
  have htype {c : Char} (hc : Text.isBlank c = true) : c ∉ keyType.toList := by
    intro hmem
    rw [hblank c hmem] at hc
    cases hc
  have hletters : ∀ c ∈ Text.Base64.encode blob, Text.isBlank c = false := fun c hc ↦
    Text.Base64.not_isBlank_of_isLetter (Text.Base64.isLetter_of_mem_encode c hc)
  have hfeed := Text.Base64.not_mem_encode (c := '\n') (by decide) blob
  refine ⟨?_, ?_, ?_⟩ <;> rw [toList_authorizedLine]
  · refine ⟨?_, List.getLast?_concat⟩
    simp [List.count_eq_zero_of_not_mem (htype (c := '\n') rfl),
      List.count_eq_zero_of_not_mem hfeed]
  · rw [List.dropLast_concat]
    exact PublicLine.splitOn_fields (htype rfl) blob
  · rw [List.append_assoc, List.cons_append,
      List.splitOnP_append_cons_of_forall_mem hblank ' ' rfl,
      List.splitOnP_append_cons_of_forall_mem hletters '\n' rfl]
    rfl

end

/-! ### A private key -/

namespace Pem

/-- Lines that are full but for the last, which is not empty. -/
structure IsWrapped (body : List (List Char)) : Prop where
  full : ∀ line ∈ body.dropLast, line.length = 64
  bounds : ∀ line ∈ body, 0 < line.length ∧ line.length ≤ 64

/-- Armour with this tag around these lines. -/
structure IsArmour (tag : String) (body : List (List Char)) (text : String) : Prop where
  /-- Every line has an end, and nothing is behind the last. -/
  lines : text.toList.splitOn '\n' =
    ("-----BEGIN " ++ tag ++ "-----").toList ::
      (body ++ [("-----END " ++ tag ++ "-----").toList, []])
  wrapped : IsWrapped body
  letters : ∀ line ∈ body, ∀ c ∈ line, Text.Base64.IsLetter c
  /-- Lines end by a line feed alone. -/
  feeds : '\r' ∈ text.toList → '\r' ∈ tag.toList

theorem wrap_eq_nil_iff {letters : List Char} : wrap letters = [] ↔ letters = [] := by
  rw [wrap]
  split <;> simp_all

/-- Every line is full but the last one, which is not empty. -/
theorem isWrapped_wrap (letters : List Char) : IsWrapped (wrap letters) := by
  fun_induction wrap letters with
  | case1 => exact ⟨by simp, by simp⟩
  | case2 letters h ih =>
    have hpos : 0 < letters.length := List.length_pos_iff.mpr (by simpa using h)
    refine ⟨?_, ?_⟩
    · by_cases hrest : wrap (letters.drop width) = []
      · simp [hrest]
      · -- lines follow, so letters are left and this line is full
        rw [List.dropLast_cons_of_ne_nil hrest]
        refine List.forall_mem_cons.mpr ⟨?_, ih.full⟩
        have hlonger : width < letters.length := by
          simpa [wrap_eq_nil_iff] using hrest
        rw [width] at hlonger
        rw [List.length_take, width]
        omega
    · refine List.forall_mem_cons.mpr ⟨?_, ih.bounds⟩
      rw [List.length_take, width]
      omega

theorem splitOn_encode {tag : String} (htag : '\n' ∉ tag.toList) (contents : List UInt8) :
    (encode tag contents).toList.splitOn '\n' = (opening tag).toList ::
      (wrap (Text.Base64.encode contents) ++ [(closing tag).toList, []]) := by
  rw [encode, splitOn_join (not_mem_lines (by decide) (by decide) htag contents), lines]
  simp

/-- What is encoded has the form of an armour. -/
theorem isArmour_encode {tag : String} (htag : '\n' ∉ tag.toList) (contents : List UInt8) :
    IsArmour tag (wrap (Text.Base64.encode contents)) (encode tag contents) where
  lines := splitOn_encode htag contents
  wrapped := isWrapped_wrap _
  letters line hline c hc := Text.Base64.isLetter_of_mem_encode c (mem_of_mem_wrap hline hc)
  feeds := by
    contrapose
    intro htag
    have hlines := not_mem_lines (by decide) (by decide) htag contents
    simp only [encode, String.toList_join, List.flatMap_map, List.mem_flatMap, not_exists, not_and,
      String.toList_append, List.mem_append, not_or]
    exact fun line hline ↦ ⟨hlines line hline, by decide⟩

end Pem

/-- Armour loses nothing. A public key is written as one line of two fields, the second of which
decodes to the blob; a private key as wrapped lines in a frame, which decode to its bytes when they
are joined. -/
theorem armour_lossless :
    (∀ (keyType : String) (blob : List UInt8),
      (∀ c ∈ keyType.toList, Text.isBlank c = false) →
      ∃ letters, Text.Base64.decode? letters = some blob ∧ (letters = [] ↔ blob = []) ∧
        PublicLine.IsLine keyType letters (authorizedLine keyType blob)) ∧
    ∀ (tag : String) (contents : List UInt8), '\n' ∉ tag.toList →
      ∃ body, Text.Base64.decode? body.flatten = some contents ∧
        Pem.IsArmour tag body (Pem.encode tag contents) := by
  constructor
  · intro keyType blob hblank
    exact ⟨_, Text.Base64.decode?_encode blob, Text.Base64.encode_eq_nil_iff,
      isLine_authorizedLine hblank blob⟩
  · intro tag contents htag
    refine ⟨_, ?_, Pem.isArmour_encode htag contents⟩
    rw [Pem.flatten_wrap]
    exact Text.Base64.decode?_encode contents

/-- A blob whose letters are padded, contents that fill a line, and no contents at all. -/
theorem armour_lossless_padded_full_empty :
    (∃ letters, Text.Base64.decode? letters = some [0, 0, 0, 11] ∧
      (letters = [] ↔ [0, 0, 0, 11] = ([] : List UInt8)) ∧
      PublicLine.IsLine "ssh-ed25519" letters (authorizedLine "ssh-ed25519" [0, 0, 0, 11])) ∧
    (∃ body, Text.Base64.decode? body.flatten = some (List.replicate 48 7) ∧
      Pem.IsArmour "OPENSSH PRIVATE KEY" body
        (Pem.encode "OPENSSH PRIVATE KEY" (List.replicate 48 7))) ∧
    ∃ body, Text.Base64.decode? body.flatten = some [] ∧
      Pem.IsArmour "OPENSSH PRIVATE KEY" body (Pem.encode "OPENSSH PRIVATE KEY" []) :=
  ⟨armour_lossless.1 _ _ (by simp [Text.isBlank]), armour_lossless.2 _ _ (by decide),
    armour_lossless.2 _ _ (by decide)⟩

end Ssh

end VolumeMigration
