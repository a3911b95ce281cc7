import VolumeMigration.Proofs.Results
import VolumeMigration.Proofs.ShellWords
import VolumeMigration.Rsync.Command

/-!
# The words of an rsync command

An rsync command is handed over as one line, and what counts is which words a shell makes of it.
They are spelled out here from what a command asks for (`Command.arguments`), with both operands
in full (`Endpoint.address`), and the line is measured against them: it exists for exactly the
commands that can be carried out (`Command.Feasible`), and it is split into exactly these words,
with nothing in it for the shell to interpret (`Command.split?_line`). Paths, hosts and users may
be any text without a NUL. Of the private key file the line takes less: it stands between double
quotes, which take the meaning from neither `$` nor a backquote, quote or backslash.
-/

namespace VolumeMigration

namespace Rsync

/-! ### What is asked for -/

/-- The operand that rsync is to see: the path, with user and host in front of it if the side is
reached over ssh. -/
def Endpoint.address (e : Endpoint) : String :=
  match e.login with
  | none => e.path
  | some login =>
    (if login.user = "" then "root" else login.user) ++ "@" ++ login.host ++ ":" ++ e.path

namespace Command

/-- The words of the ssh command that rsync is to use. -/
def remoteShell (c : Command) : List String :=
  ["ssh", "-o", "StrictHostKeyChecking=no", "-o", "UserKnownHostsFile=/dev/null",
    "-o", "ConnectTimeout=5"] ++
  (match c.identityFile with
    | some file => ["-i", file]
    | none => []) ++
  match c.port with
  | some port => if port = 0 then [] else ["-p", toString port]
  | none => []

/-- The words that rsync is to be run with, its name first. -/
def arguments (c : Command) : List String :=
  ["rsync", "-av", "--info=progress2,misc0,flist0", "--no-inc-recursive", "-e",
    " ".intercalate c.remoteShell] ++
    (if c.compress then ["-z"] else []) ++ (if c.noChown then ["--no-o", "--no-g"] else []) ++
      (if c.delete then ["--delete"] else []) ++ [c.source.address, c.destination.address]

/-- Whether a command can be carried out. -/
structure Feasible (c : Command) : Prop where
  /-- At most one side is reached over ssh. -/
  one_remote : ¬(c.source.login.isSome = true ∧ c.destination.login.isSome = true)
  /-- What is reached over ssh has a host. -/
  host : ∀ e ∈ [c.source, c.destination], ∀ login, e.login = some login → login.host ≠ ""
  /-- No operand holds a NUL. -/
  nul : ∀ e ∈ [c.source, c.destination], '\x00' ∉ e.address.toList

end Command

/-! ### Operands -/

namespace Endpoint

variable {e : Endpoint} {text : String}

theorem operand_eq_ok_iff {word : String} : e.operand = .ok word ↔
    (∀ login, e.login = some login → login.host ≠ "") ∧ e.address = word := by
  rw [operand, address]
  cases e.login with
  | none => simp
  | some login =>
    by_cases hhost : login.host = ""
    · simp [hhost]
    · simp [hhost, defaultUser]

theorem word_eq_ok_iff : e.word = .ok text ↔
    (∀ login, e.login = some login → login.host ≠ "") ∧ Shell.quote? e.address = some text := by
  rw [word, bind_eq_ok_iff]
  constructor
  · rintro ⟨operand, hoperand, hquote⟩
    obtain ⟨hhost, rfl⟩ := operand_eq_ok_iff.mp hoperand
    refine ⟨hhost, ?_⟩
    cases h : Shell.quote? e.address with
    | none =>
      rw [h] at hquote
      cases hquote
    | some quoted =>
      rw [h] at hquote
      cases hquote
      rfl
  · rintro ⟨hhost, hquote⟩
    refine ⟨e.address, operand_eq_ok_iff.mpr ⟨hhost, rfl⟩, ?_⟩
    rw [hquote]

/-- A side can be written if it has a host, where it needs one, and no NUL. -/
theorem exists_word_iff : (∃ text, e.word = .ok text) ↔
    (∀ login, e.login = some login → login.host ≠ "") ∧ '\x00' ∉ e.address.toList := by
  rw [← Shell.quote?_eq_none_iff, ← ne_eq, Option.ne_none_iff_exists']
  simp only [word_eq_ok_iff, exists_and_left]

end Endpoint

namespace Command

variable {c : Command} {line : String}

theorem line_eq_ok_iff : c.line = .ok line ↔
    ¬(c.source.login.isSome = true ∧ c.destination.login.isSome = true) ∧
      ∃ source destination, c.source.word = .ok source ∧ c.destination.word = .ok destination ∧
        " ".intercalate (["rsync"] ++ c.options ++ [source, destination]) = line := by
  rw [Command.line]
  split
  next hboth =>
    rw [Bool.and_eq_true] at hboth
    exact ⟨nofun, fun h ↦ absurd hboth h.1⟩
  next hboth =>
    rw [Bool.and_eq_true] at hboth
    simp only [bind_eq_ok_iff, Except.ok.injEq]
    constructor
    · rintro ⟨source, hsource, destination, hdestination, hline⟩
      exact ⟨hboth, source, destination, hsource, hdestination, hline⟩
    · rintro ⟨-, source, destination, hsource, hdestination, hline⟩
      exact ⟨source, hsource, destination, hdestination, hline⟩

/-- A command has a line exactly if it can be carried out. -/
theorem exists_line_iff : (∃ line, c.line = .ok line) ↔ c.Feasible := by
  have hsource : (∃ text, c.source.word = .ok text) ↔ _ := Endpoint.exists_word_iff
  have hdestination : (∃ text, c.destination.word = .ok text) ↔ _ := Endpoint.exists_word_iff
  constructor
  · rintro ⟨line, hline⟩
    obtain ⟨hone, source, destination, hs, hd, -⟩ := line_eq_ok_iff.mp hline
    obtain ⟨hhost, hnul⟩ := hsource.mp ⟨source, hs⟩
    obtain ⟨hhost', hnul'⟩ := hdestination.mp ⟨destination, hd⟩
    refine ⟨hone, ?_, ?_⟩
    · simpa using ⟨hhost, hhost'⟩
    · simpa using ⟨hnul, hnul'⟩
  · rintro ⟨hone, hhost, hnul⟩
    obtain ⟨source, hs⟩ := hsource.mpr ⟨hhost _ (by simp), hnul _ (by simp)⟩
    obtain ⟨destination, hd⟩ := hdestination.mpr ⟨hhost _ (by simp), hnul _ (by simp)⟩
    exact ⟨_, line_eq_ok_iff.mpr ⟨hone, source, destination, hs, hd, rfl⟩⟩

/-! ### The line -/

theorem sshCommand_eq (c : Command) : c.sshCommand = " ".intercalate c.remoteShell := by
  rw [sshCommand, remoteShell]
  rcases c.port with _ | _ | port
  · rfl
  · rfl
  · rfl

theorem isOrdinaryWord_toString (n : Nat) : Shell.IsOrdinaryWord (toString n) := by
  have hdigits : (toString n).toList = Nat.toDigits 10 n := Nat.toList_repr
  constructor
  · intro hempty
    have hnil : Nat.toDigits 10 n = [] := by rw [← hdigits, hempty, String.toList_empty]
    exact Nat.toDigits_ne_nil hnil
  · rw [hdigits, List.all_eq_true]
    intro c hc
    have hdigit : c.isDigit = true := Nat.isDigit_of_mem_toDigits (by decide) (by decide) hc
    simp [Shell.isOrdinary, Char.isAlphanum, hdigit]

/-- The words of the ssh command can stand as they are, with the exception of the private key
file. -/
theorem isOrdinaryWord_or_of_mem_remoteShell {word : String} (hword : word ∈ c.remoteShell) :
    Shell.IsOrdinaryWord word ∨ c.identityFile = some word := by
  have hfixed : ∀ word ∈ ["ssh", "-o", "StrictHostKeyChecking=no", "-o",
      "UserKnownHostsFile=/dev/null", "-o", "ConnectTimeout=5"],
      Shell.IsOrdinaryWord word := by decide
  simp only [remoteShell, List.mem_append] at hword
  rcases hword with (hword | hword) | hword
  · exact Or.inl (hfixed word hword)
  · cases hfile : c.identityFile with
    | none =>
      rw [hfile] at hword
      cases hword
    | some file =>
      simp only [hfile] at hword
      rcases List.mem_pair.mp hword with rfl | rfl
      · exact Or.inl (by decide)
      · exact Or.inr rfl
  · cases hport : c.port with
    | none =>
      rw [hport] at hword
      cases hword
    | some port =>
      simp only [hport] at hword
      split at hword
      · cases hword
      · rcases List.mem_pair.mp hword with rfl | rfl
        · exact Or.inl (by decide)
        · exact Or.inl (isOrdinaryWord_toString port)

/-- Whether the private key file has a name that double quotes protect from the shell. -/
def HasPlainIdentity (c : Command) : Prop :=
  ∀ file, c.identityFile = some file → ∀ ch ∈ "\x00\"$`\\".toList, ch ∉ file.toList

theorem HasPlainIdentity.isPassive (h : c.HasPlainIdentity) {file : String}
    (hfile : c.identityFile = some file) : Shell.IsPassive file := by
  intro ch hch
  have hnot : ∀ bad ∈ "\x00\"$`\\".toList, ch ≠ bad := by
    rintro bad hbad rfl
    exact h file hfile ch hbad hch
  refine ⟨hnot '\x00' (by decide), ?_⟩
  by_contra hactive
  rw [Bool.not_eq_false, Shell.isActiveInDouble, List.contains_iff_mem] at hactive
  have hsubset : "$`\"\\".toList ⊆ "\x00\"$`\\".toList := by decide
  exact hnot ch (hsubset hactive) rfl

theorem HasPlainIdentity.isPassive_remoteShell (h : c.HasPlainIdentity) :
    ∀ word ∈ c.remoteShell, Shell.IsPassive word := by
  intro word hword
  rcases isOrdinaryWord_or_of_mem_remoteShell hword with hordinary | hfile
  · exact hordinary.isPassive
  · exact h.isPassive hfile

/-- The line of a command is split into the words of the command. -/
theorem split?_line (hidentity : c.HasPlainIdentity) (hline : c.line = .ok line) :
    Shell.split? line = some c.arguments := by
  obtain ⟨-, source, destination, hs, hd, rfl⟩ := line_eq_ok_iff.mp hline
  refine Shell.split?_intercalate ?_
  have hspells : ∀ {e : Endpoint} {text : String}, e.word = .ok text →
      Shell.Spells text e.address := fun h ↦ Shell.spells_quote (Endpoint.word_eq_ok_iff.mp h).2
  have hflags : ∀ word ∈ c.flags, Shell.IsOrdinaryWord word := by
    rw [flags]
    cases c.compress <;> cases c.noChown <;> cases c.delete <;> decide
  have hshell := Shell.spells_doubleQuoted
    (Shell.isPassive_intercalate hidentity.isPassive_remoteShell)
  have hfixed : ∀ word ∈ ["rsync", "-av", "--info=progress2,misc0,flist0",
      "--no-inc-recursive", "-e"], Shell.IsOrdinaryWord word := by decide
  have hall := List.rel_append (Shell.forall₂_spells_self hfixed) <|
    List.Forall₂.cons hshell <| List.rel_append (Shell.forall₂_spells_self hflags) <|
      List.Forall₂.cons (hspells hs) <| List.Forall₂.cons (hspells hd) .nil
  rw [options, sshCommand_eq, arguments]
  simpa [flags] using hall

/-- A command has a line exactly if it can be carried out, and a shell splits the line into the
words of the command, interpreting nothing in them. -/
theorem line_round_trip (c : Command) (hidentity : c.HasPlainIdentity) :
    ((∃ line, c.line = .ok line) ↔ c.Feasible) ∧
      ∀ line, c.line = .ok line → Shell.split? line = some c.arguments :=
  ⟨exists_line_iff, fun _ hline ↦ split?_line hidentity hline⟩

/-- A command with a path, a host and a user that a shell would take apart, or act upon, if they
were not quoted. -/
def awkward : Command where
  source := { path := "/it's $(here)/^`x`!\n", login := some { host := "a b", user := "\\" } }
  destination := { path := "" }
  port := some 2222
  identityFile := some "/tmp/my key!"
  delete := true

/-- The awkward command is carried out word for word, and nothing is executed on the way. -/
theorem line_round_trip_awkward :
    awkward.HasPlainIdentity ∧ ∃ line, awkward.line = .ok line ∧ Shell.split? line = some
      ["rsync", "-av", "--info=progress2,misc0,flist0", "--no-inc-recursive", "-e",
        "ssh -o StrictHostKeyChecking=no -o UserKnownHostsFile=/dev/null -o ConnectTimeout=5 " ++
          "-i /tmp/my key! -p 2222",
        "--delete", "\\@a b:/it's $(here)/^`x`!\n", ""] := by
  have hidentity : awkward.HasPlainIdentity := by
    rintro file ⟨⟩
    exact List.forall_iff_forall_mem.mp (by decide +kernel)
  obtain ⟨hexists, hsplit⟩ := line_round_trip awkward hidentity
  have hfeasible : awkward.Feasible := by
    refine ⟨by decide, ?_, ?_⟩
    · rintro e he login hlogin
      rcases List.mem_pair.mp he with rfl | rfl
      · cases hlogin
        decide
      · cases hlogin
    · intro e he
      rcases List.mem_pair.mp he with rfl | rfl
      · decide +kernel
      · decide +kernel
  obtain ⟨line, hline⟩ := hexists.mpr hfeasible
  refine ⟨hidentity, line, hline, (hsplit line hline).trans ?_⟩
  decide +kernel

end Command

end Rsync

end VolumeMigration
