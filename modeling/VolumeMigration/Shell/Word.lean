/-!
# Writing a word for the shell

A word is any text. On a command line it is written in chunks that stand directly after
one another, each unquoted, between single quotes or between double quotes; a shell that
splits the line joins the chunks to the word again.

A chunk runs as far as one style admits all its characters, and the plainest admitted
style is taken. Single quotes cannot hold a single quote; backslashes are kept out of them
too, because one widespread shell reads them there. Double quotes hold neither `$` nor a
backquote, which would have to be escaped, and neither `!` nor `^`, which an interactive
shell may take for a reference to its history. A caret is therefore admitted nowhere but
right behind an opening single quote.
-/

namespace VolumeMigration.Shell

/-- How a chunk of a word is written. -/
inductive Style where
  | unquoted
  | singleQuoted
  | doubleQuoted
  deriving DecidableEq, Repr

/-- Characters that mean themselves without quotes. -/
def isPlain (c : Char) : Bool :=
  c.isAlphanum || "+-./:@]_".toList.contains c

namespace Style

/-- Whether a style can hold a character. -/
def admits : Style → Char → Bool
  | unquoted, c => isPlain c
  | singleQuoted, c => !"'\\^".toList.contains c
  | doubleQuoted, c => !"$`!^".toList.contains c

/-- Characters that are written with a backslash between double quotes. -/
def isEscaped (c : Char) : Bool := "$`\"\\".toList.contains c

/-- A chunk as it stands on the command line. -/
def write : Style → List Char → List Char
  | unquoted, cs => cs
  | singleQuoted, cs => '\'' :: cs ++ ['\'']
  | doubleQuoted, cs =>
    '"' :: (cs.flatMap fun c ↦ if isEscaped c then ['\\', c] else [c]) ++ ['"']

end Style

/-- The styles that are still possible for a chunk, the plainest first. -/
abbrev Styles := List Style

/-- All styles, the plainest first. -/
def allStyles : Styles := [.unquoted, .singleQuoted, .doubleQuoted]

/-- The styles possible for a chunk that begins with this character. -/
def openingStyles (c : Char) : Styles :=
  if c = '^' then [.singleQuoted] else allStyles.filter (·.admits c)

/-- Carries a chunk on as far as one style admits all of it. The answer is the rest of the
chunk, the styles possible for it, and what follows it. -/
def continueChunk (styles : Styles) : List Char → List Char × Styles × List Char
  | [] => ([], styles, [])
  | c :: cs =>
    match styles.filter (·.admits c) with
    | [] => ([], styles, c :: cs)
    | style :: others =>
      let (taken, last, rest) := continueChunk (style :: others) cs
      (c :: taken, last, rest)

/-- What follows a chunk is no longer than what there was. -/
theorem length_continueChunk_rest_le (styles : Styles) (cs : List Char) :
    (continueChunk styles cs).2.2.length ≤ cs.length := by
  induction cs generalizing styles with
  | nil => simp [continueChunk]
  | cons c cs ih =>
    unfold continueChunk
    split
    · simp
    · rename_i style others _
      exact Nat.le_succ_of_le (ih (style :: others))

/-- A word in chunks, each with its style. -/
def chunks : List Char → List (Style × List Char)
  | [] => []
  | c :: cs =>
    let found := continueChunk (openingStyles c) cs
    (found.2.1.headD .doubleQuoted, c :: found.1) :: chunks found.2.2
termination_by cs => cs.length
decreasing_by exact Nat.lt_succ_of_le (length_continueChunk_rest_le _ _)

/-- A word as it stands on a command line. The empty word needs quotes to be seen; a word
with a NUL has no written form. -/
def quote? (word : String) : Option String :=
  if word.toList.contains '\x00' then none
  else if word.isEmpty then some "''"
  else some (String.ofList ((chunks word.toList).flatMap fun (style, cs) ↦ style.write cs))

end VolumeMigration.Shell
