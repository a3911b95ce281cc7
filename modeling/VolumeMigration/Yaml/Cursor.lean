import VolumeMigration.Yaml.Scalar

/-!
# A place in a YAML text

What is still to be read, and where it stands. Lines and columns count from zero here and
from one in the text of a `ReadError`.
-/

namespace VolumeMigration.Yaml

/-- A place in a text, with everything behind it. -/
structure Cursor where
  rest : List Char
  line : Nat := 0
  column : Nat := 0
  deriving DecidableEq, Repr

/-- A line and a column. -/
structure Mark where
  line : Nat
  column : Nat
  deriving DecidableEq, Repr

namespace Mark

/-- Whether this is the very first place, which is never mentioned. -/
def isStart (m : Mark) : Bool := m.line == 0 && m.column == 0

def describe (m : Mark) : String :=
  "line " ++ toString (m.line + 1) ++ " column " ++ toString (m.column + 1)

end Mark

/-- Why a text cannot be read. -/
structure ReadError where
  problem : String
  /-- Where it was noticed. -/
  mark : Mark
  /-- What was being read, and where that began. -/
  context : Option (String × Mark) := none
  deriving DecidableEq, Repr

namespace ReadError

/-- The beginning of what was being read is mentioned only if it is another place than that
of the problem. -/
def message (e : ReadError) : String :=
  e.problem ++ (if e.mark.isStart then "" else " at " ++ e.mark.describe) ++
    match e.context with
    | none => ""
    | some (what, begun) =>
      ", " ++ what ++ if begun.isStart || begun = e.mark then "" else " at " ++ begun.describe

end ReadError

namespace Cursor

/-- Where a place is. -/
def mark (c : Cursor) : Mark := ⟨c.line, c.column⟩

/-- Where the next token is. The end of a text stands on a line of its own. -/
def tokenMark (c : Cursor) : Mark :=
  if c.rest.isEmpty && c.column != 0 then ⟨c.line + 1, 0⟩ else c.mark

/-- A failure at a token. -/
def failToken {α : Type} (c : Cursor) (problem : String) (context : Option (String × Mark)) :
    Except ReadError α :=
  .error ⟨problem, c.tokenMark, context⟩

/-- A failure within a token that began at a mark. -/
def failWithin {α : Type} (c : Cursor) (problem what : String) (begun : Mark) :
    Except ReadError α :=
  .error ⟨problem, c.mark, some (what, begun)⟩

/-- The place behind the next character. -/
def next (c : Cursor) : Cursor :=
  match c.rest with
  | [] => c
  | ch :: rest => if isBreak ch then ⟨rest, c.line + 1, 0⟩ else ⟨rest, c.line, c.column + 1⟩

/-- The place behind the next `n` characters. -/
def skip (c : Cursor) : Nat → Cursor
  | 0 => c
  | n + 1 => c.next.skip n

/-- The characters up to the first that fails the test, and the place of that one. -/
def span (c : Cursor) (p : Char → Bool) : List Char × Cursor :=
  let taken := c.rest.takeWhile p
  (taken, c.skip taken.length)

/-- The next character. -/
def head? (c : Cursor) : Option Char := c.rest.head?

/-- The character behind the next one. -/
def second? (c : Cursor) : Option Char := (c.rest.drop 1).head?

/-- Whether the next character is an indicator that stands alone. -/
def isAt (c : Cursor) (indicator : Char) : Bool :=
  c.head? == some indicator && endsWord c.second?

/-- Spaces and tabs. -/
def isSpace (ch : Char) : Bool := ch == ' ' || ch == '\t'

/-- The place behind spaces. -/
def skipSpaces (c : Cursor) : Cursor := (c.span isSpace).2

/-- The place behind blanks, breaks and comments; `lines` bounds the number of lines. -/
def skipBlanks (c : Cursor) : Nat → Cursor
  | 0 => c
  | lines + 1 =>
    let spaces := c.skipSpaces
    let apart := spaces.column == 0 || c.column < spaces.column
    let isComment := apart && spaces.head? == some '#'
    let content := if isComment then (spaces.span (!isBreak ·)).2 else spaces
    if content.head?.any isBreak then content.next.skipBlanks lines else content

/-- The place of the next content. -/
def content (c : Cursor) : Cursor := c.skipBlanks (c.rest.length + 1)

end Cursor

end VolumeMigration.Yaml
