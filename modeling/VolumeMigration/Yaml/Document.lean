import VolumeMigration.Tree
import VolumeMigration.Yaml.Scalar

/-!
# Writing a tree as a YAML document

Block style, two spaces a level. Keys are sorted. A list stands below its key without
further indentation, an empty list or map is written by its brackets, and what follows a
dash stands on the dash's line. A key of more than 128 bytes or of several lines does not
fit before a colon and is announced by a question mark.
-/

namespace VolumeMigration.Yaml

/-- Bytes of the longest key that stands before its colon. -/
def maxSimpleKey : Nat := 128

/-- Whether a key stands before its colon. -/
def isSimpleKey (key : String) : Bool :=
  key.utf8ByteSize ≤ maxSimpleKey && !key.toList.any isBreak

/-- A written scalar with the end of its line. -/
def Written.line (w : Written) : List Char :=
  if w.complete then w.chars else w.chars ++ ['\n']

/-- A text as a scalar with the end of its line; lines of its own start two spaces further
in than `indent`. -/
def scalarLine (indent : Nat) (s : String) : List Char :=
  (write (styleOf false s) (indent + 2) s).line

/-- A text as a line that is not a text. -/
def wordLine (s : String) : List Char := s.toList ++ ['\n']

/-- The written form of a truth value. -/
def boolWord (b : Bool) : String := if b then "true" else "false"

/-- The written form of a number of double precision: with its point where the first digit
stands near it, and times a power of ten elsewhere. -/
def realWord : Double → String
  | .nan => ".nan"
  | .infinite negative => if negative then "-.inf" else ".inf"
  | .finite negative units =>
    let x := Decimal.ofUnits units
    let digits := if -5 < x.point ∧ x.point ≤ 16 then x.positional else x.scientific
    String.ofList (Double.signed negative digits)

/-- The key of an entry and everything up to its value's place. A simple key ends by its
colon; any other takes lines of its own. -/
def keyPart (indent : Nat) (key : String) : List Char :=
  if isSimpleKey key then (write (styleOf true key) indent key).chars ++ [':']
  else '?' :: ' ' :: scalarLine indent key ++ spaces indent ++ [':']

mutual

/-- A tree whose place is behind a dash, a question mark or the colon of a long key, or
at the start of the document: after `gap`, with lines of its own from `indent` on. -/
def block (gap : List Char) (indent : Nat) : Tree → List Char
  | .null => gap ++ wordLine "null"
  | .bool b => gap ++ wordLine (boolWord b)
  | .int n => gap ++ wordLine (toString n)
  | .real x => gap ++ wordLine (realWord x)
  | .string s => gap ++ scalarLine (indent - 2) s
  | .list [] => gap ++ wordLine "[]"
  | .list (item :: items) =>
    gap ++ '-' :: block [' '] (indent + 2) item ++ itemLines indent items
  | .map entries =>
    match entryBlocks indent entries with
    | [] => gap ++ wordLine "\x7b\x7d"
    | first :: others =>
      let sorted := (first :: others).mergeSort fun a b ↦ a.1 ≤ b.1
      gap ++ ((sorted.map (·.2)).intersperse (spaces indent)).flatten

/-- The value of a simple key, behind its colon. -/
def keyValue (indent : Nat) : Tree → List Char
  | .null => ' ' :: wordLine "null"
  | .bool b => ' ' :: wordLine (boolWord b)
  | .int n => ' ' :: wordLine (toString n)
  | .real x => ' ' :: wordLine (realWord x)
  | .string s => ' ' :: scalarLine indent s
  | .list [] => ' ' :: wordLine "[]"
  | .list (item :: items) =>
    '\n' :: spaces indent ++ '-' :: block [' '] (indent + 2) item ++ itemLines indent items
  | .map entries =>
    match entryBlocks (indent + 2) entries with
    | [] => ' ' :: wordLine "\x7b\x7d"
    | first :: others =>
      let sorted := (first :: others).mergeSort fun a b ↦ a.1 ≤ b.1
      '\n' :: (sorted.map fun e ↦ spaces (indent + 2) ++ e.2).flatten

/-- Items of a list, each on a line that starts at `indent`. -/
def itemLines (indent : Nat) : List Tree → List Char
  | [] => []
  | item :: items => spaces indent ++ '-' :: block [' '] (indent + 2) item ++ itemLines indent items

/-- Entries of a map, each with its key, written without the indentation of its first
line. -/
def entryBlocks (indent : Nat) : List (String × Tree) → List (String × List Char)
  | [] => []
  | (key, value) :: entries =>
    let written :=
      if isSimpleKey key then keyPart indent key ++ keyValue indent value
      else keyPart indent key ++ block [' '] (indent + 2) value
    (key, written) :: entryBlocks indent entries

end

/-- A tree as a document. -/
def document (t : Tree) : String := String.ofList (block [] 0 t)

end VolumeMigration.Yaml
