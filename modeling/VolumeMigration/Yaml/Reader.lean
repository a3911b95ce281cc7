import VolumeMigration.Yaml.Cursor
import VolumeMigration.Yaml.Document

/-!
# Reading YAML documents

Documents in block style and in flow style, which covers JSON, with plain, quoted and
literal scalars and comments. Anchors, aliases and tags are not read. A plain scalar is
null, a truth value or a number where it looks like one; every other scalar is a text.

A node is read from a place on and is as wide as its indentation says: what starts left of
its least column does not belong to it, so that a node may turn out to be missing, which
is null.
-/

namespace VolumeMigration.Yaml

/-- The number that a text means, if it looks like one. -/
def number? (cs : List Char) : Option Tree :=
  ((wholeValue? cs).map .int).or ((realValue? cs).map .real)

/-- What a plain scalar means. -/
def resolve (s : String) : Tree :=
  if s.isEmpty || ["null", "Null", "NULL", "~"].contains s then .null
  else if ["true", "True", "TRUE"].contains s then .bool true
  else if ["false", "False", "FALSE"].contains s then .bool false
  else (number? s.toList).getD (.string s)

namespace Reader

/-! ### Scalars -/

/-- Breaks inside a scalar. A line feed is a space if it stands alone, and nothing before
further breaks; all other breaks stay. -/
def fold : List Char → List Char
  | ['\n'] => [' ']
  | '\n' :: breaks => breaks
  | breaks => breaks

/-- The breaks at a place, with spaces between them, and the place behind them. -/
def breaks (c : Cursor) : List Char × Cursor :=
  let (taken, behind) := c.span fun ch ↦ Cursor.isSpace ch || isBreak ch
  (taken.filter isBreak, behind)

/-- A failure within a quoted scalar that began at a mark. -/
def failQuoted {α : Type} (c : Cursor) (problem : String) (begun : Mark) : Except ReadError α :=
  c.failWithin problem "while scanning a quoted scalar" begun

/-- What is said of a quoted scalar that does not end. -/
def endless : String := "found unexpected end of stream"

/-- What is said of a character that is no digit. -/
def noDigit : String := "did not find expected hexdecimal number"

/-- What follows an opening single quote, up to the closing one. -/
def single (begun : Mark) (c : Cursor) : Nat → Except ReadError (List Char × Cursor)
  | 0 => failQuoted c endless begun
  | fuel + 1 =>
    match c.rest with
    | [] => failQuoted c endless begun
    | '\'' :: '\'' :: _ => do
      let (cs, behind) ← single begun (c.skip 2) fuel
      return ('\'' :: cs, behind)
    | '\'' :: _ => .ok ([], c.next)
    | ch :: _ =>
      let (n, behind) := breaks c
      if !n.isEmpty then do
        let (cs, behind) ← single begun behind fuel
        return (fold n ++ cs, behind)
      else do
        let (cs, behind) ← single begun c.next fuel
        return (ch :: cs, behind)

/-- Escapes of one letter. -/
def letterEscapes : List (Char × Char) :=
  [('0', '\x00'), ('a', '\x07'), ('b', '\x08'), ('t', '\t'), ('\t', '\t'), ('n', '\n'),
    ('v', '\x0B'), ('f', '\x0C'), ('r', '\r'), ('e', '\x1B'), (' ', ' '), ('"', '"'),
    ('/', '/'), ('\\', '\\'), ('N', '\u0085'), ('_', '\u00a0'), ('L', '\u2028'),
    ('P', '\u2029')]

/-- Escapes of a code point, with the number of their digits. -/
def codeEscapes : List (Char × Nat) := [('x', 2), ('u', 4), ('U', 8)]

/-- The character that an escape stands for; the place is that of its letter. -/
def escaped (begun : Mark) (c : Cursor) (letter : Char) : Except ReadError (Char × Cursor) :=
  match letterEscapes.lookup letter, codeEscapes.lookup letter with
  | some ch, _ => .ok (ch, c.next)
  | none, some width =>
    let digits := (c.next.rest).take width
    match ofDigits? 16 digits with
    | some n =>
      if digits.length = width && n.isValidChar then .ok (Char.ofNat n, c.skip (width + 1))
      else failQuoted c noDigit begun
    | none => failQuoted c noDigit begun
  | none, none => failQuoted c "found unknown escape character" begun

/-- What follows an opening double quote, up to the closing one. -/
def double (begun : Mark) (c : Cursor) : Nat → Except ReadError (List Char × Cursor)
  | 0 => failQuoted c endless begun
  | fuel + 1 =>
    match c.rest with
    | [] => failQuoted c endless begun
    | '"' :: _ => .ok ([], c.next)
    | '\\' :: letter :: _ =>
      if isBreak letter then double begun (c.skip 2).skipSpaces fuel
      else do
        let (ch, behind) ← escaped begun c.next letter
        let (cs, behind) ← double begun behind fuel
        return (ch :: cs, behind)
    | ch :: _ =>
      let (n, behind) := breaks c
      if !n.isEmpty then do
        let (cs, behind) ← double begun behind fuel
        return (fold n ++ cs, behind)
      else do
        let (cs, behind) ← double begun c.next fuel
        return (ch :: cs, behind)

/-- Characters with a meaning of their own inside brackets. -/
def isFlowIndicator (ch : Char) : Bool := ",[]\x7b\x7d".toList.contains ch

/-- The plain characters of a line, behind the character `before`. -/
def plainChars (inFlow : Bool) (before : Char) : List Char → List Char
  | [] => []
  | ch :: rest =>
    if isBreak ch || (inFlow && isFlowIndicator ch) then []
    else if ch == ':' &&
        (endsWord rest.head? || (inFlow && (rest.head?.map isFlowIndicator).getD false)) then []
    else if ch == '#' && Cursor.isSpace before then []
    else ch :: plainChars inFlow ch rest

/-- A line of a plain scalar without the spaces at its end. -/
def plainLine (inFlow : Bool) (c : Cursor) : List Char × Cursor :=
  let taken := (plainChars inFlow 'x' c.rest).reverse.dropWhile Cursor.isSpace
  (taken.reverse, c.skip taken.length)

/-- The further lines of a plain scalar, which start at `column` or right of it. -/
def plainLines (inFlow : Bool) (column : Nat) (c : Cursor) : Nat → List Char × Cursor
  | 0 => ([], c)
  | fuel + 1 =>
    let (n, behind) := breaks c
    let (line, after) := plainLine inFlow behind
    if n.isEmpty || behind.column < column || line.isEmpty || behind.head? == some '#' then ([], c)
    else
      let (lines, last) := plainLines inFlow column after fuel
      (fold n ++ line ++ lines, last)

/-- The lines of a literal block whose indentation is `indent`, each with its break. Lines
that are blank as far as the indentation goes are empty ones. -/
def literalLines (indent : Nat) (c : Cursor) : Nat → List Char × Cursor
  | 0 => ([], c)
  | fuel + 1 =>
    let start := c.skip ((c.rest.take indent).takeWhile (· == ' ')).length
    let (line, behind) := start.span (!isBreak ·)
    if start.rest.isEmpty || (start.column < indent && !line.isEmpty) then ([], c)
    else
      let (lines, last) := literalLines indent behind.next fuel
      (line ++ behind.rest.take 1 ++ lines, last)

/-- The indentation of the first line that is not empty. -/
def firstIndent (c : Cursor) : Nat :=
  let blank := c.rest.takeWhile fun ch ↦ ch == ' ' || isBreak ch
  (blank.reverse.takeWhile (· == ' ')).length

/-- A literal block, at its bar, below a node that starts at `parent`. Of the breaks at its
end the first one stays, or all, or none, as the header says. -/
def literal (parent : Nat) (c : Cursor) : List Char × Cursor :=
  let (header, lineEnd) := c.next.span (!isBreak ·)
  let body := lineEnd.next
  let indent := match header.find? Char.isDigit with
    | some d => parent + (d.toNat - '0'.toNat)
    | none => max (firstIndent body) 1
  let (lines, behind) := literalLines indent body (body.rest.length + 1)
  let kept := (lines.reverse.dropWhile isBreak).reverse
  let text :=
    if header.contains '+' then lines
    else if header.contains '-' || kept.isEmpty then kept
    else lines.take (kept.length + 1)
  (text, behind)

/-! ### Nodes -/

/-- What is said of a node that is too deep. -/
def tooDeep : String := "exceeded depth limit"

/-- A scalar on one line, and whether it stands between quotes. -/
def scalar (inFlow : Bool) (c : Cursor) : Except ReadError ((List Char × Bool) × Cursor) := do
  let fuel := c.rest.length + 1
  match c.head? with
  | some '\'' => let (cs, behind) ← single c.mark c.next fuel; return ((cs, true), behind)
  | some '"' => let (cs, behind) ← double c.mark c.next fuel; return ((cs, true), behind)
  | _ => let (cs, behind) := plainLine inFlow c; return ((cs, false), behind)

/-- The meaning of a scalar. -/
def scalarTree (cs : List Char) (quoted : Bool) : Tree :=
  if quoted then .string (String.ofList cs) else resolve (String.ofList cs)

/-- The text of a key. -/
def keyText : Tree → String
  | .string s => s
  | .bool true => "true"
  | .bool false => "false"
  | .int n => toString n
  | .real x => realWord x
  | _ => "null"

/-- Characters at which no plain scalar starts. -/
def startsNothing (c : Cursor) : Bool :=
  match c.head? with
  | some ch => isIndicator ch || ((ch == '-' || ch == '?' || ch == ':') && endsWord c.second?)
  | none => true

mutual

/-- A node in flow style. -/
def flow (c : Cursor) : Nat → Except ReadError (Tree × Cursor)
  | 0 => c.failToken tooDeep none
  | fuel + 1 => do
    let c := c.content
    match c.head? with
    | some '[' =>
      let (items, behind) ← flowItems c.mark c.next fuel
      return (.list items, behind)
    | some '\x7b' =>
      let (entries, behind) ← flowEntries c.mark c.next fuel
      return (.map entries, behind)
    | some '\'' | some '"' =>
      let ((cs, quoted), behind) ← scalar true c
      return (scalarTree cs quoted, behind)
    | _ =>
      if startsNothing c then
        c.failToken "did not find expected node content"
          (some ("while parsing a flow node", c.tokenMark))
      let (line, behind) := plainLine true c
      let (lines, last) := plainLines true 0 behind c.rest.length
      return (resolve (String.ofList (line ++ lines)), last)

/-- Items up to the closing bracket, behind one at a mark. -/
def flowItems (begun : Mark) (c : Cursor) : Nat → Except ReadError (List Tree × Cursor)
  | 0 => c.failToken tooDeep none
  | fuel + 1 => do
    let c := c.content
    if c.head? == some ']' then return ([], c.next)
    let (item, behind) ← flow c fuel
    let behind := behind.content
    match behind.head? with
    | some ']' => return ([item], behind.next)
    | some ',' =>
      let (items, last) ← flowItems begun behind.next fuel
      return (item :: items, last)
    | _ =>
      behind.failToken "did not find expected ',' or ']'"
        (some ("while parsing a flow sequence", begun))

/-- Entries up to the closing brace, behind one at a mark. A key without a colon has the value
null. -/
def flowEntries (begun : Mark) (c : Cursor) : Nat → Except ReadError (List (String × Tree) × Cursor)
  | 0 => c.failToken tooDeep none
  | fuel + 1 => do
    let c := c.content
    if c.head? == some '\x7d' then return ([], c.next)
    let (key, behind) ← flow c fuel
    let behind := behind.content
    let (value, behind) ← if behind.head? == some ':' then flowValue behind.next fuel
      else pure (.null, behind)
    let behind := behind.content
    match behind.head? with
    | some '\x7d' => return ([(keyText key, value)], behind.next)
    | some ',' =>
      let (entries, last) ← flowEntries begun behind.next fuel
      return ((keyText key, value) :: entries, last)
    | _ =>
      behind.failToken "did not find expected ',' or '\x7d'"
        (some ("while parsing a flow mapping", begun))

/-- The value behind a colon, which may be left out. -/
def flowValue (c : Cursor) : Nat → Except ReadError (Tree × Cursor)
  | 0 => c.failToken tooDeep none
  | fuel + 1 =>
    let c := c.content
    if c.head? == some ',' || c.head? == some '\x7d' then .ok (.null, c) else flow c fuel

end

/-- A failure at a token where a key of a map was expected. -/
def failKey {α : Type} (c : Cursor) (begun : Mark) : Except ReadError α :=
  c.failToken "did not find expected key" (some ("while parsing a block mapping", begun))

/-- A failure at a colon where no map can begin. -/
def failValue {α : Type} (c : Cursor) : Except ReadError α :=
  c.failToken "mapping values are not allowed in this context" none

mutual

/-- A node in block style that starts at `column` or right of it, below a node that starts
at `parent`. `opens` allows it to be a map that begins on the line of this place. -/
def block (parent column : Nat) (opens : Bool) (c : Cursor) :
    Nat → Except ReadError (Tree × Cursor)
  | 0 => c.failToken tooDeep none
  | fuel + 1 => do
    let start := c.content
    let opens := opens || c.line < start.line
    if start.rest.isEmpty || start.column < column then return (.null, c)
    if start.isAt '-' then
      let (items, behind) ← blockItems start.mark false start.column start fuel
      return (.list items, behind)
    match start.head? with
    | some '|' =>
      let (cs, behind) := literal parent start
      return (.string (String.ofList cs), behind)
    | some '[' | some '\x7b' => flow start fuel
    | _ =>
      if start.isAt '?' then
        let (entries, behind) ← blockEntries start.mark start.column start fuel
        return (.map entries, behind)
      if startsNothing start && start.head? != some '\'' && start.head? != some '"' then
        start.failWithin "found character that cannot start any token"
          "while scanning for the next token" start.mark
      let ((cs, quoted), behind) ← scalar false start
      if behind.skipSpaces.isAt ':' && start.line == behind.line then
        if !opens then failValue behind.skipSpaces
        let (entries, behind) ← blockEntries start.mark start.column start fuel
        return (.map entries, behind)
      if quoted then return (scalarTree cs true, behind)
      let (lines, last) := plainLines false column behind start.rest.length
      if last.skipSpaces.isAt ':' then failValue last.skipSpaces
      return (resolve (String.ofList (cs ++ lines)), last)
termination_by structural fuel => fuel

/-- Items whose dashes stand at `column`, of a list that began at a mark. A list that stands
no deeper than the key before it ends at whatever is no dash. -/
def blockItems (begun : Mark) (atKey : Bool) (column : Nat) (c : Cursor) :
    Nat → Except ReadError (List Tree × Cursor)
  | 0 => c.failToken tooDeep none
  | fuel + 1 => do
    let start := c.content
    if start.column != column || !start.isAt '-' then
      if !atKey && column ≤ start.column && !start.rest.isEmpty then
        start.failToken "did not find expected '-' indicator"
          (some ("while parsing a block collection", begun))
      return ([], c)
    let (item, behind) ← block column (column + 1) true start.next fuel
    let (items, last) ← blockItems begun atKey column behind fuel
    return (item :: items, last)
termination_by structural fuel => fuel

/-- Entries whose keys, or question marks, stand at `column`, of a map that began at a mark. -/
def blockEntries (begun : Mark) (column : Nat) (c : Cursor) :
    Nat → Except ReadError (List (String × Tree) × Cursor)
  | 0 => c.failToken tooDeep none
  | fuel + 1 => do
    let start := c.content
    if start.rest.isEmpty || start.column < column then return ([], c)
    if column < start.column || start.isAt '-' then failKey start begun
    let (key, behind) ← if start.isAt '?' then do
        let (key, behind) ← block column (column + 1) true start.next fuel
        pure (keyText key, behind.content)
      else do
        let ((cs, quoted), behind) ← scalar false start
        pure (keyText (scalarTree cs quoted), behind.skipSpaces)
    if !behind.isAt ':' then
      behind.content.failToken "could not find expected ':'"
        (some ("while scanning a simple key", start.mark))
    let after := behind.next.content
    let (value, behind) ← if after.column == column && after.isAt '-' && behind.line < after.line
      then do
        let (items, last) ← blockItems after.mark true column after fuel
        pure (.list items, last)
      else block column (column + 1) (start.isAt '?') behind.next fuel
    let (entries, last) ← blockEntries begun column behind fuel
    return ((key, value) :: entries, last)
termination_by structural fuel => fuel

end

/-! ### Documents -/

/-- Whether a line ends the document before it, and whether it begins another. -/
def isMarker (marker line : List Char) : Bool :=
  marker.isPrefixOf line && endsWord (line.drop 3).head?

/-- Whether nothing but blanks and comments stands on a line. -/
def isEmptyLine (line : List Char) : Bool :=
  match line.dropWhile Cursor.isSpace with
  | [] => true
  | ch :: _ => ch == '#'

/-- The lines of the documents of a text, each with the number of its first line. A
document that was not announced has at least one line that is not empty. -/
def split (lines : List (List Char)) (number first : Nat) (announced : Bool)
    (current : List (List Char)) : List (Nat × List (List Char)) :=
  let done := if announced || !current.all isEmptyLine then [(first, current.reverse)] else []
  match lines with
  | [] => done
  | line :: rest =>
    if isMarker "---".toList line then
      done ++ split rest (number + 1) number true [spaces 3 ++ line.drop 3]
    else if isMarker "...".toList line then done ++ split rest (number + 1) (number + 1) false []
    else split rest (number + 1) first announced (line :: current)

/-- One document. -/
def document (first : Nat) (lines : List (List Char)) : Except ReadError Tree := do
  let start : Cursor := ⟨['\n'].intercalate lines, first, 0⟩
  let (tree, behind) ← block 0 0 true start (2 * start.rest.length + 4)
  let behind := behind.content
  if !behind.rest.isEmpty then
    behind.failToken "did not find expected <document start>" none
  return tree

end Reader

/-- A text with line feeds in place of carriage returns, of both together, and of next-line
characters. -/
def withLineFeeds : List Char → List Char
  | '\r' :: '\n' :: rest => '\n' :: withLineFeeds rest
  | c :: rest => (if c == '\r' || c.toNat == 0x85 then '\n' else c) :: withLineFeeds rest
  | [] => []

/-- The documents of a text. A byte order mark at its start does not count. -/
def documents (text : String) : Except ReadError (List Tree) :=
  let cs := match text.toList with
    | '\uFEFF' :: cs => cs
    | cs => cs
  (Reader.split ((withLineFeeds cs).splitOn '\n') 0 0 false []).mapM fun (first, lines) ↦
    Reader.document first lines

end VolumeMigration.Yaml
