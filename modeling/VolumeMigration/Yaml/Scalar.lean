import VolumeMigration.Double

/-!
# Scalars in YAML

How a text is written as a YAML scalar. A text that a reader would take for null, a
truth value or a number is quoted, one of several lines becomes a literal block, and
everything else stands plain where its characters allow it, else between single quotes,
else between double quotes with escapes.
-/

namespace VolumeMigration.Yaml

/-! ### Characters -/

/-- Line breaks. -/
def isBreak (c : Char) : Bool :=
  c == '\n' || c == '\r' || c.toNat == 0x85 || c.toNat == 0x2028 || c.toNat == 0x2029

/-- Characters that can be written as they are. -/
def isPrintable (c : Char) : Bool :=
  let n := c.toNat
  n == 0x0A || (0x20 ≤ n && n ≤ 0x7E) || (0xA0 ≤ n && n ≤ 0xD7FF) ||
    (0xE000 ≤ n && n ≤ 0xFFFD && n != 0xFEFF) || 0x10000 ≤ n

/-- Whether an indicator before this place stands alone: a blank, a break, a NUL or the
end of the text follows. -/
def endsWord : Option Char → Bool
  | none => true
  | some c => c == ' ' || c == '\t' || isBreak c || c == '\x00'

/-! ### What a plain text would be read as -/

/-- The digit's value in some base, if it is a digit of it. -/
def digit? (base : Nat) (c : Char) : Option Nat :=
  let n :=
    if c.isDigit then some (c.toNat - '0'.toNat)
    else if 'a' ≤ c ∧ c ≤ 'z' then some (c.toNat - 'a'.toNat + 10)
    else if 'A' ≤ c ∧ c ≤ 'Z' then some (c.toNat - 'A'.toNat + 10)
    else none
  n.filter (· < base)

/-- The number written by the digits of a base; no digits write none. -/
def ofDigits? (base : Nat) (cs : List Char) : Option Nat :=
  if cs.isEmpty then none
  else cs.foldlM (fun n c ↦ (digit? base c).map (n * base + ·)) 0

/-- Removes a word from the start of a text. -/
def afterWord? (word : String) (cs : List Char) : Option (List Char) :=
  if word.toList.isPrefixOf cs then some (cs.drop word.toList.length) else none

/-- Bases other than ten, by the word that announces them. -/
def bases : List (String × Nat) := [("0x", 16), ("0o", 8), ("0b", 2)]

/-- Several digits of which the first is a zero, after an optional sign: no number. -/
def isZeroPadded (cs : List Char) : Bool :=
  let digits := match cs with
    | '-' :: rest => rest
    | '+' :: rest => rest
    | _ => cs
  1 < digits.length && digits.head? == some '0' && digits.all Char.isDigit

/-- A whole number without a sign, less than the limit: in some base behind its word, or in
base ten. -/
def magnitude? (limit : Nat) (cs : List Char) : Option Nat :=
  let based := bases.findSome? fun (word, base) ↦
    match afterWord? word cs with
    | some digits => ofDigits? base digits
    | none => none
  (based.or (ofDigits? 10 cs)).filter (· < limit)

/-- The whole number that a text is read as: up to 128 bits, in base ten without leading
zeros or in another base behind its word. -/
def wholeValue? (cs : List Char) : Option Int :=
  if isZeroPadded cs then none
  else
    match cs with
    | '-' :: rest => (magnitude? (1 <<< 127 + 1) rest).map fun n ↦ -(n : Int)
    | '+' :: rest => (magnitude? (1 <<< 128) rest).map Int.ofNat
    | _ => (magnitude? (1 <<< 128) cs).map Int.ofNat

/-- Whether a text is read as a whole number. -/
def isWhole (cs : List Char) : Bool := (wholeValue? cs).isSome

/-- The exponent behind the digits of a decimal fraction; zero where none is written. -/
def exponent? : List Char → Option Int
  | [] => some 0
  | e :: rest =>
    if e == 'e' || e == 'E' then
      match rest with
      | '-' :: digits => (ofDigits? 10 digits).map (- Int.ofNat ·)
      | '+' :: digits => (ofDigits? 10 digits).map Int.ofNat
      | digits => (ofDigits? 10 digits).map Int.ofNat
    else none

/-- The number that a decimal fraction is read as, if it is a finite one. A fraction has an
optional sign, an optional point, an optional exponent and at least one digit before that. -/
def fraction? (cs : List Char) : Option Double :=
  let (negative, unsigned) := match cs with
    | '-' :: rest => (true, rest)
    | '+' :: rest => (false, rest)
    | _ => (false, cs)
  let whole := unsigned.takeWhile Char.isDigit
  let afterWhole := unsigned.drop whole.length
  let places := match afterWhole with
    | '.' :: rest => rest.takeWhile Char.isDigit
    | _ => []
  let afterPlaces := match afterWhole with
    | '.' :: rest => rest.drop places.length
    | _ => afterWhole
  match ofDigits? 10 (whole ++ places), exponent? afterPlaces with
  | some mantissa, some exponent =>
    some (Double.ofDecimal negative mantissa (exponent - places.length)) |>.filter Double.isFinite
  | _, _ => none

/-- Words for infinities and for what is no number. -/
def specialNumbers : List (String × Double) :=
  [(".inf", .infinite false), (".Inf", .infinite false), (".INF", .infinite false),
    ("+.inf", .infinite false), ("+.Inf", .infinite false), ("+.INF", .infinite false),
    ("-.inf", .infinite true), ("-.Inf", .infinite true), ("-.INF", .infinite true),
    (".nan", .nan), (".NaN", .nan), (".NAN", .nan)]

/-- The number of double precision that a text is read as. Among these are the whole numbers
of more than 128 bits, but not the digits behind a leading zero. -/
def realValue? (cs : List Char) : Option Double :=
  if isZeroPadded cs then none
  else (specialNumbers.lookup (String.ofList cs)).or (fraction? cs)

/-- Whether a text is read as a number of double precision. -/
def isReal (cs : List Char) : Bool := (realValue? cs).isSome

/-- Texts read as null or as truth values. -/
def words : List String :=
  ["null", "Null", "NULL", "~", "true", "True", "TRUE", "false", "False", "FALSE"]

/-- Whether a plain text would not be read as the text that it is. -/
def isAmbiguous (s : String) : Bool :=
  s.isEmpty || words.contains s || isWhole s.toList || isZeroPadded s.toList || isReal s.toList

/-! ### Which styles a text allows -/

/-- Two characters next to each other. -/
def hasAdjacent (p q : Char → Bool) : List Char → Bool
  | a :: b :: rest => (p a && q b) || hasAdjacent p q (b :: rest)
  | _ => false

/-- Characters that mean something at the start of a plain scalar. -/
def isIndicator (c : Char) : Bool := "#,[]\x7b\x7d&*!|>'\"%@`".toList.contains c

/-- A colon before the end of a word, or a number sign behind one, in the text behind the
character `before`. -/
def hasInnerIndicator (before : Char) : List Char → Bool
  | [] => false
  | c :: rest =>
    (c == ':' && endsWord rest.head?) || (c == '#' && endsWord (some before)) ||
      hasInnerIndicator c rest

/-- Whether a text would be taken for structure if it stood plain. -/
def hasIndicator (cs : List Char) : Bool :=
  match cs with
  | [] => false
  | c :: rest =>
    "---".toList.isPrefixOf cs || "...".toList.isPrefixOf cs || isIndicator c ||
      ((c == '?' || c == ':' || c == '-') && endsWord rest.head?) || hasInnerIndicator c rest

/-- Whether a character can only be written as an escape. -/
def isSpecial (c : Char) : Bool := !isPrintable c

/-- Whether a text has to be escaped: for a character that cannot be written, or for a
space before a break, which a reader would drop. -/
def needsEscapes (cs : List Char) : Bool :=
  cs.any isSpecial || hasAdjacent (· == ' ') isBreak cs

/-- Whether spaces and breaks at the edges of a text forbid the plain style. -/
def hasBlankEdge (cs : List Char) : Bool :=
  let blank := fun c ↦ c == ' ' || isBreak c
  (cs.head?.map blank).getD false || (cs.getLast?.map blank).getD false

/-- Whether a text may stand plain. -/
def allowsPlain (cs : List Char) : Bool :=
  !(needsEscapes cs || hasBlankEdge cs || cs.any isBreak || hasIndicator cs)

/-- Whether a text may stand between single quotes. -/
def allowsSingle (cs : List Char) : Bool :=
  !(needsEscapes cs || hasAdjacent isBreak (· == ' ') cs)

/-- Whether a text may be a literal block. -/
def allowsLiteral (cs : List Char) : Bool :=
  !(needsEscapes cs || cs.getLast? == some ' ')

/-- How a scalar is written. -/
inductive Style where
  | plain
  | single
  | double
  | literal
  deriving DecidableEq, Repr

/-- The style of a text. A simple key stands on one line, before its colon. -/
def styleOf (simpleKey : Bool) (s : String) : Style :=
  let cs := s.toList
  if simpleKey && cs.any isBreak then .double
  else if cs.contains '\n' then
    if allowsLiteral cs && !simpleKey then .literal else .double
  else if !isAmbiguous s && allowsPlain cs then .plain
  else if allowsSingle cs then .single
  else .double

/-! ### Writing -/

/-- Spaces. -/
def spaces (n : Nat) : List Char := List.replicate n ' '

/-- Upper-case hexadecimal digits, `width` of them. -/
def hex (width n : Nat) : List Char :=
  let digits := (Nat.toDigits 16 n).map Char.toUpper
  List.replicate (width - digits.length) '0' ++ digits

/-- A character between double quotes. -/
def escape (c : Char) : List Char :=
  match c with
  | '\x00' => ['\\', '0']
  | '\x07' => ['\\', 'a']
  | '\x08' => ['\\', 'b']
  | '\t' => ['\\', 't']
  | '\n' => ['\\', 'n']
  | '\x0B' => ['\\', 'v']
  | '\x0C' => ['\\', 'f']
  | '\r' => ['\\', 'r']
  | '\x1B' => ['\\', 'e']
  | '"' => ['\\', '"']
  | '\\' => ['\\', '\\']
  | c =>
    if isPrintable c && !isBreak c then [c]
    else
      let n := c.toNat
      if n = 0x85 then ['\\', 'N']
      else if n = 0x2028 then ['\\', 'L']
      else if n = 0x2029 then ['\\', 'P']
      else if n ≤ 0xFF then '\\' :: 'x' :: hex 2 n
      else if n ≤ 0xFFFF then '\\' :: 'u' :: hex 4 n
      else '\\' :: 'U' :: hex 8 n

/-- The inside of single quotes: a quote is doubled, and a line behind a break starts at
the indentation. -/
def singleBody (indent : Nat) : Bool → List Char → List Char
  | afterBreak, [] => if afterBreak then spaces indent else []
  | afterBreak, c :: cs =>
    if isBreak c then c :: singleBody indent true cs
    else
      (if afterBreak then spaces indent else []) ++ (if c = '\'' then ['\'', '\''] else [c]) ++
        singleBody indent false cs

/-- The lines of a literal block: lines that are not empty start at the indentation. -/
def literalBody (indent : Nat) : Bool → List Char → List Char
  | _, [] => []
  | lineStart, c :: cs =>
    if isBreak c then c :: literalBody indent true cs
    else (if lineStart then spaces indent else []) ++ c :: literalBody indent false cs

/-- What the header of a literal block tells: the indentation, where the text begins by a
blank, and what happens to the breaks at the end. -/
def literalHints (cs : List Char) : List Char :=
  let startsBlank := (cs.head?.map fun c ↦ c == ' ' || isBreak c).getD false
  let last := cs.reverse
  let chomping := match last with
    | [] => ['-']
    | [c] => if isBreak c then ['+'] else ['-']
    | c :: d :: _ => if !isBreak c then ['-'] else if isBreak d then ['+'] else []
  (if startsBlank then ['2'] else []) ++ chomping

/-- A written scalar, and whether the line it ends on is complete. -/
structure Written where
  chars : List Char
  complete : Bool

/-- Writes a text. Lines of its own start at `indent`. -/
def write (style : Style) (indent : Nat) (s : String) : Written :=
  let cs := s.toList
  match style with
  | .plain => ⟨cs, false⟩
  | .single => ⟨'\'' :: singleBody indent false cs ++ ['\''], false⟩
  | .double => ⟨'"' :: cs.flatMap escape ++ ['"'], false⟩
  | .literal =>
    ⟨'|' :: literalHints cs ++ '\n' :: literalBody indent true cs,
      (cs.getLast?.map isBreak).getD true⟩

end VolumeMigration.Yaml
