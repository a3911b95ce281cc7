/-!
# Addresses of API servers

An API server is named by a URL. `Url.normalize` reads one and writes it in its normal
form, in which addresses are compared: the schemes http and https in lower case, a missing
path as `/`, the query kept and the fragment dropped. Host and port stay as written.
-/

namespace VolumeMigration.Url

/-- Why a text is no URL. -/
inductive Malformation where
  | empty
  | invalidCharacter
  | invalidAuthority
  | invalidFormat
  | tooLong
  | schemeTooLong
  deriving DecidableEq, Repr

namespace Malformation

def message : Malformation → String
  | empty => "empty string"
  | invalidCharacter => "invalid uri character"
  | invalidAuthority => "invalid authority"
  | invalidFormat => "invalid format"
  | tooLong => "uri too long"
  | schemeTooLong => "scheme too long"

end Malformation

/-- Characters of a scheme. -/
def isSchemeChar (c : Char) : Bool :=
  c.isAlphanum || c == '+' || c == '-' || c == '.'

/-- Characters that may stand before the path. -/
def isAuthorityChar (c : Char) : Bool :=
  c.isAlphanum || "!$&'()*+,-.:;=@[]_~".toList.contains c

/-- Characters that end the authority. -/
def endsAuthority (c : Char) : Bool := c == '/' || c == '?' || c == '#'

/-- Characters of a path; beyond ASCII all are taken. -/
def isPathChar (c : Char) : Bool :=
  let n := c.toNat
  n == 0x21 || n == 0x22 || (0x24 ≤ n && n ≤ 0x3B) || n == 0x3D || (0x40 ≤ n && n ≤ 0x5F) ||
    0x61 ≤ n

/-- Characters of a query; beyond ASCII all are taken. -/
def isQueryChar (c : Char) : Bool :=
  let n := c.toNat
  n == 0x21 || (0x24 ≤ n && n ≤ 0x3B) || n == 0x3D || 0x3F ≤ n

/-- What was seen of an authority so far. -/
structure AuthorityScan where
  /-- Colons after the last `@` or `]`. -/
  colons : Nat := 0
  opened : Bool := false
  closed : Bool := false
  /-- A percent sign that belongs to no user. -/
  percent : Bool := false
  /-- The last character is an `@`. -/
  endsWithAt : Bool := false
  deriving DecidableEq, Repr

namespace AuthorityScan

/-- Takes one more character. -/
def step (s : AuthorityScan) (c : Char) : Except Malformation AuthorityScan :=
  let s := { s with endsWithAt := false }
  if c == ':' then
    if 8 ≤ s.colons then .error .invalidAuthority else .ok { s with colons := s.colons + 1 }
  else if c == '[' then
    if s.percent || s.opened then .error .invalidAuthority else .ok { s with opened := true }
  else if c == ']' then
    if !s.opened || s.closed then .error .invalidAuthority
    else .ok { s with closed := true, colons := 0, percent := false }
  else if c == '@' then .ok { s with colons := 0, percent := false, endsWithAt := true }
  else if c == '%' then .ok { s with percent := true }
  else if isAuthorityChar c then .ok s
  else .error .invalidCharacter

/-- Whether what was seen is a complete authority. -/
def isComplete (s : AuthorityScan) : Bool :=
  s.opened == s.closed && s.colons ≤ 1 && !s.endsWithAt && !s.percent

end AuthorityScan

/-- The authority at the start of a text, and what follows it. -/
def authority (cs : List Char) : Except Malformation (List Char × List Char) := do
  let mine := cs.takeWhile (!endsAuthority ·)
  let scan ← mine.foldlM AuthorityScan.step {}
  if scan.isComplete then return (mine, cs.drop mine.length)
  throw .invalidAuthority

/-- Path and query in normal form, the fragment cut off. -/
def pathAndQuery (cs : List Char) : Except Malformation (List Char) := do
  let path := cs.takeWhile fun c ↦ c != '?' && c != '#'
  let rest := cs.drop path.length
  let query := if rest.head? == some '?' then rest.takeWhile (· != '#') else []
  if !path.all isPathChar || !(query.drop 1).all isQueryChar then throw .invalidCharacter
  return (if path.isEmpty then ['/'] else path) ++ query

/-- The scheme of a text, when it has one, with `://`, and what follows it. -/
def scheme? (cs : List Char) : Except Malformation (Option (List Char × List Char)) :=
  let name := cs.takeWhile isSchemeChar
  let lower := name.map Char.toLower
  let rest := cs.drop name.length
  if rest.take 3 != "://".toList then .ok none
  else if lower == "http".toList || lower == "https".toList then
    .ok (some (lower ++ "://".toList, rest.drop 3))
  else if 64 < name.length then .error .schemeTooLong
  else .ok (some (name ++ "://".toList, rest.drop 3))

/-- The longest text that is read. -/
def maxLength : Nat := 65534

/-- The normal form of a URL. A text without a scheme is a mere authority or a mere
path. -/
def normalize (url : String) : Except Malformation String := do
  let cs := url.toList
  if maxLength < url.utf8ByteSize then throw .tooLong
  if cs.isEmpty then throw .empty
  if cs == ['*'] then return "*"
  if cs.head? == some '/' then return String.ofList (← pathAndQuery cs)
  match ← scheme? cs with
  | none =>
    let (mine, rest) ← authority cs
    if rest.isEmpty then return String.ofList mine
    throw .invalidFormat
  | some (scheme, after) =>
    if after.isEmpty then throw .empty
    let (mine, rest) ← authority after
    if mine.isEmpty then throw .invalidFormat
    return String.ofList (scheme ++ mine ++ (← pathAndQuery rest))

end VolumeMigration.Url
