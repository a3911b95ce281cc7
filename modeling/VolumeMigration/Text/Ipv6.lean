/-!
# IPv6 literals

The written forms of IPv6 addresses. An address is eight groups of one to four hexadecimal
digits between colons; one run of groups may be left out as `::`, which stands for at
least one group; the last two groups may be written as four decimal octets
(`Ipv6.isLiteral`). Nothing else belongs to a literal: no brackets, no zone, no blanks.
-/

namespace VolumeMigration.Text.Ipv6

/-- Whether a character is a hexadecimal digit. -/
def isHexDigit (c : Char) : Bool :=
  c.isDigit || ('a' ≤ c && c ≤ 'f') || ('A' ≤ c && c ≤ 'F')

/-- One to four hexadecimal digits. -/
def isGroup (cs : List Char) : Bool :=
  !cs.isEmpty && cs.length ≤ 4 && cs.all isHexDigit

/-- A decimal number from 0 to 255, without leading zeros. -/
def isOctet (cs : List Char) : Bool :=
  match cs with
  | [a] => a.isDigit
  | [a, b] => a.isDigit && b.isDigit && a != '0'
  | ['1', b, c] => b.isDigit && c.isDigit
  | ['2', b, c] => (b.isDigit && b < '5' && c.isDigit) || (b == '5' && c.isDigit && c ≤ '5')
  | _ => false

/-- Four octets between dots. -/
def isDottedQuad (cs : List Char) : Bool :=
  let octets := cs.splitOn '.'
  octets.length == 4 && octets.all isOctet

/-- How many groups a sequence of parts amounts to, when all of them are groups. The last
part may be a dotted quad, which counts twice. -/
def groupCount? : List (List Char) → Option Nat
  | [] => some 0
  | [part] => if isGroup part then some 1 else if isDottedQuad part then some 2 else none
  | part :: parts => if isGroup part then (groupCount? parts).map (· + 1) else none

/-- The parts between colons; an empty text has none. -/
def parts (cs : List Char) : List (List Char) :=
  if cs.isEmpty then [] else cs.splitOn ':'

/-- What stands before and after the first `::`. -/
def splitAtGap? : List Char → Option (List Char × List Char)
  | ':' :: ':' :: cs => some ([], cs)
  | c :: cs => (splitAtGap? cs).map fun (before, after) ↦ (c :: before, after)
  | [] => none

/-- Whether characters spell an IPv6 address. -/
def isLiteral (cs : List Char) : Bool :=
  match splitAtGap? cs with
  | none => groupCount? (parts cs) == some 8
  | some (before, after) =>
    match groupCount? (parts after) with
    | none => false
    | some n => (parts before).all isGroup && (parts before).length + n ≤ 7

/-- A host as it stands in an ssh destination: an IPv6 literal goes between brackets, so
that its colons do not end the host. -/
def bracketed (host : String) : String :=
  if isLiteral host.toList then "[" ++ host ++ "]" else host

end VolumeMigration.Text.Ipv6
