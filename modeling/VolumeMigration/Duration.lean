import VolumeMigration.Text.Classes
import VolumeMigration.Text.Quoted

/-!
# Durations

A length of time in whole nanoseconds, and how people write it: whole or fractional numbers with a
unit, as many as wanted, which add up. Blanks may stand between digits and in front of units and
numbers. A fraction counts only if it comes out exact: in nanoseconds for units up to the minute,
in seconds for longer ones.

A reader of characters moves through the terms (`Duration.Reader.step`); an error names a place by
its offset in bytes.
-/

namespace VolumeMigration

/-! ### Lengths of time -/

/-- A length of time. -/
structure Duration where
  nanos : Nat
  deriving DecidableEq, Repr

namespace Duration

/-- Nanoseconds in a second. -/
def nanosPerSecond : Nat := 1000000000

/-- Nanoseconds in a millisecond. -/
def nanosPerMilli : Nat := 1000000

def ofSeconds (n : Nat) : Duration := ⟨n * nanosPerSecond⟩

def ofMillis (n : Nat) : Duration := ⟨n * nanosPerMilli⟩

/-- Whole milliseconds. -/
def millis (d : Duration) : Nat := d.nanos / nanosPerMilli

/-- Whole seconds. -/
def seconds (d : Duration) : Nat := d.nanos / nanosPerSecond

/-- Nanoseconds beyond the whole seconds. -/
def subsecondNanos (d : Duration) : Nat := d.nanos % nanosPerSecond

instance : OfNat Duration 0 := ⟨⟨0⟩⟩

instance : Add Duration := ⟨fun a b ↦ ⟨a.nanos + b.nanos⟩⟩

/-- The time that is left; a longer time leaves none. -/
instance : Sub Duration := ⟨fun a b ↦ ⟨a.nanos - b.nanos⟩⟩

instance : LT Duration := ⟨fun a b ↦ a.nanos < b.nanos⟩

instance (a b : Duration) : Decidable (a < b) := inferInstanceAs (Decidable (a.nanos < b.nanos))

/-- The later of two moments. -/
def later (a b : Duration) : Duration := if a < b then b else a

@[simp] theorem nanos_zero : (0 : Duration).nanos = 0 := rfl

@[simp] theorem nanos_add (a b : Duration) : (a + b).nanos = a.nanos + b.nanos := rfl

@[simp] theorem nanos_sub (a b : Duration) : (a - b).nanos = a.nanos - b.nanos := rfl

theorem lt_iff_nanos_lt {a b : Duration} : a < b ↔ a.nanos < b.nanos := Iff.rfl

theorem lt_of_not_lt_of_lt {a b c : Duration} (hab : ¬b < a) (hbc : b < c) : a < c :=
  Nat.lt_of_le_of_lt (Nat.not_lt.mp hab) hbc

theorem add_assoc (a b c : Duration) : a + b + c = a + (b + c) :=
  congrArg mk (Nat.add_assoc a.nanos b.nanos c.nanos)

theorem seconds_ofSeconds (n : Nat) : (ofSeconds n).seconds = n := by
  simp [ofSeconds, seconds, nanosPerSecond]

end Duration

end VolumeMigration

namespace VolumeMigration.Duration

/-! ### Durations in words -/

/-- Why a text is no duration. -/
inductive Malformation where
  | empty
  | invalidCharacter (offset : Nat)
  | numberExpected (offset : Nat)
  | unitNeeded (value : Nat)
  | unknownUnit (name : String)
  | overflow
  deriving DecidableEq, Repr

namespace Malformation

def message : Malformation → String
  | empty => "value was empty"
  | invalidCharacter offset => "invalid character at " ++ toString offset
  | numberExpected offset => "expected number at " ++ toString offset
  | unitNeeded value =>
    "time unit needed, for example " ++ toString value ++ "sec or " ++ toString value ++ "ms"
  | unknownUnit name =>
    "unknown time unit " ++ Text.quoted name ++
      ", supported units: ns, us/µs, ms, sec, min, hours, days, weeks, months, years " ++
      "(and few variations)"
  | overflow =>
    "number is too large or cannot be represented without a lack of precision " ++
      "(values below 1ns are not supported)"

end Malformation

/-! ### Units -/

/-- A unit of time. -/
structure TimeUnit where
  /-- Its length in nanoseconds. -/
  nanos : Nat
  /-- What a fraction of it has to be a multiple of; zero where there are no fractions. -/
  grain : Nat
  deriving DecidableEq, Repr

namespace TimeUnit

/-- A unit up to the minute. -/
def fine (nanos : Nat) : TimeUnit := ⟨nanos, 1⟩

/-- A unit longer than a minute, given in seconds. -/
def coarse (seconds : Nat) : TimeUnit := ⟨seconds * nanosPerSecond, nanosPerSecond⟩

/-- Units by their names. A month has 30.44 days, a year 365.25. -/
def names : List (List String × TimeUnit) :=
  [(["nanos", "nsec", "ns"], ⟨1, 0⟩),
    (["usec", "us", "µs"], fine 1000),
    (["millis", "msec", "ms"], fine 1000000),
    (["seconds", "second", "secs", "sec", "s"], fine nanosPerSecond),
    (["minutes", "minute", "min", "mins", "m"], fine (60 * nanosPerSecond)),
    (["hours", "hour", "hr", "hrs", "h"], coarse 3600),
    (["days", "day", "d"], coarse 86400),
    (["weeks", "week", "wk", "wks", "w"], coarse 604800),
    (["months", "month", "M"], coarse 2630016),
    (["years", "year", "yr", "yrs", "y"], coarse 31557600)]

/-- The unit of a name. -/
def ofName? (name : String) : Option TimeUnit :=
  (names.find? fun (ns, _) ↦ ns.contains name).map (·.2)

end TimeUnit

namespace Reader

/-- Every number in between has 64 bits. -/
def limit : Nat := 1 <<< 64

/-- A number that must not exceed its bits. -/
def bounded (n : Nat) : Except Malformation Nat :=
  if n < limit then .ok n else .error .overflow

/-- A fraction in decimal digits. -/
structure Fraction where
  numerator : Nat := 0
  denominator : Nat := 1
  deriving DecidableEq, Repr

namespace Fraction

/-- The fraction with one more digit. -/
def push (f : Fraction) (digit : Nat) : Except Malformation Fraction := do
  return { denominator := ← bounded (f.denominator * 10)
           numerator := ← bounded (f.numerator * 10 + digit) }

end Fraction

/-- Adds seconds and nanoseconds; seconds have 64 bits. -/
def add (total : Duration) (seconds nanos : Nat) : Except Malformation Duration := do
  let nanos ← bounded (total.subsecondNanos + nanos)
  let sum : Duration := ⟨(total.seconds + seconds) * nanosPerSecond + nanos⟩
  let _ ← bounded sum.seconds
  return sum

/-- Adds `count` times so many nanoseconds, of which whole seconds are kept apart where the
unit has them. -/
def addTimes (total : Duration) (count : Nat) (u : TimeUnit) : Except Malformation Duration := do
  if u.nanos % nanosPerSecond = 0 then
    add total (← bounded (count * (u.nanos / nanosPerSecond))) 0
  else add total 0 (← bounded (count * u.nanos))

/-- Adds a fraction of a unit, if it comes out exact. -/
def addFraction (total : Duration) (f : Fraction) (u : TimeUnit) :
    Except Malformation Duration := do
  if u.grain = 0 then throw .overflow
  let scaled ← bounded (f.numerator * (u.nanos / u.grain))
  if scaled % f.denominator ≠ 0 then throw .overflow
  let amount := scaled / f.denominator
  if u.grain = 1 then add total 0 amount else add total amount 0

/-- Adds a term: a number, a fraction of it if one was written, and the name of a unit. -/
def addTerm (total : Duration) (count : Nat) (fraction : Option Fraction) (name : String) :
    Except Malformation Duration := do
  match TimeUnit.ofName? name with
  | none => throw (if name.isEmpty then .unitNeeded count else .unknownUnit name)
  | some u =>
    let sum ← addTimes total count u
    match fraction with
    | some f => addFraction sum f u
    | none => return sum

/-- What is being read. -/
inductive Phase where
  /-- Blanks before a number, from this offset on. -/
  | before (offset : Nat) (first : Bool)
  /-- The digits of a number. -/
  | number (count : Nat)
  /-- The digits behind a point; a fault in them is reported at `mark`. -/
  | fraction (count : Nat) (f : Fraction) (mark : Nat)
  /-- The letters of a unit, the last one first. -/
  | unit (count : Nat) (fraction : Option Fraction) (letters : List Char)
  deriving DecidableEq, Repr

/-- Letters of units. -/
def isUnitLetter (c : Char) : Bool := c.isAlpha || c == 'µ'

/-- The value of a decimal digit. -/
def digit (c : Char) : Nat := c.toNat - '0'.toNat

/-- Takes one character, at this offset. -/
def step (total : Duration) (phase : Phase) (offset : Nat) (c : Char) :
    Except Malformation (Duration × Phase) := do
  match phase with
  | .before start first =>
    if c.isDigit then return (total, .number (digit c))
    if Text.isBlank c then return (total, .before start first)
    throw (.numberExpected start)
  | .number count =>
    if c.isDigit then return (total, .number (← bounded (count * 10 + digit c)))
    if Text.isBlank c then return (total, phase)
    if isUnitLetter c then return (total, .unit count none [c])
    if c == '.' then return (total, .fraction count {} offset)
    throw (.invalidCharacter offset)
  | .fraction count f mark =>
    let behind := offset + c.utf8Size
    if c.isDigit then return (total, .fraction count (← f.push (digit c)) behind)
    if Text.isBlank c then return (total, .fraction count f behind)
    if isUnitLetter c && 1 < f.denominator then return (total, .unit count (some f) [c])
    throw (.invalidCharacter mark)
  | .unit count fraction letters =>
    let close := addTerm total count fraction (String.ofList letters.reverse)
    if c.isDigit then return (← close, .number (digit c))
    if Text.isBlank c then return (← close, .before (offset + c.utf8Size) false)
    if isUnitLetter c then return (total, .unit count fraction (c :: letters))
    throw (.invalidCharacter offset)

/-- What the end of the text makes of a phase. -/
def finish (total : Duration) : Phase → Except Malformation Duration
  | .before _ first => if first then .error .empty else .ok total
  | .number count => addTerm total count none ""
  | .fraction count f mark =>
    if f.denominator = 1 then .error (.invalidCharacter mark)
    else addTerm total count (some f) ""
  | .unit count fraction letters =>
    addTerm total count fraction (String.ofList letters.reverse)

/-- Takes all characters. -/
def run (total : Duration) (phase : Phase) (offset : Nat) :
    List Char → Except Malformation Duration
  | [] => finish total phase
  | c :: cs => do
    let (total, phase) ← step total phase offset c
    run total phase (offset + c.utf8Size) cs

end Reader

/-- Reads a duration. A zero needs no unit. -/
def ofText (text : String) : Except Malformation Duration :=
  if text = "0" then .ok ⟨0⟩ else Reader.run ⟨0⟩ (.before 0 true) 0 text.toList

end VolumeMigration.Duration
