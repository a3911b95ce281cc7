import VolumeMigration.Double
import VolumeMigration.Text.Classes

/-!
# Progress in rsync's output

Two shapes of line carry progress: the closing summary, `total size is 18,425`, and lines
written during the transfer, `  12,345  67%  1.2MB/s`. `Progress.ofLine?` reads either.

A count is a grouped run: digits in groups separated by single commas, as long as it can
be from where it starts. The summary is looked for first, and where its label is followed
by a digit nothing else is tried, even if the count does not fit 64 bits. During the
transfer the total is not written; it is estimated from the count and the percentage.
-/

namespace VolumeMigration

/-- The largest count of 64 bits. -/
def maxCount : Nat := 1 <<< 64 - 1

/-- How far a transfer has come. -/
structure Progress where
  /-- Bytes transferred so far. -/
  transferred : Nat
  /-- Bytes in all, as far as known. -/
  total : Nat
  /-- Completed part in percent, at most 100. -/
  percentage : Nat
  deriving DecidableEq, Repr

namespace Progress

/-- A transfer of which nothing is known yet. -/
def none : Progress := ⟨0, 0, 0⟩

/-- A finished transfer of `total` bytes. -/
def complete (total : Nat) : Progress := ⟨total, total, 100⟩

/-! ### Counts -/

/-- The longest run of digits in comma-separated groups at the start, without its commas,
and what follows it. A comma belongs to the run if a digit follows it. -/
def groupedRun : List Char → List Char × List Char
  | [] => ([], [])
  | ',' :: c :: cs =>
    if c.isDigit then
      let (digits, rest) := groupedRun cs
      (c :: digits, rest)
    else ([], ',' :: c :: cs)
  | c :: cs =>
    if c.isDigit then
      let (digits, rest) := groupedRun cs
      (c :: digits, rest)
    else ([], c :: cs)

/-- The grouped run at the start of a text that begins with a digit. -/
def groupedRun? (cs : List Char) : Option (List Char × List Char) :=
  match cs with
  | c :: _ => if c.isDigit then some (groupedRun cs) else .none
  | [] => .none

/-- The number written by decimal digits. -/
def ofDigits (digits : List Char) : Nat :=
  digits.foldl (fun n c ↦ n * 10 + (c.toNat - '0'.toNat)) 0

/-- The number written by decimal digits, if it fits 64 bits. -/
def count? (digits : List Char) : Option Nat :=
  let n := ofDigits digits
  if n ≤ maxCount then some n else .none

/-! ### The closing summary -/

/-- What the count of the closing summary follows. -/
def summaryLabel : List Char := "total size is ".toList

/-- The digits of the first summary label that is followed by a digit. -/
def summaryDigits? : List Char → Option (List Char)
  | [] => .none
  | c :: cs =>
    let here :=
      if summaryLabel.isPrefixOf (c :: cs) then
        groupedRun? ((c :: cs).drop summaryLabel.length)
      else .none
    match here with
    | some (digits, _) => some digits
    | .none => summaryDigits? cs

/-! ### Lines written during the transfer -/

/-- The digits of a percentage after a gap: at least one blank, one to three digits and a
percent sign. -/
def percentDigits? (cs : List Char) : Option (List Char) :=
  match cs with
  | [] => .none
  | c :: _ =>
    let afterGap := cs.dropWhile Text.isBlank
    let digits := afterGap.takeWhile Char.isDigit
    let fits := Text.isBlank c && 1 ≤ digits.length && digits.length ≤ 3
    if fits && (afterGap.drop digits.length).head? == some '%' then some digits else .none

/-- The digits of the count and of the percentage at the first place where a grouped run
is followed by a percentage. -/
def transferDigits? : List Char → Option (List Char × List Char)
  | [] => .none
  | c :: cs =>
    let here := do
      let (digits, rest) ← groupedRun? (c :: cs)
      let percent ← percentDigits? rest
      pure (digits, percent)
    match here with
    | some found => some found
    | .none => transferDigits? cs

/-- The size of a transfer that has moved `transferred` bytes at `percentage` percent,
computed in double precision, rounded to the nearest count and never less than what was
moved already. -/
def estimatedTotal (transferred percentage : Nat) : Nat :=
  let estimate := (((Binary64.ofNat transferred).mulNat 100).divNat percentage).round
  max (min estimate maxCount) transferred

/-- Progress from a count and a percentage. At zero percent nothing is known; above a
hundred the excess is dropped, after the estimate was made with it. -/
def ofTransfer (transferred percentage : Nat) : Progress :=
  if percentage = 0 then none
  else ⟨transferred, estimatedTotal transferred percentage, min percentage 100⟩

/-- The largest percentage that is taken seriously. -/
def maxPercentage : Nat := 255

/-- The progress that a line of output carries, if any. -/
def ofLine? (line : String) : Option Progress :=
  match summaryDigits? line.toList with
  | some digits => (count? digits).map complete
  | .none => do
    let (digits, percent) ← transferDigits? line.toList
    let transferred ← count? digits
    let percentage := ofDigits percent
    if percentage ≤ maxPercentage then pure (ofTransfer transferred percentage) else .none

end Progress

end VolumeMigration
