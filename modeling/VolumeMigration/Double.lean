/-!
# Numbers of double precision

The estimate of a transfer's size is made in IEEE 754 double precision, and its last bits can
be seen in the answer. A `Binary64` is such a number without a sign, kept exactly as
`significand * 2 ^ exponent`, so the arithmetic is that of natural numbers:
`Binary64.ofRatio` is the one place that rounds, to 53 significant bits and to the even
neighbour on a tie. Neither the subnormal range nor overflow is modelled there: the numbers
met are ratios of a 64-bit count and a percentage.

A text of YAML can mean any number of double precision (`Double`): the finite ones of either
sign, the infinities and what is no number. A finite one is kept as a multiple of the least
positive one, `2 ^ -1074`, so that there is one way to keep it, and numbers below the normal
range need no rule of their own: their bits all fit. `Double.ofDecimal` reads a decimal
fraction, rounding once. `Decimal.ofUnits` goes back, to the fewest digits that are read as the
number again and, among these, to the nearest.
-/

namespace VolumeMigration

/-! ### Arithmetic -/

/-- The number `significand * 2 ^ exponent`. -/
structure Binary64 where
  significand : Nat
  exponent : Int
  deriving DecidableEq, Repr

namespace Binary64

/-- Bits in the significand of a normal number. -/
def precision : Nat := 53

/-- The whole number nearest to `num / den`, the even one of two. -/
def roundTiesToEven (num den : Nat) : Nat :=
  let q := num / den
  let twice := 2 * (num % den)
  if twice < den ∨ (twice = den ∧ q % 2 = 0) then q else q + 1

/-- The whole number nearest to `num / den`, the larger one of two. -/
def roundTiesAway (num den : Nat) : Nat :=
  (2 * num + den) / (2 * den)

/-- `num / den` divided by `2 ^ exponent`, as a numerator and a denominator. -/
def scaled (num den : Nat) (exponent : Int) : Nat × Nat :=
  (num <<< (-exponent).toNat, den <<< exponent.toNat)

/-- The double nearest to `num / den`, with a tie going to the even significand. -/
def ofRatio (num den : Nat) : Binary64 :=
  if num = 0 then ⟨0, 0⟩
  else
    -- with the lower exponent the scaled quotient lies between 2 ^ 52 and 2 ^ 54
    let low : Int := Int.ofNat num.log2 - Int.ofNat den.log2 - Int.ofNat precision
    let atLow := scaled num den low
    let exponent := if atLow.1 / atLow.2 < 1 <<< precision then low else low + 1
    let parts := scaled num den exponent
    ⟨roundTiesToEven parts.1 parts.2, exponent⟩

/-- The number as a numerator and a denominator. -/
def toRatio (x : Binary64) : Nat × Nat :=
  (x.significand <<< x.exponent.toNat, 1 <<< (-x.exponent).toNat)

/-- The double nearest to a whole number. -/
def ofNat (n : Nat) : Binary64 := ofRatio n 1

/-- The double nearest to the product with a whole number. -/
def mulNat (x : Binary64) (n : Nat) : Binary64 :=
  ofRatio (x.toRatio.1 * n) x.toRatio.2

/-- The double nearest to the quotient by a whole number. -/
def divNat (x : Binary64) (n : Nat) : Binary64 :=
  ofRatio x.toRatio.1 (x.toRatio.2 * n)

/-- The nearest whole number, a half going up. -/
def round (x : Binary64) : Nat :=
  roundTiesAway x.toRatio.1 x.toRatio.2

end Binary64

/-! ### Reading and writing -/

/-- A number of double precision. -/
inductive Double where
  | nan
  | infinite (negative : Bool)
  /-- So many times the least positive number. -/
  | finite (negative : Bool) (units : Nat)
  deriving DecidableEq, Repr

namespace Double

/-- The least positive number is two to the minus this. -/
def unitBits : Nat := 1074

/-- What is as large as this is infinite. -/
def infiniteUnits : Nat := 1 <<< (unitBits + 1024)

/-- The units nearest to `num / den`, with a tie going to the even significand. -/
def nearestUnits (num den : Nat) : Nat :=
  let exact := num <<< unitBits
  -- bits behind the significand; in the subnormal range there are none
  let spare := (exact / den).log2 + 1 - Binary64.precision
  Binary64.roundTiesToEven exact (den <<< spare) <<< spare

/-- `mantissa * 10 ^ exponent` as a numerator and a denominator. -/
def decimalRatio (mantissa : Nat) (exponent : Int) : Nat × Nat :=
  (mantissa * Nat.pow 10 exponent.toNat, Nat.pow 10 (-exponent).toNat)

/-- The units nearest to `mantissa * 10 ^ exponent`. What is far beyond the range on either side
is not calculated. -/
def unitsOfDecimal (mantissa : Nat) (exponent : Int) : Nat :=
  let digits : Int := (Nat.toDigits 10 mantissa).length
  if mantissa = 0 ∨ digits + exponent < -330 then 0
  else if 310 < digits + exponent then infiniteUnits
  else
    let parts := decimalRatio mantissa exponent
    nearestUnits parts.1 parts.2

/-- The number nearest to `mantissa * 10 ^ exponent`, with its sign. -/
def ofDecimal (negative : Bool) (mantissa : Nat) (exponent : Int) : Double :=
  let units := unitsOfDecimal mantissa exponent
  if units < infiniteUnits then .finite negative units else .infinite negative

def isFinite : Double → Bool
  | finite _ _ => true
  | _ => false

end Double

/-- Digits, of which `point` stand before the decimal point: the number `0.digits * 10 ^ point`. -/
structure Decimal where
  digits : List Char
  point : Int
  isDigit : ∀ c ∈ digits, c.isDigit = true
  deriving DecidableEq

namespace Decimal

def zero : Decimal := ⟨['0'], 1, List.forall_mem_singleton.mpr rfl⟩

/-- A decimal fraction without the zeros at its end. -/
def ofMantissa (mantissa : Nat) (exponent : Int) : Decimal where
  digits := ((Nat.toDigits 10 mantissa).reverse.dropWhile (· == '0')).reverse
  point := (Nat.toDigits 10 mantissa).length + exponent
  isDigit c hc := by
    have hmem := (List.dropWhile_sublist _).subset (List.mem_reverse.mp hc)
    exact Nat.isDigit_of_mem_toDigits (by decide) (by decide) (List.mem_reverse.mp hmem)

/-- How many digits of a positive `num / den` stand before the point; below zero, how many zeros
stand behind it. -/
def pointOf (num den : Nat) : Int :=
  if den ≤ num then (Nat.toDigits 10 (num / den)).length
  else 1 - Int.ofNat (Nat.toDigits 10 (den / num)).length

/-- A decimal fraction of `count` digits that is read as a positive number of units, if there is
one: the nearer of the two neighbours, if that one is. -/
def ofUnits? (units count : Nat) : Option Decimal :=
  let parts := (units, 1 <<< Double.unitBits)
  let exponent : Int := pointOf parts.1 parts.2 - count
  let scale := Double.decimalRatio 1 exponent
  let num := parts.1 * scale.2
  let den := parts.2 * scale.1
  let below := num / den
  let neighbours := if 2 * (num % den) < den then [below, below + 1] else [below + 1, below]
  (neighbours.find? fun m ↦ Double.unitsOfDecimal m exponent == units).map (ofMantissa · exponent)

/-- The fewest digits that are read as a number of units; seventeen are always enough. -/
def ofUnits (units : Nat) : Decimal :=
  if units = 0 then zero
  else ((List.range 17).findSome? fun count ↦ ofUnits? units (count + 1)).getD zero

/-- A zero where there are no digits. -/
def orZero (digits : List Char) : List Char := if digits.isEmpty then ['0'] else digits

/-- The digits with their point, and at least one digit on either side of it. -/
def positional (x : Decimal) : List Char :=
  orZero (x.digits.take x.point.toNat) ++ List.replicate (x.point.toNat - x.digits.length) '0' ++
    '.' :: (List.replicate (-x.point).toNat '0' ++ orZero (x.digits.drop x.point.toNat))

/-- The first digit, the others behind a point, and the power of ten that this is to be
multiplied by. -/
def scientific (x : Decimal) : List Char :=
  orZero (x.digits.take 1) ++ (if x.digits.tail.isEmpty then [] else '.' :: x.digits.tail) ++
    'e' :: (toString (x.point - 1)).toList

end Decimal

namespace Double

/-- A sign in front of what is negative. -/
def signed (negative : Bool) (cs : List Char) : List Char := if negative then '-' :: cs else cs

/-- A number in the text of a message. -/
def display : Double → String
  | nan => "NaN"
  | infinite negative => String.ofList (signed negative "inf".toList)
  | finite negative units => String.ofList (signed negative (Decimal.ofUnits units).positional)

end Double

end VolumeMigration
