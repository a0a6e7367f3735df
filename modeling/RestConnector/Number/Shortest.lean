import RestConnector.Number.Double

/-!
Contract: the fewest decimal digits that read back as a given number.

Owns:
- `Decimal`, a natural number of digits scaled by a power of ten;
- `Double.shortest`, the decimal with the fewest digits inside the interval of reals that round to
  the number, and of those the nearest, with a tie going to the even digit.

Does not own: where the point goes when such a decimal is written.
-/

namespace RestConnector

structure Decimal where
  digits : Nat
  exponent : Int
deriving Repr, DecidableEq

namespace Decimal

/-- The digits of a natural number, most significant first. -/
def digitsOf (value : Nat) : List Char := Nat.toDigits 10 value

def width (value : Nat) : Nat := (digitsOf value).length

/-- Move up to `fuel` trailing zeros of the digits into the exponent. -/
def trim : Nat → Decimal → Decimal
  | 0, decimal => decimal
  | fuel + 1, decimal =>
    if decimal.digits % 10 = 0 ∧ decimal.digits ≠ 0 then
      trim fuel ⟨decimal.digits / 10, decimal.exponent + 1⟩
    else decimal

/-- The power of ten of the first digit. -/
def leadingExponent (decimal : Decimal) : Int :=
  decimal.exponent + width decimal.digits - 1

end Decimal

namespace Shortest

/-- A positive number with the reals that round to it, in quarter units of its last binary place:
the value is `4 * mantissa` of them. -/
structure Interval where
  mantissa : Nat
  exponent : Int
  below : Nat
deriving Repr

/-- Whether the ends of the interval round to the number too: ties go to the even mantissa. -/
def Interval.closed (interval : Interval) : Bool := interval.mantissa % 2 == 0

/-- The interval of a finite number that is not zero. -/
def Interval.ofDouble (value : Double) : Interval :=
  let (mantissa, exponent) := value.magnitude
  ⟨mantissa, exponent - 2, if value.isLowerBoundary then 1 else 2⟩

/-- The numerator of `quarters` units over the denominator of the grid of `10 ^ place`. -/
def Interval.numerator (interval : Interval) (place : Int) (quarters : Nat) : Nat :=
  quarters * Nat.pow 2 interval.exponent.toNat * Nat.pow 10 (-place).toNat

/-- The common denominator of the grid of `10 ^ place`. -/
def Interval.denominator (interval : Interval) (place : Int) : Nat :=
  Nat.pow 2 (-interval.exponent).toNat * Nat.pow 10 place.toNat

/-- Whether `candidate * 10 ^ place` rounds to the number. -/
def Interval.holds (interval : Interval) (place : Int) (candidate : Nat) : Bool :=
  let point := candidate * interval.denominator place
  let low := interval.numerator place (4 * interval.mantissa - interval.below)
  let high := interval.numerator place (4 * interval.mantissa + 2)
  if interval.closed then low ≤ point && point ≤ high else low < point && point < high

/-- The nearest of the two neighbours of the number on the grid of `10 ^ place`, among those that
round to it. -/
def Interval.onGrid? (interval : Interval) (place : Int) : Option Nat :=
  let value := interval.numerator place (4 * interval.mantissa)
  let unit := interval.denominator place
  let lower := value / unit
  let rest := value % unit
  match interval.holds place lower, interval.holds place (lower + 1) with
  | true, true =>
    if 2 * rest < unit then some lower
    else if unit < 2 * rest then some (lower + 1)
    else if lower % 2 = 0 then some lower
    else some (lower + 1)
  | true, false => some lower
  | false, true => some (lower + 1)
  | false, false => none

/-- The power of ten of the first digit of the number. -/
def Interval.leading (interval : Interval) : Int :=
  let value := interval.numerator 0 (4 * interval.mantissa)
  let unit := interval.denominator 0
  if unit ≤ value then Decimal.width (value / unit) - 1
  else
    let inverse := unit / value
    let places := Decimal.width inverse
    if inverse * value = unit ∧ inverse = Nat.pow 10 (places - 1) then 1 - (places : Int)
    else -(places : Int)

/-- The first grid, from one digit to seventeen, on which the number has a neighbour. -/
def Interval.digits (interval : Interval) : Decimal :=
  let leading := interval.leading
  let places := (List.range 17).map fun (count : Nat) => leading - (count : Int)
  let found := places.findSome? fun place =>
    (interval.onGrid? place).map fun digits => (⟨digits, place⟩ : Decimal)
  (found.getD ⟨0, 0⟩).trim 17

end Shortest

/-- The shortest decimal that reads back as the magnitude of a finite number. -/
def Double.shortest (value : Double) : Decimal :=
  if value.magnitude.1 = 0 then ⟨0, 0⟩ else (Shortest.Interval.ofDouble value).digits

end RestConnector
