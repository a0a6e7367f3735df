import RestConnector.Number.Layout

/-!
Contract: the values of JSON numerals.

Owns:
- `Numeral`, the parts of a number as written;
- `Numeral.value?`, the number that they stand for.

Does not own: the grammar, see `RestConnector.Json.Reader`.

An integer is exact when it fits 64 bits.  Every other number is the double that comes from the
leading digits that fit 64 bits by one multiplication or division by a power of ten, so it may be a
neighbour of the double nearest to the numeral.  A number beyond the range has no value.
-/

namespace RestConnector.Json

/-- A number as written: its digits before the point, after it, and its exponent. -/
structure Numeral where
  negative : Bool
  whole : List Nat
  fraction : Option (List Nat)
  exponent : Option (Bool × List Nat)
deriving Repr, DecidableEq

namespace Numeral

/-- The largest significand. -/
def limit : Nat := UInt64.size - 1

/-- Append digits to a significand up to the first one that would not fit; the result tells how
many digits are left. -/
def gather (significand : Nat) : List Nat → Nat × Nat
  | [] => (significand, 0)
  | digit :: rest =>
    if significand * 10 + digit ≤ limit then gather (significand * 10 + digit) rest
    else (significand, rest.length + 1)

def natural (digits : List Nat) : Nat :=
  digits.foldl (fun value digit => value * 10 + digit) 0

/-- The double that is a power of ten, exact or nearest. -/
def powerOfTen (exponent : Nat) : Float :=
  Float.ofScientific 1 false exponent

/-- Divide by `10 ^ 308` as long as a negative exponent is beyond the powers of ten; a few steps
reach zero. -/
def scaleDown : Nat → Float → Int → Float
  | 0, value, _ => value
  | steps + 1, value, exponent =>
    if exponent < -308 then
      if value == 0.0 then value else scaleDown steps (value / powerOfTen 308) (exponent + 308)
    else value / powerOfTen exponent.natAbs

/-- A significand times a power of ten, unless that is infinite. -/
def scaled (significand : Nat) (exponent : Int) : Option Float :=
  let value := (UInt64.ofNat significand).toFloat
  if exponent < 0 then some (scaleDown 8 value exponent)
  else if 308 < exponent then if significand = 0 then some value else none
  else
    let product := value * powerOfTen exponent.natAbs
    if product.isInf then none else some product

/-- Give a double the sign of the numeral. -/
def signed (negative : Bool) (value : Float) : Number :=
  let magnitude := Double.ofFloat value
  .decimal (if negative then magnitude.negate else magnitude)

/-- The number that a numeral without fraction and exponent stands for, if its digits fit. -/
def integer (negative : Bool) (significand : Nat) : Number :=
  if negative then
    if 0 < significand ∧ significand ≤ 0x8000000000000000 then .integer (-(significand : Int))
    else signed true (UInt64.ofNat significand).toFloat
  else .integer significand

def value? (numeral : Numeral) : Option Number :=
  let (whole, dropped) := gather 0 numeral.whole
  let fraction := numeral.fraction.getD []
  let (significand, leftOver) := gather whole fraction
  let place : Int := (dropped : Int) - (fraction.length - leftOver : Nat)
  match numeral.fraction, numeral.exponent with
  | none, none =>
    if dropped = 0 then some (integer numeral.negative whole)
    else (scaled significand place).map (signed numeral.negative)
  | _, none => (scaled significand place).map (signed numeral.negative)
  | _, some (down, digits) =>
    let exponent := natural digits
    if 0x80000000 ≤ exponent then
      if significand = 0 ∨ down then some (signed numeral.negative 0.0) else none
    else
      let shifted := if down then place - exponent else place + exponent
      (scaled significand shifted).map (signed numeral.negative)

end Numeral

end RestConnector.Json
