import RestConnector.Number.Shortest

/-!
Contract: the text of a number.

Owns:
- `Number`, an integer or a double-precision number;
- `FloatLayout`, the decisions a format makes about finite doubles, and the text they give.

Does not own: the formats' words for infinite values and for no number.

A number without a fraction keeps a `.0` in positional notation.  The exponent form has one digit
before its point, and no point when there is only one digit.
-/

namespace RestConnector

/-- A number of a data format: integers are exact. -/
inductive Number where
  | integer (value : Int)
  | decimal (value : Double)
deriving Repr, DecidableEq

/-- How a format lays out finite doubles. -/
structure FloatLayout where
  /-- The least power of ten of a first digit that is written positionally. -/
  lowest : Int
  /-- The greatest power of ten of a first digit that is written positionally. -/
  highest : Int
  /-- Whether an exponent that is not negative carries a plus sign. -/
  plusSign : Bool
deriving Repr, DecidableEq

namespace FloatLayout

/-- Digits with a point after the first `count` of them, padded by zeros on either side. -/
def positional (digits : List Char) (exponent : Int) : List Char :=
  let count := exponent + digits.length
  if count ≤ 0 then '0' :: '.' :: List.replicate (-count).toNat '0' ++ digits
  else if (digits.length : Int) ≤ count then
    digits ++ List.replicate (count - digits.length).toNat '0' ++ ['.', '0']
  else digits.take count.toNat ++ '.' :: digits.drop count.toNat

/-- Digits with a point after the first one, and the power of ten of that digit. -/
def scientific (layout : FloatLayout) (digits : List Char) (leading : Int) : List Char :=
  let fraction := match digits.drop 1 with
    | [] => []
    | rest => '.' :: rest
  let sign := if leading < 0 then ['-'] else if layout.plusSign then ['+'] else []
  digits.take 1 ++ fraction ++ 'e' :: sign ++ Decimal.digitsOf leading.natAbs

def finiteText (layout : FloatLayout) (value : Double) : List Char :=
  let decimal := value.shortest
  let digits := Decimal.digitsOf decimal.digits
  let leading := decimal.leadingExponent
  let body :=
    if decimal.digits = 0 then ['0', '.', '0']
    else if layout.lowest ≤ leading ∧ leading ≤ layout.highest then
      positional digits decimal.exponent
    else layout.scientific digits leading
  if value.isNegative then '-' :: body else body

end FloatLayout

def integerText (value : Int) : List Char :=
  if value < 0 then '-' :: Decimal.digitsOf value.natAbs else Decimal.digitsOf value.natAbs

end RestConnector
