/-!
Contract: double-precision numbers as bit patterns.

Owns:
- `Double`, a number that is determined by its 64 bits, so that equality is decidable and tells
  the two zeros apart;
- its sign, class and exact value, and the numbers nearest to integers and decimal fractions.

Does not own: texts of numbers.
-/

namespace RestConnector

structure Double where
  bits : UInt64
deriving Repr, DecidableEq

namespace Double

/-- The number that the machine's arithmetic computed. -/
def ofFloat (value : Float) : Double := ⟨value.toBits⟩

def zero : Double := ⟨0⟩

def infinity : Double := ⟨0x7ff0000000000000⟩

/-- The positive quiet number that is no number. -/
def notANumber : Double := ⟨0x7ff8000000000000⟩

def isNegative (value : Double) : Bool := 0x8000000000000000 ≤ value.bits

def negate (value : Double) : Double := ⟨value.bits ^^^ 0x8000000000000000⟩

def exponentField (value : Double) : Nat := (value.bits >>> 52 &&& 0x7ff).toNat

def fractionField (value : Double) : Nat := (value.bits &&& 0xfffffffffffff).toNat

/-- Neither infinite nor no number. -/
def isFinite (value : Double) : Bool := value.exponentField != 2047

def isNaN (value : Double) : Bool := value.exponentField == 2047 && value.fractionField != 0

/-- The magnitude of a finite number as `mantissa * 2 ^ exponent`. -/
def magnitude (value : Double) : Nat × Int :=
  if value.exponentField = 0 then (value.fractionField, -1074)
  else (0x10000000000000 + value.fractionField, (value.exponentField : Int) - 1075)

/-- Whether the next smaller magnitude is only half as far away as the next larger one. -/
def isLowerBoundary (value : Double) : Bool :=
  value.fractionField == 0 && 1 < value.exponentField

/-- The number nearest to a natural number below `2 ^ 64`. -/
def ofNat (value : Nat) : Double := ofFloat (UInt64.ofNat value).toFloat

/-- The number nearest to an integer of at most 64 bits. -/
def ofInt (value : Int) : Double :=
  if value < 0 then (ofNat value.natAbs).negate else ofNat value.natAbs

/-- The number nearest to `digits * 10 ^ exponent`, infinite if that is too large.

The exponent is looked at only where the number of digits leaves the answer open. -/
def ofDecimal (digits : Nat) (exponent : Int) : Double :=
  let leading : Int := (Nat.log2 digits * 30103 / 100000 : Nat) + exponent
  if digits = 0 then zero
  else if 400 < leading then infinity
  else if leading < -400 then zero
  else ofFloat (Float.ofScientific digits (exponent < 0) exponent.natAbs)

end Double

end RestConnector
