import RestConnector.Source.Datum
import RestConnector.Text.Utf8
import RestConnector.Yaml.Tree

/-!
Contract: what the scalars of a YAML document mean.

Owns:
- the spellings of null, of truth values and of numbers;
- `Scalar.untyped?`, the value of a scalar where no type is asked for.

Does not own: which node is asked for which type, see `RestConnector.Source.Node`.

Only plain scalars have other meanings than their text, unless a tag asks for one.  Digits with a
leading zero are a text.
-/

namespace RestConnector.Yaml.Scalar

open RestConnector.Source (Datum)

/-! ## Tags -/

def boolTag : Tag := Tag.ofChars "tag:yaml.org,2002:bool".toList

def integerTag : Tag := Tag.ofChars "tag:yaml.org,2002:int".toList

/-- The tag of numbers with a fraction. -/
def floatTag : Tag := Tag.ofChars "tag:yaml.org,2002:float".toList

def nullTag : Tag := Tag.ofChars "tag:yaml.org,2002:null".toList

/-- Whether a tag starts with an exclamation mark. -/
def isMarked (tag : Tag) : Bool := tag.head? == some 0x21

/-- Whether a tag is one of a document's own: it starts with an exclamation mark, and its bytes are
characters. -/
def isLocalTag : Option Tag → Bool
  | some tag => isMarked tag && (Text.Utf8.strict tag).isSome
  | none => false

/-! ## Spellings -/

def isNullWord (text : String) : Bool :=
  ["null", "Null", "NULL", "~"].contains text

/-- The truth value of a word. -/
def flag? (text : String) : Option Bool :=
  if ["true", "True", "TRUE"].contains text then some true
  else if ["false", "False", "FALSE"].contains text then some false
  else none

/-- The value of a digit of a base up to sixteen. -/
def digit? (base : Nat) (c : Char) : Option Nat := do
  let value ← hexDigit? c
  if value < base then some value else none

/-- The value of digits, of which there is at least one. -/
def natural? (base : Nat) : List Char → Option Nat
  | [] => none
  | digits => do
    let values ← digits.mapM (digit? base)
    return values.foldl (fun value digit => value * base + digit) 0

/-- The number after a mark of its base. -/
def basedNatural? : List Char → Option Nat
  | '0' :: 'x' :: digits => natural? 16 digits
  | '0' :: 'o' :: digits => natural? 8 digits
  | '0' :: 'b' :: digits => natural? 2 digits
  | _ => none

/-- A zero and more digits, with or without a sign: no number. -/
def isPaddedDigits (text : List Char) : Bool :=
  let unsigned := match text with
    | '-' :: rest => rest
    | '+' :: rest => rest
    | _ => text
  match unsigned with
  | '0' :: next :: rest => (next :: rest).all isDigit
  | _ => false

/-- The natural number of a text, with or without a plus sign. -/
def unsigned? (text : List Char) : Option Nat :=
  let positive := match text with
    | '+' :: rest => rest
    | _ => text
  match basedNatural? positive with
  | some value => some value
  | none => if isPaddedDigits text then none else natural? 10 positive

/-- The negative integer of a text, as the number after its sign. -/
def negative? : List Char → Option Nat
  | '-' :: rest =>
    match basedNatural? rest with
    | some value => some value
    | none => if isPaddedDigits rest then none else natural? 10 rest
  | _ => none

/-- The digits and the exponent of the decimal notation of a number, without its sign. -/
def decimalParts? (text : List Char) : Option (Nat × Int) := do
  let whole := text.takeWhile isDigit
  let afterWhole := text.dropWhile isDigit
  let (fraction, afterFraction) := match afterWhole with
    | '.' :: rest => (rest.takeWhile isDigit, rest.dropWhile isDigit)
    | _ => ([], afterWhole)
  let digits ← natural? 10 (whole ++ fraction)
  let place : Int := -(fraction.length : Int)
  match afterFraction with
  | [] => some (digits, place)
  | c :: rest =>
    if c = 'e' ∨ c = 'E' then
      match rest with
      | '-' :: shift => (natural? 10 shift).map fun value => (digits, place - value)
      | '+' :: shift => (natural? 10 shift).map fun value => (digits, place + value)
      | shift => (natural? 10 shift).map fun value => (digits, place + value)
    else none

/-- The finite number of a decimal notation without a plus sign. -/
def finite? (text : List Char) : Option Double := do
  let (isMinus, magnitude) := match text with
    | '-' :: rest => (true, rest)
    | _ => (false, text)
  let (digits, exponent) ← decimalParts? magnitude
  let value := Double.ofDecimal digits exponent
  if value.isFinite then some (if isMinus then value.negate else value) else none

/-- The number of a text, infinities and the absence of a number included. -/
def double? (text : String) : Option Double :=
  let chars := text.toList
  let positive := match chars with
    | '+' :: rest => rest
    | _ => chars
  let signs := match chars with
    | '+' :: rest => startsWithAny ['+', '-'] rest
    | _ => false
  if signs then none
  else if [".inf", ".Inf", ".INF"].contains (String.ofList positive) then some Double.infinity
  else if ["-.inf", "-.Inf", "-.INF"].contains text then some Double.infinity.negate
  else if [".nan", ".NaN", ".NAN"].contains text then some Double.notANumber
  else finite? positive

/-- The natural number of a text, if it fits 64 bits. -/
def word? (text : String) : Option Nat := do
  let value ← unsigned? text.toList
  if value < UInt64.size then some value else none

/-- The largest natural number of 128 bits. -/
def widest : Nat := 0xffffffffffffffffffffffffffffffff

/-- The integer of a text.  One that does not fit 64 bits but does fit 128 is unreadable, and a
larger one is no integer. -/
def integer? (text : String) : Option Datum :=
  match unsigned? text.toList with
  | some value =>
    if value < UInt64.size then some (.number (.integer value))
    else if value ≤ widest then some .unreadable
    else none
  | none =>
    match negative? text.toList with
    | some value =>
      if value ≤ 0x8000000000000000 then some (.number (.integer (-(value : Int))))
      else if value ≤ widest / 2 + 1 then some .unreadable
      else none
    | none => none

/-! ## Meanings -/

/-- The value of a plain scalar without a tag. -/
def plain (text : String) : Datum :=
  if text.isEmpty || isNullWord text then .null
  else
    match flag? text with
    | some value => .bool value
    | none =>
      match integer? text with
      | some datum => datum
      | none =>
        if isPaddedDigits text.toList then .text text
        else
          match double? text with
          | some value => .number (.decimal value)
          | none => .text text

/-- The value of a scalar.  A tag of the document's own has none, and one of the standard tags needs
a fitting text.  A marked tag that is none of the document's own says nothing. -/
def untyped? (tag : Option Tag) (style : Style) (text : String) : Option Datum :=
  let untagged := if style = .plain then plain text else .text text
  match tag with
  | none => some untagged
  | some name =>
    if isLocalTag tag then none
    else if name = boolTag then (flag? text).map .bool
    else if name = integerTag then integer? text
    else if name = floatTag then (double? text).map fun value => .number (.decimal value)
    else if name = nullTag then if isNullWord text then some .null else none
    else if isMarked name then some untagged
    else some (.text text)

/-- Whether a scalar may be read as another type than text, whose standard tag is given. -/
def admits (standard : Tag) (tag : Option Tag) (style : Style) : Bool :=
  style = .plain || (style = .literal && tag == some standard)

/-- Whether a scalar stands for an absent value; one that is tagged as null has to be. -/
def isAbsent? (tag : Option Tag) (style : Style) (text : String) : Option Bool :=
  if style ≠ .plain then some false
  else
    match tag with
    | some name =>
      if name = nullTag then if isNullWord text then some true else none
      else some false
    | none => some (text.isEmpty || isNullWord text)

end RestConnector.Yaml.Scalar
