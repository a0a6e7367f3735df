import RestConnector.Json.Numeral
import RestConnector.Source.Datum
import RestConnector.Text.Utf8

/-!
Contract: data from JSON text.

Owns:
- the grammar of JSON, on symbols, so that ill-formed bytes are noticed where they stand;
- `Json.read`, the datum of a whole text, and `Json.ofText`, its plain value.

Does not own: limits on nesting, which belong to what is read from the datum.

A text fails as a whole only if it breaks the grammar.  A quoted text with a hole or with half of a
surrogate pair, and a number without a value, become unreadable parts.
-/

namespace RestConnector.Json

open RestConnector.Text (Symbol)
open RestConnector.Source (Datum Key)

def isSpace : Symbol → Bool
  | some c => c == ' ' || c == '\n' || c == '\t' || c == '\r'
  | none => false

/-- The input after its leading separators. -/
def skipSpace (input : List Symbol) : List Symbol :=
  input.dropWhile isSpace

def digit? : Symbol → Option Nat
  | some c => if '0' ≤ c ∧ c ≤ '9' then some (c.toNat - 48) else none
  | none => none

def hexDigit? : Symbol → Option Nat
  | some c =>
    if '0' ≤ c ∧ c ≤ '9' then some (c.toNat - 48)
    else if 'a' ≤ c ∧ c ≤ 'f' then some (c.toNat - 87)
    else if 'A' ≤ c ∧ c ≤ 'F' then some (c.toNat - 55)
    else none
  | none => none

/-! ## Quoted texts -/

/-- A part of a quoted text. -/
inductive Piece where
  | char (c : Char)
  /-- A code unit given by its four digits. -/
  | unit (code : Nat)
  /-- Bytes that are no text. -/
  | hole
deriving Repr, DecidableEq

/-- The text of some pieces: a surrogate counts only in a pair. -/
def assemble : List Piece → Option (List Char)
  | [] => some []
  | .hole :: _ => none
  | .char c :: rest => (assemble rest).map (c :: ·)
  | .unit code :: rest =>
    if 0xdc00 ≤ code ∧ code < 0xe000 then none
    else if 0xd800 ≤ code ∧ code < 0xdc00 then
      match rest with
      | .unit low :: others =>
        if 0xdc00 ≤ low ∧ low < 0xe000 then
          (assemble others).map
            (Char.ofNat (0x10000 + (code - 0xd800) * 0x400 + (low - 0xdc00)) :: ·)
        else none
      | _ => none
    else (assemble rest).map (Char.ofNat code :: ·)

/-- The character after a backslash, if it stands for one. -/
def escaped? (c : Char) : Option Char :=
  if c = '"' ∨ c = '\\' ∨ c = '/' then some c
  else if c = 'b' then some (Char.ofNat 8)
  else if c = 'f' then some (Char.ofNat 12)
  else if c = 'n' then some '\n'
  else if c = 'r' then some '\r'
  else if c = 't' then some '\t'
  else none

/-- The code unit of four hexadecimal digits. -/
def unit? (first second third fourth : Symbol) : Option Nat := do
  let a ← hexDigit? first
  let b ← hexDigit? second
  let c ← hexDigit? third
  let d ← hexDigit? fourth
  return ((a * 16 + b) * 16 + c) * 16 + d

/-- Put a piece in front of the pieces that were read. -/
def precede (piece : Piece) : Option ((List Piece) × List Symbol) → Option ((List Piece) × List Symbol)
  | some (pieces, rest) => some (piece :: pieces, rest)
  | none => none

/-- The pieces of a quoted text up to its closing quote. -/
def readPieces : List Symbol → Option ((List Piece) × List Symbol)
  | [] => none
  | none :: rest => precede .hole (readPieces rest)
  | some c :: rest =>
    if c = '"' then some ([], rest)
    else if c.toNat < 32 then none
    else if c = '\\' then
      match rest with
      | some 'u' :: first :: second :: third :: fourth :: others =>
        match unit? first second third fourth with
        | some code => precede (.unit code) (readPieces others)
        | none => none
      | some next :: others =>
        match escaped? next with
        | some value => precede (.char value) (readPieces others)
        | none => none
      | _ => none
    else precede (.char c) (readPieces rest)

/-- A quoted text after its opening quote; `none` inside stands for one that is not Unicode. -/
def readQuoted (input : List Symbol) : Option ((Option String) × List Symbol) :=
  (readPieces input).map fun (pieces, rest) => ((assemble pieces).map String.ofList, rest)

/-! ## Numerals -/

def readDigits : List Symbol → List Nat × List Symbol
  | [] => ([], [])
  | symbol :: rest =>
    match digit? symbol with
    | some digit =>
      let (digits, others) := readDigits rest
      (digit :: digits, others)
    | none => ([], symbol :: rest)

/-- The digits before the point: a zero stands alone. -/
def readWhole (input : List Symbol) : Option ((List Nat) × List Symbol) :=
  match readDigits input with
  | ([], _) => none
  | (0 :: _ :: _, _) => none
  | (digits, rest) => some (digits, rest)

/-- The digits after a point, if there is one. -/
def readFraction : List Symbol → Option ((Option (List Nat)) × List Symbol)
  | some '.' :: rest =>
    match readDigits rest with
    | ([], _) => none
    | (digits, others) => some (some digits, others)
  | input => some (none, input)

def readSign : List Symbol → Bool × List Symbol
  | some '-' :: rest => (true, rest)
  | some '+' :: rest => (false, rest)
  | input => (false, input)

/-- The exponent, if there is one. -/
def readExponent (input : List Symbol) : Option ((Option (Bool × List Nat)) × List Symbol) :=
  match input with
  | some c :: rest =>
    if c = 'e' ∨ c = 'E' then
      let (down, unsigned) := readSign rest
      match readDigits unsigned with
      | ([], _) => none
      | (digits, others) => some (some (down, digits), others)
    else some (none, input)
  | _ => some (none, input)

/-- A numeral after its sign. -/
def readNumeral (negative : Bool) (input : List Symbol) : Option (Numeral × List Symbol) := do
  let (whole, afterWhole) ← readWhole input
  let (fraction, afterFraction) ← readFraction afterWhole
  let (exponent, rest) ← readExponent afterFraction
  return (⟨negative, whole, fraction, exponent⟩, rest)

def numeralDatum (numeral : Numeral) : Datum :=
  match numeral.value? with
  | some value => .number value
  | none => .unreadable

/-! ## Values -/

def expect (word : List Char) (input : List Symbol) : Option (List Symbol) :=
  if (word.map some).isPrefixOf input then some (input.drop word.length) else none

def keyOf : Option String → Key
  | some name => .name name
  | none => .unreadable

mutual

/-- A value, not preceded by separators; the fuel bounds the number of steps. -/
def readValue : Nat → List Symbol → Option (Datum × List Symbol)
  | 0, _ => none
  | fuel + 1, input =>
    match input with
    | some 'n' :: rest => (expect ['u', 'l', 'l'] rest).map fun others => (.null, others)
    | some 't' :: rest => (expect ['r', 'u', 'e'] rest).map fun others => (.bool true, others)
    | some 'f' :: rest =>
      (expect ['a', 'l', 's', 'e'] rest).map fun others => (.bool false, others)
    | some '"' :: rest => do
      let (content, others) ← readQuoted rest
      return ((content.map Datum.text).getD .unreadable, others)
    | some '[' :: rest =>
      match skipSpace rest with
      | some ']' :: others => some (.list [], others)
      | inside => do
        let (items, others) ← readItems fuel inside
        return (.list items, others)
    | some '\x7b' :: rest =>
      match skipSpace rest with
      | some '\x7d' :: others => some (.record [], others)
      | inside => do
        let (members, others) ← readMembers fuel inside
        return (.record members, others)
    | some '-' :: rest => do
      let (numeral, others) ← readNumeral true rest
      return (numeralDatum numeral, others)
    | _ => do
      let (numeral, others) ← readNumeral false input
      return (numeralDatum numeral, others)

/-- The items of a list, the first of which starts here, up to the closing bracket. -/
def readItems : Nat → List Symbol → Option ((List Datum) × List Symbol)
  | 0, _ => none
  | fuel + 1, input => do
    let (item, afterItem) ← readValue fuel input
    match skipSpace afterItem with
    | some ']' :: rest => return ([item], rest)
    | some ',' :: rest =>
      let (items, others) ← readItems fuel (skipSpace rest)
      return (item :: items, others)
    | _ => none

/-- The members of an object, the first of which starts here, up to the closing brace. -/
def readMembers : Nat → List Symbol → Option ((List (Key × Datum)) × List Symbol)
  | 0, _ => none
  | fuel + 1, input => do
    let (key, afterKey) ←
      match input with
      | some '"' :: rest => readQuoted rest
      | _ => none
    match skipSpace afterKey with
    | some ':' :: value =>
      let (datum, afterValue) ← readValue fuel (skipSpace value)
      match skipSpace afterValue with
      | some '\x7d' :: rest => return ([(keyOf key, datum)], rest)
      | some ',' :: rest =>
        let (members, others) ← readMembers fuel (skipSpace rest)
        return ((keyOf key, datum) :: members, others)
      | _ => none
    | _ => none

end

/-- The datum of a text that holds one value between separators. -/
def read (input : List Symbol) : Option Datum := do
  let (datum, rest) ← readValue (input.length + 1) (skipSpace input)
  if (skipSpace rest).isEmpty then some datum else none

def ofText (text : String) : Option Json := do
  let datum ← read (text.toList.map some)
  datum.toJson

end RestConnector.Json
