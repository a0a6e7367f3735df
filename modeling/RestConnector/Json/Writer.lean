import RestConnector.Json.Value

/-!
Contract: JSON text.

Owns:
- `Json.compact`, a value on one line without blanks;
- `Json.pretty`, a value over lines, two spaces deeper at each level.

Does not own: reading, see `RestConnector.Json.Reader`.

Only quotes, backslashes and control characters are escaped, with the short escapes where there are
any.  Numbers without a finite value are written as `null`.
-/

namespace RestConnector.Json

/-- Doubles are positional from `1e-5` up to below `1e16`; other exponents carry their sign. -/
def floatLayout : FloatLayout := ⟨-5, 15, true⟩

def numberText : Number → List Char
  | .integer value => integerText value
  | .decimal value =>
    if value.isFinite then floatLayout.finiteText value else ['n', 'u', 'l', 'l']

def hexDigit (value : Nat) : Char :=
  Nat.digitChar value

/-- A character inside a quoted text. -/
def escape (c : Char) : List Char :=
  if c = '"' then ['\\', '"']
  else if c = '\\' then ['\\', '\\']
  else if c = '\n' then ['\\', 'n']
  else if c = '\r' then ['\\', 'r']
  else if c = '\t' then ['\\', 't']
  else if c.toNat = 8 then ['\\', 'b']
  else if c.toNat = 12 then ['\\', 'f']
  else if c.toNat < 32 then ['\\', 'u', '0', '0', hexDigit (c.toNat / 16), hexDigit (c.toNat % 16)]
  else [c]

def quoted (text : String) : List Char :=
  '"' :: text.toList.flatMap escape ++ ['"']

def boolText (value : Bool) : List Char :=
  if value then ['t', 'r', 'u', 'e'] else ['f', 'a', 'l', 's', 'e']

/-! ## On one line -/

mutual

/-- The characters of a value on one line. -/
def compactChars : Json → List Char
  | .null => ['n', 'u', 'l', 'l']
  | .bool value => boolText value
  | .number value => numberText value
  | .text value => quoted value
  | .list items => '[' :: compactItems items ++ [']']
  | .record members => '\x7b' :: compactMembers members ++ ['\x7d']

def compactItems : List Json → List Char
  | [] => []
  | [item] => compactChars item
  | item :: next :: rest => compactChars item ++ ',' :: compactItems (next :: rest)

def compactMembers : List (String × Json) → List Char
  | [] => []
  | [(name, value)] => quoted name ++ ':' :: compactChars value
  | (name, value) :: next :: rest =>
    quoted name ++ ':' :: compactChars value ++ ',' :: compactMembers (next :: rest)

end

/-- The text of a value on one line. -/
def compact (value : Json) : String :=
  String.ofList (compactChars value)

/-! ## Over lines -/

def lineBreak (level : Nat) : List Char :=
  '\n' :: List.replicate (2 * level) ' '

mutual

/-- The characters of a value whose first line starts at a level. -/
def prettyChars (level : Nat) : Json → List Char
  | .null => ['n', 'u', 'l', 'l']
  | .bool value => boolText value
  | .number value => numberText value
  | .text value => quoted value
  | .list [] => ['[', ']']
  | .list (item :: rest) =>
    '[' :: prettyItems (level + 1) (item :: rest) ++ lineBreak level ++ [']']
  | .record [] => ['\x7b', '\x7d']
  | .record (member :: rest) =>
    '\x7b' :: prettyMembers (level + 1) (member :: rest) ++ lineBreak level ++ ['\x7d']

/-- The characters of the items of a list, each on a line of its own. -/
def prettyItems (level : Nat) : List Json → List Char
  | [] => []
  | [item] => lineBreak level ++ prettyChars level item
  | item :: next :: rest =>
    lineBreak level ++ prettyChars level item ++ ',' :: prettyItems level (next :: rest)

/-- The characters of the members of an object, each on a line of its own. -/
def prettyMembers (level : Nat) : List (String × Json) → List Char
  | [] => []
  | [(name, value)] => lineBreak level ++ quoted name ++ ':' :: ' ' :: prettyChars level value
  | (name, value) :: next :: rest =>
    lineBreak level ++ quoted name ++ ':' :: ' ' :: prettyChars level value ++
      ',' :: prettyMembers level (next :: rest)

end

/-- The text of a value over lines. -/
def pretty (value : Json) : String :=
  String.ofList (prettyChars 0 value)

end RestConnector.Json
