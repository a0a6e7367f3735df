import RestConnector.Json.Value
import RestConnector.Yaml.Scalar

/-!
Contract: YAML text.

Owns:
- `Yaml.render`, a plain value as a YAML document in block style;
- the choice of a style for each text.

Does not own: the reading of documents, see `RestConnector.Yaml.Tree`.

Collections are indented by two columns, except lists that are values of a mapping, which stand at
the column of their key.  Empty collections are written in brackets.  A text is plain unless it
would be read as something else; a text of several lines is a literal block.
-/

namespace RestConnector.Yaml

/-! ## What a text allows -/

/-- A character that can be written without an escape. -/
def isPrintable (c : Char) : Bool :=
  let code := c.toNat
  code == 0x0a || (0x20 ≤ code && code ≤ 0x7e) || (0xa0 ≤ code && code ≤ 0xd7ff) ||
    (0xe000 ≤ code && code ≤ 0xfffd && code != 0xfeff) || 0x10000 ≤ code

/-- Whether a space is followed by a line break anywhere. -/
def hasSpaceBreak : List Char → Bool
  | ' ' :: c :: rest => isBreak c || hasSpaceBreak (c :: rest)
  | _ :: rest => hasSpaceBreak rest
  | [] => false

/-- Whether a line break is followed by a space anywhere. -/
def hasBreakSpace : List Char → Bool
  | first :: second :: rest => (isBreak first && second == ' ') || hasBreakSpace (second :: rest)
  | _ => false

/-- Whether a text has an indicator after its first character: a colon before a separator or at the
end, or a number sign after a separator. -/
def hasInnerIndicator : Char → List Char → Bool
  | _, [] => false
  | previous, c :: rest =>
    (c == ':' && startsApart rest) || (c == '#' && isSeparator previous) ||
      hasInnerIndicator c rest

/-- Whether the start of a text reads as an indicator. -/
def hasLeadingIndicator : List Char → Bool
  | [] => false
  | c :: rest =>
    ['#', ',', '[', ']', '\x7b', '\x7d', '&', '*', '!', '|', '>', '\'', '"', '%', '@',
      Char.ofNat 0x60].contains c ||
      ((c == '?' || c == ':' || c == '-') && startsApart rest)

def startsLikeMarker : List Char → Bool
  | '-' :: '-' :: '-' :: _ => true
  | '.' :: '.' :: '.' :: _ => true
  | _ => false

/-- Whether a text starts or ends with a space or a line break. -/
def hasLooseEnd (text : List Char) : Bool :=
  let isLoose (c : Char) : Bool := c == ' ' || isBreak c
  (text.head?.map isLoose).getD false || (text.getLast?.map isLoose).getD false

def needsEscape (text : List Char) : Bool := !text.all isPrintable

/-- Whether a text may be written without quotes. -/
def allowsPlain (text : List Char) : Bool :=
  let inner := match text with
    | [] => false
    | c :: rest => hasInnerIndicator c rest
  !(startsLikeMarker text || hasLeadingIndicator text || inner || hasLooseEnd text ||
    text.any isBreak || needsEscape text)

/-- Whether a text may be written in single quotes. -/
def allowsSingle (text : List Char) : Bool :=
  !(hasBreakSpace text || hasSpaceBreak text || needsEscape text)

/-- Whether a text may be written as a literal block. -/
def allowsLiteral (text : List Char) : Bool :=
  !(text.isEmpty || text.getLast? == some ' ' || hasSpaceBreak text || needsEscape text)

/-! ## Styles -/

/-- Whether a text without quotes would be read as something else. -/
def readsAsText (text : String) : Bool :=
  !Scalar.isPaddedDigits text.toList &&
    match Scalar.plain text with
    | .text _ => true
    | _ => false

inductive WrittenStyle where
  | plain
  | single
  | double
  | literal
deriving Repr, DecidableEq

/-- The style of a text, which is never a literal block where `inLine` holds. -/
def styleOf (inLine : Bool) (text : String) : WrittenStyle :=
  let chars := text.toList
  let quoted := if allowsSingle chars then WrittenStyle.single else .double
  if chars.contains '\n' then
    if allowsLiteral chars && !inLine then .literal else .double
  else if readsAsText text && allowsPlain chars then .plain
  else quoted

/-! ## Scalars -/

def spaces (count : Nat) : List Char := List.replicate count ' '

/-- The inside of single quotes.  After a line break the text goes on at a column, and so does the
quote that closes it. -/
def singleChars (column : Nat) : Bool → List Char → List Char
  | broken, [] => if broken then spaces column else []
  | broken, c :: rest =>
    if isBreak c then c :: singleChars column true rest
    else
      (if broken then spaces column else []) ++ (if c = '\'' then ['\'', '\''] else [c]) ++
        singleChars column false rest

/-- A hexadecimal number of a fixed width in uppercase. -/
def hexDigits (width value : Nat) : List Char :=
  let digits := (Nat.toDigits 16 value).map Char.toUpper
  List.replicate (width - digits.length) '0' ++ digits

/-- A character inside double quotes. -/
def doubleChar (c : Char) : List Char :=
  let code := c.toNat
  if isPrintable c && !isBreak c && c != '"' && c != '\\' then [c]
  else
    let short : List (Nat × Char) :=
      [(0, '0'), (7, 'a'), (8, 'b'), (9, 't'), (10, 'n'), (11, 'v'), (12, 'f'), (13, 'r'),
        (27, 'e'), (0x22, '"'), (0x5c, '\\'), (0x85, 'N'), (0xa0, '_'), (0x2028, 'L'),
        (0x2029, 'P')]
    match short.lookup code with
    | some letter => ['\\', letter]
    | none =>
      if code ≤ 0xff then '\\' :: 'x' :: hexDigits 2 code
      else if code ≤ 0xffff then '\\' :: 'u' :: hexDigits 4 code
      else '\\' :: 'U' :: hexDigits 8 code

/-- The marks after the indicator of a literal block: whether its indentation is given, and which
line breaks at its end count. -/
def literalMarks (text : List Char) : List Char :=
  let width := if startsWithAny [' '] text || (!text.isEmpty && startsBroken text) then ['2'] else []
  let chomp := match text.reverse with
    | last :: before :: _ =>
      if !isBreak last then ['-'] else if isBreak before then ['+'] else []
    | [last] => if isBreak last then ['+'] else ['-']
    | [] => ['-']
  width ++ chomp

/-- The lines of a literal block, each at a column, with a line break at the end. -/
def literalLines (column : Nat) : Bool → List Char → List Char
  | true, [] => []
  | false, [] => ['\n']
  | fresh, c :: rest =>
    if isBreak c then c :: literalLines column true rest
    else (if fresh then spaces column else []) ++ c :: literalLines column false rest

/-- A text with the end of its line; further lines stand at a column. -/
def textChars (inLine : Bool) (column : Nat) (text : String) : List Char :=
  let chars := text.toList
  match styleOf inLine text with
  | .plain => chars ++ ['\n']
  | .single => '\'' :: singleChars column false chars ++ ['\'', '\n']
  | .double => '"' :: chars.flatMap doubleChar ++ ['"', '\n']
  | .literal => '|' :: literalMarks chars ++ '\n' :: literalLines column true chars

/-- Doubles are positional from `1e-5` up to below `1e16`; exponents have no plus sign. -/
def floatLayout : FloatLayout := ⟨-5, 15, false⟩

def numberChars : Number → List Char
  | .integer value => integerText value
  | .decimal value =>
    if value.isFinite then floatLayout.finiteText value
    else if value.isNaN then ['.', 'n', 'a', 'n']
    else if value.isNegative then ['-', '.', 'i', 'n', 'f']
    else ['.', 'i', 'n', 'f']

/-! ## Collections -/

/-- Whether a key is short enough, and of one line, to stand in front of its value. -/
def isSimpleKey (name : String) : Bool :=
  name.utf8ByteSize ≤ 128 && !name.toList.any isBreak

def keyChars (column : Nat) (name : String) : List Char :=
  if isSimpleKey name then (textChars true column name).dropLast ++ [':']
  else '?' :: ' ' :: textChars false (column + 2) name ++ spaces column ++ [':']

mutual

/-- What follows the mark of an item: the item, whose further lines stand two columns to the right
of the mark's column. -/
def itemChars (column : Nat) : Json → List Char
  | .null => [' ', 'n', 'u', 'l', 'l', '\n']
  | .bool true => [' ', 't', 'r', 'u', 'e', '\n']
  | .bool false => [' ', 'f', 'a', 'l', 's', 'e', '\n']
  | .number value => ' ' :: numberChars value ++ ['\n']
  | .text value => ' ' :: textChars false (column + 2) value
  | .list [] => [' ', '[', ']', '\n']
  | .list (item :: rest) => ' ' :: (itemsChars (column + 2) (item :: rest)).drop (column + 2)
  | .record [] => [' ', '\x7b', '\x7d', '\n']
  | .record (member :: rest) =>
    ' ' :: (membersChars (column + 2) (member :: rest)).drop (column + 2)

/-- What follows the colon of a key at a column. -/
def valueChars (column : Nat) : Json → List Char
  | .list (item :: rest) => '\n' :: itemsChars column (item :: rest)
  | .record (member :: rest) => '\n' :: membersChars (column + 2) (member :: rest)
  | .null => [' ', 'n', 'u', 'l', 'l', '\n']
  | .bool true => [' ', 't', 'r', 'u', 'e', '\n']
  | .bool false => [' ', 'f', 'a', 'l', 's', 'e', '\n']
  | .number value => ' ' :: numberChars value ++ ['\n']
  | .text value => ' ' :: textChars false (column + 2) value
  | .list [] => [' ', '[', ']', '\n']
  | .record [] => [' ', '\x7b', '\x7d', '\n']

/-- The items of a list, with their marks at a column. -/
def itemsChars (column : Nat) : List Json → List Char
  | [] => []
  | item :: rest => spaces column ++ '-' :: itemChars column item ++ itemsChars column rest

/-- The members of a mapping, with their keys at a column. -/
def membersChars (column : Nat) : List (String × Json) → List Char
  | [] => []
  | (name, value) :: rest =>
    spaces column ++ keyChars column name ++
      (if isSimpleKey name then valueChars column value else itemChars column value) ++
      membersChars column rest

end

def render (value : Json) : String :=
  String.ofList <|
    match value with
    | .list (item :: rest) => itemsChars 0 (item :: rest)
    | .record (member :: rest) => membersChars 0 (member :: rest)
    | other => (valueChars 0 other).drop 1

end RestConnector.Yaml
