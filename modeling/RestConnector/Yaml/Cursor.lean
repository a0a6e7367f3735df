/-!
Contract: places in a YAML text.

Owns:
- the classes of characters that the format's rules speak of;
- `Cursor`, the rest of a text with the place where it starts, and the moves over it.

Does not own: any token.
-/

namespace RestConnector.Yaml

/-! ## Characters -/

/-- A character that may stand in a text. -/
def isAllowed (c : Char) : Bool :=
  let code := c.toNat
  code == 0x09 || code == 0x0a || code == 0x0d || (0x20 ≤ code && code ≤ 0x7e) || code == 0x85 ||
    (0xa0 ≤ code && code ≤ 0xd7ff) || (0xe000 ≤ code && code ≤ 0xfffd) || 0x10000 ≤ code

def isGap (c : Char) : Bool := c == ' ' || c == '\t'

def isBreak (c : Char) : Bool :=
  c == '\n' || c == '\r' || c.toNat == 0x85 || c.toNat == 0x2028 || c.toNat == 0x2029

/-- A character that separates tokens. -/
def isSeparator (c : Char) : Bool := isGap c || isBreak c

/-- A letter, digit, underscore or hyphen, as in the names of anchors and tag handles. -/
def isNameChar (c : Char) : Bool :=
  ('0' ≤ c && c ≤ '9') || ('A' ≤ c && c ≤ 'Z') || ('a' ≤ c && c ≤ 'z') || c == '_' || c == '-'

def isDigit (c : Char) : Bool := '0' ≤ c && c ≤ '9'

def hexDigit? (c : Char) : Option Nat :=
  if '0' ≤ c ∧ c ≤ '9' then some (c.toNat - 48)
  else if 'a' ≤ c ∧ c ≤ 'f' then some (c.toNat - 87)
  else if 'A' ≤ c ∧ c ≤ 'F' then some (c.toNat - 55)
  else none

/-- Whether a text is at its end or at a separator. -/
def startsApart : List Char → Bool
  | [] => true
  | c :: _ => isSeparator c

/-- Whether a text is at its end or at the end of a line. -/
def startsBroken : List Char → Bool
  | [] => true
  | c :: _ => isBreak c

/-- Whether a text starts with one of some characters. -/
def startsWithAny (set : List Char) : List Char → Bool
  | [] => false
  | c :: _ => set.contains c

/-! ## Places -/

/-- The rest of a text and the place where it starts, whose index counts the bytes before it. -/
structure Cursor where
  rest : List Char
  index : Nat
  line : Nat
  column : Nat
deriving Repr, Inhabited

namespace Cursor

def start (input : List Char) : Cursor := ⟨input, 0, 0, 0⟩

/-- The place after some characters of the same line, before `rest`. -/
def after (cursor : Cursor) (run rest : List Char) : Cursor :=
  ⟨rest, run.foldl (fun index c => index + c.utf8Size) cursor.index, cursor.line,
    cursor.column + run.length⟩

/-- The place after `count` characters of the same line. -/
def skip (cursor : Cursor) (count : Nat) : Cursor :=
  cursor.after (cursor.rest.take count) (cursor.rest.drop count)

/-- The characters of the same line that have a property, and the place after them. -/
def takeWhile (cursor : Cursor) (property : Char → Bool) : List Char × Cursor :=
  let run := cursor.rest.takeWhile property
  (run, cursor.after run (cursor.rest.dropWhile property))

/-- The place after the characters of the same line that have a property. -/
def skipWhile (cursor : Cursor) (property : Char → Bool) : Cursor :=
  (cursor.takeWhile property).2

/-- The place after a byte order mark, which may stand at the start of any line. -/
def skipMark (cursor : Cursor) : Cursor :=
  match cursor.rest with
  | c :: _ => if cursor.column = 0 ∧ c.toNat = 0xfeff then cursor.skip 1 else cursor
  | [] => cursor

/-- The place after a comment, if one starts here. -/
def skipComment (cursor : Cursor) : Cursor :=
  match cursor.rest with
  | '#' :: _ => cursor.skipWhile fun c => !isBreak c
  | _ => cursor

/-- The line break that is here and the start of the next line: every break but the two separators
of lines and paragraphs counts as a newline. -/
def lineBreak? (cursor : Cursor) : Option (Char × Cursor) :=
  match cursor.rest with
  | '\r' :: '\n' :: rest => some ('\n', ⟨rest, cursor.index + 2, cursor.line + 1, 0⟩)
  | c :: rest =>
    if isBreak c then
      let value := if c.toNat == 0x2028 || c.toNat == 0x2029 then c else '\n'
      some (value, ⟨rest, cursor.index + c.utf8Size, cursor.line + 1, 0⟩)
    else none
  | [] => none

/-- Whether a marker of three equal characters stands alone at the start of this line. -/
def atMarker (cursor : Cursor) (c : Char) : Bool :=
  cursor.column == 0 &&
    match cursor.rest with
    | first :: second :: third :: rest =>
      first == c && second == c && third == c && startsApart rest
    | _ => false

/-- Whether a document ends or starts at this line. -/
def atDocumentMarker (cursor : Cursor) : Bool :=
  cursor.atMarker '-' || cursor.atMarker '.'

end Cursor

end RestConnector.Yaml
