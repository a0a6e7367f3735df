import RestConnector.Yaml.Cursor

/-!
Contract: the tokens of a YAML text.

Owns:
- `Token`, the marks of structure, the properties of nodes and the scalars;
- `scanName`, `scanTag` and `scanDirective`, the tokens that consist of a name.

Does not own: the texts of scalars, see `RestConnector.Yaml.ScalarText`, and the order in which
tokens are found, see `RestConnector.Yaml.Scan`.
-/

namespace RestConnector.Yaml

/-- How a scalar is written, as far as its meaning depends on it. -/
inductive Style where
  | plain
  | literal
  | other
deriving Repr, DecidableEq

/-- The bytes of a tag, of which none is zero. -/
abbrev Tag := List UInt8

namespace Tag

def ofChars (text : List Char) : Tag := text.map fun c => UInt8.ofNat c.toNat

/-- The bytes up to the first zero, at which every part of a tag ends. -/
def cut (bytes : List UInt8) : Tag := bytes.takeWhile (· != 0)

end Tag

inductive Token where
  | version (major minor : Nat)
  | tagHandle (handle : String) (expansion : Tag)
  | documentStart
  | documentEnd
  | blockSequenceStart
  | blockMappingStart
  | blockEnd
  | flowSequenceStart
  | flowSequenceEnd
  | flowMappingStart
  | flowMappingEnd
  | blockEntry
  | flowEntry
  | key
  | value
  | alias (name : String)
  | anchor (name : String)
  | tag (handle : String) (suffix : Tag)
  | scalar (style : Style) (text : String)
deriving Repr, DecidableEq

/-! ## Names -/

/-- The name of an anchor or an alias, after its indicator. -/
def scanName (cursor : Cursor) : Option (String × Cursor) :=
  let (name, next) := cursor.takeWhile isNameChar
  let ends := startsApart next.rest ||
    startsWithAny ['?', ':', ',', ']', '\x7d', '%', '@', (Char.ofNat 0x60)] next.rest
  if name.isEmpty || !ends then none else some (String.ofList name, next)

/-! ## Tags -/

/-- A character of a tag; three more are allowed where `verbatim` holds. -/
def isTagChar (verbatim : Bool) (c : Char) : Bool :=
  isNameChar c ||
    [';', '/', '?', ':', '@', '&', '=', '+', '$', '.', '!', '~', '*', '\'', '(', ')'].contains c ||
    (verbatim && [',', '[', ']'].contains c)

/-- How many bytes the sequence has that a byte starts. -/
def sequenceLength? (byte : Nat) : Option Nat :=
  if byte < 0x80 then some 1
  else if byte < 0xc0 then none
  else if byte < 0xe0 then some 2
  else if byte < 0xf0 then some 3
  else if byte < 0xf8 then some 4
  else none

/-- The byte of an escape, and what follows. -/
def tagByte? : List Char → Option (Nat × List Char)
  | '%' :: high :: low :: rest => do
    let upper ← hexDigit? high
    let lower ← hexDigit? low
    return (upper * 16 + lower, rest)
  | _ => none

/-- The bytes that continue a sequence. -/
def tagBytes? : Nat → List Char → Option (List Nat × List Char)
  | 0, rest => some ([], rest)
  | count + 1, input => do
    let (byte, rest) ← tagByte? input
    if byte < 0x80 ∨ 0xbf < byte then none
    else
      let (bytes, others) ← tagBytes? count rest
      return (byte :: bytes, others)

/-- The bytes of a tag, with escapes replaced.  The bytes of escapes only have the outline of
sequences and need not be characters. -/
def tagText (verbatim : Bool) : Nat → List Char → Option (List UInt8 × List Char)
  | 0, _ => none
  | fuel + 1, input =>
    match input with
    | [] => some ([], [])
    | c :: rest =>
      if c = '%' then do
        let (first, afterFirst) ← tagByte? input
        let length ← sequenceLength? first
        let (bytes, others) ← tagBytes? (length - 1) afterFirst
        let (more, final) ← tagText verbatim fuel others
        return ((first :: bytes).map UInt8.ofNat ++ more, final)
      else if isTagChar verbatim c then do
        let (more, final) ← tagText verbatim fuel rest
        return (UInt8.ofNat c.toNat :: more, final)
      else some ([], input)

/-- The bytes of a tag that start here; `fuel` is at least the length of the text. -/
def scanTagText (verbatim : Bool) (fuel : Nat) (cursor : Cursor) :
    Option (List UInt8 × Cursor) := do
  let (text, rest) ← tagText verbatim fuel cursor.rest
  return (text, cursor.skip (cursor.rest.length - rest.length))

/-- A handle: an exclamation mark, and a name that ends in another one if there is any. -/
def scanHandle (cursor : Cursor) : Option (List Char × Cursor) :=
  match cursor.rest with
  | '!' :: _ =>
    let (name, next) := (cursor.skip 1).takeWhile isNameChar
    match next.rest with
    | '!' :: _ => some ('!' :: name ++ ['!'], next.skip 1)
    | _ => some ('!' :: name, next)
  | _ => none

def isClosedHandle (handle : List Char) : Bool :=
  1 < handle.length && handle.getLast? == some '!'

/-- A tag in any of its forms: between angle brackets, with a handle, or with the primary one.  A
lone mark is a tag without a handle. -/
def scanTag (inFlow : Bool) (fuel : Nat) (cursor : Cursor) : Option (Token × Cursor) := do
  let (token, next) ←
    match cursor.rest with
    | '!' :: '<' :: _ => do
      let (text, afterText) ← scanTagText true fuel (cursor.skip 2)
      match afterText.rest with
      | '>' :: _ =>
        if text.isEmpty then none else some (Token.tag "" (Tag.cut text), afterText.skip 1)
      | _ => none
    | _ => do
      let (handle, afterHandle) ← scanHandle cursor
      let (text, afterText) ← scanTagText false fuel afterHandle
      if isClosedHandle handle then
        if text.isEmpty then none
        else some (Token.tag (String.ofList handle) (Tag.cut text), afterText)
      else
        let suffix := Tag.cut (Tag.ofChars (handle.drop 1) ++ text)
        if suffix.isEmpty then some (Token.tag "" (Tag.ofChars ['!']), afterText)
        else some (Token.tag "!" suffix, afterText)
  if startsApart next.rest || (inFlow && startsWithAny [','] next.rest) then some (token, next)
  else none

/-! ## Directives -/

/-- A number of a version, of at most nine digits. -/
def scanVersionNumber (cursor : Cursor) : Option (Nat × Cursor) :=
  let (digits, next) := cursor.takeWhile isDigit
  if digits.isEmpty || 9 < digits.length then none
  else some (digits.foldl (fun value c => value * 10 + (c.toNat - 48)) 0, next)

/-- The version that a directive gives. -/
def scanVersion (cursor : Cursor) : Option (Token × Cursor) := do
  let (major, afterMajor) ← scanVersionNumber (cursor.skipWhile isGap)
  match afterMajor.rest with
  | '.' :: _ =>
    let (minor, next) ← scanVersionNumber (afterMajor.skip 1)
    return (.version major minor, next)
  | _ => none

/-- The handle and its expansion that a directive gives. -/
def scanTagHandle (fuel : Nat) (cursor : Cursor) : Option (Token × Cursor) := do
  let (handle, afterHandle) ← scanHandle (cursor.skipWhile isGap)
  if handle != ['!'] && !isClosedHandle handle then none
  else if !startsWithAny [' ', '\t'] afterHandle.rest then none
  else
    let (expansion, next) ← scanTagText true fuel (afterHandle.skipWhile isGap)
    if expansion.isEmpty || !startsApart next.rest then none
    else return (.tagHandle (String.ofList handle) (Tag.cut expansion), next)

/-- A directive, up to the start of the next line. -/
def scanDirective (fuel : Nat) (cursor : Cursor) : Option (Token × Cursor) := do
  let (name, afterName) := (cursor.skip 1).takeWhile isNameChar
  if !startsApart afterName.rest then none
  else
    let (token, afterValue) ←
      if name = ['Y', 'A', 'M', 'L'] then scanVersion afterName
      else if name = ['T', 'A', 'G'] then scanTagHandle fuel afterName
      else none
    let lineEnd := (afterValue.skipWhile isGap).skipComment
    match lineEnd.lineBreak? with
    | some (_, next) => return (token, next)
    | none => if lineEnd.rest.isEmpty then return (token, lineEnd) else none

end RestConnector.Yaml
