import RestConnector.Yaml.ScalarText
import RestConnector.Yaml.Token

/-!
Contract: the tokens of a YAML text in order.

Owns:
- `Scan`, the tokens found so far with the indentation and the possible keys at the place reached;
- `tokensOf`, all tokens of a text.

Does not own: the nesting of tokens, see `RestConnector.Yaml.Tree`.

A node that a colon may turn into a key is remembered with the number of its first token.  It stays
possible on its own line only, and for at most 1024 bytes.
-/

namespace RestConnector.Yaml

/-- A node that may turn out to be a key. -/
structure PossibleKey where
  token : Nat
  required : Bool
  index : Nat
  line : Nat
  column : Nat
deriving Repr, Inhabited

/-- What is known at a place of a text. -/
structure Scan where
  cursor : Cursor
  tokens : Array Token
  /-- The column of the innermost block collection, `-1` outside of all. -/
  indent : Int
  /-- The columns of the block collections around it. -/
  outer : List Int
  /-- The possible key of each flow collection, innermost first, and last that of the block. -/
  keys : List (Option PossibleKey)
  /-- Whether a key may start here. -/
  keyAllowed : Bool
  /-- At least the length of the whole text. -/
  fuel : Nat

namespace Scan

def start (input : List Char) : Scan :=
  ⟨Cursor.start input, #[], -1, [], [none], true, input.length + 2⟩

def inFlow (scan : Scan) : Bool :=
  match scan.keys with
  | _ :: _ :: _ => true
  | _ => false

/-- Whether a key possible so far is so no longer at a place. -/
def isStale (cursor : Cursor) (key : PossibleKey) : Bool :=
  key.line < cursor.line || key.index + 1024 < cursor.index

/-- The innermost key if it is still possible; one that is required must be. -/
def key? (scan : Scan) : Option (Option PossibleKey) :=
  match scan.keys with
  | some key :: _ =>
    if isStale scan.cursor key then if key.required then none else some none else some (some key)
  | _ => some none

/-- Forget the innermost key, unless it is required. -/
def dropKey (scan : Scan) : Option Scan :=
  match scan.keys with
  | some key :: rest => if key.required then none else some { scan with keys := none :: rest }
  | _ => some scan

/-- Remember that the node that starts here may be a key. -/
def saveKey (scan : Scan) : Option Scan :=
  if scan.keyAllowed then do
    let cleared ← scan.dropKey
    let required := !scan.inFlow && scan.indent == (scan.cursor.column : Int)
    let key : PossibleKey :=
      ⟨scan.tokens.size, required, scan.cursor.index, scan.cursor.line, scan.cursor.column⟩
    return { cleared with keys := some key :: cleared.keys.drop 1 }
  else some scan

def push (scan : Scan) (token : Token) : Scan :=
  { scan with tokens := scan.tokens.push token }

/-- Put a token in front of the one with a number. -/
def pushAt (scan : Scan) (place : Nat) (token : Token) : Scan :=
  { scan with tokens := scan.tokens.insertIdxIfInBounds place token }

/-- Move over some characters of the same line. -/
def skip (scan : Scan) (count : Nat) : Scan :=
  { scan with cursor := scan.cursor.skip count }

/-- Open a block collection at a column if it is not open yet, with its token at a place. -/
def openBlock (scan : Scan) (column place : Nat) (token : Token) : Scan :=
  if scan.inFlow || (column : Int) ≤ scan.indent then scan
  else { scan.pushAt place token with indent := column, outer := scan.indent :: scan.outer }

/-- How many block collections lie to the right of a column, the indentation that remains without
them, and the collections around that. -/
def deeper (column indent : Int) : List Int → Nat × Int × List Int
  | [] => (0, indent, [])
  | next :: rest =>
    if column < indent then
      let (count, remaining, outer) := deeper column next rest
      (count + 1, remaining, outer)
    else (0, indent, next :: rest)

/-- Append some ends of block collections. -/
def pushEnds : Nat → Array Token → Array Token
  | 0, tokens => tokens
  | count + 1, tokens => pushEnds count (tokens.push .blockEnd)

/-- Close the block collections to the right of a column. -/
def closeBlocks (scan : Scan) (column : Int) : Scan :=
  if scan.inFlow then scan
  else
    let (count, indent, outer) := deeper column scan.indent scan.outer
    { scan with tokens := pushEnds count scan.tokens, indent, outer }

/-! ## From token to token -/

/-- Move over blanks, comments and line breaks.  Tabs separate tokens only where no block
collection may start. -/
def skipSpace : Nat → Scan → Scan
  | 0, scan => scan
  | fuel + 1, scan =>
    let tabs := scan.inFlow || !scan.keyAllowed
    let cursor :=
      (scan.cursor.skipMark.skipWhile fun c => c == ' ' || (tabs && c == '\t')).skipComment
    match cursor.lineBreak? with
    | some (_, next) =>
      skipSpace fuel { scan with cursor := next, keyAllowed := scan.keyAllowed || !scan.inFlow }
    | none => { scan with cursor }

def finish (scan : Scan) : Option Scan :=
  (scan.closeBlocks (-1)).dropKey

/-- A marker or directive at the start of a line closes all block collections. -/
def leaveBlocks (scan : Scan) : Option Scan := do
  let closed ← (scan.closeBlocks (-1)).dropKey
  return { closed with keyAllowed := false }

/-- The start of a flow collection, which may itself be a key. -/
def openFlow (scan : Scan) (token : Token) : Option Scan := do
  let saved ← scan.saveKey
  let keys := none :: saved.keys
  return { (saved.skip 1).push token with keys, keyAllowed := true }

def closeFlow (scan : Scan) (token : Token) : Option Scan := do
  let cleared ← scan.dropKey
  let keys := if cleared.inFlow then cleared.keys.drop 1 else cleared.keys
  return { (cleared.skip 1).push token with keys, keyAllowed := false }

def flowEntry (scan : Scan) : Option Scan := do
  let cleared ← scan.dropKey
  return { (cleared.skip 1).push .flowEntry with keyAllowed := true }

def blockEntry (scan : Scan) : Option Scan :=
  if !scan.inFlow && !scan.keyAllowed then none
  else do
    let opened := scan.openBlock scan.cursor.column scan.tokens.size .blockSequenceStart
    let cleared ← opened.dropKey
    return { (cleared.skip 1).push .blockEntry with keyAllowed := true }

def explicitKey (scan : Scan) : Option Scan :=
  if !scan.inFlow && !scan.keyAllowed then none
  else do
    let opened := scan.openBlock scan.cursor.column scan.tokens.size .blockMappingStart
    let cleared ← opened.dropKey
    return { (cleared.skip 1).push .key with keyAllowed := !scan.inFlow }

/-- A colon in front of a value.  It makes a key of the node that is possible as one. -/
def valueMark (scan : Scan) : Option Scan := do
  match ← scan.key? with
  | some key =>
    let keys := none :: scan.keys.drop 1
    let marked := scan.pushAt key.token .key
    let opened := marked.openBlock key.column key.token .blockMappingStart
    return { (opened.skip 1).push .value with keys, keyAllowed := false }
  | none =>
    if !scan.inFlow && !scan.keyAllowed then failure
    else
      let opened := scan.openBlock scan.cursor.column scan.tokens.size .blockMappingStart
      return { (opened.skip 1).push .value with keyAllowed := !scan.inFlow }

/-- A property of a node or an alias, read by `scanned`. -/
def property (scan : Scan) (scanned : Option (Token × Cursor)) : Option Scan := do
  let saved ← scan.saveKey
  let (token, next) ← scanned
  return { saved.push token with cursor := next, keyAllowed := false }

/-- A scalar inside one line or several lines that is not a block scalar. -/
def flowScalar (scan : Scan) (style : Style) (broken : Bool)
    (scanned : Option (List Char × Cursor)) : Option Scan := do
  let saved ← scan.saveKey
  let (text, next) ← scanned
  return { saved.push (.scalar style (String.ofList text)) with cursor := next, keyAllowed := broken }

def blockScalar (scan : Scan) (literal : Bool) : Option Scan := do
  let cleared ← scan.dropKey
  let (text, next) ← scanBlock literal scan.indent scan.fuel (scan.cursor.skip 1)
  let style := if literal then Style.literal else Style.other
  return { cleared.push (.scalar style (String.ofList text)) with cursor := next, keyAllowed := true }

def plainScalar (scan : Scan) : Option Scan := do
  let scanned ← scanPlain scan.inFlow (scan.indent + 1) scan.fuel Gap.none scan.cursor
  scan.flowScalar .plain scanned.broken (some (scanned.text, scanned.cursor))

/-- Whether a plain scalar may start with a character that `rest` follows. -/
def startsPlain (inFlow : Bool) (c : Char) (rest : List Char) : Bool :=
  let indicators : List Char :=
    ['-', '?', ':', ',', '[', ']', '\x7b', '\x7d', '#', '&', '*', '!', '|', '>', '\'', '"', '%',
      '@', Char.ofNat 0x60]
  !(isSeparator c || indicators.contains c) ||
    (c == '-' && !startsWithAny [' ', '\t'] rest) ||
    (!inFlow && (c == '?' || c == ':') && !startsApart rest)

/-- The token that starts at a place where a token must start with `c`. -/
def token (scan : Scan) (c : Char) (rest : List Char) : Option Scan :=
  let apart := startsApart rest
  let next := scan.cursor.skip 1
  match c with
  | '[' => scan.openFlow .flowSequenceStart
  | '\x7b' => scan.openFlow .flowMappingStart
  | ']' => scan.closeFlow .flowSequenceEnd
  | '\x7d' => scan.closeFlow .flowMappingEnd
  | ',' => scan.flowEntry
  | '*' => scan.property ((scanName next).map fun (name, final) => (.alias name, final))
  | '&' => scan.property ((scanName next).map fun (name, final) => (.anchor name, final))
  | '!' => scan.property (scanTag scan.inFlow scan.fuel scan.cursor)
  | '\'' => scan.flowScalar .other false (scanQuoted true scan.fuel next)
  | '"' => scan.flowScalar .other false (scanQuoted false scan.fuel next)
  | _ =>
    if c == '-' && apart then scan.blockEntry
    else if c == '?' && (scan.inFlow || apart) then scan.explicitKey
    else if c == ':' && (scan.inFlow || apart) then scan.valueMark
    else if c == '|' && !scan.inFlow then scan.blockScalar true
    else if c == '>' && !scan.inFlow then scan.blockScalar false
    else if startsPlain scan.inFlow c rest then scan.plainScalar
    else none

/-- The place where the next token starts, with the block collections closed that end before it. -/
def seek (before : Scan) : Scan :=
  let scan := before.skipSpace before.fuel
  scan.closeBlocks scan.cursor.column

/-- One more token, which starts with `c` at this place. -/
def step (scan : Scan) (c : Char) (rest : List Char) : Option Scan :=
  if scan.cursor.column == 0 && c == '%' then do
    let left ← scan.leaveBlocks
    let (found, next) ← scanDirective left.fuel left.cursor
    return { left.push found with cursor := next }
  else if scan.cursor.atMarker '-' then do
    let left ← scan.leaveBlocks
    return (left.skip 3).push .documentStart
  else if scan.cursor.atMarker '.' then do
    let left ← scan.leaveBlocks
    return (left.skip 3).push .documentEnd
  else scan.token c rest

def run : Nat → Scan → Option (List Token)
  | 0, _ => none
  | fuel + 1, before => do
    let scan := before.seek
    match scan.cursor.rest with
    | [] =>
      let final ← scan.finish
      return final.tokens.toList
    | c :: rest =>
      let next ← scan.step c rest
      run fuel next

end Scan

def tokensOf (input : List Char) : Option (List Token) :=
  if input.all isAllowed then (Scan.start input).run (input.length + 2) else none

end RestConnector.Yaml
