import RestConnector.Yaml.Cursor

/-!
Contract: the texts of scalars.

Owns:
- `Gap`, what separates two parts of a scalar, and the text that it folds to;
- `scanPlain`, `scanQuoted` and `scanBlock`, the text of a scalar of each style and the place after
  it.

Does not own: where a scalar may stand, see `RestConnector.Yaml.Scan`.

Every loop over lines takes fuel; the length of the text is enough.
-/

namespace RestConnector.Yaml

/-! ## Gaps -/

/-- Blanks inside a scalar: on one line, or around breaks, of which the first one folds. -/
structure Gap where
  blanks : List Char
  folded : Option (Option Char × List Char)
deriving Repr, DecidableEq

namespace Gap

def none : Gap := ⟨[], .none⟩

def broken (gap : Gap) : Bool := gap.folded.isSome

/-- A line break becomes a space unless empty lines follow, which stand for themselves. -/
def text (gap : Gap) : List Char :=
  match gap.folded with
  | .none => gap.blanks
  | some (some '\n', []) => [' ']
  | some (some '\n', more) => more
  | some (some first, more) => first :: more
  | some (.none, more) => more

def addBreak (gap : Gap) (c : Char) : Gap :=
  match gap.folded with
  | .none => ⟨[], some (some c, [])⟩
  | some (first, more) => ⟨[], some (first, more ++ [c])⟩

/-- The gap with more blanks, which count only on the first line. -/
def addBlanks (gap : Gap) (run : List Char) : Gap :=
  if gap.broken then gap else ⟨gap.blanks ++ run, .none⟩

end Gap

/-- The blanks and breaks that start here.  A tab before column `indent` of a later line is
refused. -/
def scanGap (indent : Int) : Nat → Gap → Cursor → Option (Gap × Cursor)
  | 0, _, _ => none
  | fuel + 1, gap, cursor =>
    let (run, afterRun) := cursor.takeWhile isGap
    let spaces := (run.takeWhile (· == ' ')).length
    if gap.broken && spaces < run.length && ((cursor.column + spaces : Nat) : Int) < indent then none
    else
      match afterRun.lineBreak? with
      | some (c, next) => scanGap indent fuel ((gap.addBlanks run).addBreak c) next
      | none => some (gap.addBlanks run, afterRun)

/-! ## Plain scalars -/

/-- The characters that end a plain scalar inside a flow collection. -/
def flowIndicators : List Char := [',', '[', ']', '\x7b', '\x7d']

/-- The part of a plain scalar up to a separator or an indicator.  Inside a flow collection a colon
right before another indicator is refused. -/
def plainRun (inFlow : Bool) : List Char → Option (List Char × List Char)
  | [] => some ([], [])
  | c :: rest =>
    if isSeparator c then some ([], c :: rest)
    else if inFlow && c == ':' && startsWithAny ('?' :: flowIndicators) rest then none
    else if (c == ':' && startsApart rest) || (inFlow && flowIndicators.contains c) then
      some ([], c :: rest)
    else (plainRun inFlow rest).map fun (run, others) => (c :: run, others)

/-- A plain scalar: its text, the place after it, and whether it ends after a line break. -/
structure PlainScan where
  text : List Char
  cursor : Cursor
  broken : Bool
deriving Repr

/-- The parts of a plain scalar from here on; `gap` lies before the first of them. -/
def scanPlain (inFlow : Bool) (indent : Int) : Nat → Gap → Cursor → Option PlainScan
  | 0, _, _ => none
  | fuel + 1, gap, cursor =>
    let isEnd := match cursor.rest with
      | '#' :: _ => true
      | _ => cursor.atDocumentMarker
    if isEnd then some ⟨[], cursor, gap.broken⟩
    else do
      let (run, rest) ← plainRun inFlow cursor.rest
      let afterRun := cursor.after run rest
      let front := if run.isEmpty then [] else gap.text ++ run
      let pending := if run.isEmpty then gap else Gap.none
      if !startsWithAny [' ', '\t'] rest && !(!rest.isEmpty && startsBroken rest) then
        return ⟨front, afterRun, pending.broken⟩
      else
        let (next, afterGap) ← scanGap indent (fuel + 1) pending afterRun
        if !inFlow && (afterGap.column : Int) < indent then
          return ⟨front, afterGap, next.broken⟩
        else
          let more ← scanPlain inFlow indent fuel next afterGap
          return { more with text := front ++ more.text }

/-! ## Quoted scalars -/

/-- The character for the one after a backslash. -/
def escape? (c : Char) : Option Char :=
  match c with
  | '0' => some (Char.ofNat 0)
  | 'a' => some (Char.ofNat 7)
  | 'b' => some (Char.ofNat 8)
  | 't' | '\t' => some '\t'
  | 'n' => some '\n'
  | 'v' => some (Char.ofNat 11)
  | 'f' => some (Char.ofNat 12)
  | 'r' => some '\r'
  | 'e' => some (Char.ofNat 27)
  | ' ' => some ' '
  | '"' => some '"'
  | '/' => some '/'
  | '\\' => some '\\'
  | 'N' => some (Char.ofNat 0x85)
  | '_' => some (Char.ofNat 0xa0)
  | 'L' => some (Char.ofNat 0x2028)
  | 'P' => some (Char.ofNat 0x2029)
  | _ => none

/-- How many hexadecimal digits follow the letter of an escape. -/
def escapeWidth? (c : Char) : Option Nat :=
  match c with
  | 'x' => some 2
  | 'u' => some 4
  | 'U' => some 8
  | _ => none

/-- The character of the first `count` hexadecimal digits. -/
def hexChar? (count : Nat) (input : List Char) : Option Char := do
  let digits ← (input.take count).mapM hexDigit?
  let code := digits.foldl (fun value digit => value * 16 + digit) 0
  if digits.length = count ∧ code.isValidChar then some (Char.ofNat code) else none

/-- A stretch of a quoted scalar without plain blanks: its text, the number of characters read, and
whether an escaped line break ends it. -/
structure QuotedRun where
  text : List Char
  count : Nat
  escapedBreak : Bool
deriving Repr

namespace QuotedRun

/-- Put a character in front that was written with `count` characters. -/
def push (c : Char) (count : Nat) (run : QuotedRun) : QuotedRun :=
  ⟨c :: run.text, run.count + count, run.escapedBreak⟩

end QuotedRun

/-- The stretch in single quotes that starts here; a quote is written twice. -/
def singleRun : List Char → QuotedRun
  | '\'' :: '\'' :: rest => (singleRun rest).push '\'' 2
  | [] => ⟨[], 0, false⟩
  | c :: rest =>
    if isSeparator c || c == '\'' then ⟨[], 0, false⟩ else (singleRun rest).push c 1

/-- The stretch in double quotes that starts here. -/
def doubleRun : Nat → List Char → Option QuotedRun
  | 0, _ => none
  | fuel + 1, input =>
    match input with
    | [] => some ⟨[], 0, false⟩
    | '\\' :: c :: rest =>
      if isBreak c then some ⟨[], 1, true⟩
      else
        match escape? c, escapeWidth? c with
        | some value, _ => (doubleRun fuel rest).map (·.push value 2)
        | none, some width => do
          let value ← hexChar? width rest
          let more ← doubleRun fuel (rest.drop width)
          return more.push value (2 + width)
        | none, none => none
    | c :: rest =>
      if isSeparator c || c == '"' then some ⟨[], 0, false⟩
      else if c == '\\' then none
      else (doubleRun fuel rest).map (·.push c 1)

/-- The rest of a quoted scalar, up to and over its closing quote. -/
def scanQuoted (single : Bool) : Nat → Cursor → Option (List Char × Cursor)
  | 0, _ => none
  | fuel + 1, cursor =>
    if cursor.atDocumentMarker then none
    else do
      let run ← if single then some (singleRun cursor.rest) else doubleRun (fuel + 1) cursor.rest
      let afterRun := cursor.skip run.count
      let start ←
        if run.escapedBreak then
          (afterRun.lineBreak?).map fun (_, next) => (⟨[], some (none, [])⟩, next)
        else some (Gap.none, afterRun)
      match start.2.rest with
      | [] => none
      | c :: _ =>
        if c == (if single then '\'' else '"') then return (run.text, start.2.skip 1)
        else
          let (gap, afterGap) ← scanGap 0 (fuel + 1) start.1 start.2
          let (more, final) ← scanQuoted single fuel afterGap
          return (run.text ++ gap.text ++ more, final)

/-! ## Block scalars -/

/-- Which line breaks at the end of a block scalar are kept. -/
inductive Chomping where
  | strip
  | clip
  | keep
deriving Repr, DecidableEq

/-- The chomping indicator that is here. -/
def chomping? (cursor : Cursor) : Option (Chomping × Cursor) :=
  match cursor.rest with
  | '+' :: _ => some (.keep, cursor.skip 1)
  | '-' :: _ => some (.strip, cursor.skip 1)
  | _ => none

/-- The indentation indicator that is here; zero is refused. -/
def indentation? (cursor : Cursor) : Option (Nat × Cursor) :=
  match cursor.rest with
  | c :: _ =>
    if isDigit c then if c = '0' then none else some (c.toNat - 48, cursor.skip 1)
    else some (0, cursor)
  | [] => some (0, cursor)

/-- The indicators of a block scalar in either order. -/
def blockHeader (cursor : Cursor) : Option (Chomping × Nat × Cursor) :=
  match chomping? cursor with
  | some (chomping, next) => do
    let (width, final) ← indentation? next
    return (chomping, width, final)
  | none => do
    let (width, next) ← indentation? cursor
    if width = 0 then return (.clip, 0, next)
    else
      match chomping? next with
      | some (chomping, final) => return (chomping, width, final)
      | none => return (.clip, width, next)

/-- The empty lines that start here: their breaks, the largest indentation seen, and the place of
the first line that holds something.  `indent` is zero as long as it is not known. -/
def blockBreaks (indent : Nat) : Nat → Nat → Cursor → Option (List Char × Nat × Cursor)
  | 0, _, _ => none
  | fuel + 1, widest, cursor =>
    let spaces := (cursor.rest.takeWhile (· == ' ')).length
    let taken := if indent = 0 then spaces else min spaces (indent - cursor.column)
    let here := cursor.skip taken
    let largest := max widest here.column
    let indenting := indent = 0 ∨ here.column < indent
    if indenting ∧ startsWithAny ['\t'] here.rest then none
    else
      match here.lineBreak? with
      | some (c, next) => do
        let (breaks, final) ← blockBreaks indent fuel largest next
        return (c :: breaks, final)
      | none => some ([], largest, here)

/-- The lines of a block scalar and what is kept of its end.

`leading` is the break before the line that starts here, `breaks` are the empty lines before it,
and `blank` tells whether the previous line started with a blank. -/
def blockLines (literal : Bool) (chomping : Chomping) (indent : Nat) :
    Nat → Option Char → List Char → Bool → Cursor → Option (List Char × Cursor)
  | 0, _, _, _, _ => none
  | fuel + 1, leading, breaks, blank, cursor =>
    if cursor.column = indent ∧ !cursor.rest.isEmpty then do
      let startsBlank := startsWithAny [' ', '\t'] cursor.rest
      let front :=
        if !literal && leading == some '\n' && !blank && !startsBlank then
          if breaks.isEmpty then [' '] else breaks
        else leading.toList ++ breaks
      let (line, afterLine) := cursor.takeWhile fun c => !isBreak c
      let (next, afterBreak) := match afterLine.lineBreak? with
        | some (c, following) => (some c, following)
        | none => (none, afterLine)
      let (following, _, start) ← blockBreaks indent (fuel + 1) 0 afterBreak
      let (more, final) ← blockLines literal chomping indent fuel next following startsBlank start
      return (front ++ line ++ more, final)
    else
      let kept := match chomping with
        | .strip => []
        | .clip => leading.toList
        | .keep => leading.toList ++ breaks
      some (kept, cursor)

/-- A block scalar after its first indicator, inside a block of indentation `parent`. -/
def scanBlock (literal : Bool) (parent : Int) (fuel : Nat) (cursor : Cursor) :
    Option (List Char × Cursor) := do
  let (chomping, width, afterHeader) ← blockHeader cursor
  let lineEnd := (afterHeader.skipWhile isGap).skipComment
  if !startsBroken lineEnd.rest then none
  else
    let body := match lineEnd.lineBreak? with
      | some (_, next) => next
      | none => lineEnd
    let given := if width = 0 then 0 else if 0 ≤ parent then parent.toNat + width else width
    let (breaks, widest, start) ← blockBreaks given fuel 0 body
    let indent := if given = 0 then max widest (max (parent + 1).toNat 1) else given
    blockLines literal chomping indent fuel none breaks false start

end RestConnector.Yaml
