import RestConnector.Text.Alphanumeric
import RestConnector.Text.LetterCase

/-!
Contract: the words of an identifier and their recasing.

Owns:
- `words`, the cut of a text at every character that is neither letter nor digit and at every
  change of case that starts a new word;
- `capitalised` and `lowered`, the two forms in which a word is written.

Does not own: how words are joined into names.

`flatten_caseWords` and `flatten_pieces` say that cutting loses nothing but separators.
-/

namespace RestConnector.Text

/-- The case of the letters read so far in the current word. -/
inductive CaseMode where
  | boundary
  | lower
  | upper
deriving Repr, DecidableEq

namespace CaseMode

/-- The mode after one more character: a character without case changes nothing. -/
def after (mode : CaseMode) (c : Char) : CaseMode :=
  if isLowercase c then .lower else if isUppercase c then .upper else mode

end CaseMode

/-- Put a character in front of the first of some words. -/
def grow (c : Char) : List (List Char) → List (List Char)
  | [] => [[c]]
  | word :: rest => (c :: word) :: rest

/-- Cut a text at its separators; two neighbouring separators enclose an empty piece. -/
def pieces : List Char → List (List Char)
  | [] => [[]]
  | c :: rest => if isAlphanumeric c then grow c (pieces rest) else [] :: pieces rest

/-- Cut a piece where its case tells that a word ends.

The first word of the result continues the word being read.  A word ends after a lowercase letter
before an uppercase one (`fooBar`), and before the last of several uppercase letters when a
lowercase letter follows it (`XMLHttp`).  The scan forgets the case at each cut. -/
def caseWords : CaseMode → List Char → List (List Char)
  | _, [] => []
  | _, [c] => [[c]]
  | mode, c :: next :: rest =>
    if mode.after c = .lower ∧ isUppercase next then
      [c] :: caseWords .boundary (next :: rest)
    else if mode = .upper ∧ isUppercase c ∧ isLowercase next then
      [] :: grow c (caseWords .boundary (next :: rest))
    else
      grow c (caseWords (mode.after c) (next :: rest))

def words (text : String) : List (List Char) :=
  (pieces text.toList).flatMap (caseWords .boundary)

/-- A word in lowercase, with the final form of a sigma that ends it. -/
def lowered : List Char → List Char
  | [] => []
  | [c] => if c = 'Σ' then ['ς'] else lowercase c
  | c :: rest => lowercase c ++ lowered rest

/-- A word with its first character in uppercase and the others in lowercase. -/
def capitalised : List Char → List Char
  | [] => []
  | c :: rest => uppercase c ++ lowered rest

/-! ## Nothing is lost -/

@[simp]
theorem flatten_grow (c : Char) (some : List (List Char)) :
    (grow c some).flatten = c :: some.flatten := by
  cases some <;> simp [grow]

theorem flatten_caseWords (mode : CaseMode) (piece : List Char) :
    (caseWords mode piece).flatten = piece := by
  fun_induction caseWords mode piece <;> simp_all

theorem flatten_pieces (text : List Char) :
    (pieces text).flatten = text.filter isAlphanumeric := by
  induction text with
  | nil => rfl
  | cons c rest inductionHypothesis =>
    by_cases alphanumeric : isAlphanumeric c <;> simp [pieces, alphanumeric, inductionHypothesis]

end RestConnector.Text
