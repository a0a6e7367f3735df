/-!
Contract: sets and maps of code points written as runs.

Owns:
- `Span`, an arithmetic progression of code points, and membership in a list of them;
- `Shift`, a span moved as a whole to another place, and the map that a list of them describes.

Does not own: any particular table.
-/

namespace RestConnector.Text

/-- The code points `first`, `first + step`, … up to `last`. -/
structure Span where
  first : Nat
  last : Nat
  step : Nat
deriving Repr, DecidableEq

namespace Span

def contains (span : Span) (code : Nat) : Bool :=
  span.first ≤ code && code ≤ span.last && (code - span.first) % span.step == 0

/-- Whether a code point is in one of the spans. -/
def anyContains (spans : List Span) (code : Nat) : Bool :=
  spans.any fun span => span.contains code

end Span

/-- A span whose first member goes to `target`, and every other one as far from it. -/
structure Shift where
  span : Span
  target : Nat
deriving Repr, DecidableEq

namespace Shift

/-- The image of a code point: a code point outside every span stays. -/
def apply : List Shift → Nat → Nat
  | [], code => code
  | shift :: rest, code =>
    if shift.span.contains code then shift.target + (code - shift.span.first) else apply rest code

end Shift

end RestConnector.Text
