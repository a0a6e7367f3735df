/-!
Contract: the white space of a text.

Owns:
- `isBlank`, the Unicode property White_Space;
- `isAllBlank`, whether a text holds nothing else.

Does not own: the narrower sets that single formats treat as separators.
-/

namespace RestConnector.Text

/-- White space of any script, line breaks included. -/
def isBlank (c : Char) : Bool :=
  let code := c.toNat
  (0x09 ≤ code && code ≤ 0x0d) || code == 0x20 || code == 0x85 || code == 0xa0 ||
    code == 0x1680 || (0x2000 ≤ code && code ≤ 0x200a) || code == 0x2028 || code == 0x2029 ||
    code == 0x202f || code == 0x205f || code == 0x3000

/-- A text of white space alone; the empty text is one. -/
def isAllBlank (text : String) : Bool :=
  text.toList.all isBlank

end RestConnector.Text
