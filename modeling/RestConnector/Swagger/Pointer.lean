import RestConnector.Text.Percent

/-!
Contract: references to the parts of a document.

Owns:
- `Pointer.nameIn?`, the name of an entry of a part to which a reference points.

Does not own: the look-up of that name.

A reference to an entry is `#/`, the part, a slash, and the name in one segment.  The segment is
percent-decoded first; then `~1` stands for a slash, and after that `~0` for a tilde.
-/

namespace RestConnector.Swagger.Pointer

/-- Replace `~` and a digit by a character, from left to right. -/
def unescape (digit value : Char) : List Char → List Char
  | [] => []
  | '~' :: c :: rest =>
    if c = digit then value :: unescape digit value rest else '~' :: unescape digit value (c :: rest)
  | c :: rest => c :: unescape digit value rest

def decodeSegment (segment : List Char) : String :=
  let decoded := (Text.Percent.decode (String.ofList segment)).toList
  String.ofList (unescape '0' '~' (unescape '1' '/' decoded))

/-- The name to which a reference points in a part of the document. -/
def nameIn? (part : String) (reference : String) : Option String :=
  match reference.toList with
  | '#' :: '/' :: rest =>
    let head := rest.takeWhile (· != '/')
    match rest.dropWhile (· != '/') with
    | '/' :: name =>
      if head = part.toList ∧ name ≠ [] ∧ '/' ∉ name then some (decodeSegment name) else none
    | _ => none
  | _ => none

def definition? (reference : String) : Option String := nameIn? "definitions" reference

end RestConnector.Swagger.Pointer
