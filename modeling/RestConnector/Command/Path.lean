/-!
Contract: the texts of file paths.

Owns:
- `Path.steps`, the names that a path goes through, and `Path.ending`, how it ends;
- the limits of names and paths;
- `Path.parent`, `Path.fileName?` and `Path.extension?`.

Does not own: what is found on a path.

Paths are parted by slashes.  Empty names and single dots count only at the front.
-/

namespace RestConnector.Command.Path

def parts (path : List Char) : List (List Char) :=
  match path with
  | [] => [[]]
  | '/' :: rest => [] :: parts rest
  | c :: rest =>
    match parts rest with
    | [] => [[c]]
    | first :: others => (c :: first) :: others

def isAbsolute (path : String) : Bool := path.toList.head? == some '/'

/-- Whether a name has more bytes than a directory can hold. -/
def isTooLongName (name : String) : Bool := 255 < name.utf8ByteSize

/-- Whether a path has more bytes than can be followed. -/
def isTooLong (path : String) : Bool := 4095 < path.utf8ByteSize

inductive Ending where
  | name
  /-- In a slash after a name. -/
  | slash
  /-- In a single dot, with or without a slash after it. -/
  | dot
deriving Repr, DecidableEq

def ending (path : String) : Ending :=
  match (parts path.toList).reverse with
  | [] :: before =>
    match before.dropWhile (· == []) with
    | ['.'] :: _ => .dot
    | _ => .slash
  | ['.'] :: _ => .dot
  | _ => .name

/-- The names that a path goes through; two dots stay. -/
def steps (path : String) : List String :=
  ((parts path.toList).filter fun part => part != [] && part != ['.']).map String.ofList

/-- The last name of a path, unless it is two dots. -/
def fileName? (path : String) : Option String :=
  match (steps path).getLast? with
  | some ".." => none
  | other => other

/-- The names that lead to the last one. -/
def parent (path : String) : List String := (steps path).dropLast

/-- What follows the last dot of a name, unless the name starts with that dot. -/
def extensionOf? (name : List Char) : Option (List Char) :=
  let reversed := name.reverse
  let tail := reversed.takeWhile (· != '.')
  match reversed.dropWhile (· != '.') with
  | [] => none
  | [_] => none
  | _ :: _ => some tail.reverse

/-- The extension of the last name of a path. -/
def extension? (path : String) : Option String := do
  let name ← fileName? path
  (extensionOf? name.toList).map String.ofList

end RestConnector.Command.Path
