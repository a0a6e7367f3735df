import RestConnector.Connector.Basic
import RestConnector.Preferences
import RestConnector.Text.Words

/-!
Contract: the names that a conversion makes.

Owns:
- `Identifier.pascal`, `Identifier.joined` and `Identifier.camel`, names in words;
- `Identifier.constant`, the names of environment variables;
- `Identifier.ofPath` and `Identifier.ofOperation`, names after paths.

Does not own: the cut of a text into words, see `RestConnector.Text.Words`.
-/

namespace RestConnector.Identifier

open Text (words capitalised lowered)

/-- The words of a text, each starting with a capital. -/
def pascal (text : String) : String :=
  String.ofList ((words text).flatMap capitalised)

/-- The words of a text, each but the first starting with a capital. -/
def camel (text : String) : String :=
  match words text with
  | [] => ""
  | first :: rest => String.ofList (lowered first ++ rest.flatMap capitalised)

/-- Segments as one name, each starting with a capital. -/
def joined (segments : List String) : String :=
  String.join (segments.map pascal)

def variableChar (c : Char) : Char :=
  if Text.isAsciiAlphanumeric c then c.toUpper else '_'

def variablePart (segment : String) : String :=
  String.ofList (segment.toList.map variableChar)

/-- Segments as the name of an environment variable.  Empty ones are left out, and all characters
but ASCII letters and digits become underscores. -/
def constant (segments : List String) : String :=
  "_".intercalate ((segments.filter fun segment => !segment.isEmpty).map variablePart)

def withoutBraces (path : String) : String :=
  String.ofList (path.toList.filter fun c => c != '\x7b' && c != '\x7d')

def ofPath (path : String) : String :=
  pascal (withoutBraces path)

/-- A name after the path of an operation and, unless it only reads, the word for its method.  When
neither has a word it is the name of the method. -/
def ofOperation (path : String) (method : Method) (preferences : Preferences) : String :=
  let place := withoutBraces (preferences.shorten path)
  let name := match method with
    | .get => camel place
    | other => camel (preferences.verb other.name ++ " " ++ place)
  if name.isEmpty then method.name else name

end RestConnector.Identifier
