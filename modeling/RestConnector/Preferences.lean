import RestConnector.NameMap
import RestConnector.Source.Fields
import RestConnector.Text.Blank

/-!
Contract: what a caller can choose about names.

Owns:
- `Preferences` and their reading from YAML texts and plain values;
- the part of a path that enters into names, and the word for a method.

Does not own: the making of names, see `RestConnector.Identifier`.
-/

namespace RestConnector

open Source (Reading Node)

/-- Choices about names.  Each of them may be left out. -/
structure Preferences where
  /-- The first part of the names of all environment variables. -/
  variableRoot : String
  /-- What is cut off at the start of the paths that enter into names. -/
  pathRoot : String
  /-- The words that stand for methods in the names of operations. -/
  verbs : NameMap String
deriving Repr, DecidableEq

namespace Preferences

def empty : Preferences := ⟨"", "", ∅⟩

/-- A path without the root that is to be cut off, if it starts with it. -/
def shorten (preferences : Preferences) (path : String) : String :=
  let root := preferences.pathRoot.toList
  if root.isPrefixOf path.toList then String.ofList (path.toList.drop root.length) else path

/-- The word for a method: an empty one counts as none. -/
def verb (preferences : Preferences) (method : String) : String :=
  match preferences.verbs.find? method with
  | some word => if word.isEmpty then method else word
  | none => method

def ofNode (node : Node) : Reading Preferences := do
  let fields ← node.fields ["envPrefix", "trimPrefix", "methodAlias"]
  return {
    variableRoot := ← fields.defaulted "envPrefix" "" Node.text
    pathRoot := ← fields.defaulted "trimPrefix" "" Node.text
    verbs := ← fields.defaulted "methodAlias" ∅ (·.sortedOf Node.text) }

/-- The preferences of a YAML text; a blank one chooses nothing. -/
def ofText? (text : String) : Option Preferences :=
  if Text.isAllBlank text then some empty
  else do
    let source ← Source.ofYaml? text.toList
    source.read ofNode

def toJson (preferences : Preferences) : Json :=
  .record [
    ("envPrefix", .text preferences.variableRoot),
    ("trimPrefix", .text preferences.pathRoot),
    ("methodAlias", .record (preferences.verbs.entries.map fun entry => (entry.1, .text entry.2)))]

end Preferences

end RestConnector
