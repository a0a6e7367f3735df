import RestConnector.Number.Layout

/-!
Contract: values of the JSON data model.

Owns:
- `Json`, with the members of an object in the order in which they are written.

Does not own: its text, see `RestConnector.Json.Writer` and `RestConnector.Json.Reader`.
-/

namespace RestConnector

inductive Json where
  | null
  | bool (value : Bool)
  | number (value : Number)
  | text (value : String)
  | list (items : List Json)
  | record (members : List (String × Json))
deriving Repr, Inhabited

namespace Json

def member? (name : String) : Json → Option Json
  | .record members => members.lookup name
  | _ => none

/-- An optional text, `null` when absent. -/
def ofText? : Option String → Json
  | some value => .text value
  | none => .null

def ofTexts (values : List String) : Json :=
  .list (values.map .text)

def ofNat (value : Nat) : Json :=
  .number (.integer value)

end Json

end RestConnector
