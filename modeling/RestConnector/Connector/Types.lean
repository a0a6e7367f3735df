import RestConnector.Json.Value
import RestConnector.NameMap

/-!
Contract: the types of a connector.

Owns:
- `TypeTerm`, a reference to a type by its name, under layers of nullability and lists;
- `ValueShape`, what is known of the values of a type without looking up its name;
- `ScalarDefinition` and `ObjectDefinition`, what a name stands for.

Does not own: where definitions are kept, see `RestConnector.Catalog`.
-/

namespace RestConnector

inductive TypeTerm where
  | named (name : String)
  | nullable (inner : TypeTerm)
  | array (element : TypeTerm)
deriving Repr, DecidableEq

namespace TypeTerm

/-- The type with one layer of nullability at its top at least. -/
def asNullable : TypeTerm → TypeTerm
  | .nullable inner => .nullable inner
  | term => .nullable term

/-- The type without the topmost layer of nullability. -/
def asPresent : TypeTerm → TypeTerm
  | .nullable inner => inner
  | term => term

def isNullable : TypeTerm → Bool
  | .nullable _ => true
  | _ => false

def text : TypeTerm → String
  | .named name => name
  | .nullable inner => "Nullable<" ++ inner.text ++ ">"
  | .array element => "[" ++ element.text ++ "]"

def leaf : TypeTerm → String
  | .named name => name
  | .nullable inner => inner.leaf
  | .array element => element.leaf

end TypeTerm

structure ValueShape where
  /-- `object`, `array`, or the name of a scalar or of a definition. -/
  kind : String
  format : Option String
  pattern : Option String
  nullable : Bool
  minimum : Option Double
  maximum : Option Double
  minLength : Option Nat
  maxLength : Option Nat
  description : Option String
  items : Option ValueShape
  properties : List (String × ValueShape)
deriving Repr

namespace ValueShape

def ofKind (kind : String) : ValueShape :=
  ⟨kind, none, none, false, none, none, none, none, none, none, []⟩

end ValueShape

/-- How a scalar is written when it is sent. -/
inductive WireForm where
  | boolean
  | string
  | int32
  | int64
  | float32
  | float64
  | date
  | timestamp
  | uuid
  | bytes
  | json
  /-- One of some texts. -/
  | choice (values : List String)
deriving Repr, DecidableEq

structure ScalarDefinition where
  aggregates : NameMap Json
  comparisons : NameMap Json
  form : Option WireForm
deriving Repr

namespace ScalarDefinition

/-- The scalar that has a wire form and nothing else. -/
def ofForm (form : WireForm) : ScalarDefinition := ⟨∅, ∅, some form⟩

end ScalarDefinition

structure FieldDefinition where
  description : Option String
  type : TypeTerm
deriving Repr, DecidableEq

/-- What an object's name stands for: its fields in their order. -/
structure ObjectDefinition where
  description : Option String
  fields : List (String × FieldDefinition)
deriving Repr, DecidableEq, Inhabited

/-- The scalar of values that are not typed further. -/
def jsonScalar : String := "JSON"

/-- The scalar of responses without a payload. -/
def booleanScalar : String := "Boolean"

end RestConnector
