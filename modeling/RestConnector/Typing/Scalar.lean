import RestConnector.Identifier
import RestConnector.Json.Writer
import RestConnector.Typing.Outcome

/-!
Contract: the scalars of primitive types.

Owns:
- `isPrimitive`, the primitive types;
- `builtin?`, the scalar that a type and a format stand for;
- `ofPrimitive`, the name of a primitive's scalar, which is offered to the catalog.

Does not own: types that are built of others, see `RestConnector.Typing.Schema`.

A text with a choice of values has a scalar of its own, named for the field it stands in, or for
the API path when the field has no name.
-/

namespace RestConnector.Typing

/-- Whether a type maps onto a scalar. -/
def isPrimitive (type : String) : Bool :=
  ["boolean", "integer", "number", "string", "file"].contains type

def anyScalar : ScalarDefinition := .ofForm .json

/-- The scalar of a type and a format, apart from choices of values. -/
def builtin (type format : String) : String × WireForm :=
  if type = "boolean" then (booleanScalar, .boolean)
  else if type = "integer" then
    if format = "int32" then ("Int32", .int32) else ("Int64", .int64)
  else if type = "number" then
    if format = "float" then ("Float32", .float32) else ("Float64", .float64)
  else if type = "string" then
    if format = "date" then ("Date", .date)
    else if format = "date-time" then ("TimestampTZ", .timestamp)
    else if format = "uuid" then ("UUID", .uuid)
    else if format = "byte" then ("Bytes", .bytes)
    else if format = "binary" then ("Binary", .bytes)
    else ("String", .string)
  else if type = "file" then ("Binary", .bytes)
  else (jsonScalar, .json)

/-- The text of a value that may be chosen; null may not. -/
def choiceText? : Json → Option String
  | .null => none
  | .text value => some value
  | other => some other.compact

def choiceOwner (scope : Scope) (apiPath : String) (path : List String) : String :=
  let field := Identifier.joined path
  let place := Identifier.ofPath (scope.preferences.shorten apiPath)
  if !field.isEmpty then field else if !place.isEmpty then place else "String"

/-- The name and the wire form of a primitive's scalar. -/
def primitive (scope : Scope) (apiPath : String) (path : List String) (type : String)
    (format : Option String) (choices : List Json) : String × WireForm :=
  if type == "string" && !choices.isEmpty then
    (choiceOwner scope apiPath path ++ "Enum", .choice (choices.filterMap choiceText?))
  else builtin type (format.getD "")

/-- The name of a primitive's scalar, which is offered to the catalog. -/
def ofPrimitive (scope : Scope) (apiPath : String) (path : List String) (type : String)
    (format : Option String) (choices : List Json) : Outcome String :=
  let scalar := primitive scope apiPath path type format choices
  (Outcome.emit (.offer scalar.1 (.ofForm scalar.2))).andThen fun _ => .ok scalar.1

end RestConnector.Typing
