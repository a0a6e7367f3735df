import RestConnector.Json.Value

/-!
Contract: the schema objects of a Swagger 2.0 document.

Owns:
- `Schema`, a node of a type description, with what the converter reads of it;
- the classes of schemas that decide how a node is typed.

Does not own: how a schema is read from a text, see `RestConnector.Swagger.Reader`.
-/

namespace RestConnector.Swagger

/-- A type description, or a reference to one. -/
structure Schema where
  reference : Option String
  /-- The declared types; a single one and a list of them are both accepted. -/
  types : List String
  format : Option String
  title : Option String
  description : Option String
  choices : List Json
  required : List String
  properties : List (String × Schema)
  items : Option Schema
  /-- Whether members other than the properties are allowed, or what they have to be. -/
  additional : Option (Bool ⊕ Schema)
  anyOf : List Schema
  oneOf : List Schema
  allOf : List Schema
  nullable : Option Bool
  vendorNullable : Option Bool
  pattern : Option String
  maximum : Option Double
  minimum : Option Double
  maxLength : Option Nat
  minLength : Option Nat
  fallback : Option Json

namespace Schema

/-- The schema that says nothing. -/
def empty : Schema :=
  ⟨none, [], none, none, none, [], [], [], none, none, [], [], [], none, none, none, none, none,
    none, none, none⟩

/-- Whether a schema is marked as nullable in either way. -/
def isNullable (schema : Schema) : Bool :=
  schema.nullable.getD false || schema.vendorNullable.getD false

/-- Whether members of any name are allowed. -/
def isOpen (schema : Schema) : Bool :=
  match schema.additional with
  | some (.inl allowed) => allowed
  | some (.inr _) => true
  | none => false

/-- Whether a schema is put together from others. -/
def isComposite (schema : Schema) : Bool :=
  !schema.anyOf.isEmpty || !schema.oneOf.isEmpty || !schema.allOf.isEmpty

/-- Whether a schema has the type of objects, by its declaration or by its properties. -/
def isObjectTyped (schema : Schema) : Bool :=
  match schema.types with
  | [name] => name == "object"
  | [] => !schema.properties.isEmpty
  | _ => false

/-- Whether a schema describes objects of a closed set of properties. -/
def isObjectLike (schema : Schema) : Bool :=
  schema.isObjectTyped && !schema.isOpen && !schema.isComposite

/-- Whether any type description fits a schema, so that its values are not typed further. -/
def isUntyped (schema : Schema) : Bool :=
  schema.isComposite || schema.isOpen || 1 < schema.types.length

end Schema

end RestConnector.Swagger
