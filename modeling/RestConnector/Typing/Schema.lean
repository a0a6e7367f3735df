import RestConnector.Typing.Scalar

/-!
Contract: the types of schemas.

Owns:
- `ofUse`, the type of a schema where it is used, by reference or in place;
- `ofNode`, the type of a schema in place, and `ofReference`, that of a definition;
- `ofDefinition`, the registration of a definition.

Does not own: parameters and responses, which have modules of their own.

A reference to an object is its name; any other definition is expanded where it is used.  An object
is put into the catalog after its properties, under the name that its path gives.  Values of
several types, of unions and of open objects are not typed further.

A definition that is being expanded is not expanded again, so every typing ends: a step goes to a
part of a schema, or it opens one more of the finitely many definitions.
-/

namespace RestConnector.Typing

open Swagger (Schema Document)

/-- The shape that a schema gives to a kind of values. -/
def shapeOf (schema : Schema) (kind : String) : ValueShape where
  kind := kind
  format := schema.format
  pattern := schema.pattern
  nullable := schema.isNullable
  minimum := schema.minimum
  maximum := schema.maximum
  minLength := schema.minLength
  maxLength := schema.maxLength
  description := schema.description
  items := none
  properties := []

/-- The title of a schema, if it is one word. -/
def soleTitle? (schema : Schema) : Option String :=
  match schema.title with
  | some title => if title.isEmpty || title.toList.any Text.isBlank then none else some title
  | none => none

/-- The path that names a schema: its title if that is one word, and else where it stands. -/
def namingPath (schema : Schema) (path : List String) : List String :=
  match soleTitle? schema with
  | some title => [Identifier.pascal title]
  | none => path

/-- The type that a schema declares: with properties alone it is an object. -/
def declaredType? (schema : Schema) : Option String :=
  match schema.types with
  | type :: _ => some type
  | [] => if schema.properties.isEmpty then none else some "object"

/-- How many definitions are no objects and are not being expanded. -/
def closedDefinitions (scope : Scope) : Nat :=
  scope.document.definitions.countP fun entry =>
    !entry.2.isObjectLike && !scope.expanding.contains entry.1

/-! ## What makes a step smaller -/

/-- Opening a definition that is no object leaves fewer definitions to open. -/
theorem closedDefinitions_entering_lt {scope : Scope} {name : String} {target : Schema}
    (found : scope.document.definition? name = some target)
    (notObject : target.isObjectLike = false) (notOpen : scope.expanding.contains name = false) :
    closedDefinitions (scope.entering name) < closedDefinitions scope := by
  let isClosed (entry : String × Schema) : Bool :=
    !entry.2.isObjectLike && !scope.expanding.contains entry.1
  let closed := scope.document.definitions.filter isClosed
  have before : closedDefinitions scope = closed.length := List.countP_eq_length_filter
  have after : closedDefinitions (scope.entering name) =
      (closed.filter fun entry => !(entry.1 == name)).length := by
    rw [List.filter_filter, ← List.countP_eq_length_filter]
    refine List.countP_congr fun entry _ => ?_
    simp only [isClosed, Scope.entering, List.contains_cons, Bool.not_or, Bool.and_eq_true]
    rw [and_left_comm]
  have inside : (name, target) ∈ closed := by
    refine List.mem_filter.2 ⟨Members.mem_of_find? found, ?_⟩
    simp only [isClosed, notObject, notOpen, Bool.not_false, Bool.and_self]
  rw [before, after]
  refine List.length_filter_lt_length_iff_exists.2 ⟨_, inside, ?_⟩
  simp

theorem sizeOf_pos (schema : Schema) : 0 < sizeOf schema := by
  cases schema
  simp only [Schema.mk.sizeOf_spec]
  omega

theorem sizeOf_items_lt {schema items : Schema} (given : schema.items = some items) :
    sizeOf items < sizeOf schema := by
  cases schema
  simp only at given
  subst given
  simp only [Schema.mk.sizeOf_spec, Option.some.sizeOf_spec]
  omega

theorem sizeOf_properties_lt (schema : Schema) : sizeOf schema.properties < sizeOf schema := by
  cases schema
  simp only [Schema.mk.sizeOf_spec]
  omega

/-! ## Types -/

mutual

/-- The type of a schema where it is used.  One with a one-word title is named for it. -/
def ofUse (scope : Scope) (apiPath : String) (path : List String)
    (schema : Schema) (nullable : Bool) : Outcome Typed :=
  let typed :=
    match schema.reference with
    | some reference => ofReference scope apiPath path reference
    | none => ofNode scope apiPath (namingPath schema path) schema
  typed.andThen fun typed => .ok (typed.nullableIf nullable)
termination_by (closedDefinitions scope, sizeOf schema, 1)
decreasing_by
  · exact Prod.Lex.right _ (Prod.Lex.left _ _ (sizeOf_pos schema))
  · exact Prod.Lex.right _ (Prod.Lex.right _ Nat.zero_lt_one)

def ofNode (scope : Scope) (apiPath : String) (path : List String)
    (schema : Schema) : Outcome Typed :=
  match schema.reference with
  | some reference => ofReference scope apiPath path reference
  | none =>
    let typed :=
      if schema.isUntyped then
        (Outcome.emit (.offer jsonScalar anyScalar)).andThen fun _ =>
          .ok (.named jsonScalar (shapeOf schema jsonScalar))
      else
        match declaredType? schema with
        | none => .fail ((Fault.bare .emptySchema).atField path)
        | some type =>
          if isPrimitive type then
            (ofPrimitive scope apiPath path type schema.format schema.choices).andThen
              fun scalar => .ok (.named scalar (shapeOf schema scalar))
          else if type = "object" then
            let name := Identifier.joined path
            if schema.properties.isEmpty || name.isEmpty then
              let scalar := if name.isEmpty then jsonScalar else name
              (Outcome.emit (.set scalar anyScalar)).andThen fun _ =>
                .ok (.named scalar (shapeOf schema "object"))
            else
              (ofProperties scope apiPath path schema.required
                schema.properties).andThen fun properties =>
              let fields := properties.map fun property => (property.1, property.2.1)
              let shapes := properties.map fun property => (property.1, property.2.2)
              (Outcome.emit (.put name ⟨schema.description, fields⟩)).andThen fun _ =>
                .ok (.named name { shapeOf schema "object" with properties := shapes })
          else if type = "array" then
            match _given : schema.items with
            | none => .fail ((Fault.bare .missingItems).atField path)
            | some items =>
              (ofUse scope apiPath path items false).andThen fun item =>
                .ok (item.listOf (shapeOf schema "array"))
          else .fail ((Fault.bare (.unsupportedType type)).atField path)
    typed.andThen fun typed => .ok (typed.nullableIf schema.isNullable)
termination_by (closedDefinitions scope, sizeOf schema, 0)
decreasing_by
  · exact Prod.Lex.right _ (Prod.Lex.left _ _ (sizeOf_pos schema))
  · exact Prod.Lex.right _ (Prod.Lex.left _ _ (sizeOf_properties_lt schema))
  · exact Prod.Lex.right _ (Prod.Lex.left _ _ (sizeOf_items_lt _given))

/-- The type to which a reference points.  A definition that is being expanded already counts as an
object of any form. -/
def ofReference (scope : Scope) (apiPath : String)
    (path : List String) (reference : String) : Outcome Typed :=
  let dangling := (Fault.bare (.danglingReference reference)).atField path
  match Swagger.Pointer.definition? reference with
  | none => .fail dangling
  | some name =>
    match _found : scope.document.definition? name with
    | none => .fail dangling
    | some target =>
      let typeName := Identifier.pascal name
      let typed := Typed.named typeName (.ofKind name)
      if _isObject : target.isObjectLike then .ok typed
      else if _isOpen : scope.expanding.contains name then
        (Outcome.emit (.offer typeName anyScalar)).andThen fun _ => .ok typed
      else (ofNode (scope.entering name) apiPath [name] target).within name
termination_by (closedDefinitions scope, 0, 0)
decreasing_by
  apply Prod.Lex.left
  exact closedDefinitions_entering_lt _found (by simpa using _isObject) (by simpa using _isOpen)

/-- The fields and the shapes of properties in their order.  A property that is not required is
nullable, and one without a description of its shape has that of its schema. -/
def ofProperties (scope : Scope) (apiPath : String)
    (path : List String) (required : List String) :
    List (String × Schema) → Outcome (List (String × FieldDefinition × ValueShape))
  | [] => .ok []
  | (name, property) :: rest =>
    (ofUse scope apiPath (path ++ [name]) property
      (!required.contains name)).andThen fun typed =>
    let field : FieldDefinition :=
      ⟨typed.shape.description.or property.description, typed.term⟩
    let shape := { typed.shape with nullable := typed.term.isNullable }
    (ofProperties scope apiPath path required rest).andThen fun others =>
      .ok ((name, field, shape) :: others)
termination_by properties => (closedDefinitions scope, sizeOf properties, 0)

end

/-- The registration of a definition.  One that is no object is left to the places that use it. -/
def ofDefinition (scope : Scope) (name : String) (schema : Schema) : Outcome Unit :=
  if schema.isObjectLike then
    (ofNode scope "" [name] schema).andThen fun _ => .ok ()
  else .ok ()

end RestConnector.Typing
