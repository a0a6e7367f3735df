import RestConnector.Typing.Schema

/-!
Contract: the parameters of operations.

Owns:
- `merge`, the parameters of an operation in place of those that it shares with others;
- `ofParameters`, the arguments of an operation and the parts of its request;
- `Gathering`, the same as it grows from parameter to parameter.

Does not own: the media type of a body, see `RestConnector.Typing.Operation`.

Parameters outside the body keep their order.  A body parameter is the body, under the argument
name `body`.  Form fields together are one object, which is the body even if there is another.
-/

namespace RestConnector.Typing

open Swagger (Document Linked Parameter ParameterItems)

/-! ## Merging -/

/-- Whether two parameters have the same name in the same place. -/
def sameKey (left right : Parameter) : Bool :=
  left.name == right.name && left.location == right.location

/-- Put a parameter in place of the first one with its key, or at the end. -/
def override (parameter : Parameter) : List Parameter → List Parameter
  | [] => [parameter]
  | known :: rest =>
    if sameKey known parameter then parameter :: rest else known :: override parameter rest

/-- The parameter that stands in a place, or to which a reference in it points. -/
def lookedUp (document : Document) (linked : Linked Parameter) : Except Fault Parameter :=
  match document.parameter? linked, linked with
  | some parameter, _ => .ok parameter
  | none, .link reference => .error (.bare (.danglingReference reference))
  | none, .inline parameter => .ok parameter

/-- The shared parameters with those of the operation in their places or at the end. -/
def merge (document : Document) (shared own : List (Linked Parameter)) :
    Except Fault (List Parameter) := do
  let common ← shared.mapM (lookedUp document)
  let others ← own.mapM (lookedUp document)
  return others.foldl (fun merged parameter => override parameter merged) common

/-! ## The types of parameters -/

theorem sizeOf_nested_lt {items nested : ParameterItems} (given : items.items = some nested) :
    sizeOf nested < sizeOf items := by
  cases items
  simp only at given
  subst given
  simp only [ParameterItems.mk.sizeOf_spec, Option.some.sizeOf_spec]
  omega

def ofItems (scope : Scope) (apiPath : String) (path : List String) (items : ParameterItems) :
    Outcome Typed :=
  let missing := (Fault.bare .missingItems).atField path
  let type := items.type.getD ""
  if type.isEmpty then .fail missing
  else if type = "array" then
    match _given : items.items with
    | none => .fail missing
    | some nested =>
      (ofItems scope apiPath path nested).andThen fun item =>
        .ok (item.listOf (.ofKind "array"))
  else if isPrimitive type then
    (ofPrimitive scope apiPath path type items.format items.choices).andThen fun scalar =>
      .ok (.named scalar { ValueShape.ofKind scalar with format := items.format })
  else .fail ((Fault.bare (.unsupportedType type)).atField path)
termination_by sizeOf items
decreasing_by exact sizeOf_nested_lt _given

/-- The type of a parameter without a schema, apart from the parameter's own facets. -/
def ofSimple (scope : Scope) (apiPath : String) (path : List String) (parameter : Parameter) :
    Outcome Typed :=
  let type := parameter.type.getD ""
  if type.isEmpty then .fail ((Fault.bare .emptySchema).atField path)
  else if type = "array" then
    match parameter.items with
    | none => .fail ((Fault.bare .missingItems).atField path)
    | some items =>
      (ofItems scope apiPath path items).andThen fun item => .ok (item.listOf (.ofKind "array"))
  else if isPrimitive type then
    (ofPrimitive scope apiPath path type parameter.format parameter.choices).andThen fun scalar =>
      .ok (.named scalar (.ofKind scalar))
  else .fail ((Fault.bare (.unsupportedType type)).atField path)

def withFacets (parameter : Parameter) (shape : ValueShape) : ValueShape :=
  { shape with
    format := parameter.format
    pattern := parameter.pattern
    minimum := parameter.minimum
    maximum := parameter.maximum
    minLength := parameter.minLength
    maxLength := parameter.maxLength
    description := parameter.description }

/-- The type of a parameter, which is nullable unless the parameter is required. -/
def ofParameter (scope : Scope) (apiPath : String) (path : List String) (parameter : Parameter) :
    Outcome Typed :=
  match parameter.schema with
  | some schema =>
    (ofUse scope apiPath path schema (!parameter.required)).andThen fun typed =>
      let description := typed.shape.description.or parameter.description
      .ok ⟨typed.term, { typed.shape with description }⟩
  | none =>
    (ofSimple scope apiPath path parameter).andThen fun typed =>
      .ok ((⟨typed.term, withFacets parameter typed.shape⟩ : Typed).nullableIf (!parameter.required))

/-! ## Parameter lists -/

structure Placed where
  parameter : Parameter
  place : ParameterPlace
  typed : Typed

def bodyArgument : String := "body"

/-- A parameter with its place and its type.  Types that stand in the body are named for the
operation alone. -/
def ofPlaced (scope : Scope) (apiPath : String) (path : List String) (parameter : Parameter) :
    Outcome Placed :=
  if parameter.name.isEmpty then .fail ((Fault.bare .missingParameterName).atField path)
  else
    let inner := path ++ [parameter.name]
    match ParameterPlace.ofName? parameter.location with
    | none => .fail ((Fault.bare (.unknownParameterPlace parameter.location)).atField inner)
    | some place =>
      (ofParameter scope apiPath (if place = .body then path else inner) parameter).andThen
        fun typed => .ok ⟨parameter, place, typed⟩

namespace Placed

def argumentName (placed : Placed) : String :=
  if placed.place = .body then bodyArgument else placed.parameter.name

/-- The argument that fills a parameter. -/
def argument (placed : Placed) : Argument :=
  ⟨placed.parameter.description, placed.typed.term⟩

/-- Whether a parameter is sent outside the body. -/
def isOutside (placed : Placed) : Bool :=
  placed.place != .body && placed.place != .formData

/-- The part of the request for a parameter outside the body. -/
def sent (placed : Placed) : RequestParameter :=
  ⟨placed.parameter.name, placed.place, placed.typed.shape⟩

end Placed

/-- What the parameters of an operation come to. -/
structure Arguments where
  arguments : NameMap Argument
  parameters : List RequestParameter
  /-- The body; its media type is not settled yet. -/
  body : Option RequestBody

/-- The object of the form fields, if there are any. -/
def formBody? (placed : List Placed) : Option RequestBody :=
  match placed.filter fun member => member.place == .formData with
  | [] => none
  | fields =>
    let shapes := fields.map fun field => (field.parameter.name, field.typed.shape)
    some ⟨multipartType, { ValueShape.ofKind "object" with properties := Members.collapse shapes }⟩

/-- The last of the body parameters, if there are any. -/
def plainBody? (placed : List Placed) : Option RequestBody :=
  (placed.filter fun member => member.place == .body).getLast?.map fun member =>
    ⟨jsonType, member.typed.shape⟩

/-- What typed parameters come to together, as the loop in `Gathering` does one by one.  Of arguments
of one name the last one stays. -/
def gather (placed : List Placed) : Arguments where
  arguments := .ofList (placed.map fun member => (member.argumentName, member.argument))
  parameters := (placed.filter Placed.isOutside).map Placed.sent
  body := (formBody? placed).or (plainBody? placed)

/-- What a loop over typed parameters has come to, before it is known whether there is a form. -/
structure Gathering where
  arguments : NameMap Argument
  parameters : List RequestParameter
  /-- The body of the last body parameter so far. -/
  body : Option RequestBody
  /-- The object of the form fields so far. -/
  form : Option ValueShape

namespace Gathering

def nothing : Gathering := ⟨∅, [], none, none⟩

/-- A parameter writes its argument at once, and the part of the request that it is sent in. -/
def add (gathering : Gathering) (placed : Placed) : Gathering :=
  match placed.place with
  | .body =>
    { gathering with
      arguments := gathering.arguments.insert bodyArgument placed.argument
      body := some ⟨jsonType, placed.typed.shape⟩ }
  | .formData =>
    let form := gathering.form.getD (.ofKind "object")
    let fields := Members.assign placed.parameter.name placed.typed.shape form.properties
    { gathering with
      arguments := gathering.arguments.insert placed.parameter.name placed.argument
      form := some { form with properties := fields } }
  | .path | .query | .header =>
    { gathering with
      arguments := gathering.arguments.insert placed.parameter.name placed.argument
      parameters := gathering.parameters ++ [placed.sent] }

/-- At the end of the loop a form takes the place of any other body. -/
def settled (gathering : Gathering) : Arguments where
  arguments := gathering.arguments
  parameters := gathering.parameters
  body := (gathering.form.map fun form => ⟨multipartType, form⟩).or gathering.body

end Gathering

/-- What the parameters of an operation come to. -/
def ofParameters (scope : Scope) (apiPath : String) (path : List String)
    (parameters : List Parameter) : Outcome Arguments :=
  (Outcome.forEach (ofPlaced scope apiPath path) parameters).andThen fun placed =>
    .ok (gather placed)

end RestConnector.Typing
