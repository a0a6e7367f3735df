import RestConnector.Conversion

/-!
Contract: typings that are handed a state and hand on another.

Owns:
- `Progress`, a state in which certain definitions are in progress;
- `Threaded`, a typing that sees such a state and changes it, and the ways to combine typings;
- the typing of schemas, parameters, responses and operations in this form;
- `convert`, the conversion of a document with one state for all of it.

Does not own: the rules that need no state, see `RestConnector.Typing`; what both forms have in
common, see `RestConnector.Proofs.Threading`.

A typing of this form may look at all that was collected before it, and a fault leaves the state as
it was when it came.  The type says that every typing ends the expansions that it begins.
-/

namespace RestConnector

open Typing (State)

/-- Callables of one path behind those of others. -/
def Typing.Callables.append (found part : Typing.Callables) : Typing.Callables :=
  ⟨found.functions ++ part.functions, found.procedures ++ part.procedures⟩

/-- A state in which certain definitions are in progress, innermost first. -/
structure Progress (names : List String) where
  state : State
  inProgress : state.expanding = names

namespace Progress

variable {names : List String}

/-- Nothing is collected and nothing is in progress. -/
def start : Progress [] := ⟨.empty, rfl⟩

def perform (progress : Progress names) (write : Catalog.Write) : Progress names :=
  ⟨{ progress.state with catalog := (progress.state.catalog.write write).2 }, progress.inProgress⟩

/-- The expansion of a definition begins. -/
def enter (progress : Progress names) (name : String) : Progress (name :: names) :=
  ⟨{ progress.state with expanding := name :: progress.state.expanding },
    congrArg (name :: ·) progress.inProgress⟩

/-- The expansion of a definition ends. -/
def leave {name : String} (progress : Progress (name :: names)) : Progress names :=
  ⟨{ progress.state with expanding := progress.state.expanding.erase name }, by
    rw [progress.inProgress, List.erase_cons_head]⟩

end Progress

/-- A typing that is handed a state and hands on another, in which the same definitions are in
progress. -/
def Threaded (names : List String) (α : Type) : Type :=
  Progress names → Except Fault α × Progress names

namespace Threaded

open Swagger (Document Linked Operation Parameter ParameterItems PathItem Response Responses Schema)
open Typing (Arguments Callables Gathering Placed Scope Typed anyScalar closedDefinitions
  closedDefinitions_entering_lt declaredType? isPrimitive namingPath shapeOf sizeOf_items_lt
  sizeOf_nested_lt sizeOf_pos sizeOf_properties_lt)

/-! ## Combinations -/

section Combinations

variable {names : List String} {α β : Type}

def ok (value : α) : Threaded names α := fun progress => (.ok value, progress)

def fail (fault : Fault) : Threaded names α := fun progress => (.error fault, progress)

def ofExcept (result : Except Fault α) : Threaded names α := fun progress => (result, progress)

/-- Write to the catalog, whatever it replies. -/
def perform (write : Catalog.Write) : Threaded names Unit :=
  fun progress => (.ok (), progress.perform write)

/-- Let the state that is handed on decide how to go on. -/
def seeing (decide : Progress names → Threaded names α) : Threaded names α :=
  fun progress => decide progress progress

/-- Go on with a result and with the state that came with it. -/
def andThen (first : Threaded names α) (next : α → Threaded names β) : Threaded names β :=
  fun progress =>
    match first progress with
    | (.ok value, reached) => next value reached
    | (.error fault, reached) => (.error fault, reached)

/-- Report a fault in another way. -/
def mapFault (change : Fault → Fault) (typing : Threaded names α) : Threaded names α :=
  fun progress =>
    match typing progress with
    | (.ok value, reached) => (.ok value, reached)
    | (.error fault, reached) => (.error (change fault), reached)

/-- Keep a definition in progress, and no longer, whatever comes of it. -/
def within (name : String) (typing : Threaded (name :: names) α) : Threaded names α :=
  fun progress =>
    let (result, reached) := typing (progress.enter name)
    (result, reached.leave)

/-- Change a value with each member of a list in turn, up to the first fault. -/
def fold (step : β → α → Threaded names β) (start : β) : List α → Threaded names β
  | [] => ok start
  | member :: rest => (step start member).andThen fun next => fold step next rest

end Combinations

/-! ## Schemas -/

/-- The name of a primitive's scalar, which is offered to the catalog. -/
def ofPrimitive {names : List String} (scope : Scope) (apiPath : String) (path : List String)
    (type : String) (format : Option String) (choices : List Json) : Threaded names String :=
  let scalar := Typing.primitive scope apiPath path type format choices
  (perform (.offer scalar.1 (.ofForm scalar.2))).andThen fun _ => ok scalar.1

mutual

/-- The type of a schema where it is used. -/
def ofUse (scope : Scope) (apiPath : String) (path : List String) (schema : Schema)
    (nullable : Bool) : Threaded scope.expanding Typed :=
  let typed :=
    match schema.reference with
    | some reference => ofReference scope apiPath path reference
    | none => ofNode scope apiPath (namingPath schema path) schema
  typed.andThen fun typed => ok (typed.nullableIf nullable)
termination_by (closedDefinitions scope, sizeOf schema, 1)
decreasing_by
  · exact Prod.Lex.right _ (Prod.Lex.left _ _ (sizeOf_pos schema))
  · exact Prod.Lex.right _ (Prod.Lex.right _ Nat.zero_lt_one)

def ofNode (scope : Scope) (apiPath : String) (path : List String) (schema : Schema) :
    Threaded scope.expanding Typed :=
  match schema.reference with
  | some reference => ofReference scope apiPath path reference
  | none =>
    let typed :=
      if schema.isUntyped then
        (perform (.offer jsonScalar anyScalar)).andThen fun _ =>
          ok (.named jsonScalar (shapeOf schema jsonScalar))
      else
        match declaredType? schema with
        | none => fail ((Fault.bare .emptySchema).atField path)
        | some type =>
          if isPrimitive type then
            (ofPrimitive scope apiPath path type schema.format schema.choices).andThen
              fun scalar => ok (.named scalar (shapeOf schema scalar))
          else if type = "object" then
            let name := Identifier.joined path
            if schema.properties.isEmpty || name.isEmpty then
              let scalar := if name.isEmpty then jsonScalar else name
              (perform (.set scalar anyScalar)).andThen fun _ =>
                ok (.named scalar (shapeOf schema "object"))
            else
              (ofProperties scope apiPath path schema.required [] []
                schema.properties).andThen fun (fields, shapes) =>
              (perform (.put name ⟨schema.description, fields⟩)).andThen fun _ =>
                ok (.named name { shapeOf schema "object" with properties := shapes })
          else if type = "array" then
            match _given : schema.items with
            | none => fail ((Fault.bare .missingItems).atField path)
            | some items =>
              (ofUse scope apiPath path items false).andThen fun item =>
                ok (item.listOf (shapeOf schema "array"))
          else fail ((Fault.bare (.unsupportedType type)).atField path)
    typed.andThen fun typed => ok (typed.nullableIf schema.isNullable)
termination_by (closedDefinitions scope, sizeOf schema, 0)
decreasing_by
  · exact Prod.Lex.right _ (Prod.Lex.left _ _ (sizeOf_pos schema))
  · exact Prod.Lex.right _ (Prod.Lex.left _ _ (sizeOf_properties_lt schema))
  · exact Prod.Lex.right _ (Prod.Lex.left _ _ (sizeOf_items_lt _given))

/-- The type to which a reference points.  The state tells whether its definition is in progress. -/
def ofReference (scope : Scope) (apiPath : String) (path : List String) (reference : String) :
    Threaded scope.expanding Typed :=
  let dangling := (Fault.bare (.danglingReference reference)).atField path
  match Swagger.Pointer.definition? reference with
  | none => fail dangling
  | some name =>
    match _found : scope.document.definition? name with
    | none => fail dangling
    | some target =>
      let typeName := Identifier.pascal name
      let typed := Typed.named typeName (.ofKind name)
      if _isObject : target.isObjectLike then ok typed
      else seeing fun progress =>
        if _isOpen : progress.state.expanding.contains name then
          (perform (.offer typeName anyScalar)).andThen fun _ => ok typed
        else (ofNode (scope.entering name) apiPath [name] target).within name
termination_by (closedDefinitions scope, 0, 0)
decreasing_by
  apply Prod.Lex.left
  rw [progress.inProgress] at _isOpen
  exact closedDefinitions_entering_lt _found (by simpa using _isObject) (by simpa using _isOpen)

/-- The fields and the shapes of properties, behind those of the properties before them. -/
def ofProperties (scope : Scope) (apiPath : String) (path : List String) (required : List String)
    (fields : List (String × FieldDefinition)) (shapes : List (String × ValueShape)) :
    List (String × Schema) →
      Threaded scope.expanding (List (String × FieldDefinition) × List (String × ValueShape))
  | [] => ok (fields, shapes)
  | (name, property) :: rest =>
    (ofUse scope apiPath (path ++ [name]) property (!required.contains name)).andThen fun typed =>
    let field : FieldDefinition :=
      ⟨typed.shape.description.or property.description, typed.term⟩
    let shape := { typed.shape with nullable := typed.term.isNullable }
    ofProperties scope apiPath path required (fields ++ [(name, field)]) (shapes ++ [(name, shape)])
      rest
termination_by properties => (closedDefinitions scope, sizeOf properties, 0)

end

/-- The registration of a definition.  One that is no object is left to the places that use it. -/
def ofDefinition (scope : Scope) (name : String) (schema : Schema) :
    Threaded scope.expanding Unit :=
  if schema.isObjectLike then (ofNode scope "" [name] schema).andThen fun _ => ok ()
  else ok ()

/-! ## Parameters -/

def ofItems {names : List String} (scope : Scope) (apiPath : String) (path : List String)
    (items : ParameterItems) : Threaded names Typed :=
  let missing := (Fault.bare .missingItems).atField path
  let type := items.type.getD ""
  if type.isEmpty then fail missing
  else if type = "array" then
    match _given : items.items with
    | none => fail missing
    | some nested =>
      (ofItems scope apiPath path nested).andThen fun item => ok (item.listOf (.ofKind "array"))
  else if isPrimitive type then
    (ofPrimitive scope apiPath path type items.format items.choices).andThen fun scalar =>
      ok (.named scalar { ValueShape.ofKind scalar with format := items.format })
  else fail ((Fault.bare (.unsupportedType type)).atField path)
termination_by sizeOf items
decreasing_by exact sizeOf_nested_lt _given

/-- The type of a parameter without a schema, apart from the parameter's own facets. -/
def ofSimple {names : List String} (scope : Scope) (apiPath : String) (path : List String)
    (parameter : Parameter) : Threaded names Typed :=
  let type := parameter.type.getD ""
  if type.isEmpty then fail ((Fault.bare .emptySchema).atField path)
  else if type = "array" then
    match parameter.items with
    | none => fail ((Fault.bare .missingItems).atField path)
    | some items =>
      (ofItems scope apiPath path items).andThen fun item => ok (item.listOf (.ofKind "array"))
  else if isPrimitive type then
    (ofPrimitive scope apiPath path type parameter.format parameter.choices).andThen fun scalar =>
      ok (.named scalar (.ofKind scalar))
  else fail ((Fault.bare (.unsupportedType type)).atField path)

/-- The type of a parameter, which is nullable unless the parameter is required. -/
def ofParameter (scope : Scope) (apiPath : String) (path : List String) (parameter : Parameter) :
    Threaded scope.expanding Typed :=
  match parameter.schema with
  | some schema =>
    (ofUse scope apiPath path schema (!parameter.required)).andThen fun typed =>
      let description := typed.shape.description.or parameter.description
      ok ⟨typed.term, { typed.shape with description }⟩
  | none =>
    (ofSimple scope apiPath path parameter).andThen fun typed =>
      let faceted : Typed := ⟨typed.term, Typing.withFacets parameter typed.shape⟩
      ok (faceted.nullableIf (!parameter.required))

/-- A parameter with its place and its type. -/
def ofPlaced (scope : Scope) (apiPath : String) (path : List String) (parameter : Parameter) :
    Threaded scope.expanding Placed :=
  if parameter.name.isEmpty then fail ((Fault.bare .missingParameterName).atField path)
  else
    let inner := path ++ [parameter.name]
    match ParameterPlace.ofName? parameter.location with
    | none => fail ((Fault.bare (.unknownParameterPlace parameter.location)).atField inner)
    | some place =>
      (ofParameter scope apiPath (if place = .body then path else inner) parameter).andThen
        fun typed => ok ⟨parameter, place, typed⟩

/-- One loop over parameters, which types each of them and adds it to what is gathered. -/
def ofParameters (scope : Scope) (apiPath : String) (path : List String)
    (parameters : List Parameter) : Threaded scope.expanding Arguments :=
  let step (gathering : Gathering) (parameter : Parameter) :=
    (ofPlaced scope apiPath path parameter).andThen fun placed => ok (gathering.add placed)
  (fold step .nothing parameters).andThen fun gathering => ok gathering.settled

/-! ## Operations -/

def emptyResult {names : List String} : Threaded names TypeTerm :=
  (perform (.offer booleanScalar (.ofForm .boolean))).andThen fun _ =>
    ok (TypeTerm.named booleanScalar).asNullable

/-- The result of the chosen response, if one is chosen. -/
def ofChosen (scope : Scope) (apiPath : String) (path : List String) :
    Option (Linked Response) → Threaded scope.expanding TypeTerm
  | none => emptyResult
  | some linked =>
    (ofExcept (Typing.payload scope linked)).andThen fun schema =>
      match schema with
      | none => emptyResult
      | some schema =>
        (ofUse scope apiPath path schema false).andThen fun typed => ok typed.term.asPresent

/-- The result of an operation, if it has any response. -/
def ofResponses (scope : Scope) (apiPath : String) (path : List String) :
    Option Responses → Threaded scope.expanding (Option TypeTerm)
  | none => ok none
  | some responses =>
    if Typing.isSilent responses then ok none
    else (ofChosen scope apiPath path (Typing.representative? responses)).andThen fun term =>
      ok (some term)

/-- An operation as a callable, if it has any response. -/
def ofOperation (scope : Scope) (apiPath : String) (method : Method) (operation : Operation)
    (shared : List (Linked Parameter)) : Threaded scope.expanding (Option Callable) :=
  let name := Typing.operationName scope apiPath method operation
  (ofResponses scope apiPath [name, "Result"] operation.responses).andThen fun result =>
    match result with
    | none => ok none
    | some result =>
      (ofExcept (Typing.merge scope.document shared operation.parameters)).andThen
        fun parameters =>
      (ofParameters scope apiPath [name] parameters).andThen fun converted =>
        ok (some {
          name := name
          description := Typing.operationText? operation
          arguments := converted.arguments
          result := result
          request := {
            url := apiPath
            method := method
            parameters := converted.parameters
            body := Typing.settledBody scope method operation converted.body
            security := Typing.securityRules operation.security } })

/-- The operation of a path with a method, if it is there and has any response. -/
def ofSlot (scope : Scope) (apiPath : String) (shared : List (Linked Parameter))
    (slot : Method × Option Operation) : Threaded scope.expanding (Option Callable) :=
  match slot.2 with
  | none => ok none
  | some operation =>
    (ofOperation scope apiPath slot.1 operation shared).mapFault fun fault => fault.atApi apiPath

/-- The callables of a path: the operation that reads, then a loop over the others. -/
def ofPathItem (scope : Scope) (apiPath : String) (item : PathItem) :
    Threaded scope.expanding Callables :=
  let step (procedures : List Callable) (slot : Method × Option Operation) :=
    (ofSlot scope apiPath item.parameters slot).andThen fun callable =>
      ok (procedures ++ callable.toList)
  (ofSlot scope apiPath item.parameters (.get, item.get)).andThen fun reading =>
  (fold step [] [(.post, item.post), (.put, item.put), (.patch, item.patch),
    (.delete, item.delete)]).andThen fun procedures => ok ⟨reading.toList, procedures⟩

/-! ## Documents -/

/-- The callables of all paths, each behind those of the paths before it. -/
def callables (scope : Scope) (items : List (String × PathItem)) :
    Threaded scope.expanding Callables :=
  let step (found : Callables) (item : String × PathItem) :=
    (ofPathItem scope item.1 item.2).andThen fun part => ok (found.append part)
  fold step ⟨[], []⟩ items

def definition (scope : Scope) (entry : String × Schema) : Threaded scope.expanding Unit :=
  (ofDefinition scope entry.1 entry.2).mapFault fun fault => fault.atApi ("definitions/" ++ entry.1)

/-- All operations and all definitions of a document. -/
def walk (scope : Scope) : Threaded scope.expanding Callables :=
  (callables scope scope.document.pathItems).andThen fun found =>
  (fold (fun _ entry => definition scope entry) () scope.document.definitions).andThen fun _ =>
    ok found

/-- The connector of a document, whose definitions are those of the last state. -/
def convert (document : Document) (preferences : Preferences) : Except Fault Connector :=
  if document.hasPaths then do
    let (result, reached) := walk (Scope.top document preferences) .start
    let found ← result
    let credentials ← document.securityDefinitions.mapM (Conversion.credential preferences)
    return {
      settings := Conversion.settings document preferences credentials
      functions := found.functions
      procedures := found.procedures
      objects := reached.state.catalog.objects
      scalars := reached.state.catalog.scalars }
  else .error (.bare .nothingToConvert)

end Threaded

end RestConnector
