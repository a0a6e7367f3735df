import RestConnector.Typing.Parameter
import RestConnector.Typing.Response

/-!
Contract: the operations of a path.

Owns:
- `contentType`, the media type of a body;
- `ofOperation`, one operation as a callable, and `ofPathItem`, all operations of a path.

Does not own: the walk over a document, see `RestConnector.Conversion`.

Operations without a response are left out, whatever else is wrong with them.
-/

namespace RestConnector.Typing

open Swagger (Linked Operation Parameter PathItem)

/-- The media type of a body among those that an operation consumes.

A form takes the first type of forms.  Any other body is JSON if that is listed, and else takes the
first type. -/
def contentType (consumes : List String) (current : String) : String :=
  match consumes with
  | [] => current
  | first :: _ =>
    if current = multipartType then
      (consumes.find? fun type => type == multipartType || type == urlencodedType).getD multipartType
    else if consumes.contains jsonType then jsonType
    else first

/-- The alternatives of credentials; none are required where none are given. -/
def securityRules (needs : Option (List Swagger.SecurityNeed)) : List SecurityRule :=
  (needs.getD []).map NameMap.ofList

/-- The name of an operation: its identifier, or one made of its path. -/
def operationName (scope : Scope) (apiPath : String) (method : Method) (operation : Operation) :
    String :=
  let identifier := operation.identifier.getD ""
  if identifier.isEmpty then Identifier.ofOperation apiPath method scope.preferences else identifier

/-- The first text about an operation that says anything. -/
def operationText? (operation : Operation) : Option String :=
  [operation.summary, operation.description].findSome? fun text =>
    text.filter fun text => !text.isEmpty

/-- A body with its media type settled, unless the operation only reads. -/
def settledBody (scope : Scope) (method : Method) (operation : Operation)
    (body : Option RequestBody) : Option RequestBody :=
  if method = .get then body
  else
    body.map fun body =>
      let consumes := operation.consumes.getD scope.document.consumes
      { body with contentType := contentType consumes body.contentType }

/-- An operation as a callable, if it has any response. -/
def ofOperation (scope : Scope) (apiPath : String) (method : Method) (operation : Operation)
    (shared : List (Linked Parameter)) : Outcome (Option Callable) :=
  let name := operationName scope apiPath method operation
  (ofResponses scope apiPath [name, "Result"] operation.responses).andThen fun result =>
    match result with
    | none => .ok none
    | some result =>
      (Outcome.ofExcept (merge scope.document shared operation.parameters)).andThen
        fun parameters =>
      (ofParameters scope apiPath [name] parameters).andThen fun converted =>
        .ok (some {
          name := name
          description := operationText? operation
          arguments := converted.arguments
          result := result
          request := {
            url := apiPath
            method := method
            parameters := converted.parameters
            body := settledBody scope method operation converted.body
            security := securityRules operation.security } })

/-- The operation of a path with a method, if it is there and has any response. -/
def ofSlot (scope : Scope) (apiPath : String) (shared : List (Linked Parameter))
    (slot : Method × Option Operation) : Outcome (Option Callable) :=
  match slot.2 with
  | none => .ok none
  | some operation =>
    (ofOperation scope apiPath slot.1 operation shared).mapFault fun fault => fault.atApi apiPath

structure Callables where
  functions : List Callable
  procedures : List Callable

/-- The callables of a path: the operation that reads, then the others in a fixed order. -/
def ofPathItem (scope : Scope) (apiPath : String) (item : PathItem) : Outcome Callables :=
  (ofSlot scope apiPath item.parameters (.get, item.get)).andThen fun reading =>
  (Outcome.forEach (ofSlot scope apiPath item.parameters)
    [(.post, item.post), (.put, item.put), (.patch, item.patch),
      (.delete, item.delete)]).andThen fun others =>
    .ok ⟨reading.toList, others.filterMap id⟩

end RestConnector.Typing
