import RestConnector.Typing.Schema

/-!
Contract: the results of operations.

Owns:
- `representative?`, the response that stands for all of an operation;
- `ofResponses`, the type of that response.

Does not own: operations, see `RestConnector.Typing.Operation`.

Without any response an operation has no result.  The result is never nullable, except where there
is no payload: then it is a truth value that may be absent.
-/

namespace RestConnector.Typing

open Swagger (Linked Response Responses)

/-- The status codes of success, the preferred ones first. -/
def successCodes : List String := ["200", "201", "204"]

/-- The response to the first code of success that there is, or else the one for all other codes. -/
def representative? (responses : Responses) : Option (Linked Response) :=
  (successCodes.findSome? fun code => Members.find? code responses.codes).or responses.fallback

/-- Whether there is no response at all. -/
def isSilent (responses : Responses) : Bool :=
  responses.codes.isEmpty && responses.fallback.isNone

def payload (scope : Scope) (linked : Linked Response) : Except Fault (Option Swagger.Schema) :=
  match scope.document.response? linked, linked with
  | some response, _ => .ok response.schema
  | none, .link reference => .error (.bare (.danglingReference reference))
  | none, .inline response => .ok response.schema

def emptyResult : Outcome TypeTerm :=
  (Outcome.emit (.offer booleanScalar (.ofForm .boolean))).andThen fun _ =>
    .ok (TypeTerm.named booleanScalar).asNullable

/-- The result of the chosen response, if one is chosen. -/
def ofChosen (scope : Scope) (apiPath : String) (path : List String) :
    Option (Linked Response) → Outcome TypeTerm
  | none => emptyResult
  | some linked =>
    (Outcome.ofExcept (payload scope linked)).andThen fun schema =>
      match schema with
      | none => emptyResult
      | some schema =>
        (ofUse scope apiPath path schema false).andThen fun typed => .ok typed.term.asPresent

/-- The result of an operation, if it has any response. -/
def ofResponses (scope : Scope) (apiPath : String) (path : List String) :
    Option Responses → Outcome (Option TypeTerm)
  | none => .ok none
  | some responses =>
    if isSilent responses then .ok none
    else (ofChosen scope apiPath path (representative? responses)).andThen fun term => .ok (some term)

end RestConnector.Typing
