import RestConnector.Proofs.Agreement
import RestConnector.Proofs.Operations
import RestConnector.Proofs.Records

/-!
Contract: which operations of a document become callables.

Owns:
- `Swagger.Route`, an operation in its place, and `Document.answered`, the routes of some methods
  that declare a response, in order;
- `Document.answeredOnly`, a document without its other operations;
- `Connector.callables_of_answered`: exactly the answered routes become callables, and the others
  might as well not be there.

Does not own: what a callable consists of, see `RestConnector.Proofs.Operations`.

An operation without a response comes to nothing before its parameters are looked at, so whatever is
wrong with them is not seen, and it has no events.
-/

namespace RestConnector

open Swagger (Document Linked Operation Parameter PathItem Responses)

namespace Swagger

/-- Whether an operation declares a response, be it to a status code or to all others. -/
def Operation.isAnswered (operation : Operation) : Bool :=
  operation.responses.any fun responses => !responses.codes.isEmpty || responses.fallback.isSome

/-- An operation in its place, with the parameters that its path shares. -/
structure Route where
  path : String
  shared : List (Linked Parameter)
  method : Method
  operation : Operation

namespace PathItem

def operation? (item : PathItem) : Method → Option Operation
  | .get => item.get
  | .post => item.post
  | .put => item.put
  | .patch => item.patch
  | .delete => item.delete

/-- The routes of some methods that declare a response. -/
def answered (path : String) (item : PathItem) (methods : List Method) : List Route :=
  methods.filterMap fun method =>
    ((item.operation? method).filter Operation.isAnswered).map fun operation =>
      ⟨path, item.parameters, method, operation⟩

theorem answered_cons (path : String) (item : PathItem) (method : Method) (rest : List Method) :
    item.answered path (method :: rest) =
      item.answered path [method] ++ item.answered path rest := by
  unfold answered
  rw [← List.filterMap_append]
  rfl

/-- A path without the operations that declare no response, and without those of the methods that
are never called. -/
def answeredOnly (item : PathItem) : PathItem where
  get := item.get.filter Operation.isAnswered
  put := item.put.filter Operation.isAnswered
  post := item.post.filter Operation.isAnswered
  delete := item.delete.filter Operation.isAnswered
  patch := item.patch.filter Operation.isAnswered
  head := none
  options := none
  parameters := item.parameters

end PathItem

namespace Document

/-- The routes of some methods that declare a response, path by path. -/
def answered (document : Document) (methods : List Method) : List Route :=
  document.pathItems.flatMap fun entry => entry.2.answered entry.1 methods

/-- A document without the operations that declare no response, and without those of the methods
that are never called.  All paths stay, with their shared parameters. -/
def answeredOnly (document : Document) : Document :=
  let trimmed (paths : Paths) : Paths :=
    { paths with items := paths.items.map fun entry => (entry.1, entry.2.answeredOnly) }
  { document with paths := document.paths.map trimmed }

theorem pathItems_answeredOnly (document : Document) :
    document.answeredOnly.pathItems =
      document.pathItems.map fun entry => (entry.1, entry.2.answeredOnly) := by
  unfold pathItems answeredOnly
  cases document.paths <;> rfl

theorem hasPaths_answeredOnly (document : Document) :
    document.answeredOnly.hasPaths = document.hasPaths := by
  unfold hasPaths
  rw [pathItems_answeredOnly, List.isEmpty_map]

/-- Typings look up none of what is left out. -/
theorem agrees_answeredOnly (document : Document) : document.Agrees document.answeredOnly :=
  ⟨fun _ => rfl, fun _ => rfl, fun _ => rfl, rfl⟩

end Document

end Swagger

namespace Typing

variable {scope : Scope} {apiPath : String} {shared : List (Linked Parameter)}

/-! ## Single operations -/

theorem not_isSilent (responses : Responses) :
    (!isSilent responses) = (!responses.codes.isEmpty || responses.fallback.isSome) := by
  cases given : responses.fallback <;> simp [isSilent, given]

/-- There is a result exactly if a response is declared. -/
theorem ofResponses_of_silent {operation : Operation} (silent : operation.isAnswered = false)
    (path : List String) : ofResponses scope apiPath path operation.responses = .ok none := by
  unfold Operation.isAnswered at silent
  cases given : operation.responses with
  | none => rfl
  | some responses =>
    rw [given, Option.any_some, ← not_isSilent, Bool.not_eq_false'] at silent
    simp only [ofResponses, silent, if_true]

theorem ofResponses_ne_none {operation : Operation} (isAnswered : operation.isAnswered = true)
    (path : List String) :
    (ofResponses scope apiPath path operation.responses).value ≠ .ok none := by
  intro nothing
  unfold Operation.isAnswered at isAnswered
  cases given : operation.responses with
  | none =>
    rw [given] at isAnswered
    cases isAnswered
  | some responses =>
    rw [given, Option.any_some, ← not_isSilent, Bool.not_eq_true'] at isAnswered
    rw [given] at nothing
    simp only [ofResponses, isAnswered] at nothing
    obtain ⟨term, -, impossible, -⟩ := Outcome.andThen_ok nothing
    cases impossible

/-- An operation without a response comes to nothing, whatever else it declares. -/
theorem ofOperation_of_silent {operation : Operation} (silent : operation.isAnswered = false)
    (method : Method) : ofOperation scope apiPath method operation shared = .ok none := by
  unfold ofOperation
  simp only [ofResponses_of_silent silent]
  rfl

/-- An operation with a response never comes to nothing. -/
theorem ofOperation_ne_none {operation : Operation} (isAnswered : operation.isAnswered = true)
    (method : Method) :
    (ofOperation scope apiPath method operation shared).value ≠ .ok none := by
  intro nothing
  unfold ofOperation at nothing
  obtain ⟨result, answered, rest, -⟩ := Outcome.andThen_ok nothing
  cases result with
  | none => exact ofResponses_ne_none isAnswered _ answered
  | some result =>
    obtain ⟨parameters, -, rest, -⟩ := Outcome.andThen_ok rest
    obtain ⟨converted, -, impossible, -⟩ := Outcome.andThen_ok rest
    cases impossible

/-- Nothing tells an operation without a response from one that is not there. -/
theorem ofSlot_filter (method : Method) (operation : Option Operation) :
    ofSlot scope apiPath shared (method, operation.filter Operation.isAnswered) =
      ofSlot scope apiPath shared (method, operation) := by
  cases operation with
  | none => rfl
  | some operation =>
    cases isAnswered : operation.isAnswered with
    | true => rw [Option.filter_some_pos isAnswered]
    | false =>
      rw [Option.filter_some_neg (by simp [isAnswered])]
      unfold ofSlot
      simp only [ofOperation_of_silent isAnswered]
      rfl

end Typing

/-! ## Routes and callables -/

/-- A callable is what comes of a route, whose path and method it carries. -/
structure Swagger.Route.Makes (scope : Typing.Scope) (route : Route) (callable : Callable) :
    Prop where
  url : callable.request.url = route.path
  method : callable.request.method = route.method
  typed : (Typing.ofOperation scope route.path route.method route.operation route.shared).value =
    .ok (some callable)

theorem Swagger.Route.places_of_makes {scope : Typing.Scope} {routes : List Route}
    {callables : List Callable} (made : List.Forall₂ (Makes scope) routes callables) :
    callables.map (fun callable => (callable.request.url, callable.request.method)) =
      routes.map fun route => (route.path, route.method) := by
  induction made with
  | nil => rfl
  | cons makes _ inductionHypothesis =>
    rw [List.map_cons, List.map_cons, inductionHypothesis, makes.url, makes.method]

namespace Typing

variable {scope : Scope} {path : String} {item : PathItem}

/-- The operation of a method with the method. -/
def slot (item : PathItem) (method : Method) : Method × Option Operation :=
  (method, item.operation? method)

/-- A slot comes to a callable exactly if its operation is answered. -/
theorem ofSlot_ok {method : Method} {result : Option Callable}
    (succeeded : (ofSlot scope path item.parameters (slot item method)).value = .ok result) :
    List.Forall₂ (Swagger.Route.Makes scope) (item.answered path [method]) result.toList := by
  unfold slot at succeeded
  rw [← ofSlot_filter] at succeeded
  have answered : item.answered path [method] =
      (((item.operation? method).filter Operation.isAnswered).map fun operation =>
        (⟨path, item.parameters, method, operation⟩ : Swagger.Route)).toList := by
    unfold PathItem.answered
    rw [List.filterMap_cons]
    cases (item.operation? method).filter Operation.isAnswered <;> rfl
  rw [answered]
  cases given : (item.operation? method).filter Operation.isAnswered with
  | none =>
    rw [given] at succeeded
    cases succeeded
    exact .nil
  | some operation =>
    rw [given] at succeeded
    have isAnswered : operation.isAnswered = true := (Option.filter_eq_some_iff.1 given).2
    have typed := Outcome.mapFault_ok succeeded
    cases result with
    | none => exact absurd typed (ofOperation_ne_none isAnswered method)
    | some callable =>
      obtain ⟨_, _, _, -, -, -, built⟩ := ofOperation_ok typed
      have makes : Swagger.Route.Makes scope ⟨path, item.parameters, method, operation⟩ callable :=
        ⟨by rw [built], by rw [built], typed⟩
      exact .cons makes .nil

/-- The operations of a path come to callables in the order of their methods. -/
theorem forEach_ofSlot_ok (methods : List Method) {results : List (Option Callable)}
    (walked : (Outcome.forEach (ofSlot scope path item.parameters)
      (methods.map (slot item))).value = .ok results) :
    List.Forall₂ (Swagger.Route.Makes scope) (item.answered path methods)
      (results.filterMap id) := by
  induction methods generalizing results with
  | nil =>
    cases walked
    exact .nil
  | cons method rest inductionHypothesis =>
    rw [List.map_cons, Outcome.forEach] at walked
    obtain ⟨result, stepped, walked, -⟩ := Outcome.andThen_ok walked
    obtain ⟨others, restWalked, rfl⟩ := Outcome.map_ok_iff.1 walked
    have split : (result :: others).filterMap id = result.toList ++ others.filterMap id := by
      cases result <;> rfl
    rw [split, PathItem.answered_cons]
    exact List.rel_append (ofSlot_ok stepped) (inductionHypothesis restWalked)

/-- The methods of operations that may change what they work on. -/
def writingMethods : List Method := [.post, .put, .patch, .delete]

theorem ofPathItem_ok {found : Callables}
    (succeeded : (ofPathItem scope path item).value = .ok found) :
    List.Forall₂ (Swagger.Route.Makes scope) (item.answered path [.get]) found.functions ∧
      List.Forall₂ (Swagger.Route.Makes scope) (item.answered path writingMethods)
        found.procedures := by
  obtain ⟨reading, read, rest, -⟩ := Outcome.andThen_ok succeeded
  obtain ⟨others, walked, rfl⟩ := Outcome.map_ok_iff.1 rest
  exact ⟨ofSlot_ok read, forEach_ofSlot_ok writingMethods walked⟩

/-- The callables of a document are those of its paths, one after the other. -/
theorem walk_ok {found : Callables} (walked : (Conversion.walk scope).value = .ok found) :
    List.Forall₂ (Swagger.Route.Makes scope) (scope.document.answered [.get]) found.functions ∧
      List.Forall₂ (Swagger.Route.Makes scope) (scope.document.answered writingMethods)
        found.procedures := by
  obtain ⟨callables, gathered, rest, -⟩ := Outcome.andThen_ok walked
  obtain ⟨_, -, rfl⟩ := Outcome.map_ok_iff.1 rest
  obtain ⟨parts, steps, rfl⟩ := Outcome.map_ok_iff.1 gathered
  have each := Outcome.forEach_ok_forall₂ steps
  exact ⟨List.rel_flatMap each fun _ _ stepped => (ofPathItem_ok stepped).1,
    List.rel_flatMap each fun _ _ stepped => (ofPathItem_ok stepped).2⟩

/-! ## Documents without what is left out -/

theorem ofPathItem_answeredOnly (scope : Scope) (path : String) (item : PathItem) :
    ofPathItem scope path item.answeredOnly = ofPathItem scope path item := by
  unfold ofPathItem PathItem.answeredOnly
  simp only [Outcome.forEach, ofSlot_filter]

theorem ofPathItem_inside {document : Document} (agree : scope.document.Agrees document)
    (path : String) (item : PathItem) :
    ofPathItem (scope.inside document) path item = ofPathItem scope path item := by
  have slots : ofSlot (scope.inside document) path item.parameters =
      ofSlot scope path item.parameters := by
    funext slot
    unfold ofSlot
    simp only [ofOperation_inside agree]
  unfold ofPathItem
  rw [slots]

/-- The walk over a document comes to the same, in its callables, its faults and its events. -/
theorem walk_answeredOnly (document : Document) (preferences : Preferences) :
    Conversion.walk (.top document.answeredOnly preferences) =
      Conversion.walk (.top document preferences) := by
  let scope := Scope.top document preferences
  have agree : scope.document.Agrees document.answeredOnly := document.agrees_answeredOnly
  have items : Conversion.callables (scope.inside document.answeredOnly)
      document.answeredOnly.pathItems = Conversion.callables scope document.pathItems := by
    unfold Conversion.callables
    rw [Document.pathItems_answeredOnly, Outcome.forEach_map]
    simp only [ofPathItem_inside agree, ofPathItem_answeredOnly]
  have definitions : Outcome.forEach (Conversion.definition (scope.inside document.answeredOnly))
      document.definitions = Outcome.forEach (Conversion.definition scope) document.definitions := by
    refine Outcome.forEach_congr ?_
    intro entry _
    unfold Conversion.definition
    rw [ofDefinition_inside agree]
  have walked : Conversion.walk (.top document.answeredOnly preferences) =
      (Conversion.callables (scope.inside document.answeredOnly)
        document.answeredOnly.pathItems).andThen fun found =>
      (Outcome.forEach (Conversion.definition (scope.inside document.answeredOnly))
        document.definitions).andThen fun _ => .ok found := rfl
  rw [walked, items, definitions]
  rfl

end Typing

namespace Connector

open Typing (Scope writingMethods)

theorem ofDocument_answeredOnly (document : Document) (preferences : Preferences) :
    ofDocument document.answeredOnly preferences = ofDocument document preferences := by
  unfold ofDocument
  rw [Document.hasPaths_answeredOnly, Typing.walk_answeredOnly]
  rfl

/-- Each operation that declares a response becomes one callable, with its path and its method: a
function if it only reads, else a procedure, in the order of the document.  Everything else about
operations may be left out, and neither a connector nor a fault is any different. -/
theorem callables_of_answered (document : Document) (preferences : Preferences) :
    (∀ connector, ofDocument document preferences = .ok connector →
      List.Forall₂ (Swagger.Route.Makes (.top document preferences))
        (document.answered [.get]) connector.functions ∧
      List.Forall₂ (Swagger.Route.Makes (.top document preferences))
        (document.answered [.post, .put, .patch, .delete]) connector.procedures) ∧
    ofDocument document.answeredOnly preferences = ofDocument document preferences := by
  refine ⟨?_, ofDocument_answeredOnly document preferences⟩
  intro connector converted
  obtain ⟨found, walked, functions, procedures, -⟩ := ofDocument_ok converted
  rw [functions, procedures]
  exact Typing.walk_ok walked

/-- A document in which one path has an operation that answers between two that do not, and whose
parameters are nowhere to be found. -/
def quietDocument : Document :=
  let quiet : Operation :=
    ⟨some "quiet", none, none, [], none, none, [.link "#/parameters/Missing"],
      some ⟨none, [], [("x-note", .null)]⟩, none, false⟩
  let pets : PathItem :=
    { PathItem.answering (.ofType "string") with
      get := some quiet
      post := (PathItem.answering (.ofType "string")).get
      delete := some quiet
      head := some quiet }
  { Document.empty with
    paths := some ⟨[("/pets", pets), ("/owners", .answering (.ofType "integer"))], []⟩ }

private theorem walk_quietDocument :
    (Conversion.walk (.top quietDocument .empty)).value.toOption.map (fun found =>
      found.functions.length) = some 1 := by
  cbv

/-- One function and one procedure come of four operations, and of the two that are left alone. -/
theorem callables_of_answered_quiet :
    ∃ connector, ofDocument quietDocument .empty = .ok connector ∧
      connector.functions.map (fun callable => (callable.request.url, callable.request.method)) =
        [("/owners", .get)] ∧
      connector.procedures.map (fun callable => (callable.request.url, callable.request.method)) =
        [("/pets", .post)] ∧
      ofDocument quietDocument.answeredOnly .empty = .ok connector := by
  obtain ⟨found, walked, -⟩ := exists_of_observed walk_quietDocument
  obtain ⟨connector, converted⟩ := converts_of_walk (by decide) rfl walked
  obtain ⟨each, same⟩ := callables_of_answered quietDocument .empty
  obtain ⟨functions, procedures⟩ := each connector converted
  have reading : (quietDocument.answered [.get]).map (fun route => (route.path, route.method)) =
      [("/owners", .get)] := by
    decide
  have writing : (quietDocument.answered [.post, .put, .patch, .delete]).map
      (fun route => (route.path, route.method)) = [("/pets", .post)] := by
    decide
  refine ⟨connector, converted, ?_, ?_, same.trans converted⟩
  · rw [Swagger.Route.places_of_makes functions, reading]
  · rw [Swagger.Route.places_of_makes procedures, writing]

end Connector

end RestConnector
