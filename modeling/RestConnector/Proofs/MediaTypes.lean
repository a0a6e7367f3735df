import RestConnector.Proofs.Answered
import RestConnector.Proofs.Arguments

/-!
Contract: the media types of request bodies.

Owns:
- `formTypes`, the media types of forms, and `Settles`, which of the types that are consumed a body
  has;
- `Sends`, what the parameters of an operation say about the body of its request;
- `bodies_sent`: every body of a procedure has the media type that is settled for it.

Does not own: what is in a body, see `RestConnector.Proofs.Arguments`.

When parameters are gathered, the type of a body only tells a form from anything else.  What is
consumed is looked at later, when nothing else is known of the parameters.
-/

namespace RestConnector.Typing

open Swagger (Document Linked Operation Parameter PathItem Route)

/-! ## Types that are consumed -/

/-- The media types in which forms can be sent. -/
def formTypes : List String := [multipartType, urlencodedType]

/-- The media type of a body, which may be a form, among those that are consumed. -/
inductive Settles (consumes : List String) : Bool → String → Prop where
  | form {before : List String} {type : String} {after : List String}
      (order : consumes = before ++ type :: after) (isForm : type ∈ formTypes)
      (noEarlier : ∀ earlier ∈ before, earlier ∉ formTypes) : Settles consumes true type
  | multipart (noForm : ∀ type ∈ consumes, type ∉ formTypes) : Settles consumes true multipartType
  | json (isFree : consumes = [] ∨ jsonType ∈ consumes) : Settles consumes false jsonType
  | first {type : String} {rest : List String} (order : consumes = type :: rest)
      (noJson : jsonType ∉ consumes) : Settles consumes false type

/-- The type that a body has as long as nothing is known of what is consumed. -/
def provisionalType (isForm : Bool) : String := if isForm then multipartType else jsonType

section Consumed

variable {consumes : List String} {type : String}

theorem Settles.mem_formTypes (settles : Settles consumes true type) : type ∈ formTypes := by
  cases settles with
  | form order isForm noEarlier => exact isForm
  | multipart noForm => exact List.mem_cons_self

theorem contentType_form (consumes : List String) :
    contentType consumes (provisionalType true) =
      (consumes.find? fun type => type ∈ formTypes).getD multipartType := by
  have isForm : (fun type : String => type == multipartType || type == urlencodedType) =
      fun type => decide (type ∈ formTypes) := by
    funext type
    rw [Bool.eq_iff_iff]
    simp [formTypes]
  cases consumes with
  | nil => rfl
  | cons first rest => rw [provisionalType, if_pos rfl, contentType, if_pos rfl, isForm]

theorem contentType_plain (consumes : List String) :
    contentType consumes (provisionalType false) =
      if consumes = [] ∨ jsonType ∈ consumes then jsonType else consumes.headD jsonType := by
  cases consumes with
  | nil => rfl
  | cons first rest =>
    have noForm : jsonType ≠ multipartType := by decide
    rw [provisionalType, if_neg Bool.false_ne_true]
    simp only [contentType, if_neg noForm, List.contains_iff_mem, List.cons_ne_nil, false_or,
      List.headD_cons]

/-- The type that is chosen is one that is settled. -/
theorem settles_contentType (isForm : Bool) :
    Settles consumes isForm (contentType consumes (provisionalType isForm)) := by
  cases isForm with
  | false =>
    rw [contentType_plain]
    split
    · rename_i isFree
      exact .json isFree
    · rename_i notFree
      obtain ⟨isSome, noJson⟩ := not_or.1 notFree
      obtain ⟨first, rest, rfl⟩ := List.exists_cons_of_ne_nil isSome
      exact .first rfl noJson
  | true =>
    rw [contentType_form]
    cases found : consumes.find? fun type => type ∈ formTypes with
    | none => exact .multipart (by simpa using found)
    | some first =>
      obtain ⟨isForm, before, after, order, noEarlier⟩ := List.find?_eq_some_iff_append.1 found
      exact .form order (by simpa using isForm) (by simpa using noEarlier)

theorem Settles.contentType_eq {isForm : Bool} (settles : Settles consumes isForm type) :
    contentType consumes (provisionalType isForm) = type := by
  cases settles with
  | form order isForm noEarlier =>
    have found : consumes.find? (fun type => type ∈ formTypes) = some type :=
      List.find?_eq_some_iff_append.2
        ⟨by simpa using isForm, _, _, order, by simpa using noEarlier⟩
    rw [contentType_form, found, Option.getD_some]
  | multipart noForm =>
    have found : consumes.find? (fun type => type ∈ formTypes) = none := by simpa using noForm
    rw [contentType_form, found, Option.getD_none]
  | json isFree =>
    rw [contentType_plain, if_pos isFree]
  | first order noJson =>
    have isSome : consumes ≠ [] := by simp [order]
    have notFree : ¬(consumes = [] ∨ jsonType ∈ consumes) := not_or.2 ⟨isSome, noJson⟩
    rw [contentType_plain, if_neg notFree, order, List.headD_cons]

/-- One type and no other is settled. -/
theorem contentType_eq_iff {isForm : Bool} :
    contentType consumes (provisionalType isForm) = type ↔ Settles consumes isForm type := by
  constructor
  · rintro rfl
    exact settles_contentType isForm
  · exact Settles.contentType_eq

end Consumed

/-! ## Bodies -/

/-- What the parameters of an operation say about the body of its request. -/
structure Sends (document : Document) (operation : Operation) (parameters : List Parameter)
    (body : Option RequestBody) : Prop where
  /-- There is a body exactly if a parameter or a form field stands in it. -/
  isSome_body : body.isSome =
    (parameters.any (standsIn .formData) || parameters.any (standsIn .body))
  /-- What an operation consumes, if it says so, stands for what the document consumes. -/
  contentType_iff : ∀ given, body = some given → ∀ type, given.contentType = type ↔
    Settles (operation.consumes.getD document.consumes) (parameters.any (standsIn .formData)) type
  form : parameters.any (standsIn .formData) = true → ∀ given, body = some given →
    given.contentType ∈ formTypes

section Bodies

variable {scope : Scope} {apiPath : String} {method : Method} {operation : Operation}
  {shared : List (Linked Parameter)}

/-- Gathered parameters leave a type that tells whether the body is a form. -/
theorem contentType_gather {placed : List Placed} {body : RequestBody}
    (isBody : (gather placed).body = some body) :
    body.contentType = provisionalType (anyIn .formData placed) := by
  cases isForm : anyIn .formData placed with
  | true =>
    rw [body_of_form isForm] at isBody
    cases isBody
    rfl
  | false =>
    rw [body_of_plain isForm] at isBody
    obtain ⟨member, -, rfl⟩ := Option.map_eq_some_iff.1 isBody
    rfl

theorem settledBody_of_writing (writes : method ≠ .get) (body : Option RequestBody) :
    settledBody scope method operation body = body.map fun body =>
      { body with
        contentType :=
          contentType (operation.consumes.getD scope.document.consumes) body.contentType } :=
  if_neg writes

theorem sends_of_parameters {path : List String} {parameters : List Parameter}
    {converted : Arguments} (writes : method ≠ .get)
    (succeeded : (ofParameters scope apiPath path parameters).value = .ok converted) :
    Sends scope.document operation parameters
      (settledBody scope method operation converted.body) := by
  have fills := (ofParameters_fills succeeded).settled scope method operation
  obtain ⟨placed, walked, rfl⟩ := ofParameters_ok succeeded
  have types : ∀ given, settledBody scope method operation (gather placed).body = some given →
      ∀ type, given.contentType = type ↔ Settles
        (operation.consumes.getD scope.document.consumes) (parameters.any (standsIn .formData))
        type := by
    intro given isGiven type
    rw [settledBody_of_writing writes] at isGiven
    obtain ⟨body, isBody, rfl⟩ := Option.map_eq_some_iff.1 isGiven
    rw [any_standsIn walked, ← contentType_eq_iff, ← contentType_gather isBody]
  refine ⟨fills.isSome_body, types, ?_⟩
  intro isForm given isGiven
  have settles := (types given isGiven given.contentType).1 rfl
  rw [isForm] at settles
  exact settles.mem_formTypes

theorem sends_of_operation {callable : Callable} (writes : method ≠ .get)
    (succeeded : (ofOperation scope apiPath method operation shared).value = .ok (some callable)) :
    ∃ parameters, merge scope.document shared operation.parameters = .ok parameters ∧
      Sends scope.document operation parameters callable.request.body := by
  obtain ⟨_, parameters, converted, -, merged, typed, rfl⟩ := ofOperation_ok succeeded
  exact ⟨parameters, merged, sends_of_parameters writes typed⟩

theorem method_of_mem_answered {item : PathItem} {path : String} {methods : List Method}
    {route : Route} (inside : route ∈ item.answered path methods) : route.method ∈ methods := by
  obtain ⟨method, isMethod, found⟩ := List.mem_filterMap.1 inside
  obtain ⟨operation, -, rfl⟩ := Option.map_eq_some_iff.1 found
  exact isMethod

end Bodies

/-- An operation that does more than read sends a body exactly if its merged parameters have one.
The media type of a form is the first type of forms that is consumed, and else that of several
parts.  Any other body is JSON if that is consumed or if nothing is, and else it is of the first
type.  So it is for each procedure of a path. -/
theorem bodies_sent (scope : Scope) :
    (∀ apiPath method operation shared callable, method ≠ .get →
      (ofOperation scope apiPath method operation shared).value = .ok (some callable) →
        ∃ parameters, merge scope.document shared operation.parameters = .ok parameters ∧
          Sends scope.document operation parameters callable.request.body) ∧
    ∀ apiPath item found, (ofPathItem scope apiPath item).value = .ok found →
      List.Forall₂ (fun route callable => route.method ≠ .get ∧
          callable.request.method = route.method ∧
          ∃ parameters, merge scope.document route.shared route.operation.parameters =
              .ok parameters ∧
            Sends scope.document route.operation parameters callable.request.body)
        (item.answered apiPath writingMethods) found.procedures := by
  refine ⟨?_, ?_⟩
  · intro apiPath method operation shared callable writes succeeded
    exact sends_of_operation writes succeeded
  · intro apiPath item found succeeded
    have writing : ∀ route ∈ item.answered apiPath writingMethods, route.method ≠ .get := by
      intro route inside isGet
      have isWriting := method_of_mem_answered inside
      rw [isGet] at isWriting
      exact absurd isWriting (by decide)
    have made := (List.forall₂_and_left _ _).2 ⟨writing, (ofPathItem_ok succeeded).2⟩
    refine made.imp ?_
    rintro route callable ⟨writes, makes⟩
    exact ⟨writes, makes.method, sends_of_operation writes makes.typed⟩

/-- An operation with some parameters of its own that answers without a payload. -/
def consuming (consumes : Option (List String)) (own : List Parameter) : Operation :=
  ⟨some "pets", none, none, [], consumes, none, own.map .inline,
    some ⟨none, [("200", .inline ⟨"", none⟩)], []⟩, none, false⟩

def xmlDocument : Document := { Document.empty with consumes := ["application/xml"] }

/-- Three operations that share a body, one of which has a form field of its own. -/
def consumingItem : PathItem where
  get := none
  post := some (consuming (some ["text/plain", urlencodedType, multipartType])
    [plainParameter "photo" "formData" "file" true])
  put := some (consuming (some []) [])
  patch := some (consuming none [])
  delete := none
  head := none
  options := none
  parameters := [.inline (plainParameter "pet" "body" "string" true)]

/-- The form field turns the shared body into a form.  To declare that nothing is consumed is not to
leave it to the document. -/
theorem bodies_sent_consuming :
    ∃ found, (ofPathItem (.top xmlDocument .empty) "/pets" consumingItem).value = .ok found ∧
      found.procedures.map (fun callable => callable.request.body.map (·.contentType)) =
        [some urlencodedType, some jsonType, some "application/xml"] ∧
      List.Forall₂ (fun route callable => route.method ≠ .get ∧
          callable.request.method = route.method ∧
          ∃ parameters, merge xmlDocument route.shared route.operation.parameters =
              .ok parameters ∧
            Sends xmlDocument route.operation parameters callable.request.body)
        (consumingItem.answered "/pets" writingMethods) found.procedures := by
  have observed : (ofPathItem (.top xmlDocument .empty) "/pets"
      consumingItem).value.toOption.map (fun found =>
        found.procedures.map fun callable => callable.request.body.map (·.contentType)) =
      some [some urlencodedType, some jsonType, some "application/xml"] := by
    cbv
  obtain ⟨found, succeeded, types⟩ := exists_of_observed observed
  exact ⟨found, succeeded, types, (bodies_sent _).2 "/pets" consumingItem found succeeded⟩

end RestConnector.Typing
