import RestConnector.Proofs.Assignments
import RestConnector.Proofs.Destinations
import RestConnector.Proofs.Presence

/-!
Contract: all that the parameters of an operation come to.

Owns:
- `typing`, the type that a parameter of a list has by itself, and `Fails`, why it has none;
- `Comprises`, the arguments, the parts of a request and its body, told by the parameters;
- `ofParameters_comprises`: a list comes to that, or it fails with the first of its parameters that
  fails.

Does not own: which names go where, see `RestConnector.Proofs.Destinations`.

Three collections grow with each parameter, and each of them has a rule of its own for repeated
names: the parts of a request are listed, an argument is overwritten, and so is a form field, which
keeps its place.
-/

namespace RestConnector.Typing

open Swagger (Parameter)

/-! ## Parameters by themselves -/

/-- Whether a parameter is sent in a path, in a query or in a header. -/
def standsOutside (parameter : Parameter) : Bool :=
  standsIn .path parameter || standsIn .query parameter || standsIn .header parameter

/-- The name of the argument for a parameter. -/
def argumentFor (parameter : Parameter) : String :=
  if standsIn .body parameter then bodyArgument else parameter.name

section Alone

variable (scope : Scope) (apiPath : String) (path : List String)

/-- The type of a parameter.  What stands in the body is named for the operation alone. -/
def typing (parameter : Parameter) : Except Fault Typed :=
  (ofParameter scope apiPath (if standsIn .body parameter then path else path ++ [parameter.name])
    parameter).value

/-- What is wrong with a parameter: the first of its name, its place and its type that is. -/
inductive Fails (parameter : Parameter) : Fault → Prop where
  | nameless (noName : parameter.name = "") :
    Fails parameter ((Fault.bare .missingParameterName).atField path)
  | misplaced (named : parameter.name ≠ "")
      (noPlace : ParameterPlace.ofName? parameter.location = none) :
    Fails parameter ((Fault.bare (.unknownParameterPlace parameter.location)).atField
      (path ++ [parameter.name]))
  | untyped {place : ParameterPlace} {fault : Fault} (named : parameter.name ≠ "")
      (placed : ParameterPlace.ofName? parameter.location = some place)
      (noType : typing scope apiPath path parameter = .error fault) :
    Fails parameter fault

/-- What the parameters of an operation come to, told by the parameters. -/
structure Comprises (parameters : List Parameter) (converted : Arguments) : Prop where
  /-- What is sent outside the body is listed, each time that it comes. -/
  sent : List.Forall₂ (fun parameter sent =>
      sent.name = parameter.name ∧
        ParameterPlace.ofName? parameter.location = some sent.place ∧
        ∃ typed, typing scope apiPath path parameter = .ok typed ∧ sent.shape = typed.shape)
    (parameters.filter standsOutside) converted.parameters
  names : ∀ name, name ∈ converted.arguments.names ↔
    ∃ parameter ∈ parameters, argumentFor parameter = name
  /-- An argument is that of the last parameter for its name. -/
  argument : ∀ name parameter,
    parameters.reverse.find? (fun other => argumentFor other == name) = some parameter →
      ∃ typed, typing scope apiPath path parameter = .ok typed ∧
        converted.arguments.find? name = some ⟨parameter.description, typed.term⟩ ∧
        (typed.term.isNullable = true ↔ parameter.required = false ∨
          ∃ schema own, parameter.schema = some schema ∧
            (ofUse scope apiPath
              (if standsIn .body parameter then path else path ++ [parameter.name])
              schema false).value = .ok own ∧ own.term.isNullable = true)
  /-- Form fields make up an object in which each has the place of its first parameter and the shape
  of its last. -/
  form : parameters.any (standsIn .formData) = true → ∃ fields,
    converted.body =
        some ⟨multipartType, { ValueShape.ofKind "object" with properties := fields }⟩ ∧
      fields.map Prod.fst = ((parameters.filter (standsIn .formData)).map (·.name)).eraseDups ∧
      ∀ field ∈ fields, ∃ parameter typed,
        parameters.reverse.find? (fun other =>
          standsIn .formData other && other.name == field.1) = some parameter ∧
        typing scope apiPath path parameter = .ok typed ∧ field.2 = typed.shape
  /-- Without form fields, the body is that of the last parameter that stands in it. -/
  plain : parameters.any (standsIn .formData) = false → ∀ parameter,
    parameters.reverse.find? (standsIn .body) = some parameter →
      ∃ typed, typing scope apiPath path parameter = .ok typed ∧
        converted.body = some ⟨jsonType, typed.shape⟩
  nothing : parameters.any (standsIn .formData) = false →
    parameters.any (standsIn .body) = false → converted.body = none

end Alone

section Steps

variable {scope : Scope} {apiPath : String} {path : List String} {parameter : Parameter}

/-- A typed parameter of a list is the parameter itself in its place, with its own type. -/
structure Stands (scope : Scope) (apiPath : String) (path : List String) (parameter : Parameter)
    (member : Placed) : Prop where
  itself : member.parameter = parameter
  isPlace : ParameterPlace.ofName? parameter.location = some member.place
  isTyped : typing scope apiPath path parameter = .ok member.typed

theorem standsIn_of_place {place : ParameterPlace}
    (placed : ParameterPlace.ofName? parameter.location = some place) (other : ParameterPlace) :
    standsIn other parameter = (place == other) := by
  simp [standsIn, placed]

theorem Stands.standsIn {member : Placed} (stands : Stands scope apiPath path parameter member)
    (place : ParameterPlace) : standsIn place parameter = (member.place == place) :=
  standsIn_of_place stands.isPlace place

theorem Stands.argumentFor {member : Placed} (stands : Stands scope apiPath path parameter member) :
    argumentFor parameter = member.argumentName := by
  unfold Typing.argumentFor Placed.argumentName
  rw [stands.standsIn, stands.itself]
  simp

theorem Stands.standsOutside {member : Placed}
    (stands : Stands scope apiPath path parameter member) :
    standsOutside parameter = member.isOutside := by
  unfold Typing.standsOutside Placed.isOutside
  simp only [stands.standsIn]
  cases member.place <;> rfl

theorem typing_of_place {place : ParameterPlace}
    (placed : ParameterPlace.ofName? parameter.location = some place) :
    typing scope apiPath path parameter =
      (ofParameter scope apiPath (if place = .body then path else path ++ [parameter.name])
        parameter).value := by
  unfold typing
  rw [standsIn_of_place placed]
  simp

theorem ofPlaced_error_iff {fault : Fault} :
    (ofPlaced scope apiPath path parameter).value = .error fault ↔
      Fails scope apiPath path parameter fault := by
  unfold ofPlaced
  constructor
  · intro failed
    split at failed
    · rename_i noName
      cases failed
      exact .nameless (String.isEmpty_iff.1 noName)
    · rename_i hasName
      have named : parameter.name ≠ "" := by simpa [String.isEmpty_iff] using hasName
      split at failed
      · cases failed
        exact .misplaced named ‹_›
      · rename_i place placed
        rcases Outcome.andThen_error failed with noType | ⟨typed, -, impossible⟩
        · exact .untyped named placed ((typing_of_place placed).trans noType)
        · cases impossible
  · have hasName (named : parameter.name ≠ "") : ¬ parameter.name.isEmpty = true := by
      simpa [String.isEmpty_iff] using named
    intro fails
    cases fails with
    | nameless noName => rw [if_pos (String.isEmpty_iff.2 noName)]; rfl
    | misplaced named noPlace =>
      rw [if_neg (hasName named), noPlace]
      rfl
    | untyped named placed noType =>
      rw [typing_of_place placed] at noType
      rw [if_neg (hasName named), placed]
      simp only
      rw [Outcome.andThen_of_error noType]

theorem stands_of_ofPlaced {member : Placed}
    (succeeded : (ofPlaced scope apiPath path parameter).value = .ok member) :
    Stands scope apiPath path parameter member := by
  obtain ⟨placed, itself, -, typed⟩ := ofPlaced_ok succeeded
  exact ⟨itself, placed, (typing_of_place placed).trans typed⟩

end Steps

/-! ## Lists of parameters -/

/-- What is found in a list is found in one that goes along with it. -/
theorem exists_find?_of_forall₂ {α β : Type} {related : α → β → Prop} {members : List α}
    {others : List β} (along : List.Forall₂ related members others) {isOne : α → Bool}
    {isOther : β → Bool} (same : ∀ one other, related one other → isOne one = isOther other)
    {one : α} (found : members.find? isOne = some one) :
    ∃ other, others.find? isOther = some other ∧ related one other := by
  induction along with
  | nil => cases found
  | @cons head other rest others pair _ inductionHypothesis =>
    rw [List.find?_cons, same head other pair] at found
    rw [List.find?_cons]
    cases isHere : isOther other with
    | true =>
      rw [isHere] at found
      cases found
      exact ⟨other, rfl, pair⟩
    | false =>
      rw [isHere] at found
      exact inductionHypothesis found

section Lists

variable {scope : Scope} {apiPath : String} {path : List String} {parameters : List Parameter}
  {placed : List Placed}

/-- Typed parameters, one for each parameter of a list. -/
abbrev StandFor (scope : Scope) (apiPath : String) (path : List String) :
    List Parameter → List Placed → Prop :=
  List.Forall₂ (Stands scope apiPath path)

theorem standFor_of_walked
    (walked : (Outcome.forEach (ofPlaced scope apiPath path) parameters).value = .ok placed) :
    StandFor scope apiPath path parameters placed :=
  (Outcome.forEach_ok_forall₂ walked).imp fun _ _ => stands_of_ofPlaced

/-- Those of some parameters that stand in a place go along with the typed ones there. -/
theorem filter_of_standFor (stand : StandFor scope apiPath path parameters placed)
    (place : ParameterPlace) :
    StandFor scope apiPath path (parameters.filter (standsIn place))
      (placed.filter fun member => member.place == place) := by
  refine List.rel_filter ?_ stand
  intro parameter member stands
  exact Bool.eq_iff_iff.1 (stands.standsIn place)

theorem sent_of_standFor (stand : StandFor scope apiPath path parameters placed) :
    List.Forall₂ (fun parameter sent =>
        sent.name = parameter.name ∧
          ParameterPlace.ofName? parameter.location = some sent.place ∧
          ∃ typed, typing scope apiPath path parameter = .ok typed ∧ sent.shape = typed.shape)
      (parameters.filter standsOutside) (gather placed).parameters := by
  have outside : StandFor scope apiPath path (parameters.filter standsOutside)
      (placed.filter Placed.isOutside) := by
    refine List.rel_filter ?_ stand
    intro parameter member stands
    exact Bool.eq_iff_iff.1 stands.standsOutside
  show List.Forall₂ _ _ ((placed.filter Placed.isOutside).map Placed.sent)
  rw [List.forall₂_map_right_iff]
  refine outside.imp ?_
  rintro parameter member ⟨rfl, isPlace, isTyped⟩
  exact ⟨rfl, isPlace, member.typed, isTyped, rfl⟩

theorem names_of_standFor (stand : StandFor scope apiPath path parameters placed) (name : String) :
    name ∈ (gather placed).arguments.names ↔
      ∃ parameter ∈ parameters, argumentFor parameter = name := by
  have names : parameters.map argumentFor = placed.map Placed.argumentName :=
    map_eq_of_forall₂ stand fun _ _ => Stands.argumentFor
  show name ∈ (NameMap.ofList (placed.map fun member =>
    (member.argumentName, member.argument))).names ↔ _
  rw [NameMap.mem_names_ofList, List.map_map]
  show name ∈ placed.map Placed.argumentName ↔ _
  rw [← names, List.mem_map]

theorem find?_arguments_gather (placed : List Placed) (name : String) :
    (gather placed).arguments.find? name =
      (placed.reverse.find? fun member => member.argumentName == name).map Placed.argument := by
  show (NameMap.ofList (placed.map fun member =>
    (member.argumentName, member.argument))).find? name = _
  rw [NameMap.find?_ofList, ← List.map_reverse, Members.find?_map]

theorem argument_of_standFor (stand : StandFor scope apiPath path parameters placed)
    {name : String} {parameter : Parameter}
    (isLast : parameters.reverse.find? (fun other => argumentFor other == name) =
      some parameter) :
    ∃ typed, typing scope apiPath path parameter = .ok typed ∧
      (gather placed).arguments.find? name = some ⟨parameter.description, typed.term⟩ := by
  have names : ∀ one other, Stands scope apiPath path one other →
      (argumentFor one == name) = (other.argumentName == name) := by
    intro one other stands
    rw [stands.argumentFor]
  obtain ⟨member, found, rfl, -, isTyped⟩ :=
    exists_find?_of_forall₂ (List.forall₂_reverse_iff.2 stand) names isLast
  refine ⟨member.typed, isTyped, ?_⟩
  rw [find?_arguments_gather, found]
  rfl

/-- The fields of a form by the names of its parameters. -/
def formShapes (placed : List Placed) : List (String × ValueShape) :=
  (placed.filter fun member => member.place == .formData).map fun member =>
    (member.parameter.name, member.typed.shape)

theorem body_of_form (isForm : anyIn .formData placed = true) :
    (gather placed).body = some ⟨multipartType,
      { ValueShape.ofKind "object" with properties := Members.collapse (formShapes placed) }⟩ := by
  show (formBody? placed).or (plainBody? placed) = _
  unfold formBody? formShapes
  split
  · rename_i noFields
    obtain ⟨member, inside, inForm⟩ := anyIn_iff.1 isForm
    have field := List.filter_eq_nil_iff.1 noFields member inside
    exact absurd (beq_iff_eq.2 inForm) field
  · rfl

theorem names_formShapes (stand : StandFor scope apiPath path parameters placed) :
    (formShapes placed).map Prod.fst =
      (parameters.filter (standsIn .formData)).map (·.name) := by
  unfold formShapes
  rw [List.map_map]
  refine (map_eq_of_forall₂ (filter_of_standFor stand .formData) ?_).symm
  rintro parameter member ⟨rfl, -, -⟩
  rfl

theorem field_of_standFor (stand : StandFor scope apiPath path parameters placed)
    {field : String × ValueShape} (isField : field ∈ Members.collapse (formShapes placed)) :
    ∃ parameter typed, parameters.reverse.find? (fun other =>
        standsIn .formData other && other.name == field.1) = some parameter ∧
      typing scope apiPath path parameter = .ok typed ∧ field.2 = typed.shape := by
  have found := Members.find?_of_mem (Members.nodup_collapse (formShapes placed)) isField
  rw [Members.find?_collapse, formShapes, ← List.map_reverse, Members.find?_map,
    ← List.filter_reverse, List.find?_filter] at found
  obtain ⟨member, isLast, isShape⟩ := Option.map_eq_some_iff.1 found
  have names : ∀ one other, flip (Stands scope apiPath path) one other →
      decide ((one.place == .formData) = true ∧ (one.parameter.name == field.1) = true) =
        (standsIn .formData other && other.name == field.1) := by
    intro one other stands
    rw [Stands.standsIn stands, ← Stands.itself stands, Bool.decide_and, Bool.decide_eq_true,
      Bool.decide_eq_true]
  obtain ⟨parameter, isFound, stands⟩ :=
    exists_find?_of_forall₂ (List.forall₂_reverse_iff.2 stand.flip) names isLast
  exact ⟨parameter, member.typed, isFound, Stands.isTyped stands, isShape.symm⟩

theorem body_of_plain (noForm : anyIn .formData placed = false) :
    (gather placed).body =
      (placed.reverse.find? fun member => member.place == .body).map fun member =>
        ⟨jsonType, member.typed.shape⟩ := by
  have noFields : placed.filter (fun member => member.place == .formData) = [] := by
    simpa [anyIn, List.filter_eq_nil_iff] using noForm
  show (formBody? placed).or (plainBody? placed) = _
  simp only [formBody?, noFields, Option.none_or, plainBody?, List.getLast?_filter]

end Lists

/-! ## Nullability -/

section Nullability

variable {scope : Scope} {apiPath : String} {path : List String} {parameter : Parameter}

theorem isNullable_ofSimple {typed : Typed}
    (succeeded : (ofSimple scope apiPath path parameter).value = .ok typed) :
    typed.term.isNullable = false := by
  unfold ofSimple at succeeded
  simp only at succeeded
  split at succeeded
  · cases succeeded
  · split at succeeded
    · split at succeeded
      · cases succeeded
      · obtain ⟨item, -, rfl⟩ := Outcome.map_ok_iff.1 succeeded
        rfl
    · split at succeeded
      · obtain ⟨scalar, -, rfl⟩ := Outcome.map_ok_iff.1 succeeded
        rfl
      · cases succeeded

/-- The type of a parameter is nullable if the parameter may be left out, or if its schema has a
nullable type by itself. -/
theorem isNullable_ofParameter {typed : Typed}
    (succeeded : (ofParameter scope apiPath path parameter).value = .ok typed) :
    typed.term.isNullable = true ↔ parameter.required = false ∨
      ∃ schema own, parameter.schema = some schema ∧
        (ofUse scope apiPath path schema false).value = .ok own ∧ own.term.isNullable = true := by
  unfold ofParameter at succeeded
  cases given : parameter.schema with
  | none =>
    rw [given] at succeeded
    obtain ⟨simple, isSimple, rfl⟩ := Outcome.map_ok_iff.1 succeeded
    rw [isNullable_nullableIf]
    show (!parameter.required || simple.term.isNullable) = true ↔ _
    rw [isNullable_ofSimple isSimple]
    simp
  | some schema =>
    rw [given] at succeeded
    obtain ⟨used, isUsed, rfl⟩ := Outcome.map_ok_iff.1 succeeded
    rw [ofUse_eq] at isUsed
    obtain ⟨own, isOwn, rfl⟩ := Outcome.map_ok_iff.1 isUsed
    have alone : ∀ other, (ofUse scope apiPath path schema false).value = .ok other ↔
        own = other := by
      intro other
      rw [ofUse_eq, Outcome.andThen_of_ok isOwn]
      exact ⟨fun same => Except.ok.inj same, fun same => congrArg Except.ok same⟩
    show (own.nullableIf (!parameter.required)).term.isNullable = true ↔ _
    rw [isNullable_nullableIf]
    simp [alone]

end Nullability

/-! ## The whole list -/

section Whole

variable {scope : Scope} {apiPath : String} {path : List String} {parameters : List Parameter}
  {placed : List Placed}

theorem comprises_gather
    (walked : (Outcome.forEach (ofPlaced scope apiPath path) parameters).value = .ok placed) :
    Comprises scope apiPath path parameters (gather placed) := by
  have stand := standFor_of_walked walked
  refine ⟨sent_of_standFor stand, names_of_standFor stand, ?_, ?_, ?_, ?_⟩
  · intro name parameter isLast
    obtain ⟨typed, isTyped, isArgument⟩ := argument_of_standFor stand isLast
    exact ⟨typed, isTyped, isArgument, isNullable_ofParameter isTyped⟩
  · intro isForm
    rw [any_standsIn walked] at isForm
    refine ⟨Members.collapse (formShapes placed), body_of_form isForm, ?_, ?_⟩
    · rw [Members.names_collapse, names_formShapes stand]
    · exact fun field => field_of_standFor stand
  · intro noForm parameter isLast
    rw [any_standsIn walked] at noForm
    obtain ⟨member, found, stands⟩ := exists_find?_of_forall₂ (List.forall₂_reverse_iff.2 stand)
      (fun _ _ stands => stands.standsIn .body) isLast
    refine ⟨member.typed, stands.isTyped, ?_⟩
    rw [body_of_plain noForm, found]
    rfl
  · intro noForm noBody
    rw [any_standsIn walked] at noForm noBody
    have notFound : placed.reverse.find? (fun member => member.place == .body) = none := by
      simpa [anyIn, List.find?_eq_none] using noBody
    rw [body_of_plain noForm, notFound]
    rfl

/-- Parameters come to what each of them comes to by itself, put together by the rules for names
that are repeated.  They fail exactly if one of them does, and then the first that does is at
fault. -/
theorem ofParameters_comprises (scope : Scope) (apiPath : String) (path : List String)
    (parameters : List Parameter) :
    (∀ converted, (ofParameters scope apiPath path parameters).value = .ok converted →
      Comprises scope apiPath path parameters converted) ∧
    ∀ fault, (ofParameters scope apiPath path parameters).value = .error fault ↔
      ∃ before parameter after, parameters = before ++ parameter :: after ∧
        (∀ earlier ∈ before, ∀ other, ¬ Fails scope apiPath path earlier other) ∧
        Fails scope apiPath path parameter fault := by
  refine ⟨?_, ?_⟩
  · intro converted succeeded
    obtain ⟨placed, walked, rfl⟩ := ofParameters_ok succeeded
    exact comprises_gather walked
  · intro fault
    have isSound : ∀ earlier, (∃ member, (ofPlaced scope apiPath path earlier).value = .ok member) ↔
        ∀ other, ¬ Fails scope apiPath path earlier other := by
      intro earlier
      simp only [← ofPlaced_error_iff]
      cases (ofPlaced scope apiPath path earlier).value <;> simp
    rw [ofParameters, Outcome.map_error_iff, Outcome.forEach_error_iff]
    simp only [isSound, ofPlaced_error_iff]

end Whole

/-- A parameter of a plain type. -/
def plainParameter (name location type : String) (required : Bool) : Parameter :=
  ⟨name, location, some type, required, none, some type, none, none, none, [], none, none, none,
    none, none, none⟩

/-- One name in a query and in a header, and another one twice in a form. -/
def repeatedParameters : List Parameter :=
  [plainParameter "tag" "query" "string" false, plainParameter "photo" "formData" "file" true,
    plainParameter "note" "formData" "string" true, plainParameter "tag" "header" "integer" true,
    plainParameter "photo" "formData" "string" false]

/-- What is sent has both, the argument is that of the header, and the form has its fields in the
order in which they first come. -/
theorem ofParameters_comprises_repeated :
    ∃ converted, (ofParameters (.top .empty .empty) "/pets" ["addPet"] repeatedParameters).value =
        .ok converted ∧
      Comprises (.top .empty .empty) "/pets" ["addPet"] repeatedParameters converted ∧
      converted.parameters.map (·.name) = ["tag", "tag"] ∧
      converted.arguments.find? "tag" = some ⟨some "integer", .named "Int64"⟩ ∧
      (converted.body.map fun body => body.shape.properties.map Prod.fst) =
        some ["photo", "note"] := by
  have observed : (ofParameters (.top .empty .empty) "/pets" ["addPet"]
      repeatedParameters).value.toOption.map (fun converted =>
        (converted.parameters.map (·.name), converted.arguments.find? "tag",
          converted.body.map fun body => body.shape.properties.map Prod.fst)) =
      some (["tag", "tag"], some ⟨some "integer", .named "Int64"⟩, some ["photo", "note"]) := by
    cbv
  obtain ⟨converted, succeeded, isKnown⟩ := exists_of_observed observed
  obtain ⟨sent, argument, fields⟩ := Prod.mk.inj isKnown |>.imp id Prod.mk.inj
  obtain ⟨comprises, -⟩ :=
    ofParameters_comprises (.top .empty .empty) "/pets" ["addPet"] repeatedParameters
  exact ⟨converted, succeeded, comprises converted succeeded, sent, argument, fields⟩

end RestConnector.Typing
