import RestConnector.Proofs.Operations
import RestConnector.Proofs.Records

/-!
Contract: where the arguments of an operation go.

Owns:
- `destinations`, the names for which a request has a place;
- `Fills`, what the arguments of an operation have to do with these names;
- `arguments_fill`: every destination has an argument, and every argument has a destination, apart
  from that of a body which gives way to a form.

Does not own: the types of arguments, see `RestConnector.Proofs.Shapes`.

A parameter adds its argument when its turn comes, and which body the request has is settled at the
end.  So the argument of a body parameter stays even if form fields take the place of its body.
-/

namespace RestConnector

open Swagger (Linked Operation Parameter)

/-! ## Names of collections -/

namespace Members

variable {κ : Type} [DecidableEq κ] {α : Type}

/-- Collecting pairs keeps their names. -/
theorem mem_names_collapse {name : κ} {pairs : List (κ × α)} :
    name ∈ (collapse pairs).map Prod.fst ↔ name ∈ pairs.map Prod.fst := by
  have onward : ∀ start : List (κ × α), name ∈ (collapseOnto start pairs).map Prod.fst ↔
      name ∈ start.map Prod.fst ∨ name ∈ pairs.map Prod.fst := by
    induction pairs with
    | nil => simp [collapseOnto]
    | cons pair rest inductionHypothesis =>
      intro start
      have assigned : name ∈ (assign pair.1 pair.2 start).map Prod.fst ↔
          name ∈ start.map Prod.fst ∨ name = pair.1 := by
        rw [names_assign]
        split
        · rename_i known
          constructor
          · exact Or.inl
          · rintro (old | rfl)
            · exact old
            · exact known
        · rw [List.mem_append, List.mem_singleton]
      have onto : collapseOnto start (pair :: rest) =
        collapseOnto (assign pair.1 pair.2 start) rest := rfl
      rw [onto, inductionHypothesis, assigned, List.map_cons, List.mem_cons, or_assoc]
  have nothing : name ∉ ([] : List (κ × α)).map Prod.fst := List.not_mem_nil
  exact (onward []).trans (or_iff_right nothing)

end Members

namespace NameMap

variable {α : Type}

/-- A map has the names of the pairs that it is made of. -/
theorem mem_names_ofList {name : String} {pairs : List (String × α)} :
    name ∈ (ofList pairs).names ↔ name ∈ pairs.map Prod.fst := by
  have onward : ∀ start : NameMap α,
      (pairs.foldl (fun table pair => table.insert pair.1 pair.2) start).contains name = true ↔
        start.contains name = true ∨ name ∈ pairs.map Prod.fst := by
    induction pairs with
    | nil => simp
    | cons pair rest inductionHypothesis =>
      intro start
      rw [List.foldl_cons, inductionHypothesis, contains_insert, List.map_cons, List.mem_cons,
        Bool.or_eq_true, beq_iff_eq, eq_comm (a := pair.1), or_assoc, or_left_comm]
  have nothing : (empty : NameMap α).contains name ≠ true := by
    simp [contains]
  exact contains_iff_mem_names.symm.trans ((onward empty).trans (or_iff_right nothing))

end NameMap

namespace Typing

/-! ## Destinations -/

/-- Whether a parameter stands in a place. -/
def standsIn (place : ParameterPlace) (parameter : Parameter) : Bool :=
  ParameterPlace.ofName? parameter.location == some place

/-- The names for which a request has a place.  A form has one for each of its fields, and any other
body has one for all of it. -/
def destinations (isForm : Bool) (sent : List RequestParameter) (body : Option RequestBody) :
    List String :=
  sent.map (·.name) ++ body.toList.flatMap fun body =>
    if isForm then body.shape.properties.map Prod.fst else [bodyArgument]

/-- What the arguments for some parameters have to do with the request that is made of these. -/
structure Fills (parameters : List Parameter) (arguments : NameMap Argument)
    (sent : List RequestParameter) (body : Option RequestBody) : Prop where
  /-- There is an argument for each destination, and one for a body parameter in any case. -/
  mem_names_iff : ∀ name, name ∈ arguments.names ↔
    name ∈ destinations (parameters.any (standsIn .formData)) sent body ∨
      name = bodyArgument ∧ parameters.any (standsIn .body) = true
  /-- An argument that goes nowhere is that of a body parameter beside form fields, if no other
  parameter has the same name. -/
  dropped_iff : ∀ name, (name ∈ arguments.names ∧
      name ∉ destinations (parameters.any (standsIn .formData)) sent body) ↔
    name = bodyArgument ∧ parameters.any (standsIn .body) = true ∧
      parameters.any (standsIn .formData) = true ∧
      ∀ parameter ∈ parameters, parameter.name = bodyArgument → standsIn .body parameter = true
  /-- What a request sends outside the body is told by its parameters. -/
  mem_sent_iff : ∀ name, name ∈ sent.map (·.name) ↔ ∃ parameter ∈ parameters,
    parameter.name = name ∧ standsIn .body parameter = false ∧
      standsIn .formData parameter = false
  /-- There is a body exactly if a parameter or a form field stands in it. -/
  isSome_body : body.isSome =
    (parameters.any (standsIn .formData) || parameters.any (standsIn .body))
  /-- A body that is a form has the form fields. -/
  mem_fields_iff : parameters.any (standsIn .formData) = true → ∀ given, body = some given →
    ∀ name, name ∈ given.shape.properties.map Prod.fst ↔
      ∃ parameter ∈ parameters, standsIn .formData parameter = true ∧ parameter.name = name

/-! ## Typed parameters -/

namespace Placed

theorem argumentName_eq_iff {member : Placed} {name : String} :
    member.argumentName = name ↔
      (member.place = .body ∧ bodyArgument = name) ∨
        (member.place ≠ .body ∧ member.parameter.name = name) := by
  unfold argumentName
  by_cases inBody : member.place = .body
  · simp [inBody]
  · simp [inBody]

theorem isOutside_iff {member : Placed} :
    member.isOutside = true ↔ member.place ≠ .body ∧ member.place ≠ .formData := by
  simp [isOutside]

end Placed

/-- Whether a typed parameter stands in a place. -/
def anyIn (place : ParameterPlace) (placed : List Placed) : Bool :=
  placed.any fun member => member.place == place

section Gather

variable {placed : List Placed} {name : String}

theorem anyIn_iff {place : ParameterPlace} :
    anyIn place placed = true ↔ ∃ member ∈ placed, member.place = place := by
  simp [anyIn]

theorem mem_names_gather :
    name ∈ (gather placed).arguments.names ↔
      (name = bodyArgument ∧ anyIn .body placed = true) ∨
        ∃ member ∈ placed, member.place ≠ .body ∧ member.parameter.name = name := by
  have named : name ∈ (gather placed).arguments.names ↔
      ∃ member ∈ placed, member.argumentName = name := by
    unfold gather
    rw [NameMap.mem_names_ofList, List.map_map]
    exact List.mem_map
  rw [named, anyIn_iff]
  simp only [Placed.argumentName_eq_iff]
  constructor
  · rintro ⟨member, inside, ⟨inBody, rfl⟩ | other⟩
    · exact Or.inl ⟨rfl, member, inside, inBody⟩
    · exact Or.inr ⟨member, inside, other⟩
  · rintro (⟨rfl, member, inside, inBody⟩ | ⟨member, inside, other⟩)
    · exact ⟨member, inside, Or.inl ⟨inBody, rfl⟩⟩
    · exact ⟨member, inside, Or.inr other⟩

theorem mem_sent_gather :
    name ∈ (gather placed).parameters.map (·.name) ↔
      ∃ member ∈ placed, member.parameter.name = name ∧ member.place ≠ .body ∧
        member.place ≠ .formData := by
  unfold gather
  rw [List.map_map, List.mem_map]
  simp only [List.mem_filter, Placed.isOutside_iff]
  constructor
  · rintro ⟨member, ⟨inside, outside⟩, rfl⟩
    exact ⟨member, inside, rfl, outside⟩
  · rintro ⟨member, inside, rfl, outside⟩
    exact ⟨member, ⟨inside, outside⟩, rfl⟩

/-- Form fields make up the body, and without any it is that of a body parameter. -/
theorem body_gather_of_form (isForm : anyIn .formData placed = true) :
    ∃ body, (gather placed).body = some body ∧
      ∀ name, name ∈ body.shape.properties.map Prod.fst ↔
        ∃ member ∈ placed, member.place = .formData ∧ member.parameter.name = name := by
  have isBody : ∃ body, formBody? placed = some body ∧
      ∀ name, name ∈ body.shape.properties.map Prod.fst ↔
        ∃ member ∈ placed, member.place = .formData ∧ member.parameter.name = name := by
    unfold formBody?
    split
    · rename_i noFields
      obtain ⟨member, inside, inForm⟩ := anyIn_iff.1 isForm
      have field := List.filter_eq_nil_iff.1 noFields member inside
      exact absurd (beq_iff_eq.2 inForm) field
    · refine ⟨_, rfl, ?_⟩
      intro name
      rw [Members.mem_names_collapse]
      simp only [List.map_map, List.mem_map, List.mem_filter, Function.comp_apply, beq_iff_eq,
        and_assoc]
  obtain ⟨body, isForm, fields⟩ := isBody
  refine ⟨body, ?_, fields⟩
  show (formBody? placed).or (plainBody? placed) = some body
  rw [isForm, Option.some_or]

theorem isSome_body_gather_of_plain (noForm : anyIn .formData placed = false) :
    (gather placed).body.isSome = anyIn .body placed := by
  have noFields : placed.filter (fun member => member.place == .formData) = [] := by
    simpa [anyIn, List.filter_eq_nil_iff] using noForm
  have plain : (gather placed).body = plainBody? placed := by
    show (formBody? placed).or (plainBody? placed) = _
    simp only [formBody?, noFields, Option.none_or]
  rw [plain, plainBody?, Option.isSome_map, Bool.eq_iff_iff, List.getLast?_isSome, anyIn_iff]
  simp [List.filter_eq_nil_iff]

end Gather

/-! ## Parameters and their arguments -/

section Parameters

variable {scope : Scope} {apiPath : String} {path : List String} {parameters : List Parameter}
  {placed : List Placed}

theorem standsIn_of_placed {parameter : Parameter} {member : Placed}
    (typed : (ofPlaced scope apiPath path parameter).value = .ok member)
    (place : ParameterPlace) : standsIn place parameter = (member.place == place) := by
  obtain ⟨known, -⟩ := ofPlaced_ok typed
  simp [standsIn, known]

/-- Whatever is said of names and places holds of typed parameters as it does of the parameters. -/
theorem exists_placed_iff
    (walked : (Outcome.forEach (ofPlaced scope apiPath path) parameters).value = .ok placed)
    (holds : String → (ParameterPlace → Bool) → Prop) :
    (∃ member ∈ placed, holds member.parameter.name fun place => member.place == place) ↔
      ∃ parameter ∈ parameters, holds parameter.name fun place => standsIn place parameter := by
  have same : ∀ {parameter member}, (ofPlaced scope apiPath path parameter).value = .ok member →
      (holds member.parameter.name (fun place => member.place == place) ↔
        holds parameter.name fun place => standsIn place parameter) := by
    intro parameter member typed
    obtain ⟨-, isParameter, -⟩ := ofPlaced_ok typed
    simp only [isParameter, standsIn_of_placed typed]
  constructor
  · rintro ⟨member, inside, held⟩
    obtain ⟨parameter, among, typed⟩ := Outcome.exists_step_of_mem walked inside
    exact ⟨parameter, among, (same typed).1 held⟩
  · rintro ⟨parameter, among, held⟩
    obtain ⟨member, inside, typed⟩ := (Outcome.forEach_ok walked).1 parameter among
    exact ⟨member, inside, (same typed).2 held⟩

theorem any_standsIn
    (walked : (Outcome.forEach (ofPlaced scope apiPath path) parameters).value = .ok placed)
    (place : ParameterPlace) : parameters.any (standsIn place) = anyIn place placed := by
  have same := exists_placed_iff walked fun _ stands => stands place = true
  rw [Bool.eq_iff_iff, anyIn_iff, List.any_eq_true, ← same]
  simp only [beq_iff_eq]

/-- Parameters outside of bodies have an argument each, and all body parameters have one together. -/
theorem mem_names_of_walked
    (walked : (Outcome.forEach (ofPlaced scope apiPath path) parameters).value = .ok placed)
    (name : String) :
    name ∈ (gather placed).arguments.names ↔
      (name = bodyArgument ∧ parameters.any (standsIn .body) = true) ∨
        ∃ parameter ∈ parameters, standsIn .body parameter = false ∧ parameter.name = name := by
  have same := exists_placed_iff walked fun other stands => stands .body = false ∧ other = name
  rw [mem_names_gather, any_standsIn walked, ← same]
  simp

theorem mem_sent_of_walked
    (walked : (Outcome.forEach (ofPlaced scope apiPath path) parameters).value = .ok placed)
    (name : String) :
    name ∈ (gather placed).parameters.map (·.name) ↔ ∃ parameter ∈ parameters,
      parameter.name = name ∧ standsIn .body parameter = false ∧
        standsIn .formData parameter = false := by
  have same := exists_placed_iff walked fun other stands =>
    other = name ∧ stands .body = false ∧ stands .formData = false
  simpa [mem_sent_gather] using same

theorem form_of_walked
    (walked : (Outcome.forEach (ofPlaced scope apiPath path) parameters).value = .ok placed)
    (isForm : parameters.any (standsIn .formData) = true) :
    ∃ body, (gather placed).body = some body ∧
      ∀ name, name ∈ body.shape.properties.map Prod.fst ↔
        ∃ parameter ∈ parameters, standsIn .formData parameter = true ∧ parameter.name = name := by
  rw [any_standsIn walked] at isForm
  obtain ⟨body, isBody, fields⟩ := body_gather_of_form isForm
  refine ⟨body, isBody, ?_⟩
  intro name
  have same := exists_placed_iff walked fun other stands => stands .formData = true ∧ other = name
  simpa [fields] using same

theorem standsIn_body_of_formData {parameter : Parameter}
    (inForm : standsIn .formData parameter = true) : standsIn .body parameter = false := by
  unfold standsIn at inForm ⊢
  rw [beq_iff_eq.1 inForm]
  rfl

/-- The fields of a form are those that its parameters name. -/
theorem mem_places_of_form
    (walked : (Outcome.forEach (ofPlaced scope apiPath path) parameters).value = .ok placed)
    (isForm : parameters.any (standsIn .formData) = true) (name : String) :
    (name ∈ (gather placed).body.toList.flatMap fun body => body.shape.properties.map Prod.fst) ↔
      ∃ parameter ∈ parameters, standsIn .formData parameter = true ∧ parameter.name = name := by
  obtain ⟨body, isBody, fields⟩ := form_of_walked walked isForm
  simp [isBody, ← fields]

/-- Without form fields, there is a body if a parameter stands in it. -/
theorem mem_places_of_plain
    (walked : (Outcome.forEach (ofPlaced scope apiPath path) parameters).value = .ok placed)
    (noForm : parameters.any (standsIn .formData) = false) (name : String) :
    (name ∈ (gather placed).body.toList.flatMap fun _ => [bodyArgument]) ↔
      name = bodyArgument ∧ parameters.any (standsIn .body) = true := by
  rw [any_standsIn walked] at noForm
  rw [any_standsIn walked, ← isSome_body_gather_of_plain noForm]
  cases (gather placed).body <;> simp

/-- A request has a place for all that stands outside of bodies, and for a body that is no form. -/
theorem mem_destinations_of_walked
    (walked : (Outcome.forEach (ofPlaced scope apiPath path) parameters).value = .ok placed)
    (name : String) :
    name ∈ destinations (parameters.any (standsIn .formData)) (gather placed).parameters
        (gather placed).body ↔
      (∃ parameter ∈ parameters, standsIn .body parameter = false ∧ parameter.name = name) ∨
        (parameters.any (standsIn .formData) = false ∧ name = bodyArgument ∧
          parameters.any (standsIn .body) = true) := by
  unfold destinations
  rw [List.mem_append, mem_sent_of_walked walked]
  cases isForm : parameters.any (standsIn .formData) with
  | true =>
    simp only [if_true, mem_places_of_form walked isForm]
    constructor
    · rintro (⟨parameter, inside, named, notBody, -⟩ | ⟨parameter, inside, field, named⟩)
      · exact Or.inl ⟨parameter, inside, notBody, named⟩
      · exact Or.inl ⟨parameter, inside, standsIn_body_of_formData field, named⟩
    · rintro (⟨parameter, inside, notBody, named⟩ | ⟨impossible, -⟩)
      · cases field : standsIn .formData parameter with
        | true => exact Or.inr ⟨parameter, inside, field, named⟩
        | false => exact Or.inl ⟨parameter, inside, named, notBody, field⟩
      · cases impossible
  | false =>
    have noForm : ∀ parameter ∈ parameters, standsIn .formData parameter = false := by
      simpa using isForm
    simp only [Bool.false_eq_true, if_false, mem_places_of_plain walked isForm, true_and]
    constructor
    · rintro (⟨parameter, inside, named, notBody, -⟩ | whole)
      · exact Or.inl ⟨parameter, inside, notBody, named⟩
      · exact Or.inr whole
    · rintro (⟨parameter, inside, notBody, named⟩ | whole)
      · exact Or.inl ⟨parameter, inside, named, notBody, noForm parameter inside⟩
      · exact Or.inr whole

/-- The arguments that come of parameters fill the request that comes of them. -/
theorem fills_gather
    (walked : (Outcome.forEach (ofPlaced scope apiPath path) parameters).value = .ok placed) :
    Fills parameters (gather placed).arguments (gather placed).parameters
      (gather placed).body where
  mem_names_iff := by
    intro name
    rw [mem_names_of_walked walked, mem_destinations_of_walked walked]
    constructor
    · rintro (whole | outside)
      · exact Or.inr whole
      · exact Or.inl (Or.inl outside)
    · rintro ((outside | ⟨-, whole⟩) | whole)
      · exact Or.inr outside
      · exact Or.inl whole
      · exact Or.inl whole
  dropped_iff := by
    intro name
    rw [mem_names_of_walked walked, mem_destinations_of_walked walked]
    constructor
    · rintro ⟨⟨rfl, whole⟩ | outside, nowhere⟩
      · rw [not_or] at nowhere
        refine ⟨rfl, whole, by simpa [whole] using nowhere.2, ?_⟩
        intro parameter inside named
        by_contra notBody
        exact nowhere.1 ⟨parameter, inside, Bool.not_eq_true _ ▸ notBody, named⟩
      · exact absurd (Or.inl outside) nowhere
    · rintro ⟨rfl, whole, isForm, only⟩
      refine ⟨Or.inl ⟨rfl, whole⟩, ?_⟩
      rintro (⟨parameter, inside, notBody, named⟩ | ⟨noForm, -⟩)
      · rw [only parameter inside named] at notBody
        cases notBody
      · rw [isForm] at noForm
        cases noForm
  mem_sent_iff := mem_sent_of_walked walked
  isSome_body := by
    cases isForm : parameters.any (standsIn .formData) with
    | true =>
      obtain ⟨body, isBody, -⟩ := form_of_walked walked isForm
      rw [isBody, Bool.true_or]
      rfl
    | false =>
      rw [any_standsIn walked] at isForm
      rw [isSome_body_gather_of_plain isForm, any_standsIn walked, Bool.false_or]
  mem_fields_iff := by
    intro isForm given isGiven
    obtain ⟨body, isBody, fields⟩ := form_of_walked walked isForm
    cases isBody.symm.trans isGiven
    exact fields

theorem ofParameters_fills {converted : Arguments}
    (succeeded : (ofParameters scope apiPath path parameters).value = .ok converted) :
    Fills parameters converted.arguments converted.parameters converted.body := by
  obtain ⟨placed, walked, rfl⟩ := ofParameters_ok succeeded
  exact fills_gather walked

/-- Settling the media type of a body leaves its fields. -/
theorem Fills.settled {arguments : NameMap Argument} {sent : List RequestParameter}
    {body : Option RequestBody} (fills : Fills parameters arguments sent body) (scope : Scope)
    (method : Method) (operation : Operation) :
    Fills parameters arguments sent (settledBody scope method operation body) := by
  obtain ⟨names, dropped, sentNames, present, fields⟩ := fills
  unfold settledBody
  split
  · exact ⟨names, dropped, sentNames, present, fields⟩
  · cases body with
    | none => exact ⟨names, dropped, sentNames, present, fields⟩
    | some given =>
      refine ⟨names, dropped, sentNames, present, ?_⟩
      rintro isForm _ ⟨⟩
      exact fields isForm given rfl

end Parameters

/-- Every destination of a request has an argument.  Every argument has a destination, apart from
that of a body parameter beside form fields, where the form takes the place of the body. -/
theorem arguments_fill (scope : Scope) :
    (∀ apiPath path parameters converted,
      (ofParameters scope apiPath path parameters).value = .ok converted →
        Fills parameters converted.arguments converted.parameters converted.body) ∧
    ∀ apiPath method operation shared callable,
      (ofOperation scope apiPath method operation shared).value = .ok (some callable) →
        ∃ parameters, merge scope.document shared operation.parameters = .ok parameters ∧
          Fills parameters callable.arguments callable.request.parameters
            callable.request.body := by
  refine ⟨?_, ?_⟩
  · intro apiPath path parameters converted succeeded
    exact ofParameters_fills succeeded
  · intro apiPath method operation shared callable succeeded
    obtain ⟨_, parameters, converted, -, merged, typed, rfl⟩ := ofOperation_ok succeeded
    exact ⟨parameters, merged, (ofParameters_fills typed).settled scope method operation⟩

/-- A body and a field of a form. -/
def uploadParameters : List Parameter :=
  [⟨"pet", "body", none, true, some (.ofType "string"), none, none, none, none, [], none, none,
      none, none, none, none⟩,
    ⟨"photo", "formData", none, true, none, some "string", none, none, none, [], none, none, none,
      none, none, none⟩]

private theorem ofParameters_upload :
    ∃ converted, (ofParameters (.top .empty .empty) "/pets" ["addPet"] uploadParameters).value =
      .ok converted := by
  have observed : (ofParameters (.top .empty .empty) "/pets" ["addPet"]
      uploadParameters).value.toOption.map (fun converted => converted.parameters.length) =
        some 0 := by
    cbv
  obtain ⟨converted, succeeded, -⟩ := exists_of_observed observed
  exact ⟨converted, succeeded⟩

private theorem standsIn_upload :
    uploadParameters.any (standsIn .body) = true ∧
      uploadParameters.any (standsIn .formData) = true ∧
      ∀ parameter ∈ uploadParameters,
        parameter.name = bodyArgument → standsIn .body parameter = true := by
  decide

/-- The argument of the body is there, but what is sent is the form. -/
theorem arguments_fill_upload :
    ∃ converted, (ofParameters (.top .empty .empty) "/pets" ["addPet"] uploadParameters).value =
        .ok converted ∧
      bodyArgument ∈ converted.arguments.names ∧
      bodyArgument ∉ destinations (uploadParameters.any (standsIn .formData)) converted.parameters
        converted.body := by
  obtain ⟨converted, succeeded⟩ := ofParameters_upload
  have fills := (arguments_fill _).1 _ _ _ converted succeeded
  exact ⟨converted, succeeded, (fills.dropped_iff bodyArgument).2 ⟨rfl, standsIn_upload⟩⟩

theorem not_arguments_sent :
    ¬ ∀ scope apiPath path parameters converted,
      (ofParameters scope apiPath path parameters).value = .ok converted →
        ∀ name, name ∈ converted.arguments.names ↔
          name ∈ destinations (parameters.any (standsIn .formData)) converted.parameters
            converted.body := by
  intro sent
  obtain ⟨converted, succeeded⟩ := ofParameters_upload
  obtain ⟨given, nowhere⟩ :=
    ((ofParameters_fills succeeded).dropped_iff bodyArgument).2 ⟨rfl, standsIn_upload⟩
  exact nowhere ((sent _ _ _ _ converted succeeded bodyArgument).1 given)

end Typing

end RestConnector
