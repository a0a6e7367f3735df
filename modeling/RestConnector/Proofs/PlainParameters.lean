import RestConnector.Proofs.Operations

/-!
Contract: a parameter without a schema is typed like the schema that says the same.

Owns:
- `Schema.plain`, the schemas of parameters and of their items, and `Parameter.IsPlain`, the
  parameters of a primitive type or of lists down to one;
- `Parallel`, typings with one type, one log and shapes of one outline, with a rule for each step;
- `TypedAlike` and `plain_typed_alike`: a plain parameter with a name has the type and the shape of
  its schema and leaves the same catalog.

Does not own: parameters that have a schema, which are typed by it.

The type of a parameter is found by a walk of its own over the items.  It goes side by side with the
walk over the schema, and both ask for the scalar of the same primitive under the same path.  Only an
empty name makes a difference, since a parameter is refused then and a schema has none.
-/

namespace RestConnector

/-! ## Schemas of parameters -/

namespace Swagger

/-- The schema that says no more than a type, its format, its choices and its items. -/
def Schema.plain (type format : Option String) (choices : List Json) (items : Option Schema) :
    Schema :=
  { Schema.empty with types := type.toList, format, choices, items }

/-- The schema that says the same as items of a parameter. -/
def ParameterItems.asSchema : ParameterItems → Schema
  | ⟨type, format, none, choices, _⟩ => .plain type format choices none
  | ⟨type, format, some nested, choices, _⟩ => .plain type format choices (some nested.asSchema)

theorem ParameterItems.asSchema_eq (items : ParameterItems) :
    items.asSchema =
      .plain items.type items.format items.choices (items.items.map asSchema) := by
  obtain ⟨type, format, nested, choices, collectionFormat⟩ := items
  cases nested <;> rfl

/-- The schema that says the same as a parameter without one. -/
def Parameter.asSchema (parameter : Parameter) : Schema :=
  .plain parameter.type parameter.format parameter.choices
    (parameter.items.map ParameterItems.asSchema)

/-- Items that are lists of lists, down to a primitive type. -/
inductive ParameterItems.IsChain : ParameterItems → Prop where
  | last {items : ParameterItems} {type : String} (given : items.type = some type)
      (primitive : Typing.isPrimitive type = true) : IsChain items
  | list {items nested : ParameterItems} (isList : items.type = some "array")
      (given : items.items = some nested) (inside : nested.IsChain) : IsChain items

/-- A parameter without a schema, of a primitive type or of lists down to one. -/
structure Parameter.IsPlain (parameter : Parameter) : Prop where
  noSchema : parameter.schema = none
  typed : (∃ type, parameter.type = some type ∧ Typing.isPrimitive type = true) ∨
    parameter.type = some "array" ∧ ∃ items, parameter.items = some items ∧ items.IsChain

end Swagger

/-- Two shapes have the same kind, are nullable alike, and so are their items at every depth. -/
inductive ValueShape.Alike : ValueShape → ValueShape → Prop where
  | flat {one other : ValueShape} (kind : one.kind = other.kind)
      (nullable : one.nullable = other.nullable) (noItems : one.items = none)
      (noOtherItems : other.items = none) : Alike one other
  | list {one other item otherItem : ValueShape} (kind : one.kind = other.kind)
      (nullable : one.nullable = other.nullable) (items : one.items = some item)
      (otherItems : other.items = some otherItem) (inside : Alike item otherItem) :
      Alike one other

/-- Shapes with the same kind, mark and items are alike to the same shapes. -/
theorem ValueShape.Alike.reshape {one other faceted marked : ValueShape} (alike : one.Alike other)
    (kind : faceted.kind = one.kind) (otherKind : marked.kind = other.kind)
    (nullable : faceted.nullable = marked.nullable) (items : faceted.items = one.items)
    (otherItems : marked.items = other.items) : faceted.Alike marked := by
  cases alike with
  | flat sameKind _ noItems noOtherItems =>
    exact .flat (kind.trans (sameKind.trans otherKind.symm)) nullable (items.trans noItems)
      (otherItems.trans noOtherItems)
  | list sameKind _ given otherGiven inside =>
    exact .list (kind.trans (sameKind.trans otherKind.symm)) nullable (items.trans given)
      (otherItems.trans otherGiven) inside

namespace Typing

open Swagger (Parameter ParameterItems Schema)

/-! ## Typings in parallel -/

/-- The same type, with shapes of the same outline. -/
def Typed.Alike (one other : Typed) : Prop := one.term = other.term ∧ one.shape.Alike other.shape

theorem Typed.Alike.nullable_eq {one other : Typed} (alike : one.Alike other) :
    one.shape.nullable = other.shape.nullable := by
  cases alike.2 with
  | flat _ nullable => exact nullable
  | list _ nullable => exact nullable

theorem Typed.Alike.nullableIf {one other : Typed} (alike : one.Alike other) (condition : Bool) :
    (one.nullableIf condition).Alike (other.nullableIf condition) := by
  cases condition with
  | true => exact ⟨congrArg TypeTerm.asNullable alike.1, alike.2.reshape rfl rfl rfl rfl rfl⟩
  | false => exact alike

theorem Typed.Alike.listOf {one other : Typed} (alike : one.Alike other) {shape listShape : ValueShape}
    (kind : shape.kind = listShape.kind) (nullable : shape.nullable = listShape.nullable) :
    (one.listOf shape).Alike (other.listOf listShape) :=
  ⟨congrArg TypeTerm.array alike.1, .list kind nullable rfl rfl alike.2⟩

/-- Two typings that both succeed, with the same events and with types that are alike. -/
def Parallel (one other : Outcome Typed) : Prop :=
  one.log = other.log ∧
    ∃ left right, one.value = .ok left ∧ other.value = .ok right ∧ left.Alike right

/-- Changes that keep types alike keep typings parallel. -/
theorem Parallel.map {one other : Outcome Typed} (parallel : Parallel one other)
    {change otherChange : Typed → Typed}
    (keep : ∀ left right, left.Alike right → (change left).Alike (otherChange right)) :
    Parallel (one.andThen fun typed => .ok (change typed))
      (other.andThen fun typed => .ok (otherChange typed)) := by
  obtain ⟨sameLog, left, right, typed, otherTyped, alike⟩ := parallel
  refine ⟨?_, change left, otherChange right, ?_, ?_, keep left right alike⟩
  · rw [Outcome.log_andThen_ok, Outcome.log_andThen_ok, sameLog]
  · exact Outcome.map_ok_iff.2 ⟨left, typed, rfl⟩
  · exact Outcome.map_ok_iff.2 ⟨right, otherTyped, rfl⟩

/-! ## Sites of plain schemas -/

/-- A primitive type is neither empty nor that of lists, so its own case is taken. -/
theorem taken_of_isPrimitive {α : Type} {type : String} (primitive : isPrimitive type = true)
    (missing list scalar unsupported : α) :
    (if type.isEmpty then missing else if type = "array" then list
      else if isPrimitive type then scalar else unsupported) = scalar := by
  have other : type.isEmpty = false ∧ type ≠ "array" := by
    simp only [isPrimitive, List.contains_iff_mem, List.mem_cons, List.not_mem_nil, or_false]
      at primitive
    rcases primitive with rfl | rfl | rfl | rfl | rfl <;> decide
  rw [other.1, if_neg Bool.false_ne_true, if_neg other.2, if_pos primitive]

section Plain

variable {scope : Scope} {apiPath : String} {path : List String}

/-- A schema of a parameter has no title, so its path is that of the parameter. -/
theorem Site.ofUse_plain (type format : Option String) (choices : List Json)
    (items : Option Schema) :
    Site.ofUse scope apiPath path (.plain type format choices items) =
      ⟨scope, apiPath, path, .plain type format choices items⟩ := rfl

theorem Site.kind_plain_primitive {type : String} (primitive : isPrimitive type = true)
    (format : Option String) (choices : List Json) (items : Option Schema) :
    Site.kind ⟨scope, apiPath, path, .plain (some type) format choices items⟩ =
      .primitive type := by
  show declaredKind path (.plain (some type) format choices items) = _
  exact if_pos primitive

/-- A scalar with any shape of its kind is typed in parallel to a plain schema. -/
theorem Parallel.primitive {type : String} (isPrimitive : isPrimitive type = true)
    (format : Option String) (choices : List Json) (items : Option Schema)
    {shape : String → ValueShape} (kind : ∀ scalar, (shape scalar).kind = scalar)
    (nullable : ∀ scalar, (shape scalar).nullable = false)
    (noItems : ∀ scalar, (shape scalar).items = none) :
    Parallel ((ofPrimitive scope apiPath path type format choices).andThen fun scalar =>
        .ok (.named scalar (shape scalar)))
      (Site.outcome ⟨scope, apiPath, path, .plain (some type) format choices items⟩) := by
  rw [Site.outcome_eq, Site.kind_plain_primitive isPrimitive]
  exact ⟨rfl, _, _, rfl, rfl, rfl, .flat (kind _) (nullable _) (noItems _) rfl⟩

/-- A list is typed in parallel to that of a plain schema if its items are. -/
theorem Parallel.list {item : Outcome Typed} {items : Schema}
    (parallel : Parallel item (Site.ofUse scope apiPath path items).outcome)
    (format : Option String) (choices : List Json) :
    Parallel (item.andThen fun typed => .ok (typed.listOf (.ofKind "array")))
      (Site.outcome ⟨scope, apiPath, path, .plain (some "array") format choices (some items)⟩) := by
  have isArray : Site.kind ⟨scope, apiPath, path,
      .plain (some "array") format choices (some items)⟩ = .array items := rfl
  rw [Site.outcome_eq, isArray]
  exact parallel.map fun left right alike => alike.listOf rfl rfl

/-! ## Parameters -/

/-- Items that are a chain are typed in parallel to their schema. -/
theorem ofItems_parallel {items : ParameterItems} (chain : items.IsChain) :
    Parallel (ofItems scope apiPath path items)
      (Site.ofUse scope apiPath path items.asSchema).outcome := by
  induction chain with
  | @last items type given primitive =>
    rw [ofItems, items.asSchema_eq, Site.ofUse_plain, given]
    simp only [Option.getD_some, taken_of_isPrimitive primitive]
    exact .primitive primitive _ _ _ (fun _ => rfl) (fun _ => rfl) fun _ => rfl
  | @list items nested isList given inside inductionHypothesis =>
    rw [ofItems, items.asSchema_eq, Site.ofUse_plain, isList, given]
    exact inductionHypothesis.list _ _

theorem ofSimple_parallel {parameter : Parameter} (plain : parameter.IsPlain) :
    Parallel (ofSimple scope apiPath path parameter)
      (Site.ofUse scope apiPath path parameter.asSchema).outcome := by
  unfold ofSimple Parameter.asSchema
  rw [Site.ofUse_plain]
  rcases plain.typed with ⟨type, given, primitive⟩ | ⟨isList, items, given, chain⟩
  · rw [given]
    simp only [Option.getD_some, taken_of_isPrimitive primitive]
    exact .primitive primitive _ _ _ (fun _ => rfl) (fun _ => rfl) fun _ => rfl
  · rw [isList, given]
    exact (ofItems_parallel chain).list _ _

/-- A plain parameter is typed in parallel to the use of its schema. -/
theorem ofParameter_parallel (scope : Scope) (apiPath : String) (path : List String)
    {parameter : Parameter} (plain : parameter.IsPlain) :
    Parallel (ofParameter scope apiPath path parameter)
      (ofUse scope apiPath path parameter.asSchema (!parameter.required)) := by
  unfold ofParameter
  rw [plain.noSchema, ofUse_eq]
  refine (ofSimple_parallel plain).map ?_
  intro left right alike
  have faceted : Typed.Alike ⟨left.term, withFacets parameter left.shape⟩ right :=
    ⟨alike.1, alike.2.reshape rfl rfl alike.nullable_eq rfl rfl⟩
  exact faceted.nullableIf (!parameter.required)

end Plain

/-! ## Lists of one parameter -/

/-- The shapes by which arguments are sent, outside the body and as the fields of a form. -/
def Arguments.shapes (converted : Arguments) : List (String × ValueShape) :=
  converted.parameters.map (fun sent => (sent.name, sent.shape)) ++
    converted.body.toList.flatMap fun body => body.shape.properties

theorem shapes_gather {placed : Placed} (notBody : placed.place ≠ .body) :
    (gather [placed]).shapes = [(placed.parameter.name, placed.typed.shape)] := by
  obtain ⟨parameter, place, typed⟩ := placed
  cases place with
  | body => exact absurd rfl notBody
  | path => rfl
  | query => rfl
  | header => rfl
  | formData => rfl

section Single

variable {scope : Scope} {apiPath : String} {path : List String} {parameter : Parameter}

theorem ofParameters_single (scope : Scope) (apiPath : String) (path : List String)
    (parameter : Parameter) :
    ofParameters scope apiPath path [parameter] =
      (ofPlaced scope apiPath path parameter).andThen fun placed => .ok (gather [placed]) := by
  unfold ofParameters
  simp only [Outcome.forEach, Outcome.andThen_assoc, Outcome.ok_andThen]

theorem ofPlaced_of_outside {place : ParameterPlace}
    (stands : ParameterPlace.ofName? parameter.location = some place) (notBody : place ≠ .body)
    (named : parameter.name ≠ "") :
    ofPlaced scope apiPath path parameter =
      (ofParameter scope apiPath (path ++ [parameter.name]) parameter).andThen fun typed =>
        .ok ⟨parameter, place, typed⟩ := by
  have notEmpty : ¬ parameter.name.isEmpty = true := mt String.isEmpty_iff.1 named
  unfold ofPlaced
  rw [if_neg notEmpty, stands]
  simp only [if_neg notBody]

theorem ofPlaced_of_unnamed (unnamed : parameter.name = "") :
    ofPlaced scope apiPath path parameter =
      .fail ((Fault.bare .missingParameterName).atField path) := by
  unfold ofPlaced
  rw [unnamed]
  rfl

end Single

/-- A parameter and the schema that says the same both have a type, which is the same.  They leave
the same of every state, and their shapes have the same outline. -/
def TypedAlike (scope : Scope) (apiPath : String) (path : List String) (parameter : Parameter) :
    Prop :=
  let conversion := ofParameters scope apiPath path [parameter]
  let typing := ofUse scope apiPath (path ++ [parameter.name]) parameter.asSchema
    (!parameter.required)
  ∃ converted typed shape,
    conversion.value = .ok converted ∧ typing.value = .ok typed ∧
      converted.arguments = .ofList [(parameter.name, ⟨parameter.description, typed.term⟩)] ∧
      converted.shapes = [(parameter.name, shape)] ∧ shape.Alike typed.shape ∧
      ∀ state : State, state.replay conversion.log = state.replay typing.log

/-- A plain parameter outside the body is typed like the schema that says the same if it has a name.
Without a name it is refused, and nothing changes. -/
theorem plain_typed_alike (scope : Scope) (apiPath : String) (path : List String)
    {parameter : Parameter} {place : ParameterPlace} (plain : parameter.IsPlain)
    (stands : ParameterPlace.ofName? parameter.location = some place) (notBody : place ≠ .body) :
    (parameter.name ≠ "" → TypedAlike scope apiPath path parameter) ∧
      (parameter.name = "" → ofParameters scope apiPath path [parameter] =
        .fail ((Fault.bare .missingParameterName).atField path)) := by
  refine ⟨?_, ?_⟩
  · intro named
    have single := ofParameters_single scope apiPath path parameter
    rw [ofPlaced_of_outside stands notBody named, Outcome.andThen_assoc] at single
    obtain ⟨sameLog, typed, other, succeeded, otherSucceeded, alike⟩ :=
      ofParameter_parallel scope apiPath (path ++ [parameter.name]) plain
    refine ⟨gather [⟨parameter, place, typed⟩], other, typed.shape, ?_, otherSucceeded, ?_,
      shapes_gather notBody, alike.2, ?_⟩
    · rw [single, Outcome.andThen_of_ok succeeded]
      rfl
    · rw [← alike.1]
      unfold gather
      simp only [List.map_cons, List.map_nil, Placed.argumentName, Placed.argument, if_neg notBody]
    · intro state
      rw [single, ← sameLog]
      simp only [Outcome.ok_andThen, Outcome.log_andThen_ok]
  · intro unnamed
    rw [ofParameters_single, ofPlaced_of_unnamed unnamed]
    rfl

/-- Rows of cells, each of which is one of two letters. -/
def gridParameter : Parameter :=
  ⟨"grid", "formData", none, false, none, some "array", none,
    some ⟨some "array", none, some ⟨some "string", none, none, [.text "x", .text "o"], none⟩, [],
      none⟩, none, [], none, none, none, none, none, none⟩

/-- Two levels of lists, down to a choice of letters. -/
theorem plain_typed_alike_grid :
    gridParameter.IsPlain ∧ ParameterPlace.ofName? gridParameter.location = some .formData ∧
      gridParameter.name ≠ "" ∧
      TypedAlike (.top .empty .empty) "/boards" ["draw"] gridParameter := by
  have cells : isPrimitive "string" = true := by decide
  have plain : gridParameter.IsPlain :=
    ⟨rfl, .inr ⟨rfl, _, rfl, .list rfl rfl (.last rfl cells)⟩⟩
  have stands : ParameterPlace.ofName? gridParameter.location = some .formData := by decide
  have named : gridParameter.name ≠ "" := by decide
  exact ⟨plain, stands, named, (plain_typed_alike (.top .empty .empty) "/boards" ["draw"] plain stands
    (by decide)).1 named⟩

/-- Plain, but without a name. -/
def namelessParameter : Parameter :=
  ⟨"", "query", none, true, none, some "string", none, none, none, [], none, none, none, none, none,
    none⟩

theorem not_plain_typed_alike :
    ¬ ∀ scope apiPath path parameter place, Parameter.IsPlain parameter →
      ParameterPlace.ofName? parameter.location = some place → place ≠ .body →
        TypedAlike scope apiPath path parameter := by
  intro alike
  have plain : namelessParameter.IsPlain := ⟨rfl, .inl ⟨"string", rfl, by decide⟩⟩
  obtain ⟨converted, _, _, succeeded, -⟩ :=
    alike (.top .empty .empty) "/pets" ["listPets"] namelessParameter .query plain (by decide)
      (by decide)
  rw [ofParameters_single, ofPlaced_of_unnamed rfl] at succeeded
  cases succeeded

end Typing

end RestConnector
