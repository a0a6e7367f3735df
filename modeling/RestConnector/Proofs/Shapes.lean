import RestConnector.Proofs.Records
import RestConnector.Proofs.Registries
import RestConnector.Typing.Parameter

/-!
Contract: the type and the shape that a typing gives to the same values agree.

Owns:
- `Agrees`, the agreement of a type with a shape at every depth of lists, with the ways to build
  and to change both at once;
- `FieldsAgree`, the agreement of an object's fields with the properties of a shape;
- `typings_agree`: every typing that succeeds gives a type and a shape that agree.

Does not own: what a shape says beyond its kind, its items and whether it may be absent.

Types and shapes are put together side by side and never from each other, so agreement is kept by
each of the steps that make a type nullable or a list.
-/

namespace RestConnector.Typing

open Swagger (Document Parameter ParameterItems Schema)

/-! ## Agreement -/

/-- Whether a kind of shapes goes with a type's name: it is that name, or it says no more than that
the values are objects, or it is a definition with that name. -/
def KindOf (document : Document) (name kind : String) : Prop :=
  kind = name ∨ kind = "object" ∨
    ∃ target, document.definition? kind = some target ∧ Identifier.pascal kind = name

/-- A type and a shape agree on what may be absent and on what is a list, down to the elements. -/
inductive Agrees (document : Document) : TypeTerm → ValueShape → Prop where
  | named {term : TypeTerm} {shape : ValueShape} {name : String}
      (nullable : shape.nullable = term.isNullable) (isNamed : term.asPresent = .named name)
      (noItems : shape.items = none) (kind : KindOf document name shape.kind) :
      Agrees document term shape
  | list {term element : TypeTerm} {shape item : ValueShape}
      (nullable : shape.nullable = term.isNullable) (isList : term.asPresent = .array element)
      (items : shape.items = some item) (kind : shape.kind = "array")
      (inside : Agrees document element item) : Agrees document term shape

/-- The fields of an object and the properties of a shape have the same names in the same order, and
agree one by one. -/
def FieldsAgree (document : Document) (object : ObjectDefinition) (shape : ValueShape) : Prop :=
  List.Forall₂
    (fun field property => field.1 = property.1 ∧ Agrees document field.2.type property.2)
    object.fields shape.properties

theorem isNullable_asNullable (term : TypeTerm) : term.asNullable.isNullable = true := by
  cases term <;> rfl

theorem asPresent_asNullable (term : TypeTerm) : term.asNullable.asPresent = term.asPresent := by
  cases term <;> rfl

namespace Agrees

variable {document : Document}

theorem nullable_eq {term : TypeTerm} {shape : ValueShape} (agrees : Agrees document term shape) :
    shape.nullable = term.isNullable := by
  cases agrees with
  | named nullable => exact nullable
  | list nullable => exact nullable

/-- Of a shape, only its kind, its items and its mark of nullability matter. -/
theorem reshape {term : TypeTerm} {shape other : ValueShape} (agrees : Agrees document term shape)
    (nullable : other.nullable = shape.nullable) (kind : other.kind = shape.kind)
    (items : other.items = shape.items) : Agrees document term other := by
  have marked : other.nullable = term.isNullable := nullable.trans agrees.nullable_eq
  cases agrees with
  | named _ isNamed noItems known =>
    exact .named marked isNamed (items.trans noItems) (kind ▸ known)
  | list _ isList given isArray inside =>
    exact .list marked isList (items.trans given) (kind.trans isArray) inside

theorem asNullable {typed : Typed} (agrees : Agrees document typed.term typed.shape) :
    Agrees document typed.asNullable.term typed.asNullable.shape := by
  have marked : true = typed.term.asNullable.isNullable := (isNullable_asNullable _).symm
  cases agrees with
  | named _ isNamed noItems kind =>
    exact .named marked ((asPresent_asNullable _).trans isNamed) noItems kind
  | list _ isList items kind inside =>
    exact .list marked ((asPresent_asNullable _).trans isList) items kind inside

/-- Where the type becomes nullable, so does the shape. -/
theorem nullableIf {typed : Typed} (agrees : Agrees document typed.term typed.shape)
    (condition : Bool) :
    Agrees document (typed.nullableIf condition).term (typed.nullableIf condition).shape := by
  cases condition with
  | true => exact agrees.asNullable
  | false => exact agrees

/-- A type by its name agrees with a shape that is marked under the same condition. -/
theorem named_nullableIf {name : String} {shape : ValueShape} {condition : Bool}
    (nullable : shape.nullable = condition) (noItems : shape.items = none)
    (kind : KindOf document name shape.kind) :
    Agrees document ((Typed.named name shape).nullableIf condition).term
      ((Typed.named name shape).nullableIf condition).shape := by
  subst nullable
  cases marked : shape.nullable with
  | true => exact .named rfl rfl noItems kind
  | false => exact .named marked rfl noItems kind

/-- So does a list whose items agree. -/
theorem listOf_nullableIf {item : Typed} (inside : Agrees document item.term item.shape)
    {shape : ValueShape} {condition : Bool} (nullable : shape.nullable = condition)
    (kind : shape.kind = "array") :
    Agrees document ((item.listOf shape).nullableIf condition).term
      ((item.listOf shape).nullableIf condition).shape := by
  subst nullable
  cases marked : shape.nullable with
  | true => exact .list rfl rfl rfl kind inside
  | false => exact .list marked rfl rfl kind inside

end Agrees

theorem properties_nullableIf (typed : Typed) (condition : Bool) :
    (typed.nullableIf condition).shape.properties = typed.shape.properties := by
  cases condition <;> rfl

/-! ## Schemas -/

namespace Site

variable {site : Site} {typed : Typed}

private theorem agrees_scalarOutcome {event : Event} {name kind : String}
    (succeeded : (site.scalarOutcome event name kind).value = .ok typed)
    (known : KindOf site.scope.document name kind) :
    Agrees site.scope.document typed.term typed.shape := by
  obtain ⟨_, -, rfl⟩ := Outcome.map_ok_iff.1 succeeded
  exact Agrees.named_nullableIf rfl rfl known

private theorem agrees_pointer {document : Document} {name : String} {target : Schema}
    (found : document.definition? name = some target) :
    Agrees document (pointer name).term (pointer name).shape :=
  .named rfl rfl rfl (Or.inr (Or.inr ⟨target, found, rfl⟩))

/-- The type and the shape of a site agree. -/
theorem agrees (site : Site) (typed : Typed) (succeeded : site.outcome.value = .ok typed) :
    Agrees site.scope.document typed.term typed.shape := by
  induction site using Site.induct generalizing typed with
  | step site inductionHypothesis =>
    have outcome := site.outcome_eq
    cases isKind : site.kind with
    | dangling reference =>
      rw [outcome, isKind] at succeeded
      cases succeeded
    | object name =>
      rw [outcome, isKind] at succeeded
      cases succeeded
      obtain ⟨target, found, -⟩ := kind_eq_object isKind
      exact agrees_pointer found
    | recurring name =>
      rw [outcome, isKind] at succeeded
      obtain ⟨_, -, rfl⟩ := Outcome.map_ok_iff.1 succeeded
      obtain ⟨target, found⟩ : ∃ target, site.scope.document.definition? name = some target := by
        grind [kind, referenceKind, declaredKind, objectKind]
      exact agrees_pointer found
    | expanded name target =>
      rw [outcome, isKind] at succeeded
      exact inductionHypothesis _ (expansion_mem_parts isKind) typed succeeded
    | untyped =>
      rw [outcome, isKind] at succeeded
      exact agrees_scalarOutcome succeeded (Or.inl rfl)
    | undeclared =>
      rw [outcome, isKind] at succeeded
      cases succeeded
    | primitive type =>
      rw [outcome, isKind] at succeeded
      exact agrees_scalarOutcome succeeded (Or.inl rfl)
    | formless scalar =>
      rw [outcome, isKind] at succeeded
      exact agrees_scalarOutcome succeeded (Or.inr (Or.inl rfl))
    | record name =>
      obtain ⟨fields, -, rfl, -⟩ := record_ok isKind succeeded
      exact Agrees.named_nullableIf rfl rfl (Or.inr (Or.inl rfl))
    | itemless =>
      rw [outcome, isKind] at succeeded
      cases succeeded
    | array items =>
      rw [outcome, isKind] at succeeded
      obtain ⟨item, typedItem, rfl⟩ := Outcome.map_ok_iff.1 succeeded
      have inside := inductionHypothesis _ (element_mem_parts isKind) item typedItem
      exact inside.listOf_nullableIf rfl rfl
    | unsupported type =>
      rw [outcome, isKind] at succeeded
      cases succeeded

/-- A property's shape is marked as its type is. -/
theorem field_agrees {entry : String × Schema} {field : String × FieldDefinition × ValueShape}
    (stepped : (site.fieldOutcome entry).value = .ok field) :
    Agrees site.scope.document field.2.1.type field.2.2 := by
  obtain ⟨used, typedProperty, rfl⟩ := Outcome.map_ok_iff.1 stepped
  have inside : Agrees site.scope.document used.term used.shape :=
    (site.property entry).agrees used typedProperty
  have whole := inside.nullableIf (!site.schema.required.contains entry.1)
  exact whole.reshape whole.nullable_eq.symm rfl rfl

/-- After a record is typed, the object under its name agrees with its shape. -/
theorem fieldsAgree {name : String} (isRecord : site.kind = .record name)
    (succeeded : site.outcome.value = .ok typed) (state : State) :
    ∃ object, (state.replay site.outcome.log).catalog.object? name = some object ∧
      FieldsAgree site.scope.document object typed.shape := by
  obtain ⟨fields, walked, result, found⟩ := find?_record isRecord succeeded state
  refine ⟨site.object fields, found, ?_⟩
  have properties : typed.shape.properties = fields.map fun entry => (entry.1, entry.2.2) := by
    rw [result]
    exact properties_nullableIf (site.objectType name fields) site.schema.isNullable
  unfold FieldsAgree
  rw [properties, object, List.forall₂_map_left_iff, List.forall₂_map_right_iff, List.forall₂_same]
  intro field inside
  obtain ⟨entry, -, stepped⟩ := Outcome.exists_step_of_mem walked inside
  exact ⟨rfl, field_agrees stepped⟩

end Site

/-! ## Parameters -/

variable {scope : Scope} {apiPath : String} {path : List String} {typed : Typed}

theorem agrees_ofItems {items : ParameterItems}
    (succeeded : (ofItems scope apiPath path items).value = .ok typed) :
    Agrees scope.document typed.term typed.shape := by
  fun_induction ofItems scope apiPath path items generalizing typed with
  | case1 => cases succeeded
  | case2 => cases succeeded
  | case3 =>
    rename_i inductionHypothesis
    obtain ⟨item, typedItem, rfl⟩ := Outcome.map_ok_iff.1 succeeded
    exact .list rfl rfl rfl rfl (inductionHypothesis typedItem)
  | case4 =>
    obtain ⟨scalar, -, rfl⟩ := Outcome.map_ok_iff.1 succeeded
    exact .named rfl rfl rfl (Or.inl rfl)
  | case5 => cases succeeded

theorem agrees_ofSimple {parameter : Parameter}
    (succeeded : (ofSimple scope apiPath path parameter).value = .ok typed) :
    Agrees scope.document typed.term typed.shape := by
  unfold ofSimple at succeeded
  simp only at succeeded
  split at succeeded
  · cases succeeded
  · split at succeeded
    · split at succeeded
      · cases succeeded
      · obtain ⟨item, typedItem, rfl⟩ := Outcome.map_ok_iff.1 succeeded
        exact .list rfl rfl rfl rfl (agrees_ofItems typedItem)
    · split at succeeded
      · obtain ⟨scalar, -, rfl⟩ := Outcome.map_ok_iff.1 succeeded
        exact .named rfl rfl rfl (Or.inl rfl)
      · cases succeeded

/-- The type and the shape of a schema agree wherever it is used. -/
theorem agrees_ofUse {schema : Schema} {nullable : Bool}
    (succeeded : (ofUse scope apiPath path schema nullable).value = .ok typed) :
    Agrees scope.document typed.term typed.shape := by
  rw [ofUse_eq] at succeeded
  obtain ⟨inner, typedInner, rfl⟩ := Outcome.map_ok_iff.1 succeeded
  have inside : Agrees scope.document inner.term inner.shape :=
    (Site.ofUse scope apiPath path schema).agrees inner typedInner
  exact inside.nullableIf nullable

theorem agrees_ofParameter {parameter : Parameter}
    (succeeded : (ofParameter scope apiPath path parameter).value = .ok typed) :
    Agrees scope.document typed.term typed.shape := by
  unfold ofParameter at succeeded
  split at succeeded
  · obtain ⟨used, typedUse, rfl⟩ := Outcome.map_ok_iff.1 succeeded
    exact (agrees_ofUse typedUse).reshape rfl rfl rfl
  · obtain ⟨simple, typedSimple, rfl⟩ := Outcome.map_ok_iff.1 succeeded
    let faceted : Typed := ⟨simple.term, withFacets parameter simple.shape⟩
    have inside : Agrees scope.document faceted.term faceted.shape :=
      (agrees_ofSimple typedSimple).reshape rfl rfl rfl
    exact inside.nullableIf (!parameter.required)

/-! ## What a typing leaves -/

/-- If a schema is a record with a name, then the object that a log leaves under this name agrees
with a shape, whatever was there before. -/
def LeavesFields (document : Document) (path : List String) (schema : Schema) (log : List Event)
    (shape : ValueShape) : Prop :=
  schema.IsRecord → Identifier.joined path ≠ "" → ∀ state : State,
    ∃ object, (state.replay log).catalog.object? (Identifier.joined path) = some object ∧
      FieldsAgree document object shape

/-- A shape with the same properties does as well. -/
theorem LeavesFields.reshape {document : Document} {path : List String} {schema : Schema}
    {log : List Event} {shape other : ValueShape}
    (leaves : LeavesFields document path schema log shape)
    (properties : other.properties = shape.properties) :
    LeavesFields document path schema log other := by
  intro isRecord named state
  obtain ⟨object, found, agree⟩ := leaves isRecord named state
  refine ⟨object, found, ?_⟩
  unfold FieldsAgree at agree ⊢
  rwa [properties]

theorem leavesFields_ofNode {schema : Schema}
    (succeeded : (ofNode scope apiPath path schema).value = .ok typed) :
    LeavesFields scope.document path schema (ofNode scope apiPath path schema).log
      typed.shape := by
  intro isRecord named state
  let site : Site := ⟨scope, apiPath, path, schema⟩
  have isRecordKind : site.kind = .record (Identifier.joined path) :=
    Site.kind_eq_record_iff.2 ⟨isRecord, rfl, named⟩
  exact Site.fieldsAgree isRecordKind succeeded state

theorem leavesFields_ofUse {schema : Schema} {nullable : Bool}
    (succeeded : (ofUse scope apiPath path schema nullable).value = .ok typed) :
    LeavesFields scope.document (namingPath schema path) schema
      (ofUse scope apiPath path schema nullable).log typed.shape := by
  intro isRecord
  unfold ofUse at succeeded ⊢
  simp only [isRecord.inPlace] at succeeded ⊢
  obtain ⟨inner, typedInner, last, log⟩ := Outcome.andThen_ok succeeded
  cases last
  rw [log, Outcome.ok, List.append_nil]
  exact (leavesFields_ofNode typedInner).reshape (properties_nullableIf inner nullable) isRecord

theorem leavesFields_ofParameter {parameter : Parameter} {schema : Schema}
    (given : parameter.schema = some schema)
    (succeeded : (ofParameter scope apiPath path parameter).value = .ok typed) :
    LeavesFields scope.document (namingPath schema path) schema
      (ofParameter scope apiPath path parameter).log typed.shape := by
  unfold ofParameter at succeeded ⊢
  simp only [given] at succeeded ⊢
  obtain ⟨used, typedUse, last, log⟩ := Outcome.andThen_ok succeeded
  cases last
  rw [log, Outcome.ok, List.append_nil]
  exact (leavesFields_ofUse typedUse).reshape rfl

/-- Every typing that succeeds gives a type and a shape that agree, and a record leaves an object
whose fields agree with the properties of its shape. -/
theorem typings_agree (scope : Scope) (apiPath : String) (path : List String) (typed : Typed) :
    (∀ schema, (ofNode scope apiPath path schema).value = .ok typed →
      Agrees scope.document typed.term typed.shape ∧
      LeavesFields scope.document path schema (ofNode scope apiPath path schema).log
        typed.shape) ∧
    (∀ schema nullable, (ofUse scope apiPath path schema nullable).value = .ok typed →
      Agrees scope.document typed.term typed.shape ∧
      LeavesFields scope.document (namingPath schema path) schema
        (ofUse scope apiPath path schema nullable).log typed.shape) ∧
    (∀ parameter, (ofParameter scope apiPath path parameter).value = .ok typed →
      Agrees scope.document typed.term typed.shape ∧
      ∀ schema, parameter.schema = some schema →
        LeavesFields scope.document (namingPath schema path) schema
          (ofParameter scope apiPath path parameter).log typed.shape) := by
  refine ⟨?_, ?_, ?_⟩
  · intro schema succeeded
    let site : Site := ⟨scope, apiPath, path, schema⟩
    exact ⟨site.agrees typed succeeded, leavesFields_ofNode succeeded⟩
  · intro schema nullable succeeded
    exact ⟨agrees_ofUse succeeded, leavesFields_ofUse succeeded⟩
  · intro parameter succeeded
    refine ⟨agrees_ofParameter succeeded, ?_⟩
    intro schema given
    exact leavesFields_ofParameter given succeeded

/-- A body that may be left out, of a record with a list of lists that may as well. -/
def optionalBody : Parameter :=
  let row : Schema := { Schema.ofType "array" with items := some (.ofType "number") }
  let cells : Schema :=
    { Schema.ofType "array" with items := some row, vendorNullable := some true }
  let inner : Schema := { Schema.empty with properties := [("cells", cells)] }
  let record : Schema :=
    { Schema.empty with
      nullable := some true
      required := ["inner"]
      properties := [("cells", cells), ("inner", inner)] }
  ⟨"payload", "body", none, false, some record, none, none, none, none, [], none, none, none, none,
    none, none⟩

private theorem ofParameter_optionalBody :
    (ofParameter (.top .empty .empty) "/cells" ["list"] optionalBody).value.toOption.map
      (fun typed => typed.term) = some (.nullable (.named "List")) := by
  cbv

/-- The body and the property are nullable once, in the type as in the shape. -/
theorem typings_agree_optionalBody :
    ∃ (schema : Schema) (typed : Typed) (object : ObjectDefinition),
      (ofParameter (.top .empty .empty) "/cells" ["list"] optionalBody).value = .ok typed ∧
        optionalBody.schema = some schema ∧ schema.IsRecord ∧ Identifier.joined ["list"] ≠ "" ∧
        Agrees .empty typed.term typed.shape ∧
        (State.empty.replay (ofParameter (.top .empty .empty) "/cells" ["list"]
          optionalBody).log).catalog.object? (Identifier.joined ["list"]) = some object ∧
        FieldsAgree .empty object typed.shape := by
  obtain ⟨typed, succeeded, -⟩ := exists_of_observed ofParameter_optionalBody
  have named : Identifier.joined ["list"] ≠ "" := by decide +kernel
  have isRecord : (optionalBody.schema.get rfl).IsRecord := ⟨rfl, rfl, List.cons_ne_nil _ _⟩
  obtain ⟨-, -, ofParameters⟩ :=
    typings_agree (.top .empty .empty) "/cells" ["list"] typed
  obtain ⟨agrees, leaves⟩ := ofParameters optionalBody succeeded
  obtain ⟨object, found, fields⟩ := leaves _ rfl isRecord named .empty
  exact ⟨_, typed, object, succeeded, rfl, isRecord, named, agrees, found, fields⟩

end RestConnector.Typing
