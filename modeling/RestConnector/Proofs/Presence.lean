import RestConnector.Proofs.Progress
import RestConnector.Proofs.Reachability
import RestConnector.Proofs.Shapes

/-!
Contract: what a record leaves under its name, and which of its fields are always there.

Owns:
- `StandsFor`, the schema at the end of a chain of references, and `IsMarked`, whether there is one
  that is marked as nullable;
- `Site.isNullable_iff`: exactly then a type is nullable;
- `record_leaves`: the object of a record, with the fields that may be absent.

Does not own: the shapes of the fields, see `RestConnector.Proofs.Shapes`.

A reference to an object is its name alone, and so is one to a definition in progress.  A mark at
such a definition is not seen, nor is a mark beside any reference.
-/

namespace RestConnector.Typing

open Swagger (Document Schema)

/-! ## Marks -/

/-- The schema for which another one stands while some definitions are in progress: in place it is
the schema itself, and behind a reference the one for which the definition stands. -/
inductive StandsFor (document : Document) : List String → Schema → Schema → Prop where
  | inPlace {expanding : List String} {schema : Schema} (given : schema.reference = none) :
      StandsFor document expanding schema schema
  | definition {expanding : List String} {schema target represented : Schema}
      {reference name : String} (given : schema.reference = some reference)
      (points : Swagger.Pointer.definition? reference = some name)
      (found : document.definition? name = some target)
      (notObject : target.isObjectLike = false) (fresh : name ∉ expanding)
      (rest : StandsFor document (name :: expanding) target represented) :
      StandsFor document expanding schema represented

/-- Whether a schema stands for one that is marked as nullable. -/
def IsMarked (document : Document) (expanding : List String) (schema : Schema) : Prop :=
  ∃ represented, StandsFor document expanding schema represented ∧ represented.isNullable = true

section Marks

variable {document : Document} {expanding : List String} {schema target : Schema}
  {reference name : String}

theorem isMarked_inPlace (given : schema.reference = none) :
    IsMarked document expanding schema ↔ schema.isNullable = true := by
  constructor
  · rintro ⟨represented, stands, marked⟩
    cases stands with
    | inPlace => exact marked
    | definition isReference => cases given.symm.trans isReference
  · intro marked
    exact ⟨schema, .inPlace given, marked⟩

/-- Behind a reference, what counts is whether the definition is expanded and what it stands for. -/
theorem isMarked_reference (given : schema.reference = some reference)
    (points : Swagger.Pointer.definition? reference = some name)
    (found : document.definition? name = some target) :
    IsMarked document expanding schema ↔
      target.isObjectLike = false ∧ name ∉ expanding ∧
        IsMarked document (name :: expanding) target := by
  constructor
  · rintro ⟨represented, stands, marked⟩
    cases stands with
    | inPlace inPlace => cases given.symm.trans inPlace
    | definition same pointsAlso foundAlso notObject fresh rest =>
      cases given.symm.trans same
      cases points.symm.trans pointsAlso
      cases found.symm.trans foundAlso
      exact ⟨notObject, fresh, represented, rest, marked⟩
  · rintro ⟨notObject, fresh, represented, rest, marked⟩
    exact ⟨represented, .definition given points found notObject fresh rest, marked⟩

end Marks

/-! ## Types -/

theorem isNullable_nullableIf (typed : Typed) (condition : Bool) :
    (typed.nullableIf condition).term.isNullable = (condition || typed.term.isNullable) := by
  cases condition with
  | true => exact isNullable_asNullable typed.term
  | false => rfl

namespace Site

variable {site : Site} {typed : Typed}

private theorem isNullable_scalarOutcome {event : Event} {name kind : String}
    (succeeded : (site.scalarOutcome event name kind).value = .ok typed) :
    typed.term.isNullable = site.schema.isNullable := by
  obtain ⟨_, -, rfl⟩ := Outcome.map_ok_iff.1 succeeded
  exact (isNullable_nullableIf _ _).trans (Bool.or_false _)

/-- In place, only the own mark of a schema makes its type nullable. -/
theorem isNullable_inPlace (given : site.schema.reference = none)
    (succeeded : site.outcome.value = .ok typed) :
    typed.term.isNullable = site.schema.isNullable := by
  have outcome := site.outcome_eq
  cases isKind : site.kind with
  | record name =>
    obtain ⟨fields, -, rfl, -⟩ := record_ok isKind succeeded
    exact (isNullable_nullableIf _ _).trans (Bool.or_false _)
  | array items =>
    rw [outcome, isKind] at succeeded
    obtain ⟨item, -, rfl⟩ := Outcome.map_ok_iff.1 succeeded
    exact (isNullable_nullableIf _ _).trans (Bool.or_false _)
  | untyped =>
    rw [outcome, isKind] at succeeded
    exact isNullable_scalarOutcome succeeded
  | primitive type =>
    rw [outcome, isKind] at succeeded
    exact isNullable_scalarOutcome succeeded
  | formless scalar =>
    rw [outcome, isKind] at succeeded
    exact isNullable_scalarOutcome succeeded
  | object name => grind [kind, declaredKind, objectKind]
  | recurring name => grind [kind, declaredKind, objectKind]
  | expanded name target => grind [kind, declaredKind, objectKind]
  | _ =>
    rw [outcome, isKind] at succeeded
    cases succeeded

/-- A type is nullable exactly if its schema stands for one that is marked. -/
theorem isNullable_iff (site : Site) (typed : Typed) (succeeded : site.outcome.value = .ok typed) :
    typed.term.isNullable = true ↔
      IsMarked site.scope.document site.scope.expanding site.schema := by
  induction site using Site.induct generalizing typed with
  | step site inductionHypothesis =>
    cases given : site.schema.reference with
    | none => rw [isMarked_inPlace given, isNullable_inPlace given succeeded]
    | some reference =>
      have outcome := site.outcome_eq
      rcases kind_of_reference given with dangling | ⟨name, target, points, found, pointed⟩
      · rw [outcome, dangling] at succeeded
        cases succeeded
      · rw [isMarked_reference given points found]
        rcases pointed with ⟨isObject, isKind⟩ | ⟨-, isOpen, isKind⟩ | ⟨notObject, fresh, isKind⟩
        · rw [outcome, isKind] at succeeded
          cases succeeded
          simp [pointer, Typed.named, TypeTerm.isNullable, isObject]
        · rw [outcome, isKind] at succeeded
          obtain ⟨_, -, rfl⟩ := Outcome.map_ok_iff.1 succeeded
          simp [pointer, Typed.named, TypeTerm.isNullable, isOpen]
        · -- the definition is typed in place of the reference, and now it is in progress
          rw [outcome, isKind] at succeeded
          have inside := inductionHypothesis _ (expansion_mem_parts isKind) typed succeeded
          exact inside.trans ⟨fun marked => ⟨notObject, fresh, marked⟩, fun marked => marked.2.2⟩

/-! ## Records -/

/-- A field is always there exactly if it is required and its property does not stand for a schema
that is marked. -/
theorem isNullable_field {entry : String × Schema}
    {field : String × FieldDefinition × ValueShape}
    (stepped : (site.fieldOutcome entry).value = .ok field) :
    field.2.1.type.isNullable = false ↔
      entry.1 ∈ site.schema.required ∧
        ¬ IsMarked site.scope.document site.scope.expanding entry.2 := by
  obtain ⟨used, typedProperty, rfl⟩ := Outcome.map_ok_iff.1 stepped
  have marked := (site.property entry).isNullable_iff used typedProperty
  have type : (site.field entry used).2.1.type.isNullable =
      (!site.schema.required.contains entry.1 || used.term.isNullable) :=
    isNullable_nullableIf used (!site.schema.required.contains entry.1)
  rw [type, Bool.or_eq_false_iff, Bool.not_eq_false', List.contains_iff_mem]
  refine and_congr_right' ?_
  rw [← Bool.not_eq_true, not_congr marked]
  rfl

end Site

/-- A record has the name of its path.  Whatever was under this name, and whatever its properties put
there, it leaves an object with its description and with its properties in their order.  A field is
always there exactly if it is required and its property does not stand for a schema that is marked as
nullable. -/
theorem record_leaves (scope : Scope) (apiPath : String) (path : List String) {schema : Schema}
    (isRecord : schema.IsRecord) (named : Identifier.joined path ≠ "") {typed : Typed}
    (succeeded : (ofNode scope apiPath path schema).value = .ok typed) (state : State) :
    typed.term.asPresent = .named (Identifier.joined path) ∧
      ∃ object, (state.replay (ofNode scope apiPath path schema).log).catalog.object?
          (Identifier.joined path) = some object ∧
        object.description = schema.description ∧
        object.fields.map Prod.fst = schema.properties.map Prod.fst ∧
        List.Forall₂ (fun property field => field.2.type.isNullable = false ↔
          property.1 ∈ schema.required ∧
            ¬ IsMarked scope.document scope.expanding property.2)
          schema.properties object.fields := by
  let site : Site := ⟨scope, apiPath, path, schema⟩
  have isKind : site.kind = .record (Identifier.joined path) :=
    Site.kind_eq_record_iff.2 ⟨isRecord, rfl, named⟩
  obtain ⟨fields, walked, result, found⟩ := Site.find?_record isKind succeeded state
  refine ⟨?_, site.object fields, found, rfl, Site.names_object walked, ?_⟩
  · rw [result]
    cases marked : schema.isNullable <;> simp [Site.marked, site, marked, Typed.nullableIf] <;> rfl
  · unfold Site.object
    rw [List.forall₂_map_right_iff]
    exact (Outcome.forEach_ok_forall₂ walked).imp fun entry field stepped =>
      Site.isNullable_field stepped

/-! ## A record with a property of its own name -/

/-- A reference with a mark beside it. -/
def markedLink (reference : String) (marked : Bool) : Schema :=
  { Schema.empty with reference := some reference, nullable := some marked }

/-- A label is a text that may be absent, and so may an owner. -/
def labelDocument : Document :=
  { Document.empty with
    definitions := [("Label", markedLink "#/definitions/Text" false),
      ("Text", { Schema.ofType "string" with vendorNullable := some true }),
      ("Owner", { Schema.ofType "object" with nullable := some true })] }

/-- All properties are required, and the last one is a record of the same name. -/
def labelledPet : Schema :=
  let inner : Schema :=
    { Schema.ofType "object" with title := some "pet", properties := [("name", .ofType "string")] }
  { Schema.ofType "object" with
    required := ["label", "owner", "pet"]
    properties := [("label", markedLink "#/definitions/Label" false),
      ("owner", markedLink "#/definitions/Owner" true), ("pet", inner)] }

def labelledSite : Site := ⟨.top labelDocument .empty, "/pets", ["pet"], labelledPet⟩

private theorem points_label :
    Swagger.Pointer.definition? "#/definitions/Label" = some "Label" ∧
      Swagger.Pointer.definition? "#/definitions/Text" = some "Text" ∧
      Swagger.Pointer.definition? "#/definitions/Owner" = some "Owner" := by
  decide +kernel

private theorem labelledSite_kind : labelledSite.kind = .record "Pet" := by
  have name : Identifier.joined ["pet"] = "Pet" := by decide +kernel
  exact Site.kind_eq_record_iff.2 ⟨⟨rfl, rfl, List.cons_ne_nil _ _⟩, name, by decide⟩

private theorem labelledSite_succeeds : ∃ typed, labelledSite.outcome.value = .ok typed := by
  obtain ⟨label, text, owner⟩ := points_label
  refine (Site.succeeds_iff_parts _).2 ⟨by rw [labelledSite_kind]; rfl, ?_⟩
  intro part member
  simp only [Site.parts, labelledSite_kind] at member
  rcases List.mem_cons.1 member with rfl | member
  · -- the label leads to the text through another reference
    let part := labelledSite.property (labelledPet.properties[0])
    let between := part.expansion "Label" (markedLink "#/definitions/Text" false)
    have first : part.outcome = between.outcome.within "Label" :=
      Site.outcome_of_expandable rfl label rfl rfl List.not_mem_nil
    let last := between.expansion "Text" (labelDocument.definitions[1]).2
    have second : between.outcome = last.outcome.within "Text" :=
      Site.outcome_of_expandable rfl text rfl rfl (by decide)
    have observed : last.outcome.value.toOption.map (fun typed => typed.term) =
        some (.nullable (.named "String")) := by
      cbv
    obtain ⟨typed, succeeded, -⟩ := exists_of_observed observed
    show ∃ typed, part.outcome.value = .ok typed
    rw [first, second]
    exact ⟨typed, succeeded⟩
  · rcases List.mem_cons.1 member with rfl | member
    · rw [Site.outcome_of_object rfl owner rfl rfl]
      exact ⟨_, rfl⟩
    · rw [List.mem_singleton.1 member]
      have observed : (labelledSite.property (labelledPet.properties[2])).outcome.value.toOption.map
          (fun typed => typed.term) = some (.named "Pet") := by
        cbv
      obtain ⟨typed, succeeded, -⟩ := exists_of_observed observed
      exact ⟨typed, succeeded⟩

/-- The mark at the end of the references counts.  The one beside a reference does not, nor does the
one at a definition of an object. -/
theorem record_leaves_pet :
    labelledPet.IsRecord ∧ Identifier.joined ["pet"] ≠ "" ∧
      ∃ typed object, (ofNode (.top labelDocument .empty) "/pets" ["pet"] labelledPet).value =
          .ok typed ∧
        (State.empty.replay (ofNode (.top labelDocument .empty) "/pets" ["pet"]
          labelledPet).log).catalog.object? (Identifier.joined ["pet"]) = some object ∧
        object.fields.map (fun field => (field.1, field.2.type.isNullable)) =
          [("label", true), ("owner", false), ("pet", false)] := by
  obtain ⟨label, text, owner⟩ := points_label
  have isRecord : labelledPet.IsRecord := ⟨rfl, rfl, List.cons_ne_nil _ _⟩
  have named : Identifier.joined ["pet"] ≠ "" := by decide +kernel
  obtain ⟨typed, succeeded⟩ := labelledSite_succeeds
  obtain ⟨-, object, found, -, names, fields⟩ :=
    record_leaves (.top labelDocument .empty) "/pets" ["pet"] isRecord named succeeded .empty
  refine ⟨isRecord, named, typed, object, succeeded, found, ?_⟩
  have textMarked : IsMarked labelDocument [] (markedLink "#/definitions/Label" false) := by
    rw [isMarked_reference rfl label rfl]
    refine ⟨rfl, List.not_mem_nil, ?_⟩
    rw [isMarked_reference rfl text rfl]
    refine ⟨rfl, by decide, ?_⟩
    rw [isMarked_inPlace rfl]
    rfl
  have ownerNotMarked : ¬ IsMarked labelDocument [] (markedLink "#/definitions/Owner" true) := by
    rw [isMarked_reference rfl owner rfl]
    intro marked
    cases marked.1
  have petNotMarked : ¬ IsMarked labelDocument [] (labelledPet.properties[2]).2 := by
    rw [isMarked_inPlace rfl]
    decide
  match object.fields, names, fields with
  | [first, second, third], names, .cons isLabel (.cons isOwner (.cons isPet .nil)) =>
    have labelNullable : first.2.type.isNullable = true := by
      rw [← Bool.not_eq_false, isLabel]
      exact fun always => always.2 textMarked
    have ownerPresent := isOwner.2 ⟨by decide, ownerNotMarked⟩
    have petPresent := isPet.2 ⟨by decide, petNotMarked⟩
    have own : [first.1, second.1, third.1] = ["label", "owner", "pet"] := names
    simp only [List.cons.injEq, and_true] at own
    simp only [List.map_cons, List.map_nil, own, labelNullable, ownerPresent, petPresent]

end RestConnector.Typing
