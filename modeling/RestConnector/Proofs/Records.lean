import Mathlib.Data.List.Forall2
import RestConnector.Proofs.DistinctNames
import RestConnector.Proofs.Registries

/-!
Contract: objects with properties that are described in place.

Owns:
- `Schema.IsRecord`, the schemas of such objects, and `Site.kind_eq_record_iff`, which tells where
  they are typed as records;
- `Site.record_ok`, what a success at a record comes to;
- `Site.find?_record`, the object that stays under the name of a record;
- `Connector.exists_record`, the record behind each object of a connector.

Does not own: what else puts objects under that name.

The object is put last, after all that its properties put, so it stays even if one of them has the
same name.
-/

namespace RestConnector

open Swagger (Schema)

/-- An object with properties that is no reference. -/
structure Swagger.Schema.IsRecord (schema : Schema) : Prop where
  inPlace : schema.reference = none
  isObject : schema.isObjectLike = true
  hasProperties : schema.properties ≠ []

theorem Identifier.joined_singleton (segment : String) : joined [segment] = pascal segment := by
  simp [joined, String.join]

theorem map_eq_of_forall₂ {α β γ : Type} {related : α → β → Prop} {members : List α}
    {others : List β} (along : List.Forall₂ related members others) {view : α → γ} {look : β → γ}
    (same : ∀ one other, related one other → view one = look other) :
    members.map view = others.map look := by
  rw [← List.forall₂_eq_eq_eq, List.forall₂_map_left_iff, List.forall₂_map_right_iff]
  exact along.imp same

namespace Typing

/-- Objects are what is typed as an object. -/
theorem isObjectLike_iff {schema : Schema} :
    schema.isObjectLike = true ↔
      schema.isUntyped = false ∧ declaredType? schema = some "object" := by
  unfold Schema.isObjectLike Schema.isObjectTyped Schema.isUntyped declaredType?
  cases schema.types with
  | nil => simp [and_comm, and_left_comm]
  | cons type rest =>
    cases rest with
    | nil => simp [and_comm, and_left_comm]
    | cons second others => simp

/-! ## Steps of a walk, one by one -/

/-- A walk that succeeds has the result of each step in the place of its member. -/
theorem Outcome.forEach_ok_forall₂ {α β : Type} {step : α → Outcome β} {members : List α}
    {values : List β} (walked : (forEach step members).value = .ok values) :
    List.Forall₂ (fun member value => (step member).value = .ok value) members values := by
  induction members generalizing values with
  | nil =>
    cases walked
    exact .nil
  | cons member rest inductionHypothesis =>
    unfold forEach at walked
    obtain ⟨value, stepped, walked, -⟩ := andThen_ok walked
    obtain ⟨others, restWalked, rfl⟩ := map_ok_iff.1 walked
    exact .cons stepped (inductionHypothesis restWalked)

namespace Site

/-! ## Where records are typed -/

theorem kind_eq_record_iff {site : Site} {name : String} :
    site.kind = .record name ↔
      site.schema.IsRecord ∧ Identifier.joined site.path = name ∧ name ≠ "" := by
  constructor
  · intro isRecord
    have declares : site.schema.reference = none ∧ site.schema.isUntyped = false ∧
        declaredType? site.schema = some "object" ∧
        objectKind site.path site.schema = .record name := by
      grind [kind, referenceKind, declaredKind]
    obtain ⟨inPlace, typed, declared, isObject⟩ := declares
    unfold objectKind at isObject
    simp only at isObject
    split at isObject
    · cases isObject
    · rename_i named
      cases isObject
      simp only [Bool.or_eq_true, not_or, List.isEmpty_iff, String.isEmpty_iff] at named
      exact ⟨⟨inPlace, isObjectLike_iff.2 ⟨typed, declared⟩, named.1⟩, rfl, named.2⟩
  · rintro ⟨⟨inPlace, isObject, hasProperties⟩, rfl, notEmpty⟩
    obtain ⟨typed, declared⟩ := isObjectLike_iff.1 isObject
    have named : (Identifier.joined site.path).isEmpty = false := by
      simpa [String.isEmpty_iff] using notEmpty
    have given : site.schema.properties.isEmpty = false := by
      simpa [List.isEmpty_iff] using hasProperties
    simp only [kind, inPlace, typed, declaredKind, declared, isPrimitive, objectKind, given, named]
    rfl

/-! ## What a record comes to -/

section Record

variable {site : Site} {name : String} {typed : Typed}

/-- A success at a record is one at all its properties, whose events come before the object. -/
theorem record_ok (isRecord : site.kind = .record name)
    (succeeded : site.outcome.value = .ok typed) :
    ∃ fields, (Outcome.forEach site.fieldOutcome site.schema.properties).value = .ok fields ∧
      typed = site.marked (site.objectType name fields) ∧
      site.outcome.log = (Outcome.forEach site.fieldOutcome site.schema.properties).log ++
        [.put name (site.object fields)] := by
  have outcome := site.outcome_eq
  rw [isRecord] at outcome
  rw [outcome] at succeeded ⊢
  obtain ⟨fields, walked, put, log⟩ := Outcome.andThen_ok succeeded
  cases put
  exact ⟨fields, walked, rfl, log⟩

/-- The fields of a record are its properties in their order. -/
theorem names_object {fields : List (String × FieldDefinition × ValueShape)}
    (walked : (Outcome.forEach site.fieldOutcome site.schema.properties).value = .ok fields) :
    (site.object fields).fields.map Prod.fst = site.schema.properties.map Prod.fst := by
  have names : site.schema.properties.map Prod.fst = fields.map Prod.fst := by
    rw [← List.forall₂_eq_eq_eq, List.forall₂_map_left_iff, List.forall₂_map_right_iff]
    refine (Outcome.forEach_ok_forall₂ walked).imp ?_
    intro entry field stepped
    obtain ⟨used, -, rfl⟩ := Outcome.map_ok_iff.1 stepped
    rfl
  rw [names, object, List.map_map]
  rfl

/-- Whatever was there before, a record leaves its own object under its name. -/
theorem find?_record (isRecord : site.kind = .record name)
    (succeeded : site.outcome.value = .ok typed) (state : State) :
    ∃ fields, (Outcome.forEach site.fieldOutcome site.schema.properties).value = .ok fields ∧
      typed = site.marked (site.objectType name fields) ∧
      (state.replay site.outcome.log).catalog.objects.find? name = some (site.object fields) := by
  obtain ⟨fields, walked, result, log⟩ := record_ok isRecord succeeded
  refine ⟨fields, walked, result, ?_⟩
  rw [log, State.replay_append]
  exact NameMap.find?_insert_self _ name (site.object fields)

end Record

end Site

end Typing

/-! ## The records of a connector -/

open Typing (Event Outcome State Visits) in
/-- Each object of a connector is that of a record which the conversion types. -/
theorem Connector.exists_record {document : Swagger.Document} {preferences : Preferences}
    {connector : Connector} (converted : ofDocument document preferences = .ok connector)
    {name : String} {object : ObjectDefinition}
    (inside : (name, object) ∈ connector.objects.entries) :
    ∃ site fields, Visits document preferences site ∧ site.kind = .record name ∧
      (Outcome.forEach site.fieldOutcome site.schema.properties).value = .ok fields ∧
      object = site.object fields := by
  obtain ⟨found, walked, -, -, catalog⟩ := ofDocument_ok converted
  have objects : connector.objects = _ := congrArg Catalog.objects catalog
  have isFound : connector.objects.find? name = some object :=
    (NameMap.findIn_eq_some connector.objects.increasing).2 inside
  have nothing : State.empty.catalog.objects.find? name = none := rfl
  rw [objects, State.find?_objects_replay, nothing, Option.or_none] at isFound
  obtain ⟨event, happened, puts⟩ := List.exists_of_findSome?_eq_some isFound
  rw [Event.putting?_eq_some.1 puts, List.mem_reverse] at happened
  rcases (Typing.mem_log_walk walked _).1 happened with ⟨node, -, offer⟩ | ⟨site, visited, own⟩
  · cases offer
  · obtain ⟨typed, succeeded⟩ := visited.succeeds walked
    have isRecord : site.kind = .record name :=
      (Typing.Site.puts_iff ⟨typed, succeeded⟩ name).1 ⟨_, own, rfl⟩
    obtain ⟨fields, properties, -⟩ := Typing.Site.record_ok isRecord succeeded
    simp only [Typing.Site.ownEvents, isRecord, properties, List.mem_singleton] at own
    cases own
    exact ⟨site, fields, visited, isRecord, properties, rfl⟩

end RestConnector
