import RestConnector.Proofs.Entries
import RestConnector.Proofs.Records

/-!
Contract: definitions prevail over the types that operations give rise to.

Owns:
- `Entry.leaves`, the catalog that an entry leaves when it is converted on its own;
- `Connector.object_of_definition`: a record among the definitions stays under its name, unless a
  definition after it puts an object there.

Does not own: names under which only operations or nested schemas put objects.

All paths come before all definitions, and a definition puts its object after everything nested in
it.  So only what follows a definition can replace its object.
-/

namespace RestConnector

open Swagger (Document Schema)
open Typing (Event Outcome Scope Site State)

namespace Conversion

variable {document : Document} {preferences : Preferences}

/-- What the conversion of an entry on its own leaves. -/
def Entry.leaves (document : Document) (preferences : Preferences) (entry : Entry) : Catalog :=
  (entry.convert document preferences .empty).2.catalog

/-- On its own, an entry leaves no object of a name exactly if it never puts one. -/
theorem Entry.contains_leaves_eq_false_iff {entry : Entry} {name : String} :
    (entry.leaves document preferences).objects.contains name = false ↔
      ∀ event ∈ (entry.outcome (.top document preferences)).log,
        event.objectName? ≠ some name := by
  have left : entry.leaves document preferences =
      (State.empty.replay (entry.outcome (.top document preferences)).log).catalog := rfl
  have nothing : State.empty.catalog.objects.contains name = false := rfl
  rw [left, ← Bool.not_eq_true, State.contains_objects_replay, nothing]
  simp

/-- Where the schema of a definition is typed. -/
def definitionSite (document : Document) (preferences : Preferences) (name : String)
    (schema : Schema) : Site :=
  ⟨.top document preferences, "", [name], schema⟩

/-- An object among the definitions is typed under its name. -/
theorem Entry.outcome_definition {name : String} {schema : Schema}
    (isObject : schema.isObjectLike = true) :
    (Entry.definition name schema).outcome (.top document preferences) =
      (definitionSite document preferences name schema).outcome.andThen
        fun _ => .ok noCallables := by
  show (Typing.ofDefinition (.top document preferences) name schema).andThen _ = _
  unfold Typing.ofDefinition
  rw [if_pos isObject, Outcome.andThen_assoc]
  rfl

theorem Entry.log_credential (scope : Scope) (key : String)
    (scheme : Swagger.SecurityDefinition) :
    ((Entry.credential key scheme).outcome scope).log = [] := by
  show ((Outcome.ofExcept _).andThen _).log = []
  rw [Outcome.log_andThen_ok]
  rfl

/-- Whatever entries came before a definition and whatever come after it without putting an object
under its name, they leave the object that its schema puts there. -/
theorem find?_stateAfter (earlier : List Entry) {later : List Entry} {name : String}
    {schema : Schema} {found : Typing.Callables} (isRecord : schema.IsRecord)
    (named : Identifier.pascal name ≠ "")
    (alone : (Entry.definition name schema).alone document preferences = .ok found)
    (absent : ∀ entry ∈ later,
      (entry.leaves document preferences).objects.contains (Identifier.pascal name) = false) :
    let site := definitionSite document preferences name schema
    ∃ fields, (Outcome.forEach site.fieldOutcome schema.properties).value = .ok fields ∧
      (stateAfter document preferences
        (earlier ++ .definition name schema :: later)).catalog.objects.find?
          (Identifier.pascal name) = some (site.object fields) := by
  intro site
  have isKind : site.kind = .record (Identifier.pascal name) :=
    Site.kind_eq_record_iff.2 ⟨isRecord, Identifier.joined_singleton name, named⟩
  have outcome : (Entry.definition name schema).outcome (.top document preferences) =
      site.outcome.andThen fun _ => .ok noCallables :=
    Entry.outcome_definition isRecord.isObject
  have succeeded : ((Entry.definition name schema).outcome (.top document preferences)).value =
    .ok found := alone
  rw [outcome] at succeeded
  obtain ⟨typed, typing, -⟩ := Outcome.andThen_ok succeeded
  have silent : ∀ event ∈ later.flatMap
      (fun entry => (entry.outcome (.top document preferences)).log),
      event.objectName? ≠ some (Identifier.pascal name) := by
    intro event happened
    obtain ⟨entry, inside, own⟩ := List.mem_flatMap.1 happened
    exact Entry.contains_leaves_eq_false_iff.1 (absent entry inside) event own
  rw [stateAfter_eq_replay, List.flatMap_append, List.flatMap_cons, State.replay_append,
    State.replay_append, State.find?_objects_replay_of_absent silent, outcome,
    Outcome.log_andThen_ok]
  obtain ⟨fields, walked, -, stays⟩ := Site.find?_record isKind typing _
  exact ⟨fields, walked, stays⟩

/-- A definition stands among the entries after all paths, and only other definitions and security
definitions, which put no objects, stand after it. -/
theorem entries_of_split {before after : List (String × Schema)} {name : String} {schema : Schema}
    (split : document.definitions = before ++ (name, schema) :: after) :
    ∃ earlier later, entries document = earlier ++ .definition name schema :: later ∧
      ∀ entry ∈ later,
        (∃ other ∈ after, entry = .definition other.1 other.2) ∨
          ∃ key scheme, entry = .credential key scheme := by
  refine ⟨document.pathItems.flatMap operations ++
      before.map (fun entry => .definition entry.1 entry.2),
    after.map (fun entry => .definition entry.1 entry.2) ++
      document.securityDefinitions.map (fun entry => .credential entry.1 entry.2), ?_, ?_⟩
  · simp [entries, split]
  · intro entry inside
    rcases List.mem_append.1 inside with defined | granted
    · obtain ⟨other, among, rfl⟩ := List.mem_map.1 defined
      exact Or.inl ⟨other, among, rfl⟩
    · obtain ⟨other, -, rfl⟩ := List.mem_map.1 granted
      exact Or.inr ⟨other.1, other.2, rfl⟩

end Conversion

namespace Connector

open Conversion (Entry entries stateAfter)

variable {document : Document} {preferences : Preferences} {connector : Connector}

/-- The object of a definition that is a record in place stays, unless a later definition puts one
under the same name: its fields are the properties of the definition as they are typed there, and no
type of a path, of a property or of an earlier definition is left under its name. -/
theorem object_of_definition (converted : ofDocument document preferences = .ok connector)
    {before after : List (String × Schema)} {name : String} {schema : Schema}
    (split : document.definitions = before ++ (name, schema) :: after)
    (isRecord : schema.IsRecord) (named : Identifier.pascal name ≠ "")
    (last : ∀ later ∈ after, ((Entry.definition later.1 later.2).leaves document
      preferences).objects.contains (Identifier.pascal name) = false) :
    ∃ object properties,
      connector.objects.find? (Identifier.pascal name) = some object ∧
        object.description = schema.description ∧
        object.fields.map Prod.fst = schema.properties.map Prod.fst ∧
        (Typing.ofProperties (.top document preferences) "" [name] schema.required
          schema.properties).value = .ok properties ∧
        object.fields = properties.map fun property => (property.1, property.2.1) := by
  let site := Conversion.definitionSite document preferences name schema
  obtain ⟨earlier, later, whole, follow⟩ := Conversion.entries_of_split split
  have absent : ∀ entry ∈ later, (entry.leaves document preferences).objects.contains
      (Identifier.pascal name) = false := by
    intro entry inside
    rcases follow entry inside with ⟨other, among, rfl⟩ | ⟨key, scheme, rfl⟩
    · exact last other among
    · refine Entry.contains_leaves_eq_false_iff.2 ?_
      rw [Entry.log_credential]
      intro event happened
      cases happened
  have inside : .definition name schema ∈ entries document := by
    rw [whole]
    exact List.mem_append_right _ List.mem_cons_self
  obtain ⟨found, alone⟩ := (converts_iff.1 ⟨connector, converted⟩).2 _ inside
  obtain ⟨fields, walked, stays⟩ :=
    Conversion.find?_stateAfter earlier isRecord named alone absent
  have catalog := catalog_ofDocument converted
  rw [whole] at catalog
  have objects : connector.objects = _ := congrArg Catalog.objects catalog
  refine ⟨site.object fields, fields, ?_, rfl, ?_, ?_, rfl⟩
  · rw [objects]
    exact stays
  · exact Site.names_object walked
  · rw [← walked]
    exact congrArg Outcome.value (Typing.ofProperties_eq site schema.properties)

/-- The object of an answer, of a property of an earlier definition and of a property of the second
definition itself all get the name of the second definition. -/
def resultDocument : Document :=
  let inline : Schema :=
    { Schema.ofType "object" with properties := [("inline", .ofType "string")] }
  let earlier : Schema := { Schema.ofType "object" with properties := [("result", inline)] }
  let declared : Schema :=
    { Schema.ofType "object" with
      description := some "All pets"
      properties := [("_", inline), ("count", .ofType "integer")] }
  .answering inline [("ListPets", earlier), ("ListPetsResult", declared), ("Owner", inline)]

private theorem walk_resultDocument :
    (Conversion.walk (.top resultDocument .empty)).value.toOption.map (fun found =>
      found.functions.length) = some 1 := by
  cbv

/-- The object has the fields of the definition and of nothing else. -/
theorem object_of_definition_result :
    ∃ (connector : Connector) (before after : List (String × Schema)) (schema : Schema)
        (object : ObjectDefinition),
      ofDocument resultDocument .empty = .ok connector ∧
        resultDocument.definitions = before ++ ("ListPetsResult", schema) :: after ∧
        schema.IsRecord ∧ Identifier.pascal "ListPetsResult" ≠ "" ∧
        (∀ later ∈ after, ((Entry.definition later.1 later.2).leaves resultDocument
          .empty).objects.contains (Identifier.pascal "ListPetsResult") = false) ∧
        connector.objects.find? (Identifier.pascal "ListPetsResult") = some object ∧
        object.description = some "All pets" ∧
        object.fields.map Prod.fst = ["_", "count"] := by
  obtain ⟨found, walked, -⟩ := exists_of_observed walk_resultDocument
  obtain ⟨connector, converted⟩ := converts_of_walk (by decide) rfl walked
  have named : Identifier.pascal "ListPetsResult" ≠ "" := by decide +kernel
  have last : ∀ later ∈ resultDocument.definitions.drop 2, ((Entry.definition later.1
      later.2).leaves resultDocument .empty).objects.contains
        (Identifier.pascal "ListPetsResult") = false := by
    intro later inside
    rw [List.mem_singleton.1 inside]
    cbv
  have isRecord : (resultDocument.definitions[1]).2.IsRecord :=
    ⟨rfl, rfl, List.cons_ne_nil _ _⟩
  have split : resultDocument.definitions = resultDocument.definitions.take 1 ++
      ("ListPetsResult", (resultDocument.definitions[1]).2) :: resultDocument.definitions.drop 2 :=
    rfl
  obtain ⟨object, -, found, description, fields, -⟩ :=
    object_of_definition converted split isRecord named last
  exact ⟨connector, _, _, _, object, converted, split, isRecord, named, last, found, description,
    fields⟩

end Connector

end RestConnector
