import RestConnector.Proofs.Closure
import RestConnector.Proofs.Records
import RestConnector.Proofs.Registries

/-!
Contract: when every name in a type of a connector stands for something.

Owns:
- `Connector.mentions`, the names in all types of a connector, and `Connector.Resolves`;
- `IsDetached`, the definitions that a reference may name although nothing registers them;
- `Connector.resolves_iff`: these definitions are the only way in which a name can dangle.

Does not own: sequences of calls that are no conversion, see `RestConnector.Proofs.Session`.

A reference to an object is its name without a look at what the walk over the definitions makes of
that object.  The walk makes nothing of one that is itself a reference, and it gives the name of
values of any form to one whose own name has no word.
-/

namespace RestConnector

open Swagger (Document Schema)
open Typing

/-! ## Closure of a conversion -/

namespace Conversion

theorem callables_closes (scope : Scope) (items : List (String × Swagger.PathItem)) :
    Closes scope.document [] (callables scope items)
      fun found => found.types.map TypeTerm.leaf := by
  refine (Closes.forEach fun item _ => ofPathItem_closes item.2).map ?_
  intro parts name mentioned
  obtain ⟨type, given, rfl⟩ := List.mem_map.1 mentioned
  obtain ⟨callable, inside, among⟩ := List.mem_flatMap.1 given
  have place : ∃ part ∈ parts, callable ∈ part.functions ++ part.procedures := by
    rcases List.mem_append.1 inside with function | procedure
    · obtain ⟨part, member, own⟩ := List.mem_flatMap.1 function
      exact ⟨part, member, List.mem_append_left _ own⟩
    · obtain ⟨part, member, own⟩ := List.mem_flatMap.1 procedure
      exact ⟨part, member, List.mem_append_right _ own⟩
  obtain ⟨part, member, own⟩ := place
  refine List.mem_flatMap.2 ⟨part, member, List.mem_map_of_mem ?_⟩
  exact List.mem_flatMap.2 ⟨callable, own, among⟩

theorem walk_closes (scope : Scope) :
    Closes scope.document [] (walk scope) fun found => found.types.map TypeTerm.leaf := by
  have definitions : ∀ entry ∈ scope.document.definitions,
      Closes scope.document [] (definition scope entry) fun _ => [] := by
    intro entry _
    exact (ofDefinition_closes entry.1 entry.2).mapFault _
  refine (callables_closes scope _).andThen ?_
  intro found
  refine (Closes.forEach definitions).andThen ?_
  intro _
  refine .ok ?_
  intro name mentioned
  exact Or.inl (List.mem_append_left _ mentioned)

end Conversion

/-! ## Definitions -/

/-- An object among the definitions that is not put under its name: it refers to another definition,
or its name has no word. -/
def IsDetached (entry : String × Schema) : Prop :=
  entry.2.isObjectLike = true ∧
    (entry.2.reference.isSome = true ∨ Identifier.pascal entry.1 = "")

/-- What the walk makes of any other object: a record under its name, or a scalar. -/
theorem Typing.Site.kind_of_definition {entry : String × Schema} (scope : Scope)
    (isObject : entry.2.isObjectLike = true) (attached : ¬ IsDetached entry) :
    (⟨scope, "", [entry.1], entry.2⟩ : Site).kind = .record (Identifier.pascal entry.1) ∨
      (⟨scope, "", [entry.1], entry.2⟩ : Site).kind = .formless (Identifier.pascal entry.1) := by
  obtain ⟨notUntyped, declared⟩ := isObjectLike_iff.1 isObject
  obtain ⟨noReference, named⟩ : entry.2.reference = none ∧ Identifier.pascal entry.1 ≠ "" := by
    simpa [IsDetached, isObject, not_or] using attached
  have isNamed : (Identifier.pascal entry.1).isEmpty = false := by
    simpa using named
  simp only [kind, noReference, notUntyped, declaredKind, declared, isPrimitive, objectKind,
    Identifier.joined_singleton, isNamed]
  cases entry.2.properties.isEmpty with
  | true => exact Or.inr rfl
  | false => exact Or.inl rfl

namespace Connector

/-- The names in the types of all results, arguments and fields. -/
def mentions (connector : Connector) : List String :=
  (Callables.mk connector.functions connector.procedures).types.map TypeTerm.leaf ++
    connector.catalog.mentions

/-- All names in types stand for an object or for a scalar. -/
def Resolves (connector : Connector) : Prop :=
  ∀ name ∈ connector.mentions, connector.catalog.registers name = true

variable {document : Document} {preferences : Preferences} {connector : Connector}

/-- Objects among the definitions are registered unless they are detached. -/
theorem registers_definition (converted : ofDocument document preferences = .ok connector)
    {entry : String × Schema} (defined : entry ∈ document.definitions)
    (isObject : entry.2.isObjectLike = true) (attached : ¬ IsDetached entry) :
    connector.catalog.registers (Identifier.pascal entry.1) = true := by
  let scope := Scope.top document preferences
  have visited : Visits document preferences ⟨scope, "", [entry.1], entry.2⟩ := by
    refine ⟨_, List.mem_append_right _ (List.mem_flatMap.2 ⟨entry, defined, ?_⟩), .refl⟩
    unfold definitionSources
    rw [if_pos isObject]
    exact List.mem_singleton_self _
  rw [registers_iff converted]
  rcases Site.kind_of_definition scope isObject attached with isRecord | isFormless
  · exact Or.inl ⟨_, visited, isRecord⟩
  · refine Or.inr ⟨.json, Or.inr ⟨_, visited, ?_⟩⟩
    simp only [Site.scalar?, isFormless]

/-- Every name is registered or stands for an object among the definitions. -/
theorem mentions_accounted (converted : ofDocument document preferences = .ok connector)
    {name : String} (mentioned : name ∈ connector.mentions) :
    connector.catalog.Accounts document name := by
  obtain ⟨found, walked, functions, procedures, catalog⟩ := ofDocument_ok converted
  obtain ⟨closed, accounted⟩ := Conversion.walk_closes (Scope.top document preferences) State.empty
    (by intro other given; cases given) (by intro other given; cases given)
  unfold mentions at mentioned
  rw [functions, procedures, catalog] at mentioned
  rw [catalog]
  rcases List.mem_append.1 mentioned with inCallable | inObject
  · exact accounted found walked name inCallable
  · exact closed name inObject

/-- All names stand for something exactly if this holds of the detached definitions that are
mentioned. -/
theorem resolves_iff (converted : ofDocument document preferences = .ok connector) :
    connector.Resolves ↔
      ∀ entry ∈ document.definitions, IsDetached entry →
        Identifier.pascal entry.1 ∈ connector.mentions →
          (∃ site, Visits document preferences site ∧
            site.kind = .record (Identifier.pascal entry.1)) ∨
          ∃ form, Asks document preferences (Identifier.pascal entry.1, form) := by
  constructor
  · intro resolves entry _ _ mentioned
    exact (registers_iff converted _).1 (resolves _ mentioned)
  · intro detached name mentioned
    -- only a name that a definition promises can be missing, and the walk keeps most promises
    rcases mentions_accounted converted mentioned with known | ⟨entry, defined, isObject, rfl⟩
    · exact known
    · by_cases isDetached : IsDetached entry
      · exact (registers_iff converted _).2 (detached entry defined isDetached mentioned)
      · exact registers_definition converted defined isObject isDetached

/-! ## A definition that is a reference -/

/-- The schema that refers to a definition which is a reference itself. -/
def aliasLink : Schema := { Schema.empty with reference := some "#/definitions/Alias" }

/-- A definition that refers to another one although it declares that it is an object. -/
def aliasEntry : String × Schema :=
  ("Alias", { Schema.ofType "object" with reference := some "#/definitions/Pet" })

def petEntry : String × Schema :=
  ("Pet", { Schema.ofType "object" with properties := [("name", .ofType "string")] })

def aliasDocument : Document := .answering aliasLink [aliasEntry, petEntry]

private theorem aliasDocument_callables :
    ∃ callable, Conversion.callables (Scope.top aliasDocument .empty) aliasDocument.pathItems =
      .ok ⟨[callable], []⟩ ∧ callable.result = .named "Alias" := by
  let scope := Scope.top aliasDocument .empty
  have used : ofUse scope "/pets" ["listPets", "Result"] aliasLink false =
      .ok (Site.pointer "Alias") := by
    have points : Swagger.Pointer.definition? "#/definitions/Alias" = some "Alias" := by
      decide +kernel
    have found : scope.document.definition? "Alias" = some aliasEntry.2 := rfl
    rw [ofUse_eq, Site.outcome_of_object rfl points found rfl]
    rfl
  have chosen : ofChosen scope "/pets" ["listPets", "Result"] (some (.inline ⟨"", some aliasLink⟩)) =
      .ok (.named "Alias") := by
    show (ofUse scope "/pets" ["listPets", "Result"] aliasLink false).andThen _ = _
    rw [used]
    show Outcome.ok (TypeTerm.named (Identifier.pascal "Alias")) = _
    have name : Identifier.pascal "Alias" = "Alias" := by decide +kernel
    rw [name]
  refine ⟨⟨"listPets", none, ∅, .named "Alias", ⟨"/pets", .get, [], none, []⟩⟩, ?_, rfl⟩
  show ((((((ofChosen scope "/pets" ["listPets", "Result"]
    (some (.inline ⟨"", some aliasLink⟩))).andThen _).andThen _).mapFault _).andThen _).andThen
      _).andThen _ = _
  rw [chosen]
  rfl

/-- The events of the second definition. -/
def petLog : List Event :=
  [.offer "String" (.ofForm .string),
    .put "Pet" ⟨none, [("name", ⟨none, .nullable (.named "String")⟩)]⟩]

/-- The walk registers the second definition and, with it, the scalar of texts. -/
private theorem aliasDocument_definitions :
    Outcome.forEach (Conversion.definition (Scope.top aliasDocument .empty)) [aliasEntry, petEntry] =
      ⟨.ok [(), ()], petLog⟩ := by
  let scope := Scope.top aliasDocument .empty
  have first : Conversion.definition scope aliasEntry = .ok () := by
    have points : Swagger.Pointer.definition? "#/definitions/Pet" = some "Pet" := by decide +kernel
    have found : scope.document.definition? "Pet" = some petEntry.2 := rfl
    let site : Site := ⟨scope, "", ["Alias"], aliasEntry.2⟩
    have outcome : site.outcome = .ok (Site.pointer "Pet") :=
      Site.outcome_of_object rfl points found rfl
    show (site.outcome.andThen fun _ => .ok ()).mapFault _ = _
    rw [outcome]
    rfl
  have second : Conversion.definition scope petEntry = ⟨.ok (), petLog⟩ := by cbv
  show (Conversion.definition scope aliasEntry).andThen (fun _ =>
    ((Conversion.definition scope petEntry).andThen _).andThen _) = _
  rw [first, second]
  rfl

/-- The reference keeps the name of the first definition, which stands for nothing. -/
private theorem aliasDocument_dangles :
    ∃ connector, ofDocument aliasDocument .empty = .ok connector ∧
      "Alias" ∈ connector.mentions ∧ connector.catalog.registers "Alias" = false := by
  obtain ⟨callable, called, result⟩ := aliasDocument_callables
  have walked : Conversion.walk (Scope.top aliasDocument .empty) =
      ⟨.ok ⟨[callable], []⟩, petLog⟩ := by
    show (Conversion.callables (Scope.top aliasDocument .empty) aliasDocument.pathItems).andThen
      (fun found => (Outcome.forEach (Conversion.definition (Scope.top aliasDocument .empty))
        [aliasEntry, petEntry]).andThen fun _ => .ok found) = _
    rw [called, aliasDocument_definitions]
    rfl
  obtain ⟨connector, converted⟩ := converts_of_walk rfl rfl (congrArg Outcome.value walked)
  obtain ⟨found, succeeded, functions, -, catalog⟩ := ofDocument_ok converted
  rw [walked] at succeeded catalog
  cases succeeded
  refine ⟨connector, converted, ?_, ?_⟩
  · refine List.mem_append_left _ (List.mem_map.2 ⟨callable.result, ?_, ?_⟩)
    · rw [functions]
      exact List.mem_cons_self
    · rw [result]
      rfl
  · have unknown : (State.empty.replay petLog).catalog.registers "Alias" = false := by
      decide +kernel
    rw [catalog]
    exact unknown

/-- At this document the names resolve exactly if something registers the first definition. -/
theorem resolves_iff_alias :
    ∃ connector, ofDocument aliasDocument .empty = .ok connector ∧
      (connector.Resolves ↔
        ∀ entry ∈ aliasDocument.definitions, IsDetached entry →
          Identifier.pascal entry.1 ∈ connector.mentions →
            (∃ site, Visits aliasDocument .empty site ∧
              site.kind = .record (Identifier.pascal entry.1)) ∨
            ∃ form, Asks aliasDocument .empty (Identifier.pascal entry.1, form)) := by
  obtain ⟨connector, converted, -⟩ := aliasDocument_dangles
  exact ⟨connector, converted, resolves_iff converted⟩

/-- Not every conversion that succeeds resolves. -/
theorem not_resolves :
    ¬ ∀ (document : Document) (preferences : Preferences) (connector : Connector),
      ofDocument document preferences = .ok connector → connector.Resolves := by
  intro resolves
  obtain ⟨connector, converted, mentioned, unknown⟩ := aliasDocument_dangles
  have known := resolves aliasDocument .empty connector converted "Alias" mentioned
  rw [unknown] at known
  cases known

end Connector

end RestConnector
