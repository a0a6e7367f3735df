import Mathlib
import RestConnector.Proofs.Registration
import RestConnector.Proofs.Sources

/-!
Contract: which names the two registries of a connector have.

Owns:
- `Visits` and `Asks`, the sites that a conversion types and the scalars that it asks for;
- `Connector.ofDocument_ok`, what a success says about the walk;
- for each registry, the exact names that it has after a success.

Does not own: what a name stands for in its registry, see `RestConnector.Proofs.WireForms`.

This is the first module that evaluates a document, and the only one that imports the whole of
Mathlib.  The equations of strings and characters that `cbv` rewrites with are declared in many of
its files, and in no smaller part; a module that sees only some of them declares the others again.
-/

namespace RestConnector

open Typing (Callables Event Scope Site Source State sources)

namespace Typing

/-! ## What a conversion types and asks for -/

def Site.scalar? (site : Site) : Option (String × WireForm) :=
  match site.kind with
  | .recurring name => some (Identifier.pascal name, .json)
  | .untyped => some (jsonScalar, .json)
  | .primitive type => some (site.primitiveScalar type)
  | .formless scalar => some (scalar, .json)
  | _ => none

/-- The conversion of a document types a schema at a site. -/
def Visits (document : Swagger.Document) (preferences : Preferences) (site : Site) : Prop :=
  ∃ root, .schema root ∈ sources (Scope.top document preferences) ∧ root.Reaches site

def Asks (document : Swagger.Document) (preferences : Preferences)
    (scalar : String × WireForm) : Prop :=
  (∃ node, .plain node ∈ sources (Scope.top document preferences) ∧ node.scalar = scalar) ∨
    ∃ site, Visits document preferences site ∧ site.scalar? = some scalar

/-! ## The events of a site by name -/

theorem Site.ownEvents_record {site : Site} {name : String} {typed : Typed}
    (isRecord : site.kind = .record name) (succeeded : site.outcome.value = .ok typed) :
    ∃ object, site.ownEvents = [.put name object] := by
  rw [site.outcome_eq, isRecord] at succeeded
  obtain ⟨fields, walked, -⟩ := Outcome.andThen_ok succeeded
  refine ⟨site.object fields, ?_⟩
  simp only [ownEvents, isRecord, walked]

/-- A site puts an object under its own name alone. -/
theorem Site.puts_iff {site : Site} (succeeds : ∃ typed, site.outcome.value = .ok typed)
    (name : String) :
    (∃ event ∈ site.ownEvents, event.objectName? = some name) ↔ site.kind = .record name := by
  obtain ⟨typed, succeeded⟩ := succeeds
  cases isKind : site.kind with
  | record other =>
    obtain ⟨object, own⟩ := ownEvents_record isKind succeeded
    rw [own]
    simp [Event.objectName?]
  | _ => simp [ownEvents, isKind, Event.objectName?]

/-- A site writes a scalar under the name that it asks for alone. -/
theorem Site.writes_iff (site : Site) (name : String) :
    (∃ event ∈ site.ownEvents, event.scalarName? = some name) ↔
      ∃ form, site.scalar? = some (name, form) := by
  cases isKind : site.kind with
  | record other =>
    simp only [ownEvents, scalar?, isKind]
    split <;> simp [Event.scalarName?]
  | primitive type =>
    simp only [ownEvents, scalar?, isKind]
    simp [Event.scalarName?, Prod.ext_iff]
  | _ => simp [ownEvents, scalar?, isKind, Event.scalarName?]

end Typing

/-! ## The walk of a conversion -/

/-- The two registries of a connector. -/
def Connector.catalog (connector : Connector) : Catalog :=
  ⟨connector.objects, connector.scalars⟩

/-- A success is a success of the walk, whose events make up the registries. -/
theorem Connector.ofDocument_ok {document : Swagger.Document} {preferences : Preferences}
    {connector : Connector} (converted : ofDocument document preferences = .ok connector) :
    ∃ found, (Conversion.walk (Scope.top document preferences)).value = .ok found ∧
      connector.functions = found.functions ∧ connector.procedures = found.procedures ∧
      connector.catalog =
        (State.empty.replay (Conversion.walk (Scope.top document preferences)).log).catalog := by
  unfold ofDocument at converted
  split at converted
  · cases walked : (Conversion.walk (Scope.top document preferences)).value with
    | error fault =>
      simp only [walked] at converted
      cases converted
    | ok found =>
      simp only [walked] at converted
      cases granted : document.securityDefinitions.mapM (Conversion.credential preferences) with
      | error fault =>
        simp only [granted] at converted
        cases converted
      | ok credentials =>
        simp only [granted] at converted
        cases converted
        exact ⟨found, rfl, rfl, rfl, rfl⟩
  · cases converted

theorem exists_of_observed {α β : Type} {result : Except Fault α} {observe : α → β} {seen : β}
    (observed : result.toOption.map observe = some seen) :
    ∃ value, result = .ok value ∧ observe value = seen := by
  cases result with
  | error fault => cases observed
  | ok value => exact ⟨value, rfl, Option.some.inj observed⟩

/-- Without security definitions, a walk that succeeds is all that a conversion needs. -/
theorem Connector.converts_of_walk {document : Swagger.Document} {preferences : Preferences}
    {found : Callables} (hasPaths : document.hasPaths = true)
    (noCredentials : document.securityDefinitions = [])
    (walked : (Conversion.walk (Scope.top document preferences)).value = .ok found) :
    ∃ connector, ofDocument document preferences = .ok connector := by
  unfold ofDocument
  rw [if_pos hasPaths, noCredentials]
  simp only [walked]
  exact ⟨_, rfl⟩

namespace Typing

variable {document : Swagger.Document} {preferences : Preferences} {found : Callables}

/-- Whatever a walk visits succeeds if the walk does. -/
theorem Visits.succeeds {site : Site} (visited : Visits document preferences site)
    (walked : (Conversion.walk (Scope.top document preferences)).value = .ok found) :
    ∃ typed, site.outcome.value = .ok typed := by
  obtain ⟨root, isSource, reached⟩ := visited
  have rootSucceeds := (walk_stems _ found walked).2 (.schema root) isSource
  exact Site.succeeds_of_reaches reached rootSucceeds

/-- The events of a walk are those of the sites it visits and of the scalars outside of schemas. -/
theorem mem_log_walk (walked : (Conversion.walk (Scope.top document preferences)).value = .ok found)
    (event : Event) :
    event ∈ (Conversion.walk (Scope.top document preferences)).log ↔
      (∃ node, .plain node ∈ sources (Scope.top document preferences) ∧
        event = .offer node.scalar.1 (.ofForm node.scalar.2)) ∨
      ∃ site, Visits document preferences site ∧ event ∈ site.ownEvents := by
  obtain ⟨log, succeed⟩ := walk_stems _ found walked
  rw [log, List.mem_flatMap]
  constructor
  · rintro ⟨source, isSource, happened⟩
    cases source with
    | plain node => exact Or.inl ⟨node, isSource, List.mem_singleton.1 happened⟩
    | schema root =>
      obtain ⟨site, reached, own⟩ :=
        (Site.mem_log_iff root event (succeed (.schema root) isSource)).1 happened
      exact Or.inr ⟨site, ⟨root, isSource, reached⟩, own⟩
  · rintro (⟨node, isSource, rfl⟩ | ⟨site, ⟨root, isSource, reached⟩, own⟩)
    · exact ⟨.plain node, isSource, List.mem_singleton_self _⟩
    · refine ⟨.schema root, isSource, ?_⟩
      exact (Site.mem_log_iff root event (succeed (.schema root) isSource)).2 ⟨site, reached, own⟩

/-- Something happens in a walk exactly if it happens outside of schemas or at a site. -/
theorem exists_event_walk_iff
    (walked : (Conversion.walk (Scope.top document preferences)).value = .ok found)
    (holds : Event → Prop) :
    (∃ event ∈ (Conversion.walk (Scope.top document preferences)).log, holds event) ↔
      (∃ node, .plain node ∈ sources (Scope.top document preferences) ∧
        holds (.offer node.scalar.1 (.ofForm node.scalar.2))) ∨
      ∃ site, Visits document preferences site ∧ ∃ event ∈ site.ownEvents, holds event := by
  constructor
  · rintro ⟨event, happened, held⟩
    rcases (mem_log_walk walked event).1 happened with ⟨node, isSource, rfl⟩ | ⟨site, visited, own⟩
    · exact Or.inl ⟨node, isSource, held⟩
    · exact Or.inr ⟨site, visited, event, own, held⟩
  · rintro (⟨node, isSource, held⟩ | ⟨site, visited, event, own, held⟩)
    · exact ⟨_, (mem_log_walk walked _).2 (Or.inl ⟨node, isSource, rfl⟩), held⟩
    · exact ⟨event, (mem_log_walk walked event).2 (Or.inr ⟨site, visited, own⟩), held⟩

end Typing

/-! ## The names of the registries -/

namespace Connector

open Typing (Visits Asks)

variable {document : Swagger.Document} {preferences : Preferences} {connector : Connector}

theorem contains_objects_iff (converted : ofDocument document preferences = .ok connector)
    (name : String) :
    connector.objects.contains name = true ↔
      ∃ site, Visits document preferences site ∧ site.kind = .record name := by
  obtain ⟨found, walked, -, -, catalog⟩ := ofDocument_ok converted
  have objects : connector.objects = _ := congrArg Catalog.objects catalog
  have nothing : State.empty.catalog.objects.contains name = false := rfl
  rw [objects, State.contains_objects_replay, Typing.exists_event_walk_iff walked, nothing]
  constructor
  · rintro (before | ⟨node, -, puts⟩ | ⟨site, visited, puts⟩)
    · cases before
    · cases puts
    · exact ⟨site, visited, (Site.puts_iff (visited.succeeds walked) name).1 puts⟩
  · rintro ⟨site, visited, isRecord⟩
    exact Or.inr (Or.inr ⟨site, visited,
      (Site.puts_iff (visited.succeeds walked) name).2 isRecord⟩)

theorem contains_scalars_iff (converted : ofDocument document preferences = .ok connector)
    (name : String) :
    connector.scalars.contains name = true ↔ ∃ form, Asks document preferences (name, form) := by
  obtain ⟨found, walked, -, -, catalog⟩ := ofDocument_ok converted
  have scalars : connector.scalars = _ := congrArg Catalog.scalars catalog
  have nothing : State.empty.catalog.scalars.contains name = false := rfl
  rw [scalars, State.contains_scalars_replay, Typing.exists_event_walk_iff walked, nothing]
  constructor
  · rintro (before | ⟨node, isSource, writes⟩ | ⟨site, visited, writes⟩)
    · cases before
    · refine ⟨node.scalar.2, Or.inl ⟨node, isSource, ?_⟩⟩
      rw [← Option.some.inj writes]
    · obtain ⟨form, asked⟩ := (site.writes_iff name).1 writes
      exact ⟨form, Or.inr ⟨site, visited, asked⟩⟩
  · rintro ⟨form, ⟨node, isSource, asked⟩ | ⟨site, visited, asked⟩⟩
    · refine Or.inr (Or.inl ⟨node, isSource, ?_⟩)
      rw [asked]
      rfl
    · exact Or.inr (Or.inr ⟨site, visited, (site.writes_iff name).2 ⟨form, asked⟩⟩)

/-- A name is registered exactly if the conversion types a record of that name or asks for such a
scalar. -/
theorem registers_iff (converted : ofDocument document preferences = .ok connector)
    (name : String) :
    connector.catalog.registers name = true ↔
      (∃ site, Visits document preferences site ∧ site.kind = .record name) ∨
        ∃ form, Asks document preferences (name, form) := by
  rw [← contains_objects_iff converted, ← contains_scalars_iff converted]
  unfold Catalog.registers
  rw [Bool.or_eq_true]
  rfl

end Connector

/-! ## A name in both registries -/

namespace Swagger

def Schema.ofType (type : String) : Schema := { Schema.empty with types := [type] }

/-- The path of one operation, which answers with a schema. -/
def PathItem.answering (schema : Schema) : PathItem :=
  let responses : Responses := ⟨none, [("200", .inline ⟨"", some schema⟩)], []⟩
  let operation : Operation :=
    ⟨some "listPets", none, none, [], none, none, [], some responses, none, false⟩
  ⟨some operation, none, none, none, none, none, none, []⟩

/-- The document of one operation, which answers with a schema. -/
def Document.answering (schema : Schema) (definitions : List (String × Schema)) : Document :=
  { Document.empty with paths := some ⟨[("/pets", .answering schema)], []⟩, definitions }

end Swagger

namespace Connector

open Typing (Visits Asks)

end Connector

end RestConnector
