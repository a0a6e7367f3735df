import RestConnector.Proofs.Closure
import RestConnector.Proofs.Operations
import RestConnector.Proofs.Shapes

/-!
Contract: no type of a connector is nullable twice over.

Owns:
- `TypeTerm.isFlat`, types without a layer of nullability directly around another one;
- `Connector.types`, all types that a connector gives;
- `Connector.nullable_once`: they are flat, and a result is nullable only without a payload.

Does not own: which types are nullable at all.

Marks of nullability meet at a schema, at the definition behind a reference, at a property and at a
parameter.  Each of them makes a type nullable that may be so already, and a result loses one layer;
as a type never has two, nothing is left of it.
-/

namespace RestConnector

/-! ## Flat types -/

namespace TypeTerm

/-- Whether no layer of nullability is directly around another one, at any depth. -/
def isFlat : TypeTerm → Bool
  | .named _ => true
  | .nullable inner => !inner.isNullable && inner.isFlat
  | .array element => element.isFlat

/-- A flat type is present without its topmost layer. -/
theorem isNullable_asPresent {term : TypeTerm} (flat : term.isFlat = true) :
    term.asPresent.isNullable = false := by
  cases term with
  | named name => rfl
  | array element => rfl
  | nullable inner =>
    simp only [isFlat, Bool.and_eq_true, Bool.not_eq_true'] at flat
    exact flat.1

theorem isFlat_asPresent {term : TypeTerm} (flat : term.isFlat = true) :
    term.asPresent.isFlat = true := by
  cases term with
  | named name => rfl
  | array element => exact flat
  | nullable inner =>
    simp only [isFlat, Bool.and_eq_true] at flat
    exact flat.2

/-- A type that is a name or a flat list once it is present is flat itself. -/
theorem isFlat_of_asPresent {term present : TypeTerm} (isPresent : term.asPresent = present)
    (notNullable : present.isNullable = false) (flat : present.isFlat = true) :
    term.isFlat = true := by
  subst isPresent
  cases term with
  | named name => rfl
  | array element => exact flat
  | nullable inner =>
    have inside : inner.isNullable = false := notNullable
    simp only [isFlat, inside, Bool.not_false, Bool.true_and]
    exact flat

end TypeTerm

namespace Typing

open Swagger (Document)

/-- Agreement leaves no room for a second layer, as the mark of a shape is there or not. -/
theorem Agrees.isFlat {document : Document} {term : TypeTerm} {shape : ValueShape}
    (agrees : Agrees document term shape) : term.isFlat = true := by
  induction agrees with
  | named _ isNamed => exact TypeTerm.isFlat_of_asPresent isNamed rfl rfl
  | list _ isList _ _ _ inductionHypothesis =>
    exact TypeTerm.isFlat_of_asPresent isList rfl inductionHypothesis

/-! ## Callables -/

section Operation

variable {scope : Scope} {apiPath : String}

theorem isFlat_argument {path : List String} {parameters : List Swagger.Parameter}
    {converted : Arguments}
    (succeeded : (ofParameters scope apiPath path parameters).value = .ok converted)
    {entry : String × Argument} (inside : entry ∈ converted.arguments.entries) :
    entry.2.type.isFlat = true := by
  obtain ⟨parameter, -, placed, isPlaced, rfl⟩ := exists_parameter_of_argument succeeded inside
  obtain ⟨-, -, -, typed⟩ := ofPlaced_ok isPlaced
  exact (agrees_ofParameter typed).isFlat

/-- A result is nullable exactly if there is no payload, and then it is a truth value. -/
theorem result_ofResponses {path : List String} {given : Option Swagger.Responses}
    {result : TypeTerm}
    (succeeded : (ofResponses scope apiPath path given).value = .ok (some result)) :
    result.isFlat = true ∧
      ∃ responses, given = some responses ∧
        (chosenSchema? scope.document responses = none →
          result = .nullable (.named booleanScalar)) ∧
        (chosenSchema? scope.document responses ≠ none → result.isNullable = false) := by
  obtain ⟨responses, isGiven, answered⟩ := ofResponses_ok succeeded
  rcases answered with ⟨noSchema, rfl⟩ | ⟨schema, typed, isSchema, typedSchema, rfl⟩
  · exact ⟨rfl, responses, isGiven, fun _ => rfl, fun given => absurd noSchema given⟩
  · have flat : typed.term.isFlat = true := (agrees_ofUse typedSchema).isFlat
    refine ⟨TypeTerm.isFlat_asPresent flat, responses, isGiven, ?_, ?_⟩
    · intro noSchema
      rw [noSchema] at isSchema
      cases isSchema
    · exact fun _ => TypeTerm.isNullable_asPresent flat

theorem isFlat_callable {method : Method} {operation : Swagger.Operation}
    {shared : List (Swagger.Linked Swagger.Parameter)} {callable : Callable}
    (succeeded : (ofOperation scope apiPath method operation shared).value = .ok (some callable))
    {type : TypeTerm} (mentioned : type ∈ callableTypes callable) : type.isFlat = true := by
  obtain ⟨result, parameters, converted, answered, -, typed, rfl⟩ := ofOperation_ok succeeded
  rcases List.mem_cons.1 mentioned with rfl | argument
  · exact (result_ofResponses answered).1
  · obtain ⟨entry, inside, rfl⟩ := List.mem_map.1 argument
    exact isFlat_argument typed inside

end Operation

end Typing

/-! ## Connectors -/

namespace Connector

open Conversion (Entry entries)
open Swagger (Document Schema)
open Typing (chosenSchema?)

/-- The types of the results, of the arguments and of the fields of all objects. -/
def types (connector : Connector) : List TypeTerm :=
  connector.callables.types ++
    connector.objects.entries.flatMap fun entry => entry.2.fields.map fun field => field.2.type

variable {document : Document} {preferences : Preferences} {connector : Connector}

theorem isFlat_field (converted : ofDocument document preferences = .ok connector)
    {entry : String × ObjectDefinition} (inside : entry ∈ connector.objects.entries)
    {field : String × FieldDefinition} (isField : field ∈ entry.2.fields) :
    field.2.type.isFlat = true := by
  obtain ⟨name, object⟩ := entry
  obtain ⟨site, fields, -, -, walked, rfl⟩ := exists_record converted inside
  obtain ⟨typed, among, rfl⟩ := List.mem_map.1 isField
  obtain ⟨property, -, stepped⟩ := Typing.Outcome.exists_step_of_mem walked among
  exact (Typing.Site.field_agrees stepped).isFlat

/-- No type is nullable twice over.  A result is not nullable, but that of an operation without a
payload is a truth value that may be absent. -/
theorem nullable_once (converted : ofDocument document preferences = .ok connector) :
    (∀ type ∈ connector.types, type.isFlat = true) ∧
    ∀ callable ∈ connector.functions ++ connector.procedures,
      ∃ shared operation responses,
        .operation callable.request.url shared callable.request.method operation ∈
          entries document ∧
        (Typing.ofOperation (.top document preferences) callable.request.url
          callable.request.method operation shared).value = .ok (some callable) ∧
        operation.responses = some responses ∧
        (chosenSchema? document responses = none →
          callable.result = .nullable (.named booleanScalar)) ∧
        (chosenSchema? document responses ≠ none → callable.result.isNullable = false) := by
  refine ⟨?_, ?_⟩
  · intro type mentioned
    rcases List.mem_append.1 mentioned with called | held
    · obtain ⟨callable, inside, own⟩ := List.mem_flatMap.1 called
      obtain ⟨shared, operation, -, succeeded⟩ := exists_operation converted inside
      exact Typing.isFlat_callable succeeded own
    · obtain ⟨entry, inside, own⟩ := List.mem_flatMap.1 held
      obtain ⟨field, isField, rfl⟩ := List.mem_map.1 own
      exact isFlat_field converted inside isField
  · intro callable inside
    obtain ⟨shared, operation, isEntry, succeeded⟩ := exists_operation converted inside
    obtain ⟨result, _, _, answered, -, -, built⟩ := Typing.ofOperation_ok succeeded
    obtain ⟨-, responses, isGiven, empty, loaded⟩ := Typing.result_ofResponses answered
    have isResult : callable.result = result := by rw [built]
    rw [← isResult] at empty loaded
    exact ⟨shared, operation, responses, isEntry, succeeded, isGiven, empty, loaded⟩

/-- The answer is a list that may be absent, of objects that may be absent as well. -/
def absentDocument : Document :=
  let name : Schema := { Schema.ofType "string" with nullable := some true }
  let pet : Schema :=
    { Schema.ofType "object" with
      vendorNullable := some true
      properties := [("name", name), ("tags", { Schema.ofType "array" with items := some name })] }
  .answering { Schema.ofType "array" with nullable := some true, items := some pet } []

private theorem walk_absentDocument :
    (Conversion.walk (.top absentDocument .empty)).value.toOption.map (fun found =>
      found.functions.length) = some 1 := by
  cbv

/-- The list of the answer is not nullable, its elements are so once. -/
theorem nullable_once_absent :
    ∃ connector callable, ofDocument absentDocument .empty = .ok connector ∧
      callable ∈ connector.functions ∧ callable.result.isNullable = false ∧
      ∀ type ∈ connector.types, type.isFlat = true := by
  obtain ⟨found, walked, one⟩ := exists_of_observed walk_absentDocument
  obtain ⟨connector, converted⟩ := converts_of_walk (by decide) rfl walked
  have isFound : connector.functions = found.functions := by
    obtain ⟨other, same, functions, -⟩ := ofDocument_ok converted
    cases walked.symm.trans same
    exact functions
  obtain ⟨callable, isOnly⟩ := List.length_eq_one_iff.1 one
  have inside : callable ∈ connector.functions := by
    rw [isFound, isOnly]
    exact List.mem_singleton_self callable
  obtain ⟨flat, results⟩ := nullable_once converted
  obtain ⟨shared, operation, responses, isEntry, -, isGiven, -, loaded⟩ :=
    results callable (List.mem_append_left _ inside)
  have hasSchema : chosenSchema? absentDocument responses ≠ none := by
    obtain ⟨-, -, -, rfl⟩ := Entry.operation.inj (List.mem_singleton.1 isEntry)
    cases isGiven
    decide
  exact ⟨connector, callable, converted, inside, loaded hasSchema, flat⟩

end Connector

end RestConnector
