import RestConnector.Proofs.Entries

/-!
Contract: what an operation that succeeds comes to.

Owns:
- `ofPlaced_ok`, `ofParameters_ok` and `ofOperation_ok`, which take a success apart;
- `chosenSchema?`, the schema of the response that stands for an operation, and `ofResponses_ok`,
  the result that comes of it;
- `Connector.exists_operation`, the operation behind each callable of a connector.

Does not own: the types of schemas, see `RestConnector.Proofs.Site`.
-/

namespace RestConnector

open Swagger (Document Linked Operation Parameter Response Responses Schema)

namespace Typing

variable {scope : Scope} {apiPath : String} {path : List String}

/-! ## Parameters -/

/-- A parameter with a name stands in a known place and has a type. -/
theorem ofPlaced_ok {parameter : Parameter} {placed : Placed}
    (succeeded : (ofPlaced scope apiPath path parameter).value = .ok placed) :
    ParameterPlace.ofName? parameter.location = some placed.place ∧
      placed.parameter = parameter ∧ parameter.name ≠ "" ∧
      (ofParameter scope apiPath
        (if placed.place = .body then path else path ++ [parameter.name])
        parameter).value = .ok placed.typed := by
  unfold ofPlaced at succeeded
  split at succeeded
  · cases succeeded
  · rename_i named
    split at succeeded
    · cases succeeded
    · rename_i known
      obtain ⟨typed, typedParameter, rfl⟩ := Outcome.map_ok_iff.1 succeeded
      have notEmpty : parameter.name ≠ "" := by simpa [String.isEmpty_iff] using named
      exact ⟨known, rfl, notEmpty, typedParameter⟩

theorem ofParameters_ok {parameters : List Parameter} {converted : Arguments}
    (succeeded : (ofParameters scope apiPath path parameters).value = .ok converted) :
    ∃ placed, (Outcome.forEach (ofPlaced scope apiPath path) parameters).value = .ok placed ∧
      converted = gather placed := by
  obtain ⟨placed, walked, rfl⟩ := Outcome.map_ok_iff.1 succeeded
  exact ⟨placed, walked, rfl⟩

/-- Each argument is that of a parameter. -/
theorem exists_parameter_of_argument {parameters : List Parameter} {converted : Arguments}
    (succeeded : (ofParameters scope apiPath path parameters).value = .ok converted)
    {entry : String × Argument} (inside : entry ∈ converted.arguments.entries) :
    ∃ parameter ∈ parameters, ∃ placed : Placed,
      (ofPlaced scope apiPath path parameter).value = .ok placed ∧
        entry = (placed.argumentName, placed.argument) := by
  obtain ⟨all, walked, rfl⟩ := ofParameters_ok succeeded
  obtain ⟨placed, among, rfl⟩ := List.mem_map.1 (NameMap.mem_entries_ofList inside)
  obtain ⟨parameter, isParameter, stepped⟩ := Outcome.exists_step_of_mem walked among
  exact ⟨parameter, isParameter, placed, stepped, rfl⟩

/-! ## Responses -/

/-- The schema of the response that stands for all of an operation, if there is such a response and
it has a schema. -/
def chosenSchema? (document : Document) (responses : Responses) : Option Schema := do
  let linked ← representative? responses
  let response ← document.response? linked
  response.schema

/-- A payload is that of a response that is found. -/
theorem payload_ok {linked : Linked Response} {schema : Option Schema}
    (succeeded : payload scope linked = .ok schema) :
    ∃ response, scope.document.response? linked = some response ∧ response.schema = schema := by
  unfold payload at succeeded
  split at succeeded
  · rename_i response isResponse
    exact ⟨response, isResponse, Except.ok.inj succeeded⟩
  · cases succeeded
  · rename_i response notFound
    cases notFound

/-- Where there is a result, it is of the chosen schema or it says that there is no payload. -/
theorem ofResponses_ok {given : Option Responses} {result : TypeTerm}
    (succeeded : (ofResponses scope apiPath path given).value = .ok (some result)) :
    ∃ responses, given = some responses ∧
      ((chosenSchema? scope.document responses = none ∧
          result = .nullable (.named booleanScalar)) ∨
        ∃ schema typed, chosenSchema? scope.document responses = some schema ∧
          (ofUse scope apiPath path schema false).value = .ok typed ∧
          result = typed.term.asPresent) := by
  cases given with
  | none => cases succeeded
  | some responses =>
    refine ⟨responses, rfl, ?_⟩
    unfold ofResponses at succeeded
    simp only at succeeded
    split at succeeded
    · cases succeeded
    · obtain ⟨term, chosen, last, -⟩ := Outcome.andThen_ok succeeded
      cases last
      unfold ofChosen at chosen
      split at chosen
      · rename_i noResponse
        cases chosen
        exact Or.inl ⟨by simp [chosenSchema?, noResponse], rfl⟩
      · rename_i linked isChosen
        obtain ⟨schema, found, typed, -⟩ := Outcome.andThen_ok chosen
        obtain ⟨response, isResponse, rfl⟩ := payload_ok found
        have same : chosenSchema? scope.document responses = response.schema := by
          simp [chosenSchema?, isChosen, isResponse]
        split at typed
        · rename_i noSchema
          cases typed
          exact Or.inl ⟨same.trans noSchema, rfl⟩
        · rename_i isSchema
          obtain ⟨used, typedUse, rfl⟩ := Outcome.map_ok_iff.1 typed
          exact Or.inr ⟨_, used, same.trans isSchema, typedUse, rfl⟩

/-! ## Operations -/

theorem ofOperation_ok {method : Method} {operation : Operation}
    {shared : List (Linked Parameter)} {callable : Callable}
    (succeeded : (ofOperation scope apiPath method operation shared).value = .ok (some callable)) :
    ∃ result parameters converted,
      (ofResponses scope apiPath [operationName scope apiPath method operation, "Result"]
        operation.responses).value = .ok (some result) ∧
      merge scope.document shared operation.parameters = .ok parameters ∧
      (ofParameters scope apiPath [operationName scope apiPath method operation]
        parameters).value = .ok converted ∧
      callable = {
        name := operationName scope apiPath method operation
        description := operationText? operation
        arguments := converted.arguments
        result := result
        request := {
          url := apiPath
          method := method
          parameters := converted.parameters
          body := settledBody scope method operation converted.body
          security := securityRules operation.security } } := by
  unfold ofOperation at succeeded
  obtain ⟨given, answered, succeeded, -⟩ := Outcome.andThen_ok succeeded
  cases given with
  | none => cases succeeded
  | some result =>
    obtain ⟨parameters, merged, succeeded, -⟩ := Outcome.andThen_ok succeeded
    obtain ⟨converted, typed, last, -⟩ := Outcome.andThen_ok succeeded
    cases last
    exact ⟨result, parameters, converted, answered, merged, typed, rfl⟩

end Typing

namespace Connector

open Conversion (Entry entries)
open Typing (Outcome Scope)

/-- Behind each callable there is an operation of the document. -/
theorem exists_operation {document : Document} {preferences : Preferences} {connector : Connector}
    (converted : ofDocument document preferences = .ok connector) {callable : Callable}
    (inside : callable ∈ connector.functions ++ connector.procedures) :
    ∃ shared operation,
      .operation callable.request.url shared callable.request.method operation ∈
        entries document ∧
      (Typing.ofOperation (.top document preferences) callable.request.url
        callable.request.method operation shared).value = .ok (some callable) := by
  obtain ⟨parts, walked, same⟩ := forEach_entries_ok converted
  obtain ⟨part, among, own⟩ : ∃ part ∈ parts, callable ∈ part.functions ++ part.procedures := by
    have gatheredFunctions : parts.flatMap (·.functions) = connector.functions :=
      congrArg Typing.Callables.functions same
    have gatheredProcedures : parts.flatMap (·.procedures) = connector.procedures :=
      congrArg Typing.Callables.procedures same
    rw [← gatheredFunctions, ← gatheredProcedures] at inside
    simp only [List.mem_append, List.mem_flatMap] at inside ⊢
    rcases inside with ⟨part, among, own⟩ | ⟨part, among, own⟩
    · exact ⟨part, among, Or.inl own⟩
    · exact ⟨part, among, Or.inr own⟩
  obtain ⟨entry, isEntry, stepped⟩ := Outcome.exists_step_of_mem walked among
  have alone : (entry.outcome (.top document preferences)).value = .ok part :=
    Entry.located_ok.1 stepped
  cases entry with
  | operation apiPath shared method operation =>
    obtain ⟨found, succeeded, rfl⟩ := Outcome.map_ok_iff.1 alone
    have isFound : found = some callable := by
      unfold Conversion.callablesOf at own
      split at own <;> simpa using own
    subst isFound
    obtain ⟨result, parameters, arguments, -, -, -, built⟩ := Typing.ofOperation_ok succeeded
    have isUrl : callable.request.url = apiPath := by rw [built]
    have isMethod : callable.request.method = method := by rw [built]
    rw [isUrl, isMethod]
    exact ⟨shared, operation, isEntry, succeeded⟩
  | definition name schema =>
    obtain ⟨_, -, rfl⟩ := Outcome.map_ok_iff.1 alone
    cases own
  | credential key scheme =>
    obtain ⟨_, -, rfl⟩ := Outcome.map_ok_iff.1 alone
    cases own

end Connector

end RestConnector
