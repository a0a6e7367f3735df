import RestConnector.Proofs.Closure

/-!
Contract: sequences of typings that share one state.

Owns:
- `Call`, a typing that a caller asks for, and `Session`, the state and the types returned so far;
- `Session.run_accounts`: after any calls, every name in a type is registered or promised.

Does not own: the conversion of a document, which is one such sequence.

The calls have any arguments, and each of them may fail; it then returns no type, and what it wrote
before its fault stays.
-/

namespace RestConnector.Typing

open Swagger (Document Schema)

/-- A typing that a caller asks for. -/
inductive Call where
  | typeNode (apiPath : String) (path : List String) (schema : Schema)
  | typeUse (apiPath : String) (path : List String) (schema : Schema) (nullable : Bool)
  | register (name : String) (schema : Schema)
  | typeParameters (apiPath : String) (path : List String) (parameters : List Swagger.Parameter)
  | typeResponses (apiPath : String) (path : List String) (responses : Option Swagger.Responses)
  | typeOperation (apiPath : String) (method : Method) (operation : Swagger.Operation)
      (shared : List (Swagger.Linked Swagger.Parameter))
  | typePathItem (apiPath : String) (item : Swagger.PathItem)

/-- The outcome of a call with the types that it returns. -/
def Call.outcome (scope : Scope) : Call → Outcome (List TypeTerm)
  | .typeNode apiPath path schema =>
    (ofNode scope apiPath path schema).andThen fun typed => .ok [typed.term]
  | .typeUse apiPath path schema nullable =>
    (ofUse scope apiPath path schema nullable).andThen fun typed => .ok [typed.term]
  | .register name schema => (ofDefinition scope name schema).andThen fun _ => .ok []
  | .typeParameters apiPath path parameters =>
    (ofParameters scope apiPath path parameters).andThen fun found =>
      .ok (argumentTypes found.arguments)
  | .typeResponses apiPath path responses =>
    (ofResponses scope apiPath path responses).andThen fun result => .ok result.toList
  | .typeOperation apiPath method operation shared =>
    (ofOperation scope apiPath method operation shared).andThen fun callable =>
      .ok (callable.toList.flatMap callableTypes)
  | .typePathItem apiPath item =>
    (ofPathItem scope apiPath item).andThen fun callables => .ok callables.types

theorem Call.outcome_closes (scope : Scope) (call : Call) :
    Closes scope.document [] (call.outcome scope) fun types => types.map TypeTerm.leaf := by
  cases call with
  | typeNode apiPath path schema =>
    exact (Site.closes ⟨scope, apiPath, path, schema⟩).map fun _ _ mentioned => mentioned
  | typeUse apiPath path schema nullable =>
    exact (ofUse_closes schema nullable).map fun _ _ mentioned => mentioned
  | register name schema =>
    exact (ofDefinition_closes name schema).map fun _ _ mentioned => mentioned
  | typeParameters apiPath path parameters =>
    exact (ofParameters_closes parameters).map fun _ _ mentioned => mentioned
  | typeResponses apiPath path responses =>
    exact (ofResponses_closes responses).map fun _ _ mentioned => mentioned
  | typeOperation apiPath method operation shared =>
    exact (ofOperation_closes method operation shared).map fun _ _ mentioned => mentioned
  | typePathItem apiPath item =>
    exact (ofPathItem_closes item).map fun _ _ mentioned => mentioned

/-- The state that calls share, and the types that they have returned. -/
structure Session where
  state : State
  returned : List TypeTerm

namespace Session

/-- No call has been made. -/
def start : Session := ⟨.empty, []⟩

def step (document : Document) (preferences : Preferences) (session : Session) (call : Call) :
    Session :=
  let outcome := call.outcome ⟨document, preferences, session.state.expanding⟩
  let types := match outcome.value with
    | .ok types => types
    | .error _ => []
  ⟨session.state.replay outcome.log, session.returned ++ types⟩

def run (document : Document) (preferences : Preferences) (calls : List Call) : Session :=
  calls.foldl (step document preferences) start

/-- The names in the types returned so far and in the fields of the objects in the catalog. -/
def mentions (session : Session) : List String :=
  session.returned.map TypeTerm.leaf ++ session.state.catalog.mentions

/-- All names of a session are accounted for. -/
def Closed (document : Document) (session : Session) : Prop :=
  ∀ name ∈ session.mentions, session.state.catalog.Accounts document name

theorem closed_start (document : Document) : Closed document start := by
  intro name mentioned
  cases mentioned

theorem closed_step {document : Document} {session : Session} (closed : Closed document session)
    (preferences : Preferences) (call : Call) :
    Closed document (step document preferences session call) := by
  let outcome := call.outcome ⟨document, preferences, session.state.expanding⟩
  have before : session.state.catalog.Closed document := fun name mentioned =>
    closed name (List.mem_append_right _ mentioned)
  obtain ⟨after, accounted⟩ := Call.outcome_closes ⟨document, preferences, session.state.expanding⟩
    call session.state before (by intro name member; cases member)
  intro name mentioned
  rcases List.mem_append.1 mentioned with returned | inCatalog
  · obtain ⟨type, among, rfl⟩ := List.mem_map.1 returned
    rcases List.mem_append.1 among with old | new
    · exact State.accounts_replay outcome.log
        (closed type.leaf (List.mem_append_left _ (List.mem_map_of_mem old)))
    · -- a call that fails returns no types, so only a success adds any
      cases result : outcome.value with
      | error fault =>
        simp only [outcome] at result
        rw [result] at new
        cases new
      | ok types =>
        simp only [outcome] at result
        rw [result] at new
        exact accounted types result type.leaf (List.mem_map_of_mem new)
  · exact after name inCatalog

theorem closed_run {document : Document} {session : Session} (closed : Closed document session)
    (preferences : Preferences) (calls : List Call) :
    Closed document (calls.foldl (step document preferences) session) := by
  induction calls generalizing session with
  | nil => exact closed
  | cons call rest inductionHypothesis =>
    exact inductionHypothesis (closed_step closed preferences call)

/-- After any calls, each name in a type that was returned or that a field has is registered, or it
is the name of an object among the definitions of the document. -/
theorem run_accounts (document : Document) (preferences : Preferences) (calls : List Call)
    (name : String) (mentioned : name ∈ (run document preferences calls).mentions) :
    (run document preferences calls).state.catalog.registers name = true ∨
      ∃ entry ∈ document.definitions,
        entry.2.isObjectLike = true ∧ Identifier.pascal entry.1 = name :=
  closed_run (closed_start document) preferences calls name mentioned

/-- A document that defines an object, which no call registers. -/
def ownerDocument : Document :=
  { Document.empty with definitions := [("Owner", { Schema.empty with types := ["object"] })] }

/-- A call that puts an inner object before the outer one turns out to be faulty. -/
def faultyCall : Call :=
  let list : Schema := { Schema.empty with types := ["array"] }
  let text : Schema := { Schema.empty with types := ["string"] }
  let inner : Schema := { Schema.empty with properties := [("name", text)] }
  .typeNode "/houses" ["House"]
    { Schema.empty with properties := [("keeper", inner), ("rooms", list)] }

/-- The type of the object by its name. -/
def ownerCall : Call :=
  .typeUse "/owners" ["Result"] { Schema.empty with reference := some "#/definitions/Owner" } false

private theorem ownerCall_outcome (scope : Scope) (sees : scope.document = ownerDocument) :
    ownerCall.outcome scope = .ok [.named "Owner"] := by
  have points : Swagger.Pointer.definition? "#/definitions/Owner" = some "Owner" := by
    decide +kernel
  have found : scope.document.definition? "Owner" =
      some { Schema.empty with types := ["object"] } := by
    rw [sees]
    rfl
  have name : Identifier.pascal "Owner" = "Owner" := by decide +kernel
  unfold Call.outcome ownerCall
  simp only
  rw [ofUse_eq, Site.outcome_of_object rfl points found rfl]
  show Outcome.ok [TypeTerm.named (Identifier.pascal "Owner")] = _
  rw [name]

/-- After a call that fails and one that does not, the name of the object is accounted for. -/
theorem run_accounts_owner :
    "Owner" ∈ (run ownerDocument .empty [faultyCall, ownerCall]).mentions ∧
      ((run ownerDocument .empty [faultyCall, ownerCall]).state.catalog.registers "Owner" = true ∨
        ∃ entry ∈ ownerDocument.definitions,
          entry.2.isObjectLike = true ∧ Identifier.pascal entry.1 = "Owner") := by
  have mentioned : "Owner" ∈ (run ownerDocument .empty [faultyCall, ownerCall]).mentions := by
    refine List.mem_append_left _ (List.mem_map.2 ⟨.named "Owner", ?_, rfl⟩)
    show _ ∈ (step ownerDocument .empty (step ownerDocument .empty start faultyCall)
      ownerCall).returned
    unfold step
    rw [ownerCall_outcome _ rfl]
    exact List.mem_append_right _ List.mem_cons_self
  exact ⟨mentioned, run_accounts ownerDocument .empty [faultyCall, ownerCall] "Owner" mentioned⟩

end Session

end RestConnector.Typing
