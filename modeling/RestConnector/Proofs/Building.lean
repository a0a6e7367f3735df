import RestConnector.Proofs.Site
import RestConnector.Typing.Operation

/-!
Contract: every typing is put together from the same few steps.

Owns:
- `Event.Writes`, the writes that typings make;
- `Outcome.Built`, the outcomes of single steps and of their combinations, and `Balanced`, their logs;
- for each function from schemas up to single operations, that its outcomes are built;
- two facts about all of them: what is opened is closed again, and no fault names an API path.

Does not own: the walk over a document, which puts API paths on faults.

A statement about the events or the faults of all typings is one induction over `Built`, which has a
case for each step and none for each function.  What is being expanded is an index, because only the
expansion of a definition changes it.
-/

namespace RestConnector

open Swagger (Document Linked Operation Parameter ParameterItems Response Responses Schema)

/-- The definitions that are expanded where they are used. -/
def Swagger.Document.expandable (document : Document) : List String :=
  (document.definitions.filter fun entry => !entry.2.isObjectLike).map Prod.fst

theorem Swagger.Document.mem_expandable {document : Document} {name : String} {target : Schema}
    (found : document.definition? name = some target) (notObject : target.isObjectLike = false) :
    name ∈ document.expandable := by
  refine List.mem_map.2 ⟨(name, target), List.mem_filter.2 ⟨Members.mem_of_find? found, ?_⟩, rfl⟩
  rw [notObject]
  rfl

namespace Typing

/-- The writes of which typings are made: an object, and a scalar that is of any form or that of a
primitive type. -/
inductive Event.Writes : Event → Prop where
  | put (name : String) (object : ObjectDefinition) : Writes (.put name object)
  | set (name : String) : Writes (.set name anyScalar)
  | offer (name : String) : Writes (.offer name anyScalar)
  | primitive (scope : Scope) (apiPath : String) (path : List String) (type : String)
      (format : Option String) (choices : List Json) :
      Writes (.offer (Typing.primitive scope apiPath path type format choices).1
        (.ofForm (Typing.primitive scope apiPath path type format choices).2))

/-- The steps from which outcomes are put together while some definitions are being expanded. -/
inductive Outcome.Built (document : Document) :
    List String → {α : Type} → Outcome α → Prop where
  | ok {opened : List String} {α : Type} (value : α) : Built document opened (.ok value)
  | fail {opened : List String} {α : Type} (cause : Cause) (path : List String) :
      Built document opened (.fail ((Fault.bare cause).atField path) : Outcome α)
  | write {opened : List String} {event : Event} (writes : event.Writes) :
      Built document opened (.emit event)
  | andThen {opened : List String} {α β : Type} {first : Outcome α} {next : α → Outcome β}
      (start : Built document opened first) (rest : ∀ value, Built document opened (next value)) :
      Built document opened (first.andThen next)
  | within {opened : List String} {α : Type} {name : String} {outcome : Outcome α}
      (expandable : name ∈ document.expandable) (fresh : name ∉ opened)
      (inside : Built document (name :: opened) outcome) :
      Built document opened (outcome.within name)

/-- The logs of typings while some definitions are in progress: writes, with definitions opened and
closed around some of them.  One is opened only if it is no object and not in progress. -/
inductive Balanced (document : Document) : List String → List Event → Prop where
  | nil {opened : List String} : Balanced document opened []
  | write {opened : List String} {event : Event} (writes : event.Writes) :
      Balanced document opened [event]
  | append {opened : List String} {front back : List Event}
      (first : Balanced document opened front) (second : Balanced document opened back) :
      Balanced document opened (front ++ back)
  | within {opened : List String} {name : String} {log : List Event}
      (expandable : name ∈ document.expandable) (fresh : name ∉ opened)
      (inside : Balanced document (name :: opened) log) :
      Balanced document opened (.opened name :: log ++ [.closed name])

namespace Balanced

variable {document : Document} {opened : List String} {α β : Type}

theorem andThen {first : Outcome α} {next : α → Outcome β}
    (start : Balanced document opened first.log)
    (rest : ∀ value, Balanced document opened (next value).log) :
    Balanced document opened (first.andThen next).log := by
  cases result : first.value with
  | error fault =>
    rw [Outcome.andThen_of_error result]
    exact start
  | ok value =>
    rw [Outcome.andThen_of_ok result]
    exact start.append (rest value)

theorem map {first : Outcome α} {change : α → β} (start : Balanced document opened first.log) :
    Balanced document opened (first.andThen fun value => .ok (change value)).log := by
  rw [Outcome.log_andThen_ok]
  exact start

theorem forEach {step : α → Outcome β} {members : List α}
    (steps : ∀ member ∈ members, Balanced document opened (step member).log) :
    Balanced document opened (Outcome.forEach step members).log := by
  induction members with
  | nil => exact .nil
  | cons member rest inductionHypothesis =>
    refine (steps member List.mem_cons_self).andThen ?_
    intro value
    refine (inductionHypothesis ?_).map
    intro other inside
    exact steps other (List.mem_cons_of_mem member inside)

/-- What is opened is closed again. -/
theorem expanding_replay {log : List Event} (balanced : Balanced document opened log)
    (state : State) : (state.replay log).expanding = state.expanding := by
  induction balanced generalizing state with
  | nil => rfl
  | write writes => cases writes <;> rfl
  | append first second firstHypothesis secondHypothesis =>
    rw [State.replay_append, secondHypothesis, firstHypothesis]
  | @within opened name log _ _ inside insideHypothesis =>
    have reached : (state.replay (.opened name :: log ++ [.closed name])).expanding =
        ((state.apply (.opened name)).replay log).expanding.erase name := by
      simp only [List.cons_append, State.replay_cons, State.replay_append]
      rfl
    rw [reached, insideHypothesis]
    exact List.erase_cons_head name state.expanding

end Balanced

namespace Outcome.Built

variable {document : Document} {opened : List String} {α β : Type}

/-! ## Derived steps -/

theorem map {first : Outcome α} {change : α → β} (start : Built document opened first) :
    Built document opened (first.andThen fun value => .ok (change value)) :=
  start.andThen fun value => .ok (change value)

theorem put (name : String) (object : ObjectDefinition) :
    Built document opened (.emit (.put name object)) :=
  .write (.put name object)

theorem set (name : String) : Built document opened (.emit (.set name anyScalar)) :=
  .write (.set name)

theorem offer (name : String) : Built document opened (.emit (.offer name anyScalar)) :=
  .write (.offer name)

theorem bare (cause : Cause) : Built document opened (.fail (.bare cause) : Outcome α) :=
  .fail cause []

theorem ofExcept {result : Except Fault α}
    (isBare : ∀ fault, result = .error fault → ∃ cause, fault = .bare cause) :
    Built document opened (Outcome.ofExcept result) := by
  cases result with
  | ok value => exact .ok value
  | error fault =>
    obtain ⟨cause, rfl⟩ := isBare fault rfl
    exact .bare cause

theorem forEach {step : α → Outcome β} {members : List α}
    (steps : ∀ member ∈ members, Built document opened (step member)) :
    Built document opened (.forEach step members) := by
  induction members with
  | nil => exact .ok []
  | cons member rest inductionHypothesis =>
    refine (steps member List.mem_cons_self).andThen ?_
    intro value
    refine (inductionHypothesis ?_).map
    intro other inside
    exact steps other (List.mem_cons_of_mem member inside)

/-! ## What holds of all that is built -/

theorem balanced {outcome : Outcome α} (built : Built document opened outcome) :
    Balanced document opened outcome.log := by
  induction built with
  | ok value => exact .nil
  | fail cause path => exact .nil
  | write writes => exact .write writes
  | andThen start rest startHypothesis restHypothesis => exact startHypothesis.andThen restHypothesis
  | within expandable fresh inside insideHypothesis => exact .within expandable fresh insideHypothesis

/-- What is opened is closed again, after a fault as well. -/
theorem expanding_replay {outcome : Outcome α} (built : Built document opened outcome)
    (state : State) : (state.replay outcome.log).expanding = state.expanding :=
  built.balanced.expanding_replay state

/-- Faults are reported for fields at most. -/
theorem apiPath?_of_error {outcome : Outcome α} {fault : Fault}
    (built : Built document opened outcome) (failed : outcome.value = .error fault) :
    fault.apiPath? = none := by
  induction built with
  | ok value => cases failed
  | fail cause path =>
    cases failed
    cases path <;> rfl
  | write writes => cases failed
  | @andThen _ _ _ first next _ _ startHypothesis restHypothesis =>
    cases result : first.value with
    | error other =>
      rw [andThen_of_error result] at failed
      cases failed
      exact startHypothesis result
    | ok value =>
      rw [andThen_of_ok result] at failed
      exact restHypothesis value failed
  | within expandable fresh inside insideHypothesis => exact insideHypothesis failed

end Outcome.Built

open Outcome (Built)

/-! ## Schemas -/

namespace Site

private theorem scalarOutcome_built {document : Document} {opened : List String} {event : Event}
    (site : Site) (written : Built document opened (.emit event)) (name kind : String) :
    Built document opened (site.scalarOutcome event name kind) :=
  written.map

theorem built (site : Site) : Built site.scope.document site.scope.expanding site.outcome := by
  induction site using Site.induct with
  | step site inductionHypothesis =>
    rw [site.outcome_eq]
    cases isKind : site.kind with
    | dangling reference => exact .fail _ _
    | object name => exact .ok _
    | recurring name =>
      exact (Built.offer (Identifier.pascal name)).andThen fun _ => .ok (pointer name)
    | expanded name target =>
      obtain ⟨found, notObject, notOpen⟩ := kind_eq_expanded isKind
      have fresh : name ∉ site.scope.expanding := by
        simpa using notOpen
      have inside := inductionHypothesis _ (expansion_mem_parts isKind)
      exact .within (Document.mem_expandable found notObject) fresh inside
    | untyped => exact site.scalarOutcome_built (.offer _) _ _
    | undeclared => exact .fail _ _
    | primitive type => exact site.scalarOutcome_built (.write (.primitive _ _ _ _ _ _)) _ _
    | formless scalar => exact site.scalarOutcome_built (.set _) _ _
    | record name =>
      have fields : Built site.scope.document site.scope.expanding
          (Outcome.forEach site.fieldOutcome site.schema.properties) := by
        refine .forEach ?_
        intro entry inside
        exact (inductionHypothesis _ (property_mem_parts isKind inside)).map
      refine fields.andThen ?_
      intro found
      exact (Built.put _ _).map
    | itemless => exact .fail _ _
    | array items =>
      exact (inductionHypothesis _ (element_mem_parts isKind)).map
    | unsupported type => exact .fail _ _

end Site

variable {scope : Scope} {apiPath : String} {path : List String}

theorem ofUse_built (schema : Schema) (nullable : Bool) :
    Built scope.document scope.expanding (ofUse scope apiPath path schema nullable) := by
  rw [ofUse_eq]
  exact (Site.ofUse scope apiPath path schema).built.map

theorem ofPrimitive_built (type : String) (format : Option String) (choices : List Json) :
    Built scope.document scope.expanding (ofPrimitive scope apiPath path type format choices) := by
  unfold ofPrimitive
  exact (Built.write (.primitive scope apiPath path type format choices)).map

theorem ofDefinition_built (name : String) (schema : Schema) :
    Built scope.document scope.expanding (ofDefinition scope name schema) := by
  unfold ofDefinition
  split
  · exact (Site.built ⟨scope, "", [name], schema⟩).map
  · exact .ok ()

/-! ## Parameters -/

theorem ofItems_built (items : ParameterItems) :
    Built scope.document scope.expanding (ofItems scope apiPath path items) := by
  fun_induction ofItems scope apiPath path items with
  | case1 => exact .fail _ _
  | case2 => exact .fail _ _
  | case3 _ _ _ _ nested _ inductionHypothesis => exact inductionHypothesis.map
  | case4 => exact (ofPrimitive_built _ _ _).map
  | case5 => exact .fail _ _

theorem ofSimple_built (parameter : Parameter) :
    Built scope.document scope.expanding (ofSimple scope apiPath path parameter) := by
  unfold ofSimple
  simp only
  split
  · exact .fail _ _
  · split
    · split
      · exact .fail _ _
      · exact (ofItems_built _).map
    · split
      · exact (ofPrimitive_built _ _ _).map
      · exact .fail _ _

theorem ofParameter_built (parameter : Parameter) :
    Built scope.document scope.expanding (ofParameter scope apiPath path parameter) := by
  unfold ofParameter
  split
  · exact (ofUse_built _ _).map
  · exact (ofSimple_built parameter).map

theorem ofPlaced_built (parameter : Parameter) :
    Built scope.document scope.expanding (ofPlaced scope apiPath path parameter) := by
  unfold ofPlaced
  split
  · exact .fail _ _
  · simp only
    split
    · exact .fail _ _
    · exact (ofParameter_built parameter).map

theorem ofParameters_built (parameters : List Parameter) :
    Built scope.document scope.expanding (ofParameters scope apiPath path parameters) :=
  (Built.forEach fun parameter _ => ofPlaced_built parameter).map

/-! ## Operations -/

/-- A response or a parameter that is not found is at fault without a place. -/
theorem payload_bare {linked : Linked Response} {fault : Fault}
    (failed : payload scope linked = .error fault) : ∃ cause, fault = .bare cause := by
  unfold payload at failed
  split at failed
  · cases failed
  · exact ⟨_, (Except.error.inj failed).symm⟩
  · cases failed

theorem lookedUp_bare {document : Document} {linked : Linked Parameter} {fault : Fault}
    (failed : lookedUp document linked = .error fault) : ∃ cause, fault = .bare cause := by
  unfold lookedUp at failed
  split at failed
  · cases failed
  · exact ⟨_, (Except.error.inj failed).symm⟩
  · cases failed

theorem merge_bare {document : Document} {shared own : List (Linked Parameter)} {fault : Fault}
    (failed : merge document shared own = .error fault) : ∃ cause, fault = .bare cause := by
  unfold merge at failed
  cases common : shared.mapM (lookedUp document) with
  | error other =>
    rw [common] at failed
    cases failed
    obtain ⟨linked, -, missing⟩ := Outcome.mapM_error common
    exact lookedUp_bare missing
  | ok found =>
    rw [common] at failed
    cases others : own.mapM (lookedUp document) with
    | error other =>
      rw [others] at failed
      cases failed
      obtain ⟨linked, -, missing⟩ := Outcome.mapM_error others
      exact lookedUp_bare missing
    | ok found =>
      rw [others] at failed
      cases failed

theorem ofChosen_built (chosen : Option (Linked Response)) :
    Built scope.document scope.expanding (ofChosen scope apiPath path chosen) := by
  have nothing : Built scope.document scope.expanding emptyResult :=
    (Built.write (.primitive scope apiPath path "boolean" none [])).map
  unfold ofChosen
  split
  · exact nothing
  · refine (Built.ofExcept fun fault failed => payload_bare failed).andThen ?_
    intro schema
    split
    · exact nothing
    · exact (ofUse_built _ _).map

theorem ofResponses_built (responses : Option Responses) :
    Built scope.document scope.expanding (ofResponses scope apiPath path responses) := by
  unfold ofResponses
  split
  · exact .ok none
  · split
    · exact .ok none
    · exact (ofChosen_built _).map

theorem ofOperation_built (method : Method) (operation : Operation)
    (shared : List (Linked Parameter)) :
    Built scope.document scope.expanding (ofOperation scope apiPath method operation shared) := by
  unfold ofOperation
  refine (ofResponses_built _).andThen ?_
  intro result
  cases result with
  | none => exact .ok none
  | some result =>
    refine (Built.ofExcept fun fault failed => merge_bare failed).andThen ?_
    intro parameters
    exact (ofParameters_built parameters).map

end Typing

end RestConnector
