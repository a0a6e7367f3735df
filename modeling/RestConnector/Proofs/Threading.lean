import RestConnector.Proofs.Histories
import RestConnector.Proofs.Progress
import RestConnector.Threaded

/-!
Contract: typings that are handed a state come to what typings that list their events come to.

Owns:
- `Threaded.Performs`, what both forms of a typing have in common, with a rule for each way to
  combine typings;
- for each typing of `RestConnector.Threaded`, that it performs that of `RestConnector.Typing`;
- `settled_foldl_add`: one loop over parameters comes to what they come to together;
- `convert_eq`, for documents, and `run_eq`, for tasks that share a state;
- `value_ofTask_eq`: what is in the catalog does not change the result of a task.

Does not own: what the events of a typing are, see `RestConnector.Proofs.Trace`.

A typing that is handed a state could look at the catalog.  That none of them does is what the right
side of `Performs` says: the result and the events are those of an outcome, which knows no catalog.
-/

namespace RestConnector

/-! ## The loop over parameters -/

namespace Typing

namespace Gathering

variable (gathering : Gathering) (member : Placed) (placed : List Placed)

theorem arguments_add : (gathering.add member).arguments =
    gathering.arguments.insert member.argumentName member.argument := by
  unfold add Placed.argumentName
  cases member.place <;> rfl

theorem parameters_add : (gathering.add member).parameters =
    gathering.parameters ++ if member.isOutside then [member.sent] else [] := by
  unfold add Placed.isOutside
  cases member.place <;> simp

theorem body_add : (gathering.add member).body =
    if member.place == .body then some ⟨jsonType, member.typed.shape⟩ else gathering.body := by
  unfold add
  cases member.place <;> rfl

theorem form_add : (gathering.add member).form =
    if member.place == .formData then
      let form := gathering.form.getD (.ofKind "object")
      some { form with
        properties := Members.assign member.parameter.name member.typed.shape form.properties }
    else gathering.form := by
  unfold add
  cases member.place <;> rfl

theorem arguments_foldl_add : (placed.foldl add gathering).arguments =
    (placed.map fun member => (member.argumentName, member.argument)).foldl
      (fun table pair => table.insert pair.1 pair.2) gathering.arguments := by
  induction placed generalizing gathering with
  | nil => rfl
  | cons member rest inductionHypothesis =>
    rw [List.foldl_cons, inductionHypothesis, arguments_add, List.map_cons, List.foldl_cons]

theorem parameters_foldl_add : (placed.foldl add gathering).parameters =
    gathering.parameters ++ (placed.filter Placed.isOutside).map Placed.sent := by
  induction placed generalizing gathering with
  | nil => exact (List.append_nil _).symm
  | cons member rest inductionHypothesis =>
    rw [List.foldl_cons, inductionHypothesis, parameters_add, List.filter_cons, List.append_assoc]
    split <;> rfl

theorem body_foldl_add : (placed.foldl add gathering).body =
    (plainBody? placed).or gathering.body := by
  induction placed generalizing gathering with
  | nil => rfl
  | cons member rest inductionHypothesis =>
    rw [List.foldl_cons, inductionHypothesis, body_add, plainBody?, plainBody?, List.filter_cons]
    split
    · rw [List.getLast?_cons]
      cases (rest.filter fun member => member.place == .body).getLast? <;> rfl
    · rfl

theorem form_foldl_add : (placed.foldl add gathering).form =
    match placed.filter fun member => member.place == .formData with
    | [] => gathering.form
    | fields =>
      let form := gathering.form.getD (.ofKind "object")
      let shapes := fields.map fun field => (field.parameter.name, field.typed.shape)
      some { form with properties := Members.collapseOnto form.properties shapes } := by
  induction placed generalizing gathering with
  | nil => rfl
  | cons member rest inductionHypothesis =>
    rw [List.foldl_cons, inductionHypothesis, form_add, List.filter_cons]
    by_cases isForm : (member.place == .formData) = true
    · rw [if_pos isForm, if_pos isForm]
      cases rest.filter fun member => member.place == .formData <;> rfl
    · rw [if_neg isForm, if_neg isForm]

end Gathering

/-- The loop over typed parameters comes to what they come to together. -/
theorem settled_foldl_add (placed : List Placed) :
    (placed.foldl Gathering.add .nothing).settled = gather placed := by
  have form : ((placed.foldl Gathering.add .nothing).form.map fun form =>
      RequestBody.mk multipartType form) = formBody? placed := by
    rw [Gathering.form_foldl_add, formBody?]
    cases placed.filter fun member => member.place == .formData <;> rfl
  unfold Gathering.settled
  rw [form, Gathering.arguments_foldl_add, Gathering.parameters_foldl_add,
    Gathering.body_foldl_add]
  show Arguments.mk _ _ ((formBody? placed).or ((plainBody? placed).or none)) = _
  rw [Option.or_none]
  rfl

end Typing

open Typing (Outcome State)

/-! ## Rules -/

namespace Threaded

section Rules

variable {names : List String} {α β γ δ : Type}

/-- A typing that is handed a state performs an outcome: it has the same result, and it hands on the
state to which the events lead. -/
def Performs (typing : Threaded names α) (outcome : Outcome α) : Prop :=
  ∀ progress, (typing progress).1 = outcome.value ∧
    (typing progress).2.state = progress.state.replay outcome.log

theorem andThen_of_ok {first : Threaded names α} {next : α → Threaded names β}
    {progress reached : Progress names} {value : α} (came : first progress = (.ok value, reached)) :
    first.andThen next progress = next value reached := by
  unfold andThen
  rw [came]

theorem andThen_of_error {first : Threaded names α} {next : α → Threaded names β}
    {progress reached : Progress names} {fault : Fault}
    (came : first progress = (.error fault, reached)) :
    first.andThen next progress = (.error fault, reached) := by
  unfold andThen
  rw [came]

namespace Performs

theorem ok (value : α) : Performs (.ok value : Threaded names α) (.ok value) :=
  fun _ => ⟨rfl, rfl⟩

theorem fail (fault : Fault) : Performs (.fail fault : Threaded names α) (.fail fault) :=
  fun _ => ⟨rfl, rfl⟩

theorem ofExcept (result : Except Fault α) :
    Performs (.ofExcept result : Threaded names α) (.ofExcept result) :=
  fun _ => ⟨rfl, rfl⟩

theorem ite {condition : Prop} [Decidable condition] {one other : Threaded names α}
    {first second : Outcome α} (positive : condition → Performs one first)
    (negative : ¬ condition → Performs other second) :
    Performs (if condition then one else other) (if condition then first else second) := by
  split
  · exact positive ‹_›
  · exact negative ‹_›

theorem perform (write : Catalog.Write) :
    Performs (.perform write : Threaded names Unit) (.emit write.event) := by
  intro progress
  refine ⟨rfl, ?_⟩
  cases write <;> rfl

theorem seeing {decide : Progress names → Threaded names α} {outcome : Outcome α}
    (performs : ∀ progress, Performs (decide progress) outcome) :
    Performs (.seeing decide) outcome :=
  fun progress => performs progress progress

theorem andThen {first : Threaded names α} {next : α → Threaded names β} {outcome : Outcome α}
    {others : α → Outcome β} (performs : Performs first outcome)
    (performsNext : ∀ value, Performs (next value) (others value)) :
    Performs (first.andThen next) (outcome.andThen others) := by
  intro progress
  obtain ⟨value, state⟩ := performs progress
  cases came : first progress with
  | mk result reached =>
    rw [came] at value state
    cases result with
    | error fault =>
      rw [andThen_of_error came, Outcome.andThen_of_error value.symm]
      exact ⟨rfl, state⟩
    | ok between =>
      obtain ⟨lastValue, lastState⟩ := performsNext between reached
      rw [andThen_of_ok came, Outcome.andThen_of_ok value.symm, State.replay_append, ← state]
      exact ⟨lastValue, lastState⟩

/-- What a typing comes to is made into something else. -/
theorem map {typing : Threaded names α} {outcome : Outcome α} (performs : Performs typing outcome)
    (result : α → β) :
    Performs (typing.andThen fun value => .ok (result value))
      (outcome.andThen fun value => .ok (result value)) :=
  performs.andThen fun value => .ok (result value)

theorem mapFault {typing : Threaded names α} {outcome : Outcome α}
    (performs : Performs typing outcome) (change : Fault → Fault) :
    Performs (typing.mapFault change) (outcome.mapFault change) := by
  intro progress
  obtain ⟨value, state⟩ := performs progress
  rw [Outcome.log_mapFault]
  unfold Threaded.mapFault Outcome.mapFault
  cases came : typing progress with
  | mk result reached =>
    rw [came] at value state
    rw [← value]
    cases result <;> exact ⟨rfl, state⟩

theorem within {name : String} {typing : Threaded (name :: names) α} {outcome : Outcome α}
    (performs : Performs typing outcome) : Performs (typing.within name) (outcome.within name) := by
  intro progress
  obtain ⟨value, state⟩ := performs (progress.enter name)
  refine ⟨value, ?_⟩
  show (typing (progress.enter name)).2.state.apply (.closed name) = _
  rw [state]
  exact (State.replay_append (progress.state.apply (.opened name)) outcome.log [.closed name]).symm

/-- A loop over a list performs a walk over it whose values are added up. -/
theorem fold (add : β → γ → β) {step : β → α → Threaded names β} {outcome : α → Outcome γ}
    (performs : ∀ start member,
      Performs (step start member) ((outcome member).andThen fun value => .ok (add start value)))
    (start : β) (members : List α) :
    Performs (Threaded.fold step start members)
      ((Outcome.forEach outcome members).andThen fun values => .ok (values.foldl add start)) := by
  induction members generalizing start with
  | nil => exact ok start
  | cons member rest inductionHypothesis =>
    have whole := (performs start member).andThen inductionHypothesis
    rw [Outcome.andThen_assoc] at whole
    rw [Threaded.fold, Outcome.forEach, Outcome.andThen_assoc]
    simp only [Outcome.andThen_assoc, Outcome.ok_andThen, List.foldl_cons] at whole ⊢
    exact whole

/-- What a loop has added up at its end is made into something else. -/
theorem fold_map (add : β → γ → β) {step : β → α → Threaded names β} {outcome : α → Outcome γ}
    (performs : ∀ start member,
      Performs (step start member) ((outcome member).andThen fun value => .ok (add start value)))
    (start : β) (members : List α) (result : β → δ) :
    Performs ((Threaded.fold step start members).andThen fun value => .ok (result value))
      ((Outcome.forEach outcome members).andThen fun values =>
        .ok (result (values.foldl add start))) := by
  have whole := (fold add performs start members).map result
  rw [Outcome.andThen_assoc] at whole
  exact whole

end Performs

end Rules

/-! ## Schemas -/

section Schemas

open Swagger (Schema)
open Typing (Scope closedDefinitions closedDefinitions_entering_lt sizeOf_items_lt sizeOf_pos
  sizeOf_properties_lt)

variable {names : List String}

theorem performs_ofPrimitive (scope : Scope) (apiPath : String) (path : List String)
    (type : String) (format : Option String) (choices : List Json) :
    Performs (ofPrimitive scope apiPath path type format choices : Threaded names String)
      (Typing.ofPrimitive scope apiPath path type format choices) :=
  (Performs.perform (.offer _ _)).map _

mutual

theorem performs_ofUse (scope : Scope) (apiPath : String) (path : List String) (schema : Schema)
    (nullable : Bool) :
    Performs (ofUse scope apiPath path schema nullable)
      (Typing.ofUse scope apiPath path schema nullable) := by
  rw [ofUse, Typing.ofUse]
  refine Performs.map ?_ _
  cases schema.reference with
  | some reference => exact performs_ofReference scope apiPath path reference
  | none => exact performs_ofNode scope apiPath _ schema
termination_by (closedDefinitions scope, sizeOf schema, 1)
decreasing_by
  · exact Prod.Lex.right _ (Prod.Lex.right _ Nat.zero_lt_one)
  · exact Prod.Lex.right _ (Prod.Lex.left _ _ (sizeOf_pos schema))

theorem performs_ofNode (scope : Scope) (apiPath : String) (path : List String) (schema : Schema) :
    Performs (ofNode scope apiPath path schema) (Typing.ofNode scope apiPath path schema) := by
  rw [ofNode, Typing.ofNode]
  cases schema.reference with
  | some reference => exact performs_ofReference scope apiPath path reference
  | none =>
    refine Performs.map (.ite (fun _ => ?_) fun _ => ?_) _
    · exact (Performs.perform (.offer _ _)).map _
    cases Typing.declaredType? schema with
    | none => exact .fail _
    | some type =>
      refine .ite (fun _ => ?_) fun _ => .ite (fun _ => .ite (fun _ => ?_) fun _ => ?_) fun _ =>
        .ite (fun _ => ?_) fun _ => .fail _
      · exact (performs_ofPrimitive scope apiPath path _ _ _).map _
      · exact (Performs.perform (.set _ _)).map _
      · let name := Identifier.joined path
        have properties := (performs_ofProperties scope apiPath path schema.required [] []
          schema.properties).andThen fun found =>
            (Performs.perform (.put name ⟨schema.description, found.1⟩)).map fun _ =>
              Typing.Typed.named name
                { Typing.shapeOf schema "object" with properties := found.2 }
        rw [Outcome.andThen_assoc] at properties
        exact properties
      · cases _given : schema.items with
        | none => exact .fail _
        | some items => exact (performs_ofUse scope apiPath path items false).map _
termination_by (closedDefinitions scope, sizeOf schema, 0)
decreasing_by
  · exact Prod.Lex.right _ (Prod.Lex.left _ _ (sizeOf_properties_lt schema))
  · exact Prod.Lex.right _ (Prod.Lex.left _ _ (sizeOf_items_lt _given))
  · exact Prod.Lex.right _ (Prod.Lex.left _ _ (sizeOf_pos schema))

theorem performs_ofReference (scope : Scope) (apiPath : String) (path : List String)
    (reference : String) :
    Performs (ofReference scope apiPath path reference)
      (Typing.ofReference scope apiPath path reference) := by
  let site : Typing.Site := ⟨scope, apiPath, path, .empty⟩
  have outcome : Typing.ofReference scope apiPath path reference =
      site.outcomeOf (Typing.Site.referenceKind scope reference) :=
    site.ofReference_eq reference
  rw [outcome, ofReference]
  unfold Typing.Site.referenceKind
  cases Swagger.Pointer.definition? reference with
  | none => exact .fail _
  | some name =>
    dsimp only
    cases _found : scope.document.definition? name with
    | none => exact .fail _
    | some target =>
      dsimp only
      by_cases isObject : target.isObjectLike = true
      · rw [dif_pos isObject, if_pos isObject]
        exact .ok _
      · rw [dif_neg isObject, if_neg isObject]
        refine .seeing fun progress => ?_
        have seen : progress.state.expanding.contains name = scope.expanding.contains name := by
          rw [progress.inProgress]
        by_cases isOpen : scope.expanding.contains name = true
        · rw [dif_pos (seen.trans isOpen), if_pos isOpen]
          exact (Performs.perform (.offer _ _)).map _
        · rw [dif_neg (seen ▸ isOpen), if_neg isOpen]
          exact (performs_ofNode (scope.entering name) apiPath [name] target).within
termination_by (closedDefinitions scope, 0, 0)
decreasing_by
  apply Prod.Lex.left
  exact closedDefinitions_entering_lt _found (by simpa using isObject)
    (by simpa using isOpen)

theorem performs_ofProperties (scope : Scope) (apiPath : String) (path : List String)
    (required : List String) (fields : List (String × FieldDefinition))
    (shapes : List (String × ValueShape)) (properties : List (String × Schema)) :
    Performs (ofProperties scope apiPath path required fields shapes properties)
      ((Typing.ofProperties scope apiPath path required properties).andThen fun typed =>
        .ok (fields ++ typed.map fun property => (property.1, property.2.1),
          shapes ++ typed.map fun property => (property.1, property.2.2))) := by
  cases properties with
  | nil =>
    rw [ofProperties, Typing.ofProperties]
    simp only [Outcome.ok_andThen, List.map_nil, List.append_nil]
    exact .ok _
  | cons entry rest =>
    obtain ⟨name, property⟩ := entry
    rw [ofProperties, Typing.ofProperties, Outcome.andThen_assoc]
    refine (performs_ofUse scope apiPath (path ++ [name]) property _).andThen ?_
    intro typed
    have others := performs_ofProperties scope apiPath path required
      (fields ++ [(name, ⟨typed.shape.description.or property.description, typed.term⟩)])
      (shapes ++ [(name, { typed.shape with nullable := typed.term.isNullable })]) rest
    simp only [List.append_assoc] at others
    rw [Outcome.andThen_assoc]
    exact others
termination_by (closedDefinitions scope, sizeOf properties, 0)

end

theorem performs_ofDefinition (scope : Scope) (name : String) (schema : Schema) :
    Performs (ofDefinition scope name schema) (Typing.ofDefinition scope name schema) :=
  .ite (fun _ => (performs_ofNode scope "" [name] schema).map _) fun _ => .ok ()

end Schemas

/-! ## Parameters and operations -/

theorem foldl_append_toList {α : Type} (members : List (Option α)) (start : List α) :
    members.foldl (fun collected member => collected ++ member.toList) start =
      start ++ members.filterMap id := by
  induction members generalizing start with
  | nil => exact (List.append_nil start).symm
  | cons member rest inductionHypothesis =>
    rw [List.foldl_cons, inductionHypothesis]
    cases member <;> simp

theorem foldl_append (parts : List Typing.Callables) (start : Typing.Callables) :
    parts.foldl Typing.Callables.append start =
      start.append ⟨parts.flatMap (·.functions), parts.flatMap (·.procedures)⟩ := by
  induction parts generalizing start with
  | nil => simp [Typing.Callables.append]
  | cons part rest inductionHypothesis =>
    rw [List.foldl_cons, inductionHypothesis]
    simp [Typing.Callables.append]

section Operations

open Swagger (Linked Operation Parameter ParameterItems PathItem Response Responses)
open Typing (Callables Gathering Scope)

variable {names : List String} (scope : Scope) (apiPath : String) (path : List String)

theorem performs_ofItems (items : ParameterItems) :
    Performs (ofItems scope apiPath path items : Threaded names Typing.Typed)
      (Typing.ofItems scope apiPath path items) := by
  rw [ofItems, Typing.ofItems]
  refine .ite (fun _ => .fail _) fun _ => .ite (fun _ => ?_) fun _ =>
    .ite (fun _ => ?_) fun _ => .fail _
  · cases _given : items.items with
    | none => exact .fail _
    | some nested => exact (performs_ofItems nested).map _
  · exact (performs_ofPrimitive scope apiPath path _ _ _).map _
termination_by sizeOf items
decreasing_by exact Typing.sizeOf_nested_lt _given

theorem performs_ofSimple (parameter : Parameter) :
    Performs (ofSimple scope apiPath path parameter : Threaded names Typing.Typed)
      (Typing.ofSimple scope apiPath path parameter) := by
  refine .ite (fun _ => .fail _) fun _ => .ite (fun _ => ?_) fun _ =>
    .ite (fun _ => ?_) fun _ => .fail _
  · cases parameter.items with
    | none => exact .fail _
    | some items => exact (performs_ofItems scope apiPath path items).map _
  · exact (performs_ofPrimitive scope apiPath path _ _ _).map _

theorem performs_ofParameter (parameter : Parameter) :
    Performs (ofParameter scope apiPath path parameter)
      (Typing.ofParameter scope apiPath path parameter) := by
  unfold ofParameter Typing.ofParameter
  cases parameter.schema with
  | some schema => exact (performs_ofUse scope apiPath path schema _).map _
  | none => exact (performs_ofSimple scope apiPath path parameter).map _

theorem performs_ofPlaced (parameter : Parameter) :
    Performs (ofPlaced scope apiPath path parameter)
      (Typing.ofPlaced scope apiPath path parameter) := by
  refine .ite (fun _ => .fail _) fun _ => ?_
  cases ParameterPlace.ofName? parameter.location with
  | none => exact .fail _
  | some place => exact (performs_ofParameter scope apiPath _ parameter).map _

/-- The loop types parameters in their order, and it adds up to what they come to together. -/
theorem performs_ofParameters (parameters : List Parameter) :
    Performs (ofParameters scope apiPath path parameters)
      (Typing.ofParameters scope apiPath path parameters) := by
  have loop := Performs.fold_map Gathering.add (fun gathering parameter =>
    (performs_ofPlaced scope apiPath path parameter).map gathering.add) .nothing parameters
    Gathering.settled
  simp only [Typing.settled_foldl_add] at loop
  exact loop

theorem performs_emptyResult :
    Performs (emptyResult : Threaded names TypeTerm) Typing.emptyResult :=
  (Performs.perform (.offer _ _)).map _

theorem performs_ofChosen (chosen : Option (Linked Response)) :
    Performs (ofChosen scope apiPath path chosen) (Typing.ofChosen scope apiPath path chosen) := by
  cases chosen with
  | none => exact performs_emptyResult
  | some linked =>
    refine (Performs.ofExcept _).andThen ?_
    intro schema
    cases schema with
    | none => exact performs_emptyResult
    | some schema => exact (performs_ofUse scope apiPath path schema false).map _

theorem performs_ofResponses (responses : Option Responses) :
    Performs (ofResponses scope apiPath path responses)
      (Typing.ofResponses scope apiPath path responses) := by
  cases responses with
  | none => exact .ok none
  | some responses =>
    exact .ite (fun _ => .ok none) fun _ => (performs_ofChosen scope apiPath path _).map _

theorem performs_ofOperation (method : Method) (operation : Operation)
    (shared : List (Linked Parameter)) :
    Performs (ofOperation scope apiPath method operation shared)
      (Typing.ofOperation scope apiPath method operation shared) := by
  refine (performs_ofResponses scope apiPath _ operation.responses).andThen ?_
  intro result
  cases result with
  | none => exact .ok none
  | some result =>
    refine (Performs.ofExcept _).andThen ?_
    intro parameters
    exact (performs_ofParameters scope apiPath _ parameters).map _

theorem performs_ofSlot (shared : List (Linked Parameter)) (slot : Method × Option Operation) :
    Performs (ofSlot scope apiPath shared slot) (Typing.ofSlot scope apiPath shared slot) := by
  obtain ⟨method, operation⟩ := slot
  cases operation with
  | none => exact .ok none
  | some operation => exact (performs_ofOperation scope apiPath method operation shared).mapFault _

theorem performs_ofPathItem (item : PathItem) :
    Performs (ofPathItem scope apiPath item) (Typing.ofPathItem scope apiPath item) := by
  refine (performs_ofSlot scope apiPath item.parameters (.get, item.get)).andThen ?_
  intro reading
  have loop := Performs.fold_map (fun procedures callable => procedures ++ Option.toList callable)
    (fun procedures slot => (performs_ofSlot scope apiPath item.parameters slot).map
      (procedures ++ Option.toList ·)) []
    [(.post, item.post), (.put, item.put), (.patch, item.patch), (.delete, item.delete)]
    (Callables.mk reading.toList)
  simp only [foldl_append_toList] at loop
  exact loop

/-! ## Documents -/

theorem performs_callables (items : List (String × PathItem)) :
    Performs (callables scope items) (Conversion.callables scope items) := by
  have loop := Performs.fold Callables.append (fun found item =>
    (performs_ofPathItem scope item.1 item.2).map found.append) ⟨[], []⟩ items
  simp only [foldl_append] at loop
  exact loop

theorem performs_definition (entry : String × Swagger.Schema) :
    Performs (definition scope entry) (Conversion.definition scope entry) :=
  (performs_ofDefinition scope entry.1 entry.2).mapFault _

/-- The walk over a document, with one state for all of it, performs the walk that lists its
events. -/
theorem performs_walk : Performs (walk scope) (Conversion.walk scope) := by
  refine (performs_callables scope scope.document.pathItems).andThen ?_
  intro found
  have each : ∀ entry, Performs (definition scope entry)
      ((Conversion.definition scope entry).andThen .ok) := by
    intro entry
    rw [Outcome.andThen_pure]
    exact performs_definition scope entry
  exact Performs.fold_map (fun _ _ => ()) (fun _ => each) () scope.document.definitions fun _ =>
    found

end Operations

/-- The conversion of a document with one state for all of it is its conversion by events. -/
theorem convert_eq (document : Swagger.Document) (preferences : Preferences) :
    convert document preferences = Connector.ofDocument document preferences := by
  obtain ⟨value, state⟩ := performs_walk (.top document preferences) .start
  unfold convert Connector.ofDocument
  cases came : walk (.top document preferences) .start with
  | mk result reached =>
    rw [came] at value state
    simp only at value state
    simp only [value, state]
    rfl

/-! ## Tasks -/

section Tasks

open Typing (Call Scope Task argumentTypes callableTypes)

variable {names : List String}

/-- A call with the types that it returns. -/
def ofCall (scope : Scope) : Call → Threaded scope.expanding (List TypeTerm)
  | .typeNode apiPath path schema =>
    (ofNode scope apiPath path schema).andThen fun typed => ok [typed.term]
  | .typeUse apiPath path schema nullable =>
    (ofUse scope apiPath path schema nullable).andThen fun typed => ok [typed.term]
  | .register name schema => (ofDefinition scope name schema).andThen fun _ => ok []
  | .typeParameters apiPath path parameters =>
    (ofParameters scope apiPath path parameters).andThen fun found =>
      ok (argumentTypes found.arguments)
  | .typeResponses apiPath path responses =>
    (ofResponses scope apiPath path responses).andThen fun result => ok result.toList
  | .typeOperation apiPath method operation shared =>
    (ofOperation scope apiPath method operation shared).andThen fun callable =>
      ok (callable.toList.flatMap callableTypes)
  | .typePathItem apiPath item =>
    (ofPathItem scope apiPath item).andThen fun callables => ok callables.types

def ofTask (scope : Scope) : Task → Threaded scope.expanding (List TypeTerm)
  | .typing call => ofCall scope call
  | .scalar apiPath path type format choices =>
    (ofPrimitive scope apiPath path type format choices).andThen fun name => ok [.named name]

/-- The results of tasks, each of which is handed the state that the task before it left. -/
def run (document : Swagger.Document) (preferences : Preferences) :
    List Task → Progress names → List (Except Fault (List TypeTerm)) × Progress names
  | [], progress => ([], progress)
  | task :: rest, progress =>
    let (result, reached) := ofTask ⟨document, preferences, names⟩ task progress
    let (results, last) := run document preferences rest reached
    (result :: results, last)

theorem performs_ofCall (scope : Scope) (call : Call) :
    Performs (ofCall scope call) (call.outcome scope) := by
  cases call with
  | typeNode apiPath path schema => exact (performs_ofNode scope apiPath path schema).map _
  | typeUse apiPath path schema nullable =>
    exact (performs_ofUse scope apiPath path schema nullable).map _
  | register name schema => exact (performs_ofDefinition scope name schema).map _
  | typeParameters apiPath path parameters =>
    exact (performs_ofParameters scope apiPath path parameters).map _
  | typeResponses apiPath path responses =>
    exact (performs_ofResponses scope apiPath path responses).map _
  | typeOperation apiPath method operation shared =>
    exact (performs_ofOperation scope apiPath method operation shared).map _
  | typePathItem apiPath item => exact (performs_ofPathItem scope apiPath item).map _

theorem performs_ofTask (scope : Scope) (task : Task) :
    Performs (ofTask scope task) (task.outcome scope) := by
  cases task with
  | typing call => exact performs_ofCall scope call
  | scalar apiPath path type format choices =>
    exact (performs_ofPrimitive scope apiPath path type format choices).map _

/-- The result of a task depends on nothing in the state but the definitions in progress. -/
theorem value_ofTask_eq (scope : Scope) (task : Task) (one other : Progress scope.expanding) :
    (ofTask scope task one).1 = (ofTask scope task other).1 :=
  (performs_ofTask scope task one).1.trans (performs_ofTask scope task other).1.symm

/-- Tasks that share a state come each to what it comes to without the others, and they leave the
state to which their events lead. -/
theorem run_eq (document : Swagger.Document) (preferences : Preferences) (tasks : List Task)
    (progress : Progress names) :
    (run document preferences tasks progress).1 =
        tasks.map (fun task => (task.outcome ⟨document, preferences, names⟩).value) ∧
      (run document preferences tasks progress).2.state =
        Task.run document preferences progress.state tasks := by
  induction tasks generalizing progress with
  | nil => exact ⟨rfl, rfl⟩
  | cons task rest inductionHypothesis =>
    let reached := (ofTask ⟨document, preferences, names⟩ task progress).2
    obtain ⟨value, state⟩ := performs_ofTask ⟨document, preferences, names⟩ task progress
    obtain ⟨values, last⟩ := inductionHypothesis reached
    have stepped : reached.state = task.step document preferences progress.state := by
      unfold Task.step Task.outcomeAt
      rw [progress.inProgress]
      exact state
    refine ⟨?_, ?_⟩
    · rw [List.map_cons, ← value, ← values]
      rfl
    · show (run document preferences rest reached).2.state = _
      rw [last, stepped]
      rfl

end Tasks

end Threaded

end RestConnector
