import RestConnector.Proofs.Registration
import RestConnector.Proofs.Site
import RestConnector.Typing.Operation

/-!
Contract: every name in a type stands for something.

Owns:
- `Catalog.Accounts`, the names that are registered or that a definition of the document promises;
- `Closes`, what a typing leaves of these names, with a rule for each way to combine outcomes;
- for each step of a conversion, that it leaves no other names.

Does not own: sequences of steps, see `RestConnector.Proofs.Session`.

A typing that fails has already put the inner objects into the catalog, and not the outer ones.
`Closes` therefore speaks of the catalog also after a fault, and of the result only after a success.
-/

namespace RestConnector

open Swagger (Document Schema)

/-- The names that stand for objects among the definitions of a document. -/
def Swagger.Document.Promises (document : Document) (name : String) : Prop :=
  ∃ entry ∈ document.definitions, entry.2.isObjectLike = true ∧ Identifier.pascal entry.1 = name

namespace Catalog

/-- A name is registered, or it is that of an object among the definitions of a document.  The walk
over the definitions comes to such an object, but what it registers there is the type that the
definition leads to: one that refers to another definition leaves nothing under its own name. -/
def Accounts (catalog : Catalog) (document : Document) (name : String) : Prop :=
  catalog.registers name = true ∨ document.Promises name

/-- All names in the fields of objects are accounted for. -/
def Closed (catalog : Catalog) (document : Document) : Prop :=
  ∀ name ∈ catalog.mentions, catalog.Accounts document name

end Catalog

namespace Typing

theorem State.accounts_replay {state : State} {document : Document} {name : String}
    (log : List Event) (accounted : state.catalog.Accounts document name) :
    (state.replay log).catalog.Accounts document name :=
  accounted.imp_left (registers_replay log)

/-- From a closed catalog that accounts for the given names, an outcome leads to a closed catalog,
which accounts for the names in its result. -/
def Closes {α : Type} (document : Document) (given : List String) (outcome : Outcome α)
    (mentions : α → List String) : Prop :=
  ∀ state : State, state.catalog.Closed document →
    (∀ name ∈ given, state.catalog.Accounts document name) →
      (state.replay outcome.log).catalog.Closed document ∧
        ∀ value, outcome.value = .ok value → ∀ name ∈ mentions value,
          (state.replay outcome.log).catalog.Accounts document name

namespace Closes

variable {α β : Type} {document : Document} {given : List String}

/-! ## Single outcomes -/

theorem ok {value : α} {mentions : α → List String}
    (held : ∀ name ∈ mentions value, name ∈ given ∨ document.Promises name) :
    Closes document given (.ok value) mentions := by
  intro state closed accounted
  refine ⟨closed, ?_⟩
  intro result succeeded name mentioned
  cases succeeded
  rcases held name mentioned with inside | promised
  · exact accounted name inside
  · exact Or.inr promised

theorem fail (fault : Fault) (mentions : α → List String) :
    Closes document given (.fail fault) mentions := by
  intro state closed _
  refine ⟨closed, ?_⟩
  intro result succeeded
  cases succeeded

theorem ofExcept (result : Except Fault α) :
    Closes document given (.ofExcept result) fun _ => [] := by
  intro state closed _
  refine ⟨closed, ?_⟩
  intro value _ name mentioned
  cases mentioned

/-- A scalar that is offered or set registers its name and touches no object. -/
private theorem scalar {event : Event} {name : String} (named : event.scalarName? = some name)
    (kept : ∀ state : State, (state.apply event).catalog.objects = state.catalog.objects) :
    Closes document given (.emit event) fun _ => [name] := by
  intro state closed _
  have known : (state.apply event).catalog.registers name = true := by
    simp [Catalog.registers, State.contains_scalars_apply, named]
  refine ⟨?_, ?_⟩
  · intro other mentioned
    have before : other ∈ state.catalog.mentions := by
      have same : (state.apply event).catalog.mentions = state.catalog.mentions := by
        unfold Catalog.mentions
        rw [kept state]
      rw [← same]
      exact mentioned
    exact State.accounts_replay [event] (closed other before)
  · intro value _ other mentioned
    rw [List.mem_singleton.1 mentioned]
    exact Or.inl known

theorem offer (name : String) (definition : ScalarDefinition) :
    Closes document given (.emit (.offer name definition)) fun _ => [name] :=
  scalar rfl fun state => Catalog.objects_offerScalar state.catalog name definition

theorem set (name : String) (definition : ScalarDefinition) :
    Closes document given (.emit (.set name definition)) fun _ => [name] :=
  scalar rfl fun _ => rfl

/-- An object is put only after the names in its fields. -/
theorem put {name : String} {object : ObjectDefinition}
    (held : ∀ other ∈ object.mentions, other ∈ given) :
    Closes document given (.emit (.put name object)) fun _ => [name] := by
  intro state closed accounted
  have known : (state.apply (.put name object)).catalog.registers name = true := by
    simp [Catalog.registers, State.contains_objects_apply, Event.objectName?]
  refine ⟨?_, ?_⟩
  · intro other mentioned
    have before : state.catalog.Accounts document other := by
      rcases Catalog.mem_mentions_putObject mentioned with own | old
      · exact accounted other (held other own)
      · exact closed other old
    exact State.accounts_replay [.put name object] before
  · intro value _ other mentioned
    rw [List.mem_singleton.1 mentioned]
    exact Or.inl known

/-! ## Combinations -/

/-- What needs no names may be given any. -/
theorem ofNil {outcome : Outcome α} {mentions : α → List String}
    (closes : Closes document [] outcome mentions) : Closes document given outcome mentions := by
  intro state closed _
  refine closes state closed ?_
  intro name member
  cases member

theorem andThen {first : Outcome α} {next : α → Outcome β} {between : α → List String}
    {mentions : β → List String} (firstCloses : Closes document given first between)
    (nextCloses : ∀ value, Closes document (given ++ between value) (next value) mentions) :
    Closes document given (first.andThen next) mentions := by
  intro state closed accounted
  obtain ⟨firstClosed, firstAccounted⟩ := firstCloses state closed accounted
  cases result : first.value with
  | error fault =>
    -- the events before the fault stay, and there is no result to account for
    rw [Outcome.andThen_of_error result]
    refine ⟨firstClosed, ?_⟩
    intro value succeeded
    cases succeeded
  | ok value =>
    have available : ∀ name ∈ given ++ between value,
        (state.replay first.log).catalog.Accounts document name := by
      intro name member
      rcases List.mem_append.1 member with old | new
      · exact State.accounts_replay first.log (accounted name old)
      · exact firstAccounted value result name new
    rw [Outcome.andThen_of_ok result, State.replay_append]
    exact nextCloses value (state.replay first.log) firstClosed available

/-- A result that is made of another one has no names of its own. -/
theorem map {first : Outcome α} {change : α → β} {between : α → List String}
    {mentions : β → List String} (firstCloses : Closes document given first between)
    (kept : ∀ value, ∀ name ∈ mentions (change value), name ∈ between value) :
    Closes document given (first.andThen fun value => .ok (change value)) mentions := by
  refine firstCloses.andThen ?_
  intro value
  refine ok ?_
  intro name mentioned
  exact Or.inl (List.mem_append_right given (kept value name mentioned))

theorem within {outcome : Outcome α} {mentions : α → List String} (name : String)
    (closes : Closes document given outcome mentions) :
    Closes document given (outcome.within name) mentions := by
  intro state closed accounted
  obtain ⟨insideClosed, insideAccounted⟩ := closes (state.apply (.opened name)) closed accounted
  have reached : (state.replay (outcome.within name).log).catalog =
      ((state.apply (.opened name)).replay outcome.log).catalog := by
    simp only [Outcome.within, List.cons_append, State.replay_cons, State.replay_append]
    rfl
  rw [reached]
  exact ⟨insideClosed, insideAccounted⟩

theorem mapFault {outcome : Outcome α} {mentions : α → List String} (change : Fault → Fault)
    (closes : Closes document given outcome mentions) :
    Closes document given (outcome.mapFault change) mentions := by
  intro state closed accounted
  obtain ⟨changedClosed, changedAccounted⟩ := closes state closed accounted
  rw [Outcome.log_mapFault]
  refine ⟨changedClosed, ?_⟩
  intro value succeeded
  exact changedAccounted value (Outcome.mapFault_ok succeeded)

theorem forEach {step : α → Outcome β} {mentions : β → List String} {members : List α}
    (stepCloses : ∀ member ∈ members, Closes document [] (step member) mentions) :
    Closes document given (.forEach step members) fun values => values.flatMap mentions := by
  induction members generalizing given with
  | nil =>
    refine ok ?_
    intro name mentioned
    cases mentioned
  | cons member rest inductionHypothesis =>
    refine (ofNil (stepCloses member List.mem_cons_self)).andThen ?_
    intro value
    refine (inductionHypothesis fun other inside =>
      stepCloses other (List.mem_cons_of_mem member inside)).andThen ?_
    intro values
    refine ok ?_
    intro name mentioned
    simp only [List.flatMap_cons, List.mem_append] at mentioned ⊢
    rcases mentioned with first | later
    · exact Or.inl (Or.inl (Or.inr first))
    · exact Or.inl (Or.inr later)

end Closes

/-! ## Schemas -/

theorem leaf_asNullable (term : TypeTerm) : term.asNullable.leaf = term.leaf := by
  cases term <;> rfl

theorem leaf_asPresent (term : TypeTerm) : term.asPresent.leaf = term.leaf := by
  cases term <;> rfl

/-- The name in a type. -/
def Typed.mentions (typed : Typed) : List String := [typed.term.leaf]

theorem Typed.mentions_nullableIf (typed : Typed) (condition : Bool) :
    (typed.nullableIf condition).mentions = typed.mentions := by
  unfold nullableIf
  split
  · simp only [mentions, asNullable, leaf_asNullable]
  · rfl

namespace Site

private theorem scalarOutcome_closes {document : Document} {event : Event} {name : String}
    (site : Site) (closes : Closes document [] (.emit event) fun _ => [name]) (kind : String) :
    Closes document [] (site.scalarOutcome event name kind) Typed.mentions := by
  refine closes.map ?_
  intro _ other mentioned
  rw [marked, Typed.mentions_nullableIf] at mentioned
  exact mentioned

private theorem fieldOutcome_closes {document : Document} {site : Site} {entry : String × Schema}
    (closes : Closes document [] (site.property entry).outcome Typed.mentions) :
    Closes document [] (site.fieldOutcome entry) fun field => [field.2.1.type.leaf] := by
  refine closes.map ?_
  intro typed name mentioned
  rw [← Typed.mentions_nullableIf typed (!site.schema.required.contains entry.1)]
  exact mentioned

/-- Every name that the typing of a site leaves is accounted for. -/
theorem closes (site : Site) :
    Closes site.scope.document [] site.outcome Typed.mentions := by
  induction site using Site.induct with
  | step site inductionHypothesis =>
    rw [site.outcome_eq]
    cases isKind : site.kind with
    | dangling reference => exact .fail _ _
    | object name =>
      -- the one name that nothing has registered yet: the definition promises it
      obtain ⟨target, found, isObject⟩ := kind_eq_object isKind
      refine .ok ?_
      intro other mentioned
      rw [List.mem_singleton.1 mentioned]
      exact Or.inr ⟨(name, target), Members.mem_of_find? found, isObject, rfl⟩
    | recurring name => exact (Closes.offer _ _).map fun _ _ mentioned => mentioned
    | expanded name target =>
      have inside := inductionHypothesis _ (expansion_mem_parts isKind)
      exact inside.within name
    | untyped => exact site.scalarOutcome_closes (.offer _ _) _
    | undeclared => exact .fail _ _
    | primitive type => exact site.scalarOutcome_closes (.offer _ _) _
    | formless scalar => exact site.scalarOutcome_closes (.set _ _) _
    | record name =>
      -- the fields' names are registered before the object that mentions them
      have fields : Closes site.scope.document []
          (Outcome.forEach site.fieldOutcome site.schema.properties)
          fun fields => fields.flatMap fun field => [field.2.1.type.leaf] := by
        refine .forEach ?_
        intro entry inside
        exact fieldOutcome_closes (inductionHypothesis _ (property_mem_parts isKind inside))
      refine fields.andThen ?_
      intro found
      refine (Closes.put ?_).map ?_
      · intro other mentioned
        simp only [ObjectDefinition.mentions, object, List.map_map, List.mem_map] at mentioned
        obtain ⟨field, inside, rfl⟩ := mentioned
        exact List.mem_flatMap.2 ⟨field, inside, List.mem_singleton_self _⟩
      · intro _ other mentioned
        rw [marked, Typed.mentions_nullableIf] at mentioned
        exact mentioned
    | itemless => exact .fail _ _
    | array items =>
      have inside := inductionHypothesis _ (element_mem_parts isKind)
      refine inside.map ?_
      intro typed other mentioned
      rw [marked, Typed.mentions_nullableIf] at mentioned
      exact mentioned
    | unsupported type => exact .fail _ _

end Site

variable {scope : Scope} {apiPath : String} {path : List String}

theorem ofUse_closes (schema : Schema) (nullable : Bool) :
    Closes scope.document [] (ofUse scope apiPath path schema nullable) Typed.mentions := by
  rw [ofUse_eq]
  refine (Site.closes (Site.ofUse scope apiPath path schema)).map ?_
  intro typed name mentioned
  rw [Typed.mentions_nullableIf] at mentioned
  exact mentioned

theorem ofPrimitive_closes (type : String) (format : Option String) (choices : List Json) :
    Closes scope.document [] (ofPrimitive scope apiPath path type format choices)
      fun scalar => [scalar] :=
  (Closes.offer _ _).map fun _ _ mentioned => mentioned

theorem ofDefinition_closes (name : String) (schema : Schema) :
    Closes scope.document [] (ofDefinition scope name schema) fun _ => [] := by
  unfold ofDefinition
  split
  · refine (Site.closes ⟨scope, "", [name], schema⟩).map ?_
    intro _ other mentioned
    cases mentioned
  · refine .ok ?_
    intro other mentioned
    cases mentioned

/-! ## Parameters -/

theorem ofItems_closes (items : Swagger.ParameterItems) :
    Closes scope.document [] (ofItems scope apiPath path items) Typed.mentions := by
  fun_induction ofItems scope apiPath path items with
  | case1 => exact .fail _ _
  | case2 => exact .fail _ _
  | case3 _ _ _ _ nested _ inductionHypothesis =>
    exact inductionHypothesis.map fun _ _ mentioned => mentioned
  | case4 => exact (ofPrimitive_closes _ _ _).map fun _ _ mentioned => mentioned
  | case5 => exact .fail _ _

theorem ofSimple_closes (parameter : Swagger.Parameter) :
    Closes scope.document [] (ofSimple scope apiPath path parameter) Typed.mentions := by
  unfold ofSimple
  simp only
  split
  · exact .fail _ _
  · split
    · split
      · exact .fail _ _
      · exact (ofItems_closes _).map fun _ _ mentioned => mentioned
    · split
      · exact (ofPrimitive_closes _ _ _).map fun _ _ mentioned => mentioned
      · exact .fail _ _

theorem ofParameter_closes (parameter : Swagger.Parameter) :
    Closes scope.document [] (ofParameter scope apiPath path parameter) Typed.mentions := by
  unfold ofParameter
  split
  · exact (ofUse_closes _ _).map fun _ _ mentioned => mentioned
  · refine (ofSimple_closes parameter).map ?_
    intro typed name mentioned
    rw [Typed.mentions_nullableIf] at mentioned
    exact mentioned

theorem ofPlaced_closes (parameter : Swagger.Parameter) :
    Closes scope.document [] (ofPlaced scope apiPath path parameter)
      fun placed => placed.typed.mentions := by
  unfold ofPlaced
  split
  · exact .fail _ _
  · simp only
    split
    · exact .fail _ _
    · exact (ofParameter_closes parameter).map fun _ _ mentioned => mentioned

def argumentTypes (arguments : NameMap Argument) : List TypeTerm :=
  arguments.entries.map fun entry => entry.2.type

theorem ofParameters_closes (parameters : List Swagger.Parameter) :
    Closes scope.document [] (ofParameters scope apiPath path parameters)
      fun found => (argumentTypes found.arguments).map TypeTerm.leaf := by
  refine (Closes.forEach fun parameter _ => ofPlaced_closes parameter).map ?_
  intro placed name mentioned
  obtain ⟨type, given, rfl⟩ := List.mem_map.1 mentioned
  obtain ⟨entry, inside, rfl⟩ := List.mem_map.1 given
  obtain ⟨member, among, rfl⟩ := List.mem_map.1 (NameMap.mem_entries_ofList inside)
  exact List.mem_flatMap.2 ⟨member, among, List.mem_singleton_self _⟩

/-! ## Operations -/

theorem ofChosen_closes (chosen : Option (Swagger.Linked Swagger.Response)) :
    Closes scope.document [] (ofChosen scope apiPath path chosen) fun term => [term.leaf] := by
  have nothing : Closes scope.document [] emptyResult fun term => [term.leaf] :=
    (Closes.offer _ _).map fun _ _ mentioned => mentioned
  unfold ofChosen
  split
  · exact nothing
  · refine (Closes.ofExcept _).andThen ?_
    intro schema
    refine Closes.ofNil ?_
    split
    · exact nothing
    · refine (ofUse_closes _ _).map ?_
      intro typed name mentioned
      rw [leaf_asPresent] at mentioned
      exact mentioned

theorem ofResponses_closes (responses : Option Swagger.Responses) :
    Closes scope.document [] (ofResponses scope apiPath path responses)
      fun result => result.toList.map TypeTerm.leaf := by
  have silent : Closes scope.document [] (.ok none)
      fun result : Option TypeTerm => result.toList.map TypeTerm.leaf := by
    refine .ok ?_
    intro name mentioned
    cases mentioned
  unfold ofResponses
  split
  · exact silent
  · split
    · exact silent
    · exact (ofChosen_closes _).map fun _ _ mentioned => mentioned

/-- The types of a callable's result and arguments. -/
def callableTypes (callable : Callable) : List TypeTerm :=
  callable.result :: argumentTypes callable.arguments

theorem ofOperation_closes (method : Method) (operation : Swagger.Operation)
    (shared : List (Swagger.Linked Swagger.Parameter)) :
    Closes scope.document [] (ofOperation scope apiPath method operation shared)
      fun callable => (callable.toList.flatMap callableTypes).map TypeTerm.leaf := by
  unfold ofOperation
  refine (ofResponses_closes _).andThen ?_
  intro result
  cases result with
  | none =>
    refine .ok ?_
    intro name mentioned
    cases mentioned
  | some result =>
    refine (Closes.ofExcept _).andThen ?_
    intro parameters
    refine (Closes.ofNil (ofParameters_closes parameters)).andThen ?_
    intro converted
    refine .ok ?_
    intro name mentioned
    simp only [Option.toList_some, List.flatMap_singleton, callableTypes, List.map_cons,
      List.mem_cons] at mentioned
    left
    rcases mentioned with rfl | argument
    · simp
    · exact List.mem_append_right _ argument

/-- The types of the results and arguments of some callables. -/
def Callables.types (callables : Callables) : List TypeTerm :=
  (callables.functions ++ callables.procedures).flatMap callableTypes

theorem ofSlot_closes (shared : List (Swagger.Linked Swagger.Parameter))
    (slot : Method × Option Swagger.Operation) :
    Closes scope.document [] (ofSlot scope apiPath shared slot)
      fun callable => (callable.toList.flatMap callableTypes).map TypeTerm.leaf := by
  unfold ofSlot
  split
  · refine .ok ?_
    intro name mentioned
    cases mentioned
  · exact (ofOperation_closes _ _ _).mapFault _

theorem ofPathItem_closes (item : Swagger.PathItem) :
    Closes scope.document [] (ofPathItem scope apiPath item)
      fun callables => callables.types.map TypeTerm.leaf := by
  unfold ofPathItem
  refine (ofSlot_closes _ _).andThen ?_
  intro reading
  refine (Closes.forEach fun slot _ => ofSlot_closes _ slot).andThen ?_
  intro others
  refine .ok ?_
  intro name mentioned
  left
  obtain ⟨type, given, rfl⟩ := List.mem_map.1 mentioned
  obtain ⟨callable, inside, among⟩ := List.mem_flatMap.1 given
  rcases List.mem_append.1 inside with function | procedure
  · refine List.mem_append_left _ (List.mem_map_of_mem ?_)
    exact List.mem_flatMap.2 ⟨callable, function, among⟩
  · refine List.mem_append_right _ (List.mem_flatMap.2 ⟨some callable, ?_, ?_⟩)
    · simpa using procedure
    · exact List.mem_map_of_mem (by simpa using among)

end Typing

end RestConnector
