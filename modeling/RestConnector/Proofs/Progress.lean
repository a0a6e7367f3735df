import RestConnector.Proofs.Session
import RestConnector.Proofs.Termination

/-!
Contract: a definition is in progress only while it is being expanded.

Owns:
- `Task`, what a caller may ask of a state, and the state after some tasks;
- `Site.Meets`, the moments at which schemas are typed, and that a schema sees the definitions in
  progress at its moment;
- `Task.in_progress_restored`: every task leaves the definitions in progress as they were.

Does not own: what the events of single steps do to them, see `RestConnector.Proofs.Termination`.

A fault goes past all expansions that are open, and each of them is closed on the way.  A definition
that failed is therefore as good as new to all later tasks.
-/

namespace RestConnector.Typing

open Swagger (Document Schema)

/-! ## Tasks -/

/-- What a caller may ask for: a typing, or the scalar of a primitive type by itself. -/
inductive Task where
  | typing (call : Call)
  | scalar (apiPath : String) (path : List String) (type : String) (format : Option String)
      (choices : List Json)

namespace Task

def outcome (scope : Scope) : Task → Outcome (List TypeTerm)
  | .typing call => call.outcome scope
  | .scalar apiPath path type format choices =>
    (ofPrimitive scope apiPath path type format choices).andThen fun name => .ok [.named name]

/-- The outcome of a task that finds a state. -/
def outcomeAt (document : Document) (preferences : Preferences) (state : State) (task : Task) :
    Outcome (List TypeTerm) :=
  task.outcome ⟨document, preferences, state.expanding⟩

/-- The state that a task leaves, whether it fails or not. -/
def step (document : Document) (preferences : Preferences) (state : State) (task : Task) : State :=
  state.replay (task.outcomeAt document preferences state).log

/-- The state after some tasks. -/
def run (document : Document) (preferences : Preferences) (state : State) (tasks : List Task) :
    State :=
  tasks.foldl (step document preferences) state

end Task

/-! ## What tasks do to the definitions in progress -/

variable {scope : Scope} {apiPath : String}

theorem ofSlot_balanced (shared : List (Swagger.Linked Swagger.Parameter))
    (slot : Method × Option Swagger.Operation) :
    Balanced scope.document scope.expanding (ofSlot scope apiPath shared slot).log := by
  unfold ofSlot
  split
  · exact .nil
  · rw [Outcome.log_mapFault]
    exact (ofOperation_built _ _ _).balanced

theorem ofPathItem_balanced (item : Swagger.PathItem) :
    Balanced scope.document scope.expanding (ofPathItem scope apiPath item).log := by
  unfold ofPathItem
  refine (ofSlot_balanced _ _).andThen ?_
  intro reading
  exact (Balanced.forEach fun slot _ => ofSlot_balanced _ slot).map

theorem Call.outcome_balanced (scope : Scope) (call : Call) :
    Balanced scope.document scope.expanding (call.outcome scope).log := by
  cases call with
  | typeNode apiPath path schema => exact (Site.built ⟨scope, apiPath, path, schema⟩).balanced.map
  | typeUse apiPath path schema nullable => exact (ofUse_built schema nullable).balanced.map
  | register name schema => exact (ofDefinition_built name schema).balanced.map
  | typeParameters apiPath path parameters => exact (ofParameters_built parameters).balanced.map
  | typeResponses apiPath path responses => exact (ofResponses_built responses).balanced.map
  | typeOperation apiPath method operation shared =>
    exact (ofOperation_built method operation shared).balanced.map
  | typePathItem apiPath item => exact (ofPathItem_balanced item).map

theorem Task.outcome_balanced (scope : Scope) (task : Task) :
    Balanced scope.document scope.expanding (task.outcome scope).log := by
  cases task with
  | typing call => exact call.outcome_balanced scope
  | scalar apiPath path type format choices =>
    exact (ofPrimitive_built type format choices).balanced.map

namespace Task

variable (document : Document) (preferences : Preferences)

theorem expanding_step (state : State) (task : Task) :
    (task.step document preferences state).expanding = state.expanding :=
  (task.outcome_balanced _).expanding_replay state

theorem expanding_run (state : State) (tasks : List Task) :
    (run document preferences state tasks).expanding = state.expanding := by
  induction tasks generalizing state with
  | nil => rfl
  | cons task rest inductionHypothesis =>
    exact (inductionHypothesis _).trans (expanding_step document preferences state task)

end Task

/-! ## What a schema sees -/

namespace Site

/-- A schema is typed on the way to the type of a site, after some of the events. -/
inductive Meets (site : Site) : List Event → Site → Prop where
  | start : site.Meets [] site
  | expansion {before : List Event} {other : Site} {name : String} {target : Schema}
      (met : site.Meets before other) (isExpanded : other.kind = .expanded name target) :
      site.Meets (before ++ [.opened name]) (other.expansion name target)
  /-- A property is typed once all properties in front of it have been. -/
  | property {before : List Event} {other : Site} {name : String}
      {front back : List (String × Schema)} {entry : String × Schema}
      {fields : List (String × FieldDefinition × ValueShape)}
      (met : site.Meets before other) (isRecord : other.kind = .record name)
      (split : other.schema.properties = front ++ entry :: back)
      (typed : (Outcome.forEach other.fieldOutcome front).value = .ok fields) :
      site.Meets (before ++ (Outcome.forEach other.fieldOutcome front).log) (other.property entry)
  | element {before : List Event} {other : Site} {items : Schema}
      (met : site.Meets before other) (isArray : other.kind = .array items) :
      site.Meets before (other.element items)

theorem fieldOutcomes_balanced (site : Site) (properties : List (String × Schema)) :
    Balanced site.scope.document site.scope.expanding
      (Outcome.forEach site.fieldOutcome properties).log := by
  refine .forEach ?_
  intro entry _
  exact (site.property entry).built.balanced.map

/-- The definitions that a schema finds in progress are those of its moment. -/
theorem Meets.expanding_replay {site other : Site} {before : List Event}
    (met : site.Meets before other) (catalog : Catalog) :
    (State.replay ⟨catalog, site.scope.expanding⟩ before).expanding = other.scope.expanding := by
  induction met with
  | start => rfl
  | @expansion before other name target met isExpanded inductionHypothesis =>
    rw [State.replay_append]
    exact congrArg (name :: ·) inductionHypothesis
  | @property before other name front back entry fields met isRecord split typed
      inductionHypothesis =>
    rw [State.replay_append, (other.fieldOutcomes_balanced front).expanding_replay]
    exact inductionHypothesis
  | element met isArray inductionHypothesis => exact inductionHypothesis

/-- The typing of a schema that is met takes place at its moment. -/
theorem Meets.log_prefix {site other : Site} {before : List Event}
    (met : site.Meets before other) : before ++ other.outcome.log <+: site.outcome.log := by
  induction met with
  | start => exact List.prefix_rfl
  | @expansion before other name target met isExpanded inductionHypothesis =>
    refine List.IsPrefix.trans ?_ inductionHypothesis
    rw [other.outcome_eq, isExpanded, List.append_assoc, List.prefix_append_right_inj]
    exact List.prefix_append (.opened name :: (other.expansion name target).outcome.log) _
  | @property before other name front back entry fields met isRecord split typed
      inductionHypothesis =>
    -- the object is put after all properties, so its part of the log starts with theirs
    refine List.IsPrefix.trans ?_ inductionHypothesis
    have own : (other.property entry).outcome.log = (other.fieldOutcome entry).log :=
      (Outcome.log_andThen_ok _ _).symm
    rw [other.outcome_eq, isRecord, List.append_assoc, List.prefix_append_right_inj, own]
    refine List.IsPrefix.trans ?_ (Outcome.log_prefix_andThen _ _)
    rw [split]
    exact Outcome.log_prefix_forEach typed
  | @element before other items met isArray inductionHypothesis =>
    have same : other.outcome.log = (other.element items).outcome.log := by
      rw [other.outcome_eq, isArray]
      exact Outcome.log_andThen_ok _ _
    rw [← same]
    exact inductionHypothesis

/-- A reference to a definition that is no object and not in progress expands that definition. -/
theorem outcome_of_expandable {site : Site} {reference name : String} {target : Schema}
    (given : site.schema.reference = some reference)
    (points : Swagger.Pointer.definition? reference = some name)
    (found : site.scope.document.definition? name = some target)
    (notObject : target.isObjectLike = false) (fresh : name ∉ site.scope.expanding) :
    site.outcome = (site.expansion name target).outcome.within name := by
  have isKind : site.kind = .expanded name target := by
    simp [kind, given, referenceKind, points, found, notObject, fresh]
  rw [outcome_eq, isKind]
  rfl

end Site

/-! ## Before, during and after tasks -/

namespace Task

/-- Nothing is in progress in a state, and so tasks find it like one that no task has changed. -/
structure Idle (document : Document) (preferences : Preferences) (state : State) : Prop where
  expanding : state.expanding = []
  /-- At each moment of a task, the definitions in progress differ and are no objects. -/
  moments : ∀ (task : Task) before, before <+: (task.outcomeAt document preferences state).log →
    Opens document [] (state.replay before).expanding
  outcomeAt : ∀ task : Task,
    task.outcomeAt document preferences state = task.outcome (.top document preferences)
  /-- A reference to a definition that is no object expands it, so it is no placeholder. -/
  expands : ∀ (site : Site) (reference name : String) (target : Schema),
    site.scope = ⟨document, preferences, state.expanding⟩ →
      site.schema.reference = some reference →
      Swagger.Pointer.definition? reference = some name →
      document.definition? name = some target → target.isObjectLike = false →
        site.outcome = (site.expansion name target).outcome.within name

theorem idle_of_expanding {document : Document} {preferences : Preferences} {state : State}
    (nothing : state.expanding = []) : Idle document preferences state where
  expanding := nothing
  moments := by
    intro task before moment
    obtain ⟨names, opens, reached⟩ := (task.outcome_balanced _).opens moment
    rw [reached, nothing, List.append_nil]
    rw [nothing] at opens
    exact opens
  outcomeAt := by
    intro task
    unfold outcomeAt
    rw [nothing]
    rfl
  expands := by
    intro site reference name target scope given points found notObject
    refine Site.outcome_of_expandable given points ?_ notObject ?_
    · rw [scope]
      exact found
    · rw [scope, nothing]
      exact List.not_mem_nil

/-- Every task leaves the definitions in progress as they were, whether it fails or not.  On the way
it adds definitions that are no objects and that differ from those before and from each other, and
each schema sees all that are in progress at its moment.  So nothing is in progress after any tasks,
and a definition that failed is expanded anew where it is referred to. -/
theorem in_progress_restored (document : Document) (preferences : Preferences) :
    (∀ (state : State) (task : Task),
      (task.step document preferences state).expanding = state.expanding ∧
      ∀ before, before <+: (task.outcomeAt document preferences state).log →
        ∃ names, Opens document state.expanding names ∧
          (state.replay before).expanding = names ++ state.expanding) ∧
    (∀ (site other : Site) (before : List Event), site.Meets before other →
      before ++ other.outcome.log <+: site.outcome.log ∧
      ∀ catalog, (State.replay ⟨catalog, site.scope.expanding⟩ before).expanding =
        other.scope.expanding) ∧
    ∀ tasks, Idle document preferences (run document preferences .empty tasks) := by
  refine ⟨?_, ?_, ?_⟩
  · intro state task
    refine ⟨expanding_step document preferences state task, ?_⟩
    intro before moment
    obtain ⟨names, opens, reached⟩ := (task.outcome_balanced _).opens moment
    exact ⟨names, opens, reached state⟩
  · intro site other before met
    exact ⟨met.log_prefix, met.expanding_replay⟩
  · intro tasks
    exact idle_of_expanding (expanding_run document preferences .empty tasks)

def tagsList : Schema := { Schema.empty with types := ["array"] }

/-- A document that defines a list without saying of what. -/
def tagsDocument : Document := { Document.empty with definitions := [("Tags", tagsList)] }

/-- The list by its name. -/
def tagsReference : Schema := { Schema.empty with reference := some "#/definitions/Tags" }

def tagsSite : Site := ⟨.top tagsDocument .empty, "/pets", ["Pet"], tagsReference⟩

def tagsTask : Task := .typing (.typeNode "/pets" ["Pet"] tagsReference)

private theorem tagsReference_points :
    Swagger.Pointer.definition? "#/definitions/Tags" = some "Tags" := by
  decide +kernel

private theorem tagsTask_outcome :
    tagsTask.outcome (.top tagsDocument .empty) =
      ⟨.error ((Fault.bare .missingItems).atField ["Tags"]), [.opened "Tags", .closed "Tags"]⟩ := by
  have inside : (tagsSite.expansion "Tags" tagsList).outcome =
      .fail ((Fault.bare .missingItems).atField ["Tags"]) := by
    rw [Site.outcome_eq]
    rfl
  have expanded : tagsSite.outcome = (tagsSite.expansion "Tags" tagsList).outcome.within "Tags" :=
    Site.outcome_of_expandable rfl tagsReference_points rfl rfl List.not_mem_nil
  have whole : tagsTask.outcome (.top tagsDocument .empty) =
      tagsSite.outcome.andThen fun typed => .ok [typed.term] := rfl
  rw [whole, expanded, inside]
  rfl

/-- The second reference fails like the first one, where a placeholder would have been a success. -/
theorem in_progress_restored_tags :
    let state := run tagsDocument .empty .empty [tagsTask]
    let again := tagsTask.outcomeAt tagsDocument .empty state
    state.expanding = [] ∧
      again.value = .error ((Fault.bare .missingItems).atField ["Tags"]) ∧
      [.opened "Tags"] <+: again.log ∧
      Opens tagsDocument [] (state.replay [.opened "Tags"]).expanding ∧
      tagsSite.outcome = (tagsSite.expansion "Tags" tagsList).outcome.within "Tags" := by
  intro state again
  have idle := (in_progress_restored tagsDocument .empty).2.2 [tagsTask]
  have same : again =
      ⟨.error ((Fault.bare .missingItems).atField ["Tags"]), [.opened "Tags", .closed "Tags"]⟩ :=
    (idle.outcomeAt tagsTask).trans tagsTask_outcome
  have moment : [.opened "Tags"] <+: again.log := by
    rw [same]
    exact List.prefix_append [Event.opened "Tags"] [.closed "Tags"]
  have scope : tagsSite.scope = ⟨tagsDocument, .empty, state.expanding⟩ := by
    rw [idle.expanding]
    rfl
  refine ⟨idle.expanding, ?_, moment, idle.moments tagsTask _ moment, ?_⟩
  · rw [same]
  · exact idle.expands tagsSite _ "Tags" tagsList scope rfl tagsReference_points rfl rfl

end Task

end RestConnector.Typing
