import RestConnector.Proofs.Progress
import RestConnector.Proofs.WireForms

/-!
Contract: nothing is taken out of a catalog, and its scalars are of few kinds.

Owns:
- `ScalarDefinition.Known`, what may stand under a name among the scalars;
- `Catalog.Grows`, how a catalog may change;
- `Task.registries_grow`: every task changes the catalog in this way, and adds no other scalars.

Does not own: which names a conversion registers, see `RestConnector.Proofs.Registries`, and what
the built-in names stand for after it, see `RestConnector.Proofs.WireForms`.

An offer changes nothing that is there, and whatever is set is of any form.  So the form of a scalar
may be lost to another scalar of the same name, but it never becomes a different one.
-/

namespace RestConnector

/-- What may stand under a name: values of any form, a built-in scalar, or a choice of values. -/
inductive ScalarDefinition.Known (name : String) : ScalarDefinition → Prop where
  | json : Known name (.ofForm .json)
  | builtin {form : WireForm} (listed : (name, form) ∈ classifierScalars) :
      Known name (.ofForm form)
  | choice {owner : String} (values : List String) (named : name = owner ++ "Enum") :
      Known name (.ofForm (.choice values))

/-- One catalog comes of another: all names stay, and each scalar stays or is of any form. -/
structure Catalog.Grows (before after : Catalog) : Prop where
  objects : ∀ name, before.objects.contains name = true → after.objects.contains name = true
  scalars : ∀ name, before.scalars.contains name = true → after.scalars.contains name = true
  definitions : ∀ name scalar, before.scalars.find? name = some scalar →
    after.scalars.find? name = some scalar ∨ after.scalars.find? name = some (.ofForm .json)

namespace Catalog.Grows

theorem refl (catalog : Catalog) : catalog.Grows catalog :=
  ⟨fun _ known => known, fun _ known => known, fun _ _ present => Or.inl present⟩

theorem trans {first second third : Catalog} (start : first.Grows second)
    (rest : second.Grows third) : first.Grows third where
  objects := fun name known => rest.objects name (start.objects name known)
  scalars := fun name known => rest.scalars name (start.scalars name known)
  definitions := by
    intro name scalar present
    rcases start.definitions name scalar present with same | isJson
    · exact rest.definitions name scalar same
    · exact Or.inr ((rest.definitions name _ isJson).elim id id)

end Catalog.Grows

namespace Typing

open Swagger (Document)

/-! ## The scalars that are written -/

theorem primitive_known (scope : Scope) (apiPath : String) (path : List String) (type : String)
    (format : Option String) (choices : List Json) :
    (ScalarDefinition.ofForm (primitive scope apiPath path type format choices).2).Known
      (primitive scope apiPath path type format choices).1 := by
  unfold primitive
  split
  · exact .choice _ rfl
  · exact .builtin ((mem_classifierScalars_iff _).2 ⟨type, format.getD "", rfl⟩)

theorem Event.Writes.known {name : String} {scalar : ScalarDefinition}
    (writes : Event.Writes (.offer name scalar)) : scalar.Known name := by
  cases writes with
  | offer => exact .json
  | primitive scope apiPath path type format choices => exact primitive_known ..

namespace Balanced

variable {document : Document} {opened : List String} {log : List Event} {name : String}
  {scalar : ScalarDefinition}

/-- What happens to a scalar in the log of a typing is one of the writes that typings make. -/
theorem writes_of_mem (balanced : Balanced document opened log) {event : Event}
    (happened : event ∈ log) (isScalar : event.scalarName? = some name) : event.Writes := by
  induction balanced with
  | nil => cases happened
  | write writes =>
    rw [List.mem_singleton.1 happened]
    exact writes
  | append first second firstHypothesis secondHypothesis =>
    exact (List.mem_append.1 happened).elim firstHypothesis secondHypothesis
  | within expandable fresh inside insideHypothesis =>
    rcases List.mem_append.1 happened with front | last
    · rcases List.mem_cons.1 front with rfl | within
      · cases isScalar
      · exact insideHypothesis within
    · rw [List.mem_singleton.1 last] at isScalar
      cases isScalar

/-- Whatever is set is of any form. -/
theorem eq_of_setting (balanced : Balanced document opened log)
    (settled : log.reverse.findSome? (Event.setting? name) = some scalar) :
    scalar = .ofForm .json := by
  obtain ⟨event, happened, sets⟩ := List.exists_of_findSome?_eq_some settled
  rw [Event.setting?_eq_some.1 sets, List.mem_reverse] at happened
  cases balanced.writes_of_mem happened rfl
  rfl

theorem known_of_offering (balanced : Balanced document opened log)
    (offered : log.findSome? (Event.offering? name) = some scalar) : scalar.Known name := by
  obtain ⟨event, happened, offers⟩ := List.exists_of_findSome?_eq_some offered
  rw [Event.offering?_eq_some.1 offers] at happened
  exact (balanced.writes_of_mem happened rfl).known

/-! ## What a log leaves of a catalog -/

theorem grows (balanced : Balanced document opened log) (state : State) :
    state.catalog.Grows (state.replay log).catalog where
  objects := fun name known => (state.contains_objects_replay log name).2 (Or.inl known)
  scalars := fun name known => (state.contains_scalars_replay log name).2 (Or.inl known)
  definitions := by
    intro name scalar present
    rw [State.find?_scalars_replay, present]
    cases settled : log.reverse.findSome? (Event.setting? name) with
    | none => exact Or.inl rfl
    | some other =>
      rw [balanced.eq_of_setting settled]
      exact Or.inr rfl

/-- A scalar is there before a log, or it is written by it. -/
theorem known_replay (balanced : Balanced document opened log) {state : State}
    (known : ∀ scalar, state.catalog.scalars.find? name = some scalar → scalar.Known name)
    (present : (state.replay log).catalog.scalars.find? name = some scalar) :
    scalar.Known name := by
  rw [State.find?_scalars_replay, Option.or_eq_some_iff, Option.or_eq_some_iff] at present
  rcases present with settled | ⟨-, before | ⟨-, offered⟩⟩
  · rw [balanced.eq_of_setting settled]
    exact .json
  · exact known scalar before
  · exact balanced.known_of_offering offered

end Balanced

/-! ## What tasks leave of a catalog -/

namespace Task

variable (document : Document) (preferences : Preferences)

theorem grows_step (state : State) (task : Task) :
    state.catalog.Grows (task.step document preferences state).catalog :=
  (task.outcome_balanced _).grows state

theorem grows_run (state : State) (tasks : List Task) :
    state.catalog.Grows (run document preferences state tasks).catalog := by
  induction tasks generalizing state with
  | nil => exact .refl _
  | cons task rest inductionHypothesis =>
    exact (grows_step document preferences state task).trans (inductionHypothesis _)

theorem known_run {name : String} {state : State}
    (known : ∀ scalar, state.catalog.scalars.find? name = some scalar → scalar.Known name)
    (tasks : List Task) (scalar : ScalarDefinition)
    (present : (run document preferences state tasks).catalog.scalars.find? name = some scalar) :
    scalar.Known name := by
  induction tasks generalizing state with
  | nil => exact known scalar present
  | cons task rest inductionHypothesis =>
    refine inductionHypothesis ?_ present
    intro other after
    exact (task.outcome_balanced _).known_replay known after

/-- Every task, and so any number of them, only adds names to the catalog, whether it fails or not.
A scalar that is there stays as it is or is of any form afterwards.  From nothing, all scalars are
of any form, or they are built in, or they are choices of values that are named as such. -/
theorem registries_grow :
    (∀ (state : State) (task : Task),
      state.catalog.Grows (task.step document preferences state).catalog) ∧
    (∀ (state : State) (tasks : List Task),
      state.catalog.Grows (run document preferences state tasks).catalog) ∧
    ∀ (tasks : List Task) (name : String) (scalar : ScalarDefinition),
      (run document preferences .empty tasks).catalog.scalars.find? name = some scalar →
        scalar.Known name := by
  refine ⟨grows_step document preferences, grows_run document preferences, ?_⟩
  intro tasks name scalar present
  refine known_run document preferences ?_ tasks scalar present
  intro other impossible
  cases impossible

def textTask : Task := .scalar "/pets" ["name"] "string" none []

/-- The registration of an object without properties that is called like the scalar of texts. -/
def usurpingTask : Task := .typing (.register "String" (.ofType "object"))

private theorem textTask_scalar :
    (run .empty .empty .empty [textTask]).catalog.scalars.find? "String" =
      some (.ofForm .string) := by
  cbv

private theorem usurpingTask_log (scope : Scope) :
    (usurpingTask.outcome scope).log = [.set "String" (.ofForm .json)] := by
  let site : Site := ⟨scope, "", ["String"], .ofType "object"⟩
  have name : Identifier.joined ["String"] = "String" := by decide +kernel
  have isFormless : site.kind = .formless "String" := by
    show Site.objectKind ["String"] (.ofType "object") = _
    unfold Site.objectKind
    rw [name]
    rfl
  have log : site.outcome.log = [.set "String" (.ofForm .json)] := by
    rw [site.outcome_eq, isFormless]
    rfl
  exact (Outcome.log_andThen_ok _ _).trans ((Outcome.log_andThen_ok _ _).trans log)

/-- The scalar of texts comes to be of any form when an object takes its name, and it stays there. -/
theorem registries_grow_text :
    let before := run .empty .empty .empty [textTask]
    let after := usurpingTask.step .empty .empty before
    before.catalog.scalars.find? "String" = some (.ofForm .string) ∧
      (ScalarDefinition.ofForm .string).Known "String" ∧
      after.catalog.scalars.find? "String" = some (.ofForm .json) ∧
      after.catalog.scalars.contains "String" = true := by
  intro before after
  obtain ⟨step, -, known⟩ := registries_grow .empty .empty
  have grows := step before usurpingTask
  have present : before.catalog.scalars.find? "String" = some (.ofForm .string) := textTask_scalar
  refine ⟨present, known [textTask] "String" _ present, ?_, grows.scalars "String" ?_⟩
  · show (before.replay (usurpingTask.outcome _).log).catalog.scalars.find? "String" = _
    rw [usurpingTask_log]
    exact NameMap.find?_insert_self before.catalog.scalars "String" _
  · unfold NameMap.contains
    rw [present]
    rfl

end Task

end Typing

end RestConnector
