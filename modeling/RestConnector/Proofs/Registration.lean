import RestConnector.Typing.Outcome

/-!
Contract: the names that a catalog holds and the names that its objects mention.

Owns:
- `Catalog.registers`, the names that stand for a type, and `Catalog.mentions`, the names in the
  fields of its objects;
- what each write, and so each log of events, does to both.

Does not own: which events a typing has.

Names are never taken away, so a name that is registered once stays registered.
-/

namespace RestConnector

namespace NameMap

universe u

variable {α : Type u}

theorem contains_insert (table : NameMap α) (name other : String) (value : α) :
    (table.insert name value).contains other = (name == other || table.contains other) := by
  unfold contains
  by_cases same : name = other
  · subst same
    simp
  · rw [find?_insert_of_ne table same value]
    simp [same]

theorem contains_iff_mem_names {table : NameMap α} {name : String} :
    table.contains name = true ↔ name ∈ table.names := by
  unfold contains find? names
  induction table.entries with
  | nil => simp [findIn]
  | cons pair rest inductionHypothesis =>
    rw [findIn, List.map_cons, List.mem_cons]
    by_cases same : pair.1 = name
    · simp [same]
    · rw [if_neg same, inductionHypothesis]
      exact (or_iff_right fun other => same other.symm).symm

theorem mem_entries_insert {table : NameMap α} {name : String} {value : α} {pair : String × α}
    (member : pair ∈ (table.insert name value).entries) :
    pair = (name, value) ∨ pair ∈ table.entries :=
  mem_insertIn member

theorem mem_entries_foldl_insert {pairs : List (String × α)} {start : NameMap α}
    {pair : String × α}
    (member : pair ∈ (pairs.foldl (fun table pair => table.insert pair.1 pair.2) start).entries) :
    pair ∈ pairs ∨ pair ∈ start.entries := by
  induction pairs generalizing start with
  | nil => exact Or.inr member
  | cons head rest inductionHypothesis =>
    rcases inductionHypothesis member with later | started
    · exact Or.inl (List.mem_cons_of_mem head later)
    · rcases mem_entries_insert started with rfl | before
      · exact Or.inl List.mem_cons_self
      · exact Or.inr before

theorem mem_entries_ofList {pairs : List (String × α)} {pair : String × α}
    (member : pair ∈ (ofList pairs).entries) : pair ∈ pairs := by
  rcases mem_entries_foldl_insert member with inside | inside
  · exact inside
  · cases inside

end NameMap

/-- The names in the types of an object's fields. -/
def ObjectDefinition.mentions (object : ObjectDefinition) : List String :=
  object.fields.map fun field => field.2.type.leaf

namespace Catalog

/-- The names in the types of the fields of all objects. -/
def mentions (catalog : Catalog) : List String :=
  catalog.objects.entries.flatMap fun entry => entry.2.mentions

/-- Whether a name stands for an object or for a scalar. -/
def registers (catalog : Catalog) (name : String) : Bool :=
  catalog.objects.contains name || catalog.scalars.contains name

theorem contains_offerScalar (catalog : Catalog) (name other : String)
    (scalar : ScalarDefinition) :
    (catalog.offerScalar name scalar).scalars.contains other =
      (name == other || catalog.scalars.contains other) := by
  unfold offerScalar
  split
  · rename_i known
    by_cases same : name = other
    · subst same
      simp [known]
    · simp [same]
  · exact NameMap.contains_insert catalog.scalars name other scalar

theorem objects_offerScalar (catalog : Catalog) (name : String) (scalar : ScalarDefinition) :
    (catalog.offerScalar name scalar).objects = catalog.objects := by
  unfold offerScalar
  split <;> rfl

/-- An offer is taken if there is no scalar yet. -/
theorem find?_offerScalar (catalog : Catalog) (name other : String) (scalar : ScalarDefinition) :
    (catalog.offerScalar name scalar).scalars.find? other =
      (catalog.scalars.find? other).or (if name = other then some scalar else none) := by
  unfold offerScalar
  by_cases known : catalog.scalars.contains name = true
  · rw [if_pos known]
    obtain ⟨old, present⟩ := Option.isSome_iff_exists.1 known
    by_cases same : name = other
    · rw [← same, present]
      rfl
    · rw [if_neg same, Option.or_none]
  · rw [if_neg known]
    by_cases same : name = other
    · have absent : catalog.scalars.find? name = none := Option.not_isSome_iff_eq_none.1 known
      rw [← same, absent, if_pos rfl]
      exact NameMap.find?_insert_self catalog.scalars name scalar
    · rw [if_neg same, Option.or_none]
      exact NameMap.find?_insert_of_ne catalog.scalars same scalar

theorem find?_setScalar (catalog : Catalog) (name other : String) (scalar : ScalarDefinition) :
    (catalog.setScalar name scalar).scalars.find? other =
      (if name = other then some scalar else none).or (catalog.scalars.find? other) := by
  by_cases same : name = other
  · rw [if_pos same, ← same]
    exact NameMap.find?_insert_self catalog.scalars name scalar
  · rw [if_neg same]
    exact NameMap.find?_insert_of_ne catalog.scalars same scalar

/-- An object that is put mentions names of its own; all others were mentioned before. -/
theorem mem_mentions_putObject {catalog : Catalog} {name other : String}
    {object : ObjectDefinition} (mentioned : other ∈ (catalog.putObject name object).mentions) :
    other ∈ object.mentions ∨ other ∈ catalog.mentions := by
  obtain ⟨entry, inside, among⟩ := List.mem_flatMap.1 mentioned
  rcases NameMap.mem_entries_insert inside with rfl | before
  · exact Or.inl among
  · exact Or.inr (List.mem_flatMap.2 ⟨entry, before, among⟩)

end Catalog

namespace Typing

/-! ## Names that events register -/

namespace Event

def objectName? : Event → Option String
  | .put name _ => some name
  | _ => none

/-- The name for which an event offers or sets a scalar. -/
def scalarName? : Event → Option String
  | .offer name _ => some name
  | .set name _ => some name
  | _ => none

def putting? (name : String) : Event → Option ObjectDefinition
  | .put other object => if other = name then some object else none
  | _ => none

def offering? (name : String) : Event → Option ScalarDefinition
  | .offer other scalar => if other = name then some scalar else none
  | _ => none

def setting? (name : String) : Event → Option ScalarDefinition
  | .set other scalar => if other = name then some scalar else none
  | _ => none

theorem putting?_eq_some {event : Event} {name : String} {object : ObjectDefinition} :
    event.putting? name = some object ↔ event = .put name object := by
  cases event <;> simp [putting?]

theorem offering?_eq_some {event : Event} {name : String} {scalar : ScalarDefinition} :
    event.offering? name = some scalar ↔ event = .offer name scalar := by
  cases event <;> simp [offering?]

theorem setting?_eq_some {event : Event} {name : String} {scalar : ScalarDefinition} :
    event.setting? name = some scalar ↔ event = .set name scalar := by
  cases event <;> simp [setting?]

end Event

namespace State

theorem contains_objects_apply (state : State) (event : Event) (name : String) :
    (state.apply event).catalog.objects.contains name =
      (event.objectName? == some name || state.catalog.objects.contains name) := by
  cases event with
  | put other object => exact NameMap.contains_insert state.catalog.objects other name object
  | offer other scalar =>
    simp only [apply, Catalog.objects_offerScalar]
    rfl
  | set other scalar => rfl
  | opened other => rfl
  | closed other => rfl

theorem contains_scalars_apply (state : State) (event : Event) (name : String) :
    (state.apply event).catalog.scalars.contains name =
      (event.scalarName? == some name || state.catalog.scalars.contains name) := by
  cases event with
  | put other object => rfl
  | offer other scalar => exact Catalog.contains_offerScalar state.catalog other name scalar
  | set other scalar => exact NameMap.contains_insert state.catalog.scalars other name scalar
  | opened other => rfl
  | closed other => rfl

/-- A log leaves an object under a name if one was there or it puts one there. -/
theorem contains_objects_replay (state : State) (log : List Event) (name : String) :
    (state.replay log).catalog.objects.contains name = true ↔
      state.catalog.objects.contains name = true ∨ ∃ event ∈ log, event.objectName? = some name := by
  induction log generalizing state with
  | nil => simp
  | cons event rest inductionHypothesis =>
    rw [replay_cons, inductionHypothesis, contains_objects_apply]
    simp only [Bool.or_eq_true, beq_iff_eq, List.mem_cons, exists_eq_or_imp]
    rw [or_assoc, or_left_comm]

/-- A log leaves a scalar under a name if one was there or it offers or sets one. -/
theorem contains_scalars_replay (state : State) (log : List Event) (name : String) :
    (state.replay log).catalog.scalars.contains name = true ↔
      state.catalog.scalars.contains name = true ∨ ∃ event ∈ log, event.scalarName? = some name := by
  induction log generalizing state with
  | nil => simp
  | cons event rest inductionHypothesis =>
    rw [replay_cons, inductionHypothesis, contains_scalars_apply]
    simp only [Bool.or_eq_true, beq_iff_eq, List.mem_cons, exists_eq_or_imp]
    rw [or_assoc, or_left_comm]

theorem find?_objects_apply (state : State) (event : Event) (name : String) :
    (state.apply event).catalog.objects.find? name =
      (event.putting? name).or (state.catalog.objects.find? name) := by
  cases event with
  | put other object =>
    by_cases same : other = name
    · subst same
      simp [apply, Catalog.putObject, Event.putting?]
    · simp only [apply, Catalog.putObject, Event.putting?, if_neg same, Option.none_or]
      exact NameMap.find?_insert_of_ne state.catalog.objects same object
  | offer other scalar => simp only [apply, Catalog.objects_offerScalar, Event.putting?, Option.none_or]
  | set other scalar => rfl
  | opened other => rfl
  | closed other => rfl

/-- The last object that is put under a name stays. -/
theorem find?_objects_replay (state : State) (log : List Event) (name : String) :
    (state.replay log).catalog.objects.find? name =
      (log.reverse.findSome? (Event.putting? name)).or (state.catalog.objects.find? name) := by
  induction log generalizing state with
  | nil => simp
  | cons event rest inductionHypothesis =>
    rw [replay_cons, inductionHypothesis, find?_objects_apply, List.reverse_cons,
      List.findSome?_append, List.findSome?_singleton, Option.or_assoc]

/-- A log that puts no object under a name leaves the one that was there. -/
theorem find?_objects_replay_of_absent {log : List Event} {name : String}
    (absent : ∀ event ∈ log, event.objectName? ≠ some name) (state : State) :
    (state.replay log).catalog.objects.find? name = state.catalog.objects.find? name := by
  have none : log.reverse.findSome? (Event.putting? name) = none := by
    refine List.findSome?_eq_none_iff.2 ?_
    intro event happened
    refine Option.eq_none_iff_forall_ne_some.2 ?_
    intro object puts
    refine absent event (List.mem_reverse.1 happened) ?_
    rw [Event.putting?_eq_some.1 puts]
    rfl
  rw [find?_objects_replay, none, Option.none_or]

/-- An event sets the scalar of a name, or else it may only offer one. -/
theorem find?_scalars_apply (state : State) (event : Event) (name : String) :
    (state.apply event).catalog.scalars.find? name =
      (event.setting? name).or ((state.catalog.scalars.find? name).or (event.offering? name)) := by
  cases event with
  | offer other scalar => exact Catalog.find?_offerScalar state.catalog other name scalar
  | set other scalar =>
    have noOffer : Event.offering? name (.set other scalar) = none := rfl
    rw [noOffer, Option.or_none]
    exact Catalog.find?_setScalar state.catalog other name scalar
  | put other object => simp [apply, Catalog.putObject, Event.setting?, Event.offering?]
  | opened other => simp [apply, Event.setting?, Event.offering?]
  | closed other => simp [apply, Event.setting?, Event.offering?]

/-- The last scalar that is set under a name stays; else the one that was there, or the first one
that is offered. -/
theorem find?_scalars_replay (state : State) (log : List Event) (name : String) :
    (state.replay log).catalog.scalars.find? name =
      (log.reverse.findSome? (Event.setting? name)).or
        ((state.catalog.scalars.find? name).or (log.findSome? (Event.offering? name))) := by
  induction log generalizing state with
  | nil => simp
  | cons event rest inductionHypothesis =>
    have first : (event :: rest).findSome? (Event.offering? name) =
        (event.offering? name).or (rest.findSome? (Event.offering? name)) := by
      rw [← List.singleton_append, List.findSome?_append, List.findSome?_singleton]
    rw [replay_cons, inductionHypothesis, find?_scalars_apply, first, List.reverse_cons,
      List.findSome?_append, List.findSome?_singleton]
    simp only [Option.or_assoc]

/-- Whatever happens, a registered name stays registered. -/
theorem registers_replay {state : State} {name : String} (log : List Event)
    (known : state.catalog.registers name = true) :
    (state.replay log).catalog.registers name = true := by
  simp only [Catalog.registers, Bool.or_eq_true] at known ⊢
  rw [contains_objects_replay, contains_scalars_replay]
  exact known.imp Or.inl Or.inl

end State

end Typing

end RestConnector
