import Mathlib.Data.Finset.Card
import RestConnector.Proofs.DistinctNames

/-!
Contract: what a catalog is after any history of writes, and what each write replied.

Owns:
- `after` and `journal`, the catalog and the replies of a history;
- `Target`, a name as that of an object or as that of a scalar;
- `Recalls`, what a catalog has to do with the history that led to it, and `Replies`, the same for
  the reply to one more write;
- `history_decides`: from an empty catalog every history comes to these, and for each target only
  the writes to it count.

Does not own: which writes a conversion makes, see `RestConnector.Proofs.Registries`.

Three rules meet in two maps.  An object goes to the last write, while a scalar goes to the last one
that sets it and, only if there is none, to the first one that offers it.
-/

namespace RestConnector

theorem NameMap.nodup_names {α : Type} (table : NameMap α) : table.names.Nodup := by
  refine List.pairwise_map.2 (table.increasing.imp ?_)
  intro left right less same
  exact absurd (same ▸ less) (String.lt_irrefl left.1)

theorem NameMap.size_eq_card {α : Type} {table : NameMap α} {names : List String}
    (known : ∀ name, table.contains name = true ↔ name ∈ names) :
    table.size = names.toFinset.card := by
  have same : table.names.toFinset = names.toFinset := by
    ext name
    rw [List.mem_toFinset, List.mem_toFinset, ← contains_iff_mem_names, known]
  rw [← same, List.toFinset_card_of_nodup table.nodup_names]
  exact (List.length_map _).symm

namespace Catalog

open Typing (Event State)

/-! ## Histories -/

/-- What a write is about. -/
inductive Target where
  | object (name : String)
  | scalar (name : String)
deriving DecidableEq

namespace Target

def objectName? : Target → Option String
  | .object name => some name
  | .scalar _ => none

def scalarName? : Target → Option String
  | .object _ => none
  | .scalar name => some name

end Target

namespace Write

def target : Write → Target
  | .put name _ => .object name
  | .offer name _ => .scalar name
  | .set name _ => .scalar name

def Puts (name : String) (write : Write) : Prop := ∃ object, write = .put name object

def Offers (name : String) (write : Write) : Prop := ∃ scalar, write = .offer name scalar

def Sets (name : String) (write : Write) : Prop := ∃ scalar, write = .set name scalar

end Write

/-- The catalog that a history of writes leaves. -/
def after (catalog : Catalog) (history : List Write) : Catalog :=
  history.foldl (fun reached write => (reached.write write).2) catalog

/-- The writes of a history with their replies. -/
def journal (catalog : Catalog) : List Write → List (Write × Reply)
  | [] => []
  | write :: rest => (write, (catalog.write write).1) :: journal (catalog.write write).2 rest

/-- The first write with a property in a history. -/
def IsFirst (holds : Write → Prop) (history : List Write) (write : Write) : Prop :=
  ∃ before rest, history = before ++ write :: rest ∧ holds write ∧ ∀ other ∈ before, ¬ holds other

/-- The last write with a property in a history. -/
def IsLast (holds : Write → Prop) (history : List Write) (write : Write) : Prop :=
  ∃ before rest, history = before ++ write :: rest ∧ holds write ∧ ∀ other ∈ rest, ¬ holds other

/-- What a catalog has to do with the history that led to it. -/
structure Recalls (history : List Write) (catalog : Catalog) : Prop where
  /-- An object is the one that was put last. -/
  object_iff : ∀ name object, catalog.object? name = some object ↔
    IsLast (Write.Puts name) history (.put name object)
  /-- A scalar is the one that was set last or, if none was set, the one that was offered first. -/
  scalar_iff : ∀ name scalar, catalog.scalar? name = some scalar ↔
    IsLast (Write.Sets name) history (.set name scalar) ∨
      (∀ write ∈ history, ¬ write.Sets name) ∧
        IsFirst (Write.Offers name) history (.offer name scalar)
  objects_size : catalog.objects.size =
    (history.filterMap fun write => write.target.objectName?).toFinset.card
  scalars_size : catalog.scalars.size =
    (history.filterMap fun write => write.target.scalarName?).toFinset.card

/-- What a write replies after a history of others. -/
inductive Replies (history : List Write) : Write → Reply → Prop where
  /-- An object replaces the one that was put last. -/
  | put {name : String} {object : ObjectDefinition} {previous : Option ObjectDefinition}
      (isLast : ∀ other, previous = some other ↔
        IsLast (Write.Puts name) history (.put name other)) :
      Replies history (.put name object) (.previous previous)
  /-- An offer is taken exactly if the name was neither offered nor set as that of a scalar. -/
  | offer {name : String} {scalar : ScalarDefinition} {isNew : Bool}
      (isFresh : isNew = true ↔ ∀ write ∈ history, ¬ write.Offers name ∧ ¬ write.Sets name) :
      Replies history (.offer name scalar) (.taken isNew)
  | set {name : String} {scalar : ScalarDefinition} :
      Replies history (.set name scalar) .nothing

/-- Two catalogs hold the same for a target. -/
def AlikeAt (one other : Catalog) : Target → Prop
  | .object name => one.object? name = other.object? name
  | .scalar name => one.scalar? name = other.scalar? name

theorem journal_append (catalog : Catalog) (history rest : List Write) :
    catalog.journal (history ++ rest) =
      catalog.journal history ++ (catalog.after history).journal rest := by
  induction history generalizing catalog with
  | nil => rfl
  | cons write others inductionHypothesis =>
    rw [List.cons_append, journal, journal, inductionHypothesis, List.cons_append]
    rfl

theorem writes_journal (catalog : Catalog) (history : List Write) :
    (catalog.journal history).map Prod.fst = history := by
  induction history generalizing catalog with
  | nil => rfl
  | cons write rest inductionHypothesis =>
    rw [journal, List.map_cons, inductionHypothesis]

/-! ## Writes as events -/

/-- The event of a typing that makes the same write. -/
def Write.event : Write → Event
  | .put name object => .put name object
  | .offer name scalar => .offer name scalar
  | .set name scalar => .set name scalar

theorem write_eq_apply (catalog : Catalog) (write : Write) (expanding : List String) :
    State.mk (catalog.write write).2 expanding =
      (State.mk catalog expanding).apply write.event := by
  cases write <;> rfl

theorem object?_write (catalog : Catalog) (write : Write) (name : String) :
    (catalog.write write).2.object? name =
      (write.event.putting? name).or (catalog.object? name) := by
  have applied := write_eq_apply catalog write []
  exact (congrArg (·.catalog.object? name) applied).trans (State.find?_objects_apply _ _ _)

theorem scalar?_write (catalog : Catalog) (write : Write) (name : String) :
    (catalog.write write).2.scalar? name =
      (write.event.setting? name).or ((catalog.scalar? name).or (write.event.offering? name)) := by
  have applied := write_eq_apply catalog write []
  exact (congrArg (·.catalog.scalar? name) applied).trans (State.find?_scalars_apply _ _ _)

theorem after_eq_replay (catalog : Catalog) (history : List Write) :
    catalog.after history = ((State.mk catalog []).replay (history.map Write.event)).catalog := by
  induction history generalizing catalog with
  | nil => rfl
  | cons write rest inductionHypothesis =>
    rw [List.map_cons, State.replay_cons, ← write_eq_apply]
    exact inductionHypothesis _

namespace Write

variable {write : Write} {name : String}

theorem putting?_event {object : ObjectDefinition} :
    write.event.putting? name = some object ↔ write = .put name object := by
  rw [Event.putting?_eq_some]
  cases write <;> simp [event]

theorem offering?_event {scalar : ScalarDefinition} :
    write.event.offering? name = some scalar ↔ write = .offer name scalar := by
  rw [Event.offering?_eq_some]
  cases write <;> simp [event]

theorem setting?_event {scalar : ScalarDefinition} :
    write.event.setting? name = some scalar ↔ write = .set name scalar := by
  rw [Event.setting?_eq_some]
  cases write <;> simp [event]

end Write

/-! ## What a history leaves -/

section Choice

variable {α : Type} {choose : Write → Option α} {make : α → Write} {history : List Write}
  (chooses : ∀ {write : Write} {value : α}, choose write = some value ↔ write = make value)

include chooses

theorem choice_eq_none_iff {write : Write} :
    choose write = none ↔ ¬ ∃ value, write = make value := by
  rw [Option.eq_none_iff_forall_ne_some, not_exists]
  exact forall_congr' fun value => not_congr chooses

theorem choice_eq_none_of_ne {write : Write} {target : Target}
    (targets : ∀ value, (make value).target = target) (elsewhere : write.target ≠ target) :
    choose write = none := by
  rw [choice_eq_none_iff chooses]
  rintro ⟨value, rfl⟩
  exact elsewhere (targets value)

theorem isFirst_iff {value : α} :
    IsFirst (fun write => ∃ other, write = make other) history (make value) ↔
      history.findSome? choose = some value := by
  rw [List.findSome?_eq_some_iff]
  constructor
  · rintro ⟨before, rest, split, -, none⟩
    exact ⟨before, make value, rest, split, chooses.2 rfl,
      fun other inside => (choice_eq_none_iff chooses).2 (none other inside)⟩
  · rintro ⟨before, write, rest, split, chosen, none⟩
    cases chooses.1 chosen
    exact ⟨before, rest, split, ⟨value, rfl⟩,
      fun other inside => (choice_eq_none_iff chooses).1 (none other inside)⟩

theorem isLast_iff {value : α} :
    IsLast (fun write => ∃ other, write = make other) history (make value) ↔
      history.reverse.findSome? choose = some value := by
  rw [← isFirst_iff chooses]
  constructor
  · rintro ⟨before, rest, rfl, held, none⟩
    refine ⟨rest.reverse, before.reverse, by simp, held, ?_⟩
    intro other inside
    exact none other (List.mem_reverse.1 inside)
  · rintro ⟨before, rest, split, held, none⟩
    refine ⟨rest.reverse, before.reverse, ?_, held, ?_⟩
    · rw [← history.reverse_reverse, split]
      simp
    · intro other inside
      exact none other (List.mem_reverse.1 inside)

theorem never_iff :
    (∀ write ∈ history, ¬ ∃ value, write = make value) ↔
      history.reverse.findSome? choose = none := by
  rw [List.findSome?_eq_none_iff]
  simp only [List.mem_reverse, choice_eq_none_iff chooses]

end Choice

section Start

variable {history : List Write} {name : String}

theorem object?_after {object : ObjectDefinition} :
    (empty.after history).object? name = some object ↔
      IsLast (Write.Puts name) history (.put name object) := by
  have found : (empty.after history).object? name =
      history.reverse.findSome? fun write => write.event.putting? name := by
    rw [after_eq_replay, object?, State.find?_objects_replay, ← List.map_reverse, List.findSome?_map]
    exact Option.or_none
  rw [found]
  exact (isLast_iff Write.putting?_event).symm

theorem scalar?_after {scalar : ScalarDefinition} :
    (empty.after history).scalar? name = some scalar ↔
      IsLast (Write.Sets name) history (.set name scalar) ∨
        (∀ write ∈ history, ¬ write.Sets name) ∧
          IsFirst (Write.Offers name) history (.offer name scalar) := by
  have found : (empty.after history).scalar? name =
      (history.reverse.findSome? fun write => write.event.setting? name).or
        (history.findSome? fun write => write.event.offering? name) := by
    rw [after_eq_replay, scalar?, State.find?_scalars_replay, ← List.map_reverse,
      List.findSome?_map, List.findSome?_map]
    rfl
  rw [found, Option.or_eq_some_iff]
  exact (or_congr (isLast_iff Write.setting?_event) (and_congr (never_iff Write.setting?_event)
    (isFirst_iff Write.offering?_event))).symm

theorem contains_objects_after :
    (empty.after history).objects.contains name = true ↔
      name ∈ history.filterMap fun write => write.target.objectName? := by
  have named : ∀ write : Write, write.event.objectName? = write.target.objectName? := by
    intro write
    cases write <;> rfl
  have nothing : empty.objects.contains name ≠ true := Bool.false_ne_true
  rw [after_eq_replay, State.contains_objects_replay, or_iff_right nothing]
  simp only [List.mem_map, exists_exists_and_eq_and, named, List.mem_filterMap]

theorem contains_scalars_after :
    (empty.after history).scalars.contains name = true ↔
      name ∈ history.filterMap fun write => write.target.scalarName? := by
  have named : ∀ write : Write, write.event.scalarName? = write.target.scalarName? := by
    intro write
    cases write <;> rfl
  have nothing : empty.scalars.contains name ≠ true := Bool.false_ne_true
  rw [after_eq_replay, State.contains_scalars_replay, or_iff_right nothing]
  simp only [List.mem_map, exists_exists_and_eq_and, named, List.mem_filterMap]

theorem recalls_after (history : List Write) : Recalls history (empty.after history) where
  object_iff := fun _ _ => object?_after
  scalar_iff := fun _ _ => scalar?_after
  objects_size := NameMap.size_eq_card fun _ => contains_objects_after
  scalars_size := NameMap.size_eq_card fun _ => contains_scalars_after

/-! ## Replies -/

theorem scalarName?_target {write : Write} :
    write.target.scalarName? = some name ↔ write.Offers name ∨ write.Sets name := by
  cases write <;> simp [Write.target, Target.scalarName?, Write.Offers, Write.Sets]

theorem replies_write (history : List Write) (write : Write) :
    Replies history write ((empty.after history).write write).1 := by
  cases write with
  | put name object => exact .put fun other => object?_after
  | offer name scalar =>
    refine .offer ?_
    rw [Bool.not_eq_true', ← Bool.not_eq_true, contains_scalars_after, List.mem_filterMap]
    simp only [scalarName?_target, not_exists, not_and, not_or]
  | set name scalar => exact .set

theorem getElem?_journal (before rest : List Write) (write : Write) :
    (empty.journal (before ++ write :: rest))[before.length]? =
      some (write, ((empty.after before).write write).1) := by
  have length : (empty.journal before).length = before.length := by
    rw [← List.length_map Prod.fst, writes_journal]
  rw [journal_append, List.getElem?_append_right length.le, length, Nat.sub_self]
  rfl

end Start

/-! ## One target -/

section Frame

variable {one other : Catalog} {target : Target} {write : Write}

/-- A write to another target changes nothing. -/
theorem alikeAt_write_of_ne (elsewhere : write.target ≠ target) (alike : AlikeAt one other target) :
    AlikeAt (one.write write).2 other target := by
  cases target with
  | object name =>
    have notPut : write.event.putting? name = none :=
      choice_eq_none_of_ne Write.putting?_event (fun _ => rfl) elsewhere
    show (one.write write).2.object? name = other.object? name
    rw [object?_write, notPut, Option.none_or]
    exact alike
  | scalar name =>
    have notSet : write.event.setting? name = none :=
      choice_eq_none_of_ne Write.setting?_event (fun _ => rfl) elsewhere
    have notOffered : write.event.offering? name = none :=
      choice_eq_none_of_ne Write.offering?_event (fun _ => rfl) elsewhere
    show (one.write write).2.scalar? name = other.scalar? name
    rw [scalar?_write, notSet, notOffered, Option.none_or, Option.or_none]
    exact alike

/-- A write replies alike, and has the same effect, wherever its target holds the same. -/
theorem alikeAt_write (alike : AlikeAt one other write.target) :
    (one.write write).1 = (other.write write).1 ∧
      AlikeAt (one.write write).2 (other.write write).2 write.target := by
  cases write with
  | put name object =>
    have same : one.object? name = other.object? name := alike
    refine ⟨congrArg Reply.previous same, ?_⟩
    show Catalog.object? _ name = Catalog.object? _ name
    rw [object?_write, object?_write, same]
  | offer name scalar =>
    have same : one.scalar? name = other.scalar? name := alike
    have contains : one.scalars.contains name = other.scalars.contains name :=
      congrArg Option.isSome same
    refine ⟨congrArg (fun known => Reply.taken (!known)) contains, ?_⟩
    show Catalog.scalar? _ name = Catalog.scalar? _ name
    rw [scalar?_write, scalar?_write, same]
  | set name scalar =>
    have same : one.scalar? name = other.scalar? name := alike
    refine ⟨rfl, ?_⟩
    show Catalog.scalar? _ name = Catalog.scalar? _ name
    rw [scalar?_write, scalar?_write, same]

/-- Only the writes to a target matter for it. -/
theorem alikeAt_after_filter (alike : AlikeAt one other target) (history : List Write) :
    AlikeAt (one.after history) (other.after (history.filter (·.target = target))) target ∧
      (one.journal history).filter (·.1.target = target) =
        other.journal (history.filter (·.target = target)) := by
  -- A write to the target is made on both sides and one elsewhere on the left alone, so the catalogs
  -- drift apart and only what they hold for the target is kept.
  induction history generalizing one other with
  | nil => exact ⟨alike, rfl⟩
  | cons write rest inductionHypothesis =>
    by_cases here : write.target = target
    · subst here
      obtain ⟨reply, stays⟩ := alikeAt_write alike
      obtain ⟨left, told⟩ := inductionHypothesis stays
      rw [List.filter_cons_of_pos (by simp)]
      refine ⟨left, ?_⟩
      rw [journal, List.filter_cons_of_pos (by simp), told, journal, reply]
    · obtain ⟨left, told⟩ := inductionHypothesis (alikeAt_write_of_ne here alike)
      rw [List.filter_cons_of_neg (by simpa using here)]
      refine ⟨left, ?_⟩
      rw [journal, List.filter_cons_of_neg (by simpa using here), told]

end Frame

/-- From an empty catalog, what a history leaves and what its writes reply is told by the writes
themselves: the objects by the last ones, the scalars by the last ones that set and else the first
ones that offer, each reply by the writes before it, and all that concerns a target by the writes to
this target alone. -/
theorem history_decides (history : List Write) :
    Recalls history (empty.after history) ∧
      (empty.journal history).map Prod.fst = history ∧
      (∀ before write rest, history = before ++ write :: rest →
        ∃ reply, (empty.journal history)[before.length]? = some (write, reply) ∧
          Replies before write reply) ∧
      ∀ target,
        AlikeAt (empty.after history) (empty.after (history.filter (·.target = target))) target ∧
          (empty.journal history).filter (·.1.target = target) =
            empty.journal (history.filter (·.target = target)) := by
  refine ⟨recalls_after history, writes_journal empty history, ?_, ?_⟩
  · rintro before write rest rfl
    exact ⟨_, getElem?_journal before rest write, replies_write before write⟩
  · intro target
    have start : AlikeAt empty empty target := by
      cases target <;> rfl
    exact alikeAt_after_filter start history

/-- Two objects and three scalars for one name. -/
theorem history_decides_meta :
    let pet : ObjectDefinition := ⟨some "A pet", []⟩
    let owner : ObjectDefinition := ⟨some "An owner", []⟩
    let before : List Write := [.offer "Meta" (.ofForm .string), .put "Meta" pet,
      .set "Meta" (.ofForm .json), .offer "Meta" (.ofForm .date)]
    let history := before ++ .put "Meta" owner :: [.put "Owner" owner]
    (empty.journal history)[4]? = some (.put "Meta" owner, .previous (some pet)) ∧
      (empty.after history).object? "Meta" = some owner ∧
      (empty.after history).scalar? "Meta" = some (.ofForm .json) ∧
      (empty.after history).objects.size = 2 ∧ (empty.after history).scalars.size = 1 := by
  intro pet owner before history
  obtain ⟨recalls, -, told, -⟩ := history_decides history
  obtain ⟨reply, isReply, replies⟩ := told before (.put "Meta" owner) [.put "Owner" owner] rfl
  refine ⟨?_, ?_, ?_, recalls.objects_size, recalls.scalars_size⟩
  · cases replies with
    | put isLast =>
      rw [(isLast pet).2 ⟨before.take 1, before.drop 2, rfl, ⟨pet, rfl⟩, ?_⟩] at isReply
      · exact isReply
      · rintro write inside ⟨object, rfl⟩
        simp [before] at inside
  · refine (recalls.object_iff "Meta" owner).2 ⟨before, [.put "Owner" owner], rfl, ⟨owner, rfl⟩, ?_⟩
    rintro write inside ⟨object, rfl⟩
    simp at inside
  · refine (recalls.scalar_iff "Meta" _).2 (Or.inl ?_)
    refine ⟨before.take 2, before.drop 3 ++ _, rfl, ⟨_, rfl⟩, ?_⟩
    rintro write inside ⟨scalar, rfl⟩
    simp [before] at inside

end Catalog

end RestConnector
