import RestConnector.Conversion
import RestConnector.Proofs.DistinctNames
import RestConnector.Proofs.References

/-!
Contract: a typing that is repeated right away changes nothing.

Owns:
- `State.catalog_replay_again`: what a log leaves of a catalog, it leaves again;
- `Repeats`, the typings whose repetition has the same result and changes nothing;
- `typings_repeat`: all typings are such, and after one use of a reference all others are idle.

Does not own: repetition after other typings, which may have put other objects under the same names.

A log may write to a name several times, each time something else, and it may end in the middle of a
typing.  Who wins can still be read off the log and what was there before it: the last object that is
put, and for scalars the last one that is set, else the oldest one.  None of them loses to itself.
-/

namespace RestConnector

open Swagger (Document Schema)

/-- Catalogs that answer alike are equal. -/
theorem Catalog.ext_find? {one other : Catalog}
    (sameObjects : ∀ name, one.objects.find? name = other.objects.find? name)
    (sameScalars : ∀ name, one.scalars.find? name = other.scalars.find? name) : one = other := by
  obtain ⟨objects, scalars⟩ := one
  obtain ⟨otherObjects, otherScalars⟩ := other
  have objectsEqual : objects = otherObjects := NameMap.ext_find? sameObjects
  have scalarsEqual : scalars = otherScalars := NameMap.ext_find? sameScalars
  rw [objectsEqual, scalarsEqual]

namespace Typing

/-! ## Logs -/

/-- What a log leaves of a catalog, it leaves again. -/
theorem State.catalog_replay_again (state : State) (log : List Event) :
    ((state.replay log).replay log).catalog = (state.replay log).catalog := by
  refine Catalog.ext_find? ?_ ?_
  · intro name
    rw [find?_objects_replay, find?_objects_replay, ← Option.or_assoc, Option.or_self]
  · intro name
    rw [find?_scalars_replay, find?_scalars_replay]
    cases log.reverse.findSome? (Event.setting? name) with
    | some scalar => rfl
    | none =>
      -- nothing is set, so the oldest scalar is there before the second time at the latest
      simp only [Option.none_or]
      rw [Option.or_assoc, Option.or_self]

namespace Balanced

variable {document : Document} {opened : List String} {log : List Event}

/-- After a log of a typing, the same log leaves everything as it is. -/
theorem replay_again (balanced : Balanced document opened log) (state : State) :
    (state.replay log).replay log = state.replay log := by
  have catalogs := state.catalog_replay_again log
  have expandings := balanced.expanding_replay (state.replay log)
  calc (state.replay log).replay log
      = ⟨((state.replay log).replay log).catalog, ((state.replay log).replay log).expanding⟩ := rfl
    _ = ⟨(state.replay log).catalog, (state.replay log).expanding⟩ := by rw [catalogs, expandings]

end Balanced

/-! ## Typings -/

/-- Whether a typing that is repeated right away, in the state that it has left, has the same result
and leaves the state as it is. -/
def Repeats {α : Type} (typing : Scope → Outcome α) : Prop :=
  ∀ (document : Document) (preferences : Preferences) (state : State),
    let first := typing ⟨document, preferences, state.expanding⟩
    let after := state.replay first.log
    let second := typing ⟨document, preferences, after.expanding⟩
    second.value = first.value ∧ after.replay second.log = after

theorem Repeats.ofBalanced {α : Type} {typing : Scope → Outcome α}
    (balanced : ∀ scope, Balanced scope.document scope.expanding (typing scope).log) :
    Repeats typing := by
  intro document preferences state first after second
  have firstBalanced : Balanced document state.expanding first.log :=
    balanced ⟨document, preferences, state.expanding⟩
  have sameProgress : after.expanding = state.expanding := firstBalanced.expanding_replay state
  have same : second = first :=
    congrArg (fun expanding => typing ⟨document, preferences, expanding⟩) sameProgress
  rw [same]
  exact ⟨rfl, firstBalanced.replay_again state⟩

theorem definitions_balanced (scope : Scope) :
    Balanced scope.document scope.expanding
      (Outcome.forEach (Conversion.definition scope) scope.document.definitions).log := by
  refine .forEach ?_
  intro entry _
  unfold Conversion.definition
  rw [Outcome.log_mapFault]
  exact (ofDefinition_built entry.1 entry.2).balanced

/-! ## Uses of a reference -/

/-- The state after uses of a schema at some paths, one after the other, of which each may be nullable. -/
def State.afterUses (document : Document) (preferences : Preferences) (apiPath : String)
    (schema : Schema) (state : State) (uses : List (List String × Bool)) : State :=
  uses.foldl (fun state use => state.replay
    (ofUse ⟨document, preferences, state.expanding⟩ apiPath use.1 schema use.2).log) state

/-- After one use of a reference, all others leave everything as it is. -/
theorem State.afterUses_of_reference (document : Document) (preferences : Preferences)
    (apiPath : String) {schema : Schema} {reference : String}
    (given : schema.reference = some reference) (state : State) (first : List String × Bool)
    (others : List (List String × Bool)) :
    state.afterUses document preferences apiPath schema (first :: others) =
      state.afterUses document preferences apiPath schema [first] := by
  let scope : Scope := ⟨document, preferences, state.expanding⟩
  let log := (ofUse scope apiPath first.1 schema first.2).log
  have balanced : Balanced scope.document scope.expanding log :=
    (ofUse_built schema first.2).balanced
  have sameProgress : (state.replay log).expanding = state.expanding :=
    balanced.expanding_replay state
  have idle : ∀ use : List String × Bool, (state.replay log).replay
      (ofUse ⟨document, preferences, (state.replay log).expanding⟩ apiPath use.1 schema
        use.2).log = state.replay log := by
    intro use
    have sameLog : (ofUse scope apiPath use.1 schema use.2).log = log :=
      log_ofUse_of_reference given
    rw [sameProgress, sameLog]
    exact balanced.replay_again state
  show (state.replay log).afterUses document preferences apiPath schema others = state.replay log
  induction others with
  | nil => rfl
  | cons use rest inductionHypothesis =>
    show State.afterUses document preferences apiPath schema ((state.replay log).replay _) rest = _
    rw [idle use]
    exact inductionHypothesis

/-- Every typing of a schema, of a definition or of all of them, of parameters, of responses, of an
operation or of a path can be repeated right away: the result is the same, also if it is a fault, and
nothing changes any more.  So a reference may be used at many places, as if at the first of them
alone. -/
theorem typings_repeat :
    (∀ apiPath path schema, Repeats fun scope => ofNode scope apiPath path schema) ∧
    (∀ apiPath path schema nullable,
      Repeats fun scope => ofUse scope apiPath path schema nullable) ∧
    (∀ name schema, Repeats fun scope => ofDefinition scope name schema) ∧
    (Repeats fun scope =>
      Outcome.forEach (Conversion.definition scope) scope.document.definitions) ∧
    (∀ apiPath path parameters,
      Repeats fun scope => ofParameters scope apiPath path parameters) ∧
    (∀ apiPath path responses, Repeats fun scope => ofResponses scope apiPath path responses) ∧
    (∀ apiPath method operation shared,
      Repeats fun scope => ofOperation scope apiPath method operation shared) ∧
    (∀ apiPath item, Repeats fun scope => ofPathItem scope apiPath item) ∧
    ∀ (document : Document) (preferences : Preferences) (apiPath reference : String)
      (schema : Schema) (state : State) (first : List String × Bool)
      (others : List (List String × Bool)),
      let link := { schema with reference := some reference }
      state.afterUses document preferences apiPath link (first :: others) =
        state.afterUses document preferences apiPath link [first] := by
  refine ⟨?_, ?_, ?_, ?_, ?_, ?_, ?_, ?_, ?_⟩
  · intro apiPath path schema
    exact .ofBalanced fun scope => (Site.built ⟨scope, apiPath, path, schema⟩).balanced
  · intro apiPath path schema nullable
    exact .ofBalanced fun scope => (ofUse_built schema nullable).balanced
  · intro name schema
    exact .ofBalanced fun scope => (ofDefinition_built name schema).balanced
  · exact .ofBalanced definitions_balanced
  · intro apiPath path parameters
    exact .ofBalanced fun scope => (ofParameters_built parameters).balanced
  · intro apiPath path responses
    exact .ofBalanced fun scope => (ofResponses_built responses).balanced
  · intro apiPath method operation shared
    exact .ofBalanced fun scope => (ofOperation_built method operation shared).balanced
  · intro apiPath item
    exact .ofBalanced fun scope => ofPathItem_balanced item
  · intro document preferences apiPath reference schema state first others link
    exact State.afterUses_of_reference document preferences apiPath rfl state first others

end Typing

end RestConnector
