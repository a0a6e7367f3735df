import Mathlib.Logic.Relation
import RestConnector.Proofs.Site

/-!
Contract: which events the typing of a schema has.

Owns:
- `Site.ownEvents`, the events of a site apart from those of its parts;
- `Site.Reaches`, the sites that are typed on the way, at any depth;
- `Site.mem_log_iff`: after a success, the events are those of the sites that are reached.

Does not own: which schemas a document has typed, see `RestConnector.Proofs.Registries`.

After a fault this fails in one direction: the parts behind the fault are never typed.
-/

namespace RestConnector.Typing.Site

def ownEvents (site : Site) : List Event :=
  match site.kind with
  | .recurring name => [.offer (Identifier.pascal name) anyScalar]
  | .expanded name _ => [.opened name, .closed name]
  | .untyped => [.offer jsonScalar anyScalar]
  | .primitive type =>
    [.offer (site.primitiveScalar type).1 (.ofForm (site.primitiveScalar type).2)]
  | .formless scalar => [.set scalar anyScalar]
  | .record name =>
    match (Outcome.forEach site.fieldOutcome site.schema.properties).value with
    | .ok fields => [.put name (site.object fields)]
    | .error _ => []
  | _ => []

/-- Whether a site is another one or is typed on the way to its type. -/
def Reaches : Site → Site → Prop :=
  Relation.ReflTransGen fun site part => part ∈ site.parts

/-- What a success says about one step of the typing: all parts succeed, and the events are those of
the site and of its parts. -/
def Splits (site : Site) : Prop :=
  (∀ part ∈ site.parts, ∃ typed, part.outcome.value = .ok typed) ∧
    ∀ event, event ∈ site.outcome.log ↔
      event ∈ site.ownEvents ∨ ∃ part ∈ site.parts, event ∈ part.outcome.log

private theorem splits_of_leaf {site : Site} (noParts : site.parts = [])
    (log : site.outcome.log = site.ownEvents) : site.Splits := by
  refine ⟨?_, ?_⟩
  · intro part member
    rw [noParts] at member
    cases member
  · intro event
    rw [log, noParts]
    simp

private theorem splits_record {site : Site} {name : String} {typed : Typed}
    (isRecord : site.kind = .record name) (succeeded : site.outcome.value = .ok typed) :
    site.Splits := by
  have parts : site.parts = site.schema.properties.map site.property := by
    simp only [Site.parts, isRecord]
  have outcome := site.outcome_eq
  rw [isRecord] at outcome
  rw [outcome] at succeeded
  obtain ⟨fields, walked, put, log⟩ := Outcome.andThen_ok succeeded
  obtain ⟨matched, fieldLog⟩ := Outcome.forEach_ok walked
  have own : site.ownEvents = [.put name (site.object fields)] := by
    simp only [ownEvents, isRecord, walked]
  have whole : site.outcome.log =
      (site.parts.flatMap fun part => part.outcome.log) ++ site.ownEvents := by
    rw [outcome, own, parts, List.flatMap_map]
    refine log.trans ?_
    rw [fieldLog]
    simp only [fieldOutcome, Outcome.log_andThen_ok]
    rfl
  refine ⟨?_, ?_⟩
  · intro part member
    rw [parts] at member
    obtain ⟨entry, inside, rfl⟩ := List.mem_map.1 member
    obtain ⟨field, _, typedField⟩ := matched entry inside
    obtain ⟨partTyped, partSucceeded, -⟩ := Outcome.andThen_ok typedField
    exact ⟨partTyped, partSucceeded⟩
  · intro event
    rw [whole, List.mem_append, List.mem_flatMap, or_comm]

/-- A success splits into the events of the site and the successes of its parts. -/
theorem splits {site : Site} {typed : Typed} (succeeded : site.outcome.value = .ok typed) :
    site.Splits := by
  have outcome := site.outcome_eq
  cases isKind : site.kind with
  | record name => exact splits_record isKind succeeded
  | expanded name target =>
    rw [isKind] at outcome
    have parts : site.parts = [site.expansion name target] := by simp only [Site.parts, isKind]
    have own : site.ownEvents = [.opened name, .closed name] := by simp only [ownEvents, isKind]
    refine ⟨?_, ?_⟩
    · intro part member
      rw [parts] at member
      rw [List.mem_singleton.1 member]
      rw [outcome] at succeeded
      exact ⟨typed, succeeded⟩
    · intro event
      rw [outcome, parts, own]
      simp only [outcomeOf, Outcome.within, List.cons_append, List.mem_cons, List.mem_append,
        List.not_mem_nil, or_false, exists_eq_left]
      rw [or_assoc]
      exact or_congr_right or_comm
  | array items =>
    rw [isKind] at outcome
    have parts : site.parts = [site.element items] := by simp only [Site.parts, isKind]
    have own : site.ownEvents = [] := by simp only [ownEvents, isKind]
    refine ⟨?_, ?_⟩
    · intro part member
      rw [parts] at member
      rw [List.mem_singleton.1 member]
      rw [outcome] at succeeded
      obtain ⟨item, partSucceeded, -⟩ := Outcome.andThen_ok succeeded
      exact ⟨item, partSucceeded⟩
    · intro event
      rw [outcome, parts, own]
      simp [outcomeOf, Outcome.log_andThen_ok]
  | _ =>
    -- all other kinds have no parts
    refine splits_of_leaf (by simp only [Site.parts, isKind]) ?_
    rw [outcome, isKind]
    simp only [ownEvents, isKind]
    rfl

/-- Whatever is typed on the way to a success succeeds. -/
theorem succeeds_of_reaches {site other : Site} (reached : site.Reaches other)
    (succeeds : ∃ typed, site.outcome.value = .ok typed) :
    ∃ typed, other.outcome.value = .ok typed := by
  induction reached with
  | refl => exact succeeds
  | tail _ member inductionHypothesis =>
    obtain ⟨typed, succeeded⟩ := inductionHypothesis
    exact (splits succeeded).1 _ member

/-- After a success, the events are those of the sites that are reached. -/
theorem mem_log_iff (site : Site) (event : Event)
    (succeeds : ∃ typed, site.outcome.value = .ok typed) :
    event ∈ site.outcome.log ↔ ∃ other, site.Reaches other ∧ event ∈ other.ownEvents := by
  induction site using Site.induct with
  | step site inductionHypothesis =>
    -- one step splits the events; the induction follows each part down to where its event is own
    obtain ⟨typed, succeeded⟩ := succeeds
    obtain ⟨partsSucceed, log⟩ := splits succeeded
    rw [log]
    constructor
    · rintro (own | ⟨part, member, happened⟩)
      · exact ⟨site, .refl, own⟩
      · obtain ⟨other, reached, own⟩ :=
          (inductionHypothesis part member (partsSucceed part member)).1 happened
        exact ⟨other, .head member reached, own⟩
    · rintro ⟨other, reached, own⟩
      rcases Relation.ReflTransGen.cases_head reached with rfl | ⟨part, member, rest⟩
      · exact Or.inl own
      · refine Or.inr ⟨part, member, ?_⟩
        exact (inductionHypothesis part member (partsSucceed part member)).2 ⟨other, rest, own⟩

end RestConnector.Typing.Site
