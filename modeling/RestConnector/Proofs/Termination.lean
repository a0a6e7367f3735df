import Mathlib.Data.List.Perm.Subperm
import RestConnector.Proofs.Building
import RestConnector.Proofs.Trace

/-!
Contract: the typing of a schema ends, whatever the definitions refer to.

Owns:
- `Site.step`, one step of the typing, which leaves the sites that it needs to a given typing;
- `Site.Yields`, what a site comes to by finitely many steps;
- `Site.Needs`, the two ways in which the typing of a site needs that of another;
- `Opens` and `Site.Ends`: every typing ends, and few expansions are open at once.

Does not own: whether a typing that ends is a success, see `RestConnector.Proofs.Reachability`.

A definition may be larger than the schema that refers to it, so no measure of schemas decreases.
What does is the number of definitions that can still be opened: a reference opens one of them before
the typing goes on there, and a definition that is open is not opened again.
-/

namespace RestConnector

open Swagger (Document Schema)

/-- The schemas directly inside a schema on which its type may depend. -/
def Swagger.Schema.inner (schema : Schema) : List Schema :=
  schema.properties.map Prod.snd ++ schema.items.toList

namespace Typing

/-! ## Finitely many steps -/

namespace Site

/-- One step of the typing of a site.  The sites that it needs are typed in the given way. -/
def step (typing : Site → Outcome Typed) (site : Site) : Outcome Typed :=
  match site.kind with
  | .expanded name target => (typing (site.expansion name target)).within name
  | .record name =>
    (Outcome.forEach (fun entry => (typing (site.property entry)).andThen fun typed =>
      .ok (site.field entry typed)) site.schema.properties).andThen fun fields =>
    (Outcome.emit (.put name (site.object fields))).andThen fun _ =>
      .ok (site.marked (site.objectType name fields))
  | .array items =>
    (typing (site.element items)).andThen fun item =>
      .ok (site.marked (item.listOf (shapeOf site.schema "array")))
  | kind => site.outcomeOf kind

/-- What a site comes to if the steps below it come to an end: those that its own step needs have
come to something before. -/
inductive Yields : Site → Outcome Typed → Prop where
  | intro {site : Site} (typing : Site → Outcome Typed)
      (parts : ∀ part ∈ site.parts, Yields part (typing part)) :
      Yields site (site.step typing)

/-- A step depends on the typing of the parts of its site alone. -/
theorem step_congr {site : Site} {one other : Site → Outcome Typed}
    (same : ∀ part ∈ site.parts, one part = other part) : site.step one = site.step other := by
  unfold step
  cases isKind : site.kind with
  | expanded name target =>
    simp only [same _ (expansion_mem_parts isKind)]
  | record name =>
    have fields : ∀ entry ∈ site.schema.properties,
        ((one (site.property entry)).andThen fun typed => .ok (site.field entry typed)) =
          (other (site.property entry)).andThen fun typed => .ok (site.field entry typed) := by
      intro entry inside
      rw [same _ (property_mem_parts isKind inside)]
    simp only [Outcome.forEach_congr fields]
  | array items =>
    simp only [same _ (element_mem_parts isKind)]
  | _ => rfl

/-- The typing goes on by steps. -/
theorem step_outcome (site : Site) : site.step outcome = site.outcome := by
  rw [site.outcome_eq]
  unfold step
  cases site.kind <;> rfl

/-- Every site comes to its outcome, and to nothing else. -/
theorem yields_iff (site : Site) (result : Outcome Typed) :
    site.Yields result ↔ result = site.outcome := by
  induction site using Site.induct generalizing result with
  | step site inductionHypothesis =>
    constructor
    · intro yields
      obtain ⟨typing, parts⟩ := yields
      rw [← site.step_outcome]
      refine step_congr ?_
      intro part member
      exact (inductionHypothesis part member _).1 (parts part member)
    · rintro rfl
      rw [← site.step_outcome]
      refine .intro outcome ?_
      intro part member
      exact (inductionHypothesis part member _).2 rfl

/-! ## What a typing needs -/

/-- How the typing of a site may need that of another: for a schema inside its own, in the same
scope, or for a definition that is no object and not in progress, which is in progress from then. -/
inductive Needs (site part : Site) : Prop where
  | inner (inside : part.schema ∈ site.schema.inner) (sameScope : part.scope = site.scope)
  | expansion (name : String)
      (found : site.scope.document.definition? name = some part.schema)
      (notObject : part.schema.isObjectLike = false) (fresh : name ∉ site.scope.expanding)
      (opened : part.scope = site.scope.entering name)

theorem needs_of_mem_parts {site part : Site} (member : part ∈ site.parts) : site.Needs part := by
  rcases mem_parts member with ⟨name, target, isExpanded, rfl⟩ | ⟨name, entry, -, inside, rfl⟩ |
    ⟨items, isArray, rfl⟩
  · obtain ⟨found, notObject, notOpen⟩ := kind_eq_expanded isExpanded
    exact .expansion name found notObject (by simpa using notOpen) rfl
  · refine .inner ?_ rfl
    exact List.mem_append_left _ (List.mem_map_of_mem inside)
  · refine .inner ?_ rfl
    have given : site.schema.items = some items := kind_eq_array isArray
    simp [Schema.inner, element, ofUse, given]

end Site

/-! ## How many expansions are open -/

/-- Definitions that are no objects are opened one inside the other, beyond some that are in progress
already: all of them differ. -/
def Opens (document : Document) (inProgress names : List String) : Prop :=
  names.Nodup ∧ ∀ name ∈ names, name ∈ document.expandable ∧ name ∉ inProgress

namespace Opens

variable {document : Document} {inProgress names : List String}

theorem nil : Opens document inProgress [] :=
  ⟨List.nodup_nil, by simp⟩

/-- One more definition is opened inside of all others. -/
theorem cons {name : String} (opens : Opens document inProgress names)
    (expandable : name ∈ document.expandable) (fresh : name ∉ names ++ inProgress) :
    Opens document inProgress (name :: names) := by
  obtain ⟨nodup, each⟩ := opens
  rw [List.mem_append, not_or] at fresh
  refine ⟨List.nodup_cons.2 ⟨fresh.1, nodup⟩, ?_⟩
  intro other member
  rcases List.mem_cons.1 member with rfl | inside
  · exact ⟨expandable, fresh.2⟩
  · exact each other inside

/-- One more definition is opened around all others. -/
theorem concat {name : String} (expandable : name ∈ document.expandable)
    (fresh : name ∉ inProgress) (opens : Opens document (name :: inProgress) names) :
    Opens document inProgress (names ++ [name]) := by
  obtain ⟨nodup, each⟩ := opens
  refine ⟨?_, ?_⟩
  · refine List.nodup_append.2 ⟨nodup, List.pairwise_singleton _ name, ?_⟩
    intro one inside other single same
    rw [List.mem_singleton.1 single] at same
    exact (each one inside).2 (same ▸ List.mem_cons_self)
  · intro other member
    rcases List.mem_append.1 member with inside | last
    · obtain ⟨isExpandable, apart⟩ := each other inside
      exact ⟨isExpandable, fun progress => apart (List.mem_cons_of_mem name progress)⟩
    · rw [List.mem_singleton.1 last]
      exact ⟨expandable, fresh⟩

/-- Definitions that are opened inside of others are opened with them. -/
theorem append (opens : Opens document inProgress names) (before : Opens document [] inProgress) :
    Opens document [] (names ++ inProgress) := by
  refine ⟨?_, ?_⟩
  · refine List.nodup_append.2 ⟨opens.1, before.1, ?_⟩
    intro one inside other old same
    exact (opens.2 one inside).2 (same ▸ old)
  · intro name member
    rcases List.mem_append.1 member with new | old
    · exact ⟨(opens.2 name new).1, List.not_mem_nil⟩
    · exact before.2 name old

/-- There are no more of them than definitions that are no objects. -/
theorem length_le (opens : Opens document inProgress names) :
    names.length ≤ document.expandable.length := by
  refine (List.subperm_of_subset opens.1 ?_).length_le
  intro name member
  exact (opens.2 name member).1

end Opens

/-- More definitions are in progress than before.  The new ones are at most as many as there are
definitions to expand, and so are all of them, if those from before were opened in this way. -/
structure Deepens (document : Document) (before now : List String) : Prop where
  opened : ∃ names, now = names ++ before ∧ Opens document before names ∧
    names.length ≤ document.expandable.length
  length_le : Opens document [] before → now.length ≤ document.expandable.length

theorem Opens.deepens {document : Document} {before names : List String}
    (opens : Opens document before names) : Deepens document before (names ++ before) where
  opened := ⟨names, rfl, opens, opens.length_le⟩
  length_le := fun started => (opens.append started).length_le

/-- Along a chain of typings that need each other, the scope grows by definitions that differ. -/
theorem Site.opens_of_reaches {site other : Site} (reached : site.Reaches other) :
    other.scope.document = site.scope.document ∧
      ∃ names, other.scope.expanding = names ++ site.scope.expanding ∧
        Opens site.scope.document site.scope.expanding names := by
  induction reached with
  | refl => exact ⟨rfl, [], rfl, .nil⟩
  | @tail between next _ member inductionHypothesis =>
    obtain ⟨sameDocument, names, grown, opens⟩ := inductionHypothesis
    cases needs_of_mem_parts member with
    | inner _ sameScope =>
      rw [sameScope]
      exact ⟨sameDocument, names, grown, opens⟩
    | expansion name found notObject fresh opened =>
      rw [sameDocument] at found
      rw [grown] at fresh
      rw [opened]
      refine ⟨sameDocument, name :: names, congrArg (name :: ·) grown, ?_⟩
      exact opens.cons (Document.mem_expandable found notObject) fresh

theorem prefix_append_cases {before front back : List Event} (moment : before <+: front ++ back) :
    before <+: front ∨ ∃ late, before = front ++ late ∧ late <+: back := by
  obtain ⟨after, whole⟩ := moment
  rcases List.append_eq_append_iff.1 whole with ⟨rest, rfl, -⟩ | ⟨late, rfl, rfl⟩
  · exact Or.inl (List.prefix_append before rest)
  · exact Or.inr ⟨late, rfl, List.prefix_append late after⟩

/-- At every moment of a typing, the definitions in progress are those from before and some that
differ from them and from each other. -/
theorem Balanced.opens {document : Document} {opened : List String} {log before : List Event}
    (balanced : Balanced document opened log) (moment : before <+: log) :
    ∃ names, Opens document opened names ∧
      ∀ state : State, (state.replay before).expanding = names ++ state.expanding := by
  induction balanced generalizing before with
  | nil =>
    rw [List.prefix_nil.1 moment]
    exact ⟨[], .nil, fun _ => rfl⟩
  | @write opened event writes =>
    have whole : Balanced document opened [event] := .write writes
    have single : before <+: [] ++ [event] := moment
    rcases List.prefix_concat_iff.1 single with rfl | nothing
    · exact ⟨[], .nil, whole.expanding_replay⟩
    · rw [List.prefix_nil.1 nothing]
      exact ⟨[], .nil, fun _ => rfl⟩
  | append first second firstHypothesis secondHypothesis =>
    -- a moment of the second log comes after all of the first, which closes what it opens
    rcases prefix_append_cases moment with early | ⟨late, rfl, inside⟩
    · exact firstHypothesis early
    · obtain ⟨names, opens, reached⟩ := secondHypothesis inside
      refine ⟨names, opens, ?_⟩
      intro state
      rw [State.replay_append, reached, first.expanding_replay]
  | @within opened name log expandable fresh inside insideHypothesis =>
    have whole : Balanced document opened (.opened name :: log ++ [.closed name]) :=
      .within expandable fresh inside
    rcases List.prefix_concat_iff.1 moment with rfl | part
    · exact ⟨[], .nil, whole.expanding_replay⟩
    · rcases List.prefix_cons_iff.1 part with rfl | ⟨rest, rfl, early⟩
      · exact ⟨[], .nil, fun _ => rfl⟩
      · obtain ⟨names, opens, reached⟩ := insideHypothesis early
        refine ⟨names ++ [name], .concat expandable fresh opens, ?_⟩
        intro state
        rw [State.replay_cons, reached, List.append_assoc]
        rfl

/-! ## Every typing ends -/

/-- The typing of a site ends. -/
structure Site.Ends (site : Site) : Prop where
  /-- Finitely many steps lead to its outcome, and to nothing else. -/
  yields_iff : ∀ result, site.Yields result ↔ result = site.outcome
  /-- On the way each step needs schemas inside its own, or it opens one more definition. -/
  needs : ∀ other, site.Reaches other → ∀ part ∈ other.parts, other.Needs part
  /-- Each step stands inside of few expansions. -/
  nested : ∀ other, site.Reaches other →
    Deepens site.scope.document site.scope.expanding other.scope.expanding
  /-- At each moment few expansions have begun that have not ended, whatever was collected before. -/
  moments : ∀ catalog before, before <+: site.outcome.log →
    Deepens site.scope.document site.scope.expanding
      ((State.mk catalog site.scope.expanding).replay before).expanding

theorem Site.ends (site : Site) : site.Ends where
  yields_iff := site.yields_iff
  needs := fun _ _ _ member => needs_of_mem_parts member
  nested := by
    intro other reached
    obtain ⟨-, names, grown, opens⟩ := opens_of_reaches reached
    rw [grown]
    exact opens.deepens
  moments := by
    intro catalog before moment
    obtain ⟨names, opens, reached⟩ := site.built.balanced.opens moment
    rw [reached]
    exact opens.deepens

/-- The typing of a schema ends in place, where it is used, and for a definition.  Nothing is assumed
of the document, of the schema, or of the definitions in progress. -/
theorem typings_end (scope : Scope) (apiPath : String) (path : List String) (schema : Schema) :
    let node : Site := ⟨scope, apiPath, path, schema⟩
    let use := Site.ofUse scope apiPath path schema
    let entry (name : String) : Site := ⟨scope, "", [name], schema⟩
    (node.Ends ∧ ofNode scope apiPath path schema = node.outcome) ∧
    (use.Ends ∧ ∀ nullable, ofUse scope apiPath path schema nullable =
      use.outcome.andThen fun typed => .ok (typed.nullableIf nullable)) ∧
    ∀ name, (entry name).Ends ∧ ofDefinition scope name schema =
      if schema.isObjectLike then (entry name).outcome.andThen fun _ => .ok () else .ok () := by
  intro node use entry
  refine ⟨?_, ?_, ?_⟩
  · exact ⟨node.ends, rfl⟩
  · exact ⟨use.ends, fun nullable => ofUse_eq _ _ _ _ _⟩
  · intro name
    exact ⟨(entry name).ends, rfl⟩

end Typing

end RestConnector
