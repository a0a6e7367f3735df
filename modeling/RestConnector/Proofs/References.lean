import RestConnector.Proofs.Progress
import RestConnector.Proofs.Registries

/-!
Contract: a reference has the same type wherever it stands.

Owns:
- `Site.outcome_reopened`: of the definitions in progress, their order does not matter;
- `Site.typed_moved`: where a reference stands shows in no type and in no event;
- `references_agree`: two uses of a reference come to the same, whatever was typed before them.

Does not own: references in documents of another order, see `RestConnector.Proofs.Reordering`.

A path gives names to all objects and choices of values below it.  A reference cuts it off, as the
definition is typed under its own name.  The path is then left only in the fault of a reference that
points to nothing.
-/

namespace RestConnector.Typing

open Swagger (Document Schema)

namespace Site

/-! ## Definitions in progress -/

/-- The site while certain definitions are in progress. -/
def reopened (site : Site) (expanding : List String) : Site :=
  site.inScope { site.scope with expanding }

theorem kind_reopened {site : Site} {expanding : List String}
    (same : ∀ name, name ∈ expanding ↔ name ∈ site.scope.expanding) :
    (site.reopened expanding).kind = site.kind := by
  have sameContains : ∀ name, expanding.contains name = site.scope.expanding.contains name := by
    intro name
    rw [Bool.eq_iff_iff, List.contains_iff_mem, List.contains_iff_mem]
    exact same name
  unfold kind referenceKind
  simp only [reopened, inScope, sameContains]
  rfl

/-- Only the set of the definitions in progress matters. -/
theorem outcome_reopened (site : Site) {expanding : List String}
    (same : ∀ name, name ∈ expanding ↔ name ∈ site.scope.expanding) :
    (site.reopened expanding).outcome = site.outcome := by
  induction site using Site.induct generalizing expanding with
  | step site inductionHypothesis =>
    refine outcome_inScope (kind_reopened same) rfl ?_ ?_
    · intro name target isExpanded
      have sameInside : ∀ other, other ∈ name :: expanding ↔
          other ∈ (site.expansion name target).scope.expanding := by
        intro other
        show _ ↔ other ∈ name :: site.scope.expanding
        rw [List.mem_cons, List.mem_cons, same]
      exact inductionHypothesis _ (expansion_mem_parts isExpanded) sameInside
    · intro part member sameScope
      have samePart : ∀ name, name ∈ expanding ↔ name ∈ part.scope.expanding := by
        rw [sameScope]
        exact same
      have inside := inductionHypothesis part member samePart
      rw [reopened, sameScope] at inside
      exact inside

/-! ## Paths -/

/-- The site under another path. -/
def moved (site : Site) (path : List String) : Site := { site with path }

/-- A reference has the same type and the same events under every path. -/
theorem typed_moved (site : Site) {reference : String}
    (given : site.schema.reference = some reference) (path : List String) :
    (∀ typed, (site.moved path).outcome.value = .ok typed ↔ site.outcome.value = .ok typed) ∧
      (site.moved path).outcome.log = site.outcome.log := by
  have sameKind : (site.moved path).kind = site.kind := by
    unfold kind moved
    simp only [given]
  rw [outcome_eq, outcome_eq, sameKind]
  rcases kind_of_reference given with dangling | ⟨name, target, -, -, pointed⟩
  · -- the path is in the fault, and there alone
    rw [dangling]
    refine ⟨?_, rfl⟩
    intro typed
    constructor <;> intro impossible <;> cases impossible
  · rcases pointed with ⟨-, isKind⟩ | ⟨-, -, isKind⟩ | ⟨-, -, isKind⟩
    · rw [isKind]
      exact ⟨fun _ => Iff.rfl, rfl⟩
    · rw [isKind]
      exact ⟨fun _ => Iff.rfl, rfl⟩
    · rw [isKind]
      exact ⟨fun _ => Iff.rfl, rfl⟩

end Site

/-! ## Uses -/

section Use

variable {scope : Scope} {apiPath : String} {schema : Schema} {reference : String}

/-- The site of a reference is where it is used. -/
theorem Site.ofUse_of_reference (given : schema.reference = some reference) (path : List String) :
    Site.ofUse scope apiPath path schema = ⟨scope, apiPath, path, schema⟩ := by
  unfold Site.ofUse
  rw [given]
  rfl

/-- All uses of a reference have the same events. -/
theorem log_ofUse_of_reference (given : schema.reference = some reference)
    {path elsewhere : List String} {nullable flag : Bool} :
    (ofUse scope apiPath elsewhere schema flag).log =
      (ofUse scope apiPath path schema nullable).log := by
  rw [ofUse_eq, ofUse_eq, Outcome.log_andThen_ok, Outcome.log_andThen_ok,
    Site.ofUse_of_reference given, Site.ofUse_of_reference given]
  exact (Site.typed_moved ⟨scope, apiPath, path, schema⟩ given elsewhere).2

theorem ofUse_ok_iff_of_reference (given : schema.reference = some reference)
    {path elsewhere : List String} {nullable : Bool} {typed : Typed} :
    (ofUse scope apiPath elsewhere schema nullable).value = .ok typed ↔
      (ofUse scope apiPath path schema nullable).value = .ok typed := by
  have same := (Site.typed_moved ⟨scope, apiPath, path, schema⟩ given elsewhere).1
  rw [ofUse_eq, ofUse_eq, Outcome.map_ok_iff, Outcome.map_ok_iff,
    Site.ofUse_of_reference given, Site.ofUse_of_reference given]
  exact exists_congr fun inner => and_congr_left' (same inner)

theorem ofUse_reopened (scope : Scope) {expanding : List String}
    (same : ∀ name, name ∈ expanding ↔ name ∈ scope.expanding) (path : List String)
    (nullable : Bool) :
    ofUse { scope with expanding } apiPath path schema nullable =
      ofUse scope apiPath path schema nullable := by
  rw [ofUse_eq, ofUse_eq]
  have sites := (Site.ofUse scope apiPath path schema).outcome_reopened same
  exact congrArg (Outcome.andThen · fun typed => .ok (typed.nullableIf nullable)) sites

end Use

/-- What a log leaves of a catalog does not depend on what is in progress. -/
theorem State.catalog_replay_congr {one other : State} (same : one.catalog = other.catalog)
    (log : List Event) : (one.replay log).catalog = (other.replay log).catalog := by
  induction log generalizing one other with
  | nil => exact same
  | cons event rest inductionHypothesis =>
    refine inductionHypothesis ?_
    cases event <;> simp only [State.apply, same]

/-- Two uses of a reference succeed alike and then have the same type and the same shape, wherever
they stand and whatever the catalogs are, as long as the same definitions are in progress.  If the
catalogs are equal before, then they are so after. -/
theorem references_agree (document : Document) (preferences : Preferences) (apiPath : String)
    {schema : Schema} {reference : String} (given : schema.reference = some reference)
    (nullable : Bool) {one other : State}
    (sameProgress : ∀ name, name ∈ one.expanding ↔ name ∈ other.expanding)
    (path elsewhere : List String) :
    let here := ofUse ⟨document, preferences, one.expanding⟩ apiPath path schema nullable
    let there := ofUse ⟨document, preferences, other.expanding⟩ apiPath elsewhere schema nullable
    (∀ typed, here.value = .ok typed ↔ there.value = .ok typed) ∧
      (one.catalog = other.catalog →
        (one.replay here.log).catalog = (other.replay there.log).catalog) := by
  intro here there
  let between := ofUse ⟨document, preferences, one.expanding⟩ apiPath elsewhere schema nullable
  have sameScope : there = between :=
    ofUse_reopened ⟨document, preferences, one.expanding⟩
      (fun name => (sameProgress name).symm) elsewhere nullable
  refine ⟨?_, ?_⟩
  · intro typed
    rw [sameScope]
    exact (ofUse_ok_iff_of_reference given).symm
  · intro sameCatalog
    have sameLog : there.log = here.log := by
      rw [sameScope]
      exact log_ofUse_of_reference given
    rw [sameLog]
    exact State.catalog_replay_congr sameCatalog here.log

/-- A document that defines a list of texts with a choice of values. -/
def paletteDocument : Document :=
  let color : Schema := { Schema.ofType "string" with choices := [.text "red", .text "blue"] }
  { Document.empty with
    definitions := [("Palette", { Schema.ofType "array" with items := some color })] }

def paletteReference : Schema := { Schema.empty with reference := some "#/definitions/Palette" }

private theorem ofUse_palette :
    ∃ typed, (ofUse ⟨paletteDocument, .empty, ["Left", "Right"]⟩ "/paints" ["paint"]
      paletteReference true).value = .ok typed ∧
        typed.term = .nullable (.array (.named "PaletteEnum")) := by
  let site : Site :=
    ⟨⟨paletteDocument, .empty, ["Left", "Right"]⟩, "/paints", ["paint"], paletteReference⟩
  let target : Schema := (paletteDocument.definitions[0]).2
  have points : Swagger.Pointer.definition? "#/definitions/Palette" = some "Palette" := by
    decide +kernel
  have observed : (site.expansion "Palette" target).outcome.value.toOption.map
      (fun typed => typed.term) = some (.array (.named "PaletteEnum")) := by
    cbv
  obtain ⟨typed, inside, isList⟩ := exists_of_observed observed
  have expanded : site.outcome = (site.expansion "Palette" target).outcome.within "Palette" :=
    Site.outcome_of_expandable rfl points rfl rfl (by decide)
  refine ⟨typed.nullableIf true, ?_, ?_⟩
  · rw [ofUse_eq, Site.ofUse_of_reference rfl, Outcome.map_ok_iff]
    refine ⟨typed, ?_, rfl⟩
    show site.outcome.value = _
    rw [expanded]
    exact inside
  · show typed.term.asNullable = _
    rw [isList]
    rfl

/-- The choice of values is named for the definition at both places. -/
theorem references_agree_palette :
    let one : State := ⟨∅, ["Left", "Right"]⟩
    let other : State := ⟨∅, ["Right", "Left"]⟩
    let here := ofUse ⟨paletteDocument, .empty, one.expanding⟩ "/paints" ["paint"]
      paletteReference true
    let there := ofUse ⟨paletteDocument, .empty, other.expanding⟩ "/paints" ["mix", "base"]
      paletteReference true
    paletteReference.reference = some "#/definitions/Palette" ∧
      (∀ name, name ∈ one.expanding ↔ name ∈ other.expanding) ∧ one.catalog = other.catalog ∧
      (∃ typed, here.value = .ok typed ∧ there.value = .ok typed ∧
        typed.term = .nullable (.array (.named "PaletteEnum"))) ∧
      (one.replay here.log).catalog = (other.replay there.log).catalog := by
  intro one other here there
  have given : paletteReference.reference = some "#/definitions/Palette" := rfl
  have sameProgress : ∀ name, name ∈ one.expanding ↔ name ∈ other.expanding :=
    fun _ => (List.Perm.swap "Right" "Left" []).mem_iff
  obtain ⟨alike, catalogs⟩ := references_agree paletteDocument .empty "/paints" given true
    sameProgress ["paint"] ["mix", "base"]
  obtain ⟨typed, succeeded, isList⟩ := ofUse_palette
  exact ⟨given, sameProgress, rfl, ⟨typed, succeeded, (alike typed).1 succeeded, isList⟩,
    catalogs rfl⟩

end RestConnector.Typing
