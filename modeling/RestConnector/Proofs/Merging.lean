import RestConnector.Proofs.Assignments
import RestConnector.Proofs.Records

/-!
Contract: the parameters of an operation together with those that its path shares.

Owns:
- `ParameterKey`, what tells parameters apart, and `Document.Dangles`, the references that point to
  no parameter of a document;
- `Overrides`, what is left when parameters take the places of others;
- `merge_overrides`: which parameters merge, and what comes of it.

Does not own: what parameters come to, see `RestConnector.Proofs.Arguments`.

Parameters under their keys are assignments, one after the other.  The shared ones are where these
start, so they may well repeat a key, and then only the first of them ever gives way.
-/

namespace RestConnector

open Swagger (Document Linked Parameter)

namespace Swagger

/-- What tells parameters apart. -/
structure ParameterKey where
  name : String
  location : String
deriving DecidableEq

def Parameter.key (parameter : Parameter) : ParameterKey := ⟨parameter.name, parameter.location⟩

/-- Whether a reference stands somewhere that points to no entry among the parameters. -/
def Document.Dangles (document : Document) : Linked Parameter → Prop
  | .inline _ => False
  | .link reference => ∀ name, Pointer.nameIn? "parameters" reference = some name →
      name ∉ document.parameters.map Prod.fst

end Swagger

theorem Members.find?_eq_none {κ : Type} [DecidableEq κ] {α : Type} {name : κ}
    {pairs : List (κ × α)} : find? name pairs = none ↔ name ∉ pairs.map Prod.fst := by
  induction pairs with
  | nil => simp [find?]
  | cons pair rest inductionHypothesis =>
    by_cases same : pair.1 = name
    · simp [find?, same]
    · have differ : name ≠ pair.1 := fun equal => same equal.symm
      rw [find?, if_neg same, inductionHypothesis, List.map_cons, List.mem_cons]
      exact not_congr (or_iff_right differ).symm

namespace Typing

/-! ## References -/

section References

variable {document : Document} {linked : Linked Parameter}

theorem parameter?_link (document : Document) (reference : String) :
    document.parameter? (.link reference) =
      (Swagger.Pointer.nameIn? "parameters" reference).bind fun name =>
        Members.find? name document.parameters := rfl

theorem parameter?_eq_none : document.parameter? linked = none ↔ document.Dangles linked := by
  cases linked with
  | inline parameter => simp [Document.parameter?, Document.Dangles]
  | link reference =>
    rw [parameter?_link, Option.bind_eq_none_iff]
    exact forall₂_congr fun name _ => Members.find?_eq_none

theorem lookedUp_ok_iff {parameter : Parameter} :
    lookedUp document linked = .ok parameter ↔ document.parameter? linked = some parameter := by
  unfold lookedUp
  cases found : document.parameter? linked with
  | some other => simp
  | none =>
    cases linked with
    | inline other => cases found
    | link reference => simp

theorem lookedUp_error_iff {fault : Fault} :
    lookedUp document linked = .error fault ↔
      ∃ reference, linked = .link reference ∧ document.Dangles linked ∧
        fault = .bare (.danglingReference reference) := by
  rw [← parameter?_eq_none]
  unfold lookedUp
  cases linked with
  | inline other => simp [Document.parameter?]
  | link reference =>
    cases found : document.parameter? (.link reference) with
    | some other => simp
    | none => simp [eq_comm]

end References

/-! ## Overriding -/

/-- What is left of parameters when others take their places one after the other. -/
structure Overrides (common others merged : List Parameter) : Prop where
  /-- The first keys are those that were there, and then come new ones in the order in which they
  are first met. -/
  keys : merged.map Parameter.key = common.map Parameter.key ++
    ((others.map Parameter.key).filter fun key => key ∉ common.map Parameter.key).eraseDups
  /-- The first place of a key is that of the last parameter with it that takes a place. -/
  first : ∀ key ∈ others.map Parameter.key,
    merged[(merged.map Parameter.key).idxOf key]? =
      others.reverse.find? fun parameter => parameter.key == key
  /-- All other places keep what they had. -/
  elsewhere : ∀ index, (∀ key ∈ others.map Parameter.key,
      index ≠ (merged.map Parameter.key).idxOf key) → merged[index]? = common[index]?

/-- Parameters under their keys. -/
def keyed (parameters : List Parameter) : List (Swagger.ParameterKey × Parameter) :=
  parameters.map fun parameter => (parameter.key, parameter)

theorem names_keyed (parameters : List Parameter) :
    (keyed parameters).map Prod.fst = parameters.map Parameter.key := by
  simp [keyed]

theorem getElem?_keyed (parameters : List Parameter) (index : Nat) :
    (keyed parameters)[index]?.map Prod.snd = parameters[index]? := by
  rw [keyed, List.getElem?_map, Option.map_map]
  exact congrFun Option.map_id parameters[index]?

theorem find?_keyed (parameters : List Parameter) (key : Swagger.ParameterKey) :
    Members.find? key (keyed parameters) =
      parameters.find? fun parameter => parameter.key == key := by
  rw [keyed, Members.find?_map key Parameter.key (fun parameter => parameter)]
  exact congrFun Option.map_id _

/-- Taking a place is an assignment to a key. -/
theorem keyed_override (parameter : Parameter) (parameters : List Parameter) :
    keyed (override parameter parameters) =
      Members.assign parameter.key parameter (keyed parameters) := by
  induction parameters with
  | nil => rfl
  | cons known rest inductionHypothesis =>
    have same : sameKey known parameter = true ↔ known.key = parameter.key := by
      simp [sameKey, Parameter.key]
    have assigned : Members.assign parameter.key parameter (keyed (known :: rest)) =
        if known.key = parameter.key then (parameter.key, parameter) :: keyed rest
        else (known.key, known) :: Members.assign parameter.key parameter (keyed rest) := rfl
    rw [assigned, override, ← inductionHypothesis]
    by_cases isSame : known.key = parameter.key
    · rw [if_pos (same.2 isSame), if_pos isSame]
      rfl
    · rw [if_neg (mt same.1 isSame), if_neg isSame]
      rfl

theorem keyed_foldl_override (common others : List Parameter) :
    keyed (others.foldl (fun merged parameter => override parameter merged) common) =
      Members.collapseOnto (keyed common) (keyed others) := by
  induction others generalizing common with
  | nil => rfl
  | cons parameter rest inductionHypothesis =>
    rw [List.foldl_cons, inductionHypothesis, keyed_override]
    rfl

theorem overrides_foldl (common others : List Parameter) :
    Overrides common others
      (others.foldl (fun merged parameter => override parameter merged) common) := by
  generalize isMerged : others.foldl (fun merged parameter => override parameter merged) common =
    merged
  have assigned : keyed merged = Members.collapseOnto (keyed common) (keyed others) := by
    rw [← isMerged, keyed_foldl_override]
  refine ⟨?_, ?_, ?_⟩
  · rw [← names_keyed, ← names_keyed, ← names_keyed, assigned]
    exact Members.names_collapseOnto _ _
  · intro key given
    have isGiven : (Members.find? key (keyed others).reverse).isSome := by
      rw [Option.isSome_iff_ne_none, Ne, Members.find?_eq_none, List.map_reverse, names_keyed]
      simpa using given
    have reversed : (keyed others).reverse = keyed others.reverse := List.map_reverse.symm
    have found : Members.find? key (keyed merged) =
        others.reverse.find? fun parameter => parameter.key == key := by
      rw [assigned, Members.find?_collapseOnto, Option.or_of_isSome isGiven, reversed, find?_keyed]
    have place := Members.getElem?_idxOf key (keyed merged)
    rw [names_keyed, found] at place
    rw [← getElem?_keyed, place, Option.map_map]
    exact congrFun Option.map_id _
  · intro index free
    have place : (keyed merged)[index]? = (keyed common)[index]? := by
      rw [assigned]
      refine Members.getElem?_collapseOnto ?_
      rw [← assigned, names_keyed, names_keyed]
      exact free
    rw [← getElem?_keyed, place, getElem?_keyed]

/-! ## Merging -/

section Merge

variable {document : Document} {shared own : List (Linked Parameter)}

/-- What stands in each of some places, or what the references there point to. -/
def LookedUp (document : Document) : List (Linked Parameter) → List Parameter → Prop :=
  List.Forall₂ fun linked parameter => document.parameter? linked = some parameter

theorem lookedUp_of_mapM {places : List (Linked Parameter)} {parameters : List Parameter}
    (found : places.mapM (lookedUp document) = .ok parameters) :
    LookedUp document places parameters := by
  have walk : (Outcome.forEach (fun linked => .ofExcept (lookedUp document linked)) places).value =
      .ok parameters := by
    rw [Outcome.value_forEach]
    exact found
  exact (Outcome.forEach_ok_forall₂ walk).imp fun _ _ => lookedUp_ok_iff.1

theorem not_dangles_of_lookedUp {places : List (Linked Parameter)} {parameters : List Parameter}
    (found : LookedUp document places parameters) :
    ∀ linked ∈ places, ¬ document.Dangles linked := by
  induction found with
  | nil => simp
  | cons isFound _ inductionHypothesis =>
    intro linked inside
    rcases List.mem_cons.1 inside with rfl | later
    · rw [← parameter?_eq_none, isFound]
      simp
    · exact inductionHypothesis linked later

theorem merge_ok {merged : List Parameter} (succeeded : merge document shared own = .ok merged) :
    ∃ common others, LookedUp document shared common ∧ LookedUp document own others ∧
      Overrides common others merged := by
  unfold merge at succeeded
  cases isCommon : shared.mapM (lookedUp document) with
  | error fault =>
    rw [isCommon] at succeeded
    cases succeeded
  | ok common =>
    cases areOthers : own.mapM (lookedUp document) with
    | error fault =>
      rw [isCommon, areOthers] at succeeded
      cases succeeded
    | ok others =>
      rw [isCommon, areOthers] at succeeded
      cases succeeded
      exact ⟨common, others, lookedUp_of_mapM isCommon, lookedUp_of_mapM areOthers,
        overrides_foldl common others⟩

/-- Whether parameters merge is whether all of them are found, the shared ones first. -/
theorem merge_error_iff {fault : Fault} :
    merge document shared own = .error fault ↔
      (shared ++ own).mapM (lookedUp document) = .error fault := by
  rw [List.mapM_append]
  unfold merge
  cases shared.mapM (lookedUp document) with
  | error other => rfl
  | ok common =>
    cases own.mapM (lookedUp document) with
    | error other => rfl
    | ok others =>
      constructor
      · intro impossible
        cases impossible
      · intro impossible
        cases impossible

end Merge

/-- Parameters merge exactly if none of their references dangles, and else the first one that does
is at fault.  What is left of the shared parameters has their keys in their places, and all that is
new behind them.  The last parameter of the operation with some key takes the first place of that
key, and all other places are as they were. -/
theorem merge_overrides (document : Document) (shared own : List (Linked Parameter)) :
    ((∃ merged, merge document shared own = .ok merged) ↔
      ∀ linked ∈ shared ++ own, ¬ document.Dangles linked) ∧
    (∀ fault, merge document shared own = .error fault ↔
      ∃ before reference after, shared ++ own = before ++ .link reference :: after ∧
        (∀ linked ∈ before, ¬ document.Dangles linked) ∧ document.Dangles (.link reference) ∧
        fault = .bare (.danglingReference reference)) ∧
    ∀ merged, merge document shared own = .ok merged →
      ∃ common others, LookedUp document shared common ∧ LookedUp document own others ∧
        Overrides common others merged := by
  have atFault : ∀ fault, merge document shared own = .error fault ↔
      ∃ before reference after, shared ++ own = before ++ .link reference :: after ∧
        (∀ linked ∈ before, ¬ document.Dangles linked) ∧ document.Dangles (.link reference) ∧
        fault = .bare (.danglingReference reference) := by
    intro fault
    rw [merge_error_iff, Outcome.mapM_error_iff]
    have isFound : ∀ linked, (∃ parameter, lookedUp document linked = .ok parameter) ↔
        ¬ document.Dangles linked := by
      intro linked
      simp only [lookedUp_ok_iff, ← parameter?_eq_none, ← Option.isSome_iff_exists,
        Option.isSome_iff_ne_none, ne_eq]
    simp only [isFound, lookedUp_error_iff]
    constructor
    · rintro ⟨before, linked, after, places, found, reference, rfl, dangles, rfl⟩
      exact ⟨before, reference, after, places, found, dangles, rfl⟩
    · rintro ⟨before, reference, after, places, found, dangles, rfl⟩
      exact ⟨before, .link reference, after, places, found, reference, rfl, dangles, rfl⟩
  refine ⟨⟨?_, ?_⟩, atFault, fun merged => merge_ok⟩
  · rintro ⟨merged, succeeded⟩ linked inside
    obtain ⟨common, others, areShared, areOwn, -⟩ := merge_ok succeeded
    rcases List.mem_append.1 inside with isShared | isOwn
    · exact not_dangles_of_lookedUp areShared linked isShared
    · exact not_dangles_of_lookedUp areOwn linked isOwn
  · intro found
    cases result : merge document shared own with
    | ok merged => exact ⟨merged, rfl⟩
    | error fault =>
      obtain ⟨before, reference, after, places, -, dangles, -⟩ := (atFault fault).1 result
      exact absurd dangles (found (.link reference) (by simp [places]))

/-- A parameter with a text that tells it from others of its key. -/
def noted (name location text : String) : Parameter :=
  ⟨name, location, some text, false, none, some "string", none, none, none, [], none, none, none,
    none, none, none⟩

def pagedDocument : Document :=
  { Document.empty with parameters := [("limit", noted "limit" "query" "limit of the document")] }

/-- Two shared parameters with one key, and one that is referred to. -/
def sharedPlaces : List (Linked Parameter) :=
  [.inline (noted "tag" "query" "first"), .inline (noted "tag" "query" "second"),
    .link "#/parameters/limit"]

/-- A parameter for that key, and two for a new one. -/
def ownPlaces : List (Linked Parameter) :=
  [.inline (noted "trace" "header" "early"), .inline (noted "tag" "query" "own"),
    .inline (noted "trace" "header" "late")]

private theorem merge_places :
    merge pagedDocument sharedPlaces ownPlaces = .ok
      [noted "tag" "query" "own", noted "tag" "query" "second",
        noted "limit" "query" "limit of the document", noted "trace" "header" "late"] := by
  have points : Swagger.Pointer.nameIn? "parameters" "#/parameters/limit" = some "limit" := by
    decide +kernel
  have isLimit : pagedDocument.parameter? (.link "#/parameters/limit") =
      some (noted "limit" "query" "limit of the document") := by
    rw [parameter?_link, points]
    rfl
  have common : sharedPlaces.mapM (lookedUp pagedDocument) = .ok
      [noted "tag" "query" "first", noted "tag" "query" "second",
        noted "limit" "query" "limit of the document"] := by
    simp only [sharedPlaces, List.mapM_cons, lookedUp_ok_iff.2 isLimit]
    rfl
  have others : ownPlaces.mapM (lookedUp pagedDocument) = .ok
      [noted "trace" "header" "early", noted "tag" "query" "own",
        noted "trace" "header" "late"] := rfl
  unfold merge
  rw [common, others]
  rfl

/-- Only the first of the shared parameters with the key gives way, and the new key has its last
parameter. -/
theorem merge_overrides_repeated :
    let merged := [noted "tag" "query" "own", noted "tag" "query" "second",
      noted "limit" "query" "limit of the document", noted "trace" "header" "late"]
    merge pagedDocument sharedPlaces ownPlaces = .ok merged ∧
      (∀ linked ∈ sharedPlaces ++ ownPlaces, ¬ pagedDocument.Dangles linked) ∧
      ∃ common others, LookedUp pagedDocument sharedPlaces common ∧
        LookedUp pagedDocument ownPlaces others ∧ Overrides common others merged := by
  obtain ⟨merges, -, comesTo⟩ := merge_overrides pagedDocument sharedPlaces ownPlaces
  exact ⟨merge_places, merges.1 ⟨_, merge_places⟩, comesTo _ merge_places⟩

end Typing

end RestConnector
