import RestConnector.Proofs.Registries

/-!
Contract: the response that stands for all responses of an operation.

Owns:
- `Represents`, the entry that comes first in the order of preference;
- `represented_alike`: nothing else about responses tells in a result, in a fault or in a catalog.

Does not own: the type of that response, see `RestConnector.Proofs.Operations`.

Responses to errors, and those to a code of success that another one precedes, may be described in
any way.  Their schemas are not typed, and references in their place are not followed.
-/

namespace RestConnector.Typing

open Swagger (Document Linked Operation Parameter Response Responses)

/-- Whether an entry stands for all of some responses: that to the first of the codes of success
that is there, or else that to all other codes. -/
inductive Represents (responses : Responses) (linked : Linked Response) : Prop where
  | success {before after : List String} {code : String}
      (order : ["200", "201", "204"] = before ++ code :: after)
      (noEarlier : ∀ earlier ∈ before, Members.find? earlier responses.codes = none)
      (given : Members.find? code responses.codes = some linked)
  | fallback
      (noSuccess : ∀ code ∈ ["200", "201", "204"], Members.find? code responses.codes = none)
      (given : responses.fallback = some linked)

theorem represents_iff {responses : Responses} {linked : Linked Response} :
    Represents responses linked ↔ representative? responses = some linked := by
  unfold representative? successCodes
  rw [Option.or_eq_some_iff, List.findSome?_eq_some_iff, List.findSome?_eq_none_iff]
  constructor
  · rintro (⟨order, noEarlier, given⟩ | ⟨noSuccess, given⟩)
    · exact Or.inl ⟨_, _, _, order, given, noEarlier⟩
    · exact Or.inr ⟨noSuccess, given⟩
  · rintro (⟨before, code, after, order, given, noEarlier⟩ | ⟨noSuccess, given⟩)
    · exact .success order noEarlier given
    · exact .fallback noSuccess given

section Results

variable {scope : Scope} {apiPath : String} {path : List String}

theorem isSilent_iff {responses : Responses} :
    isSilent responses = true ↔ responses.codes = [] ∧ responses.fallback = none := by
  unfold isSilent
  rw [Bool.and_eq_true, List.isEmpty_iff, Option.isNone_iff_eq_none]

/-- Responses that are not silent have the result of what stands for them. -/
theorem ofResponses_of_declared {responses : Responses}
    (declared : ¬ (responses.codes = [] ∧ responses.fallback = none)) :
    ofResponses scope apiPath path (some responses) =
      (ofChosen scope apiPath path (representative? responses)).andThen fun term =>
        .ok (some term) := by
  rw [← isSilent_iff] at declared
  exact if_neg declared

theorem ofResponses_eq_none_iff {given : Option Responses} :
    (ofResponses scope apiPath path given).value = .ok none ↔
      ∀ responses, given = some responses → responses.codes = [] ∧ responses.fallback = none := by
  cases given with
  | none =>
    refine ⟨?_, fun _ => rfl⟩
    intro _ responses impossible
    cases impossible
  | some responses =>
    by_cases silent : isSilent responses = true
    · have nothing : ofResponses scope apiPath path (some responses) = .ok none := if_pos silent
      rw [nothing]
      refine ⟨?_, fun _ => rfl⟩
      intro _ other isOther
      cases isOther
      exact isSilent_iff.1 silent
    · constructor
      · intro nothing
        rw [ofResponses_of_declared (mt isSilent_iff.2 silent)] at nothing
        obtain ⟨term, -, impossible⟩ := Outcome.map_ok_iff.1 nothing
        cases impossible
      · intro noResponse
        exact absurd (isSilent_iff.2 (noResponse responses rfl)) silent

/-- Responses with one representative, or without any, come to the same. -/
theorem ofResponses_congr {one other : Responses}
    (oneDeclared : ¬ (one.codes = [] ∧ one.fallback = none))
    (otherDeclared : ¬ (other.codes = [] ∧ other.fallback = none))
    (alike : ∀ linked, Represents one linked ↔ Represents other linked) :
    ofResponses scope apiPath path (some one) = ofResponses scope apiPath path (some other) := by
  have chosen : representative? one = representative? other := by
    refine Option.ext ?_
    intro linked
    rw [← represents_iff, ← represents_iff]
    exact alike linked
  rw [ofResponses_of_declared oneDeclared, ofResponses_of_declared otherDeclared, chosen]

end Results

/-- There is no result exactly if no response is declared.  Declared responses have the same result
or the same fault, and leave the same state, if one entry stands for both or none for either.  So do
operations that are otherwise equal. -/
theorem represented_alike (document : Document) (preferences : Preferences) (apiPath : String)
    (state : State) :
    let scope : Scope := ⟨document, preferences, state.expanding⟩
    (∀ path given, (ofResponses scope apiPath path given).value = .ok none ↔
      ∀ responses, given = some responses → responses.codes = [] ∧ responses.fallback = none) ∧
    ∀ one other : Responses, ¬ (one.codes = [] ∧ one.fallback = none) →
      ¬ (other.codes = [] ∧ other.fallback = none) →
      (∀ linked, Represents one linked ↔ Represents other linked) →
      (∀ path,
        let here := ofResponses scope apiPath path (some one)
        let there := ofResponses scope apiPath path (some other)
        here.value = there.value ∧ state.replay here.log = state.replay there.log) ∧
      ∀ method (operation : Operation) (shared : List (Linked Parameter)),
        let here := ofOperation scope apiPath method { operation with responses := some one } shared
        let there :=
          ofOperation scope apiPath method { operation with responses := some other } shared
        here.value = there.value ∧ state.replay here.log = state.replay there.log := by
  intro scope
  refine ⟨fun path given => ofResponses_eq_none_iff, ?_⟩
  intro one other oneDeclared otherDeclared alike
  refine ⟨?_, ?_⟩
  · intro path here there
    have same : here = there := ofResponses_congr oneDeclared otherDeclared alike
    rw [same]
    exact ⟨rfl, rfl⟩
  · intro method operation shared here there
    have same : here = there := by
      simp only [here, there, ofOperation]
      rw [ofResponses_congr oneDeclared otherDeclared alike]
      rfl
    rw [same]
    exact ⟨rfl, rfl⟩

/-- Responses of three codes, of which only that to 200 tells. -/
def manyResponses : Responses where
  fallback := none
  codes := [("404", .link "#/responses/Missing"), ("201", .inline ⟨"", some (.ofType "integer")⟩),
    ("200", .inline ⟨"", some (.ofType "string")⟩)]
  extensions := []

/-- A response to 200, and to no other code any that could be found. -/
def soleResponses : Responses where
  fallback := some (.link "#/responses/Missing")
  codes := [("200", .inline ⟨"", some (.ofType "string")⟩)]
  extensions := []

/-- Neither another code of success nor references that lead nowhere change a result. -/
theorem represented_alike_sole :
    let scope : Scope := .top .empty .empty
    let declared := fun responses : Responses =>
      ¬ (responses.codes = [] ∧ responses.fallback = none)
    declared manyResponses ∧ declared soleResponses ∧
      (∀ linked, Represents manyResponses linked ↔ Represents soleResponses linked) ∧
      (ofResponses scope "/pets" ["Pets"] (some manyResponses)).value =
        (ofResponses scope "/pets" ["Pets"] (some soleResponses)).value ∧
      (ofResponses scope "/pets" ["Pets"] (some soleResponses)).value =
        .ok (some (.named "String")) := by
  intro scope declared
  have manyDeclared : declared manyResponses := fun none => List.cons_ne_nil _ _ none.1
  have soleDeclared : declared soleResponses := fun none => List.cons_ne_nil _ _ none.1
  have alike : ∀ linked, Represents manyResponses linked ↔ Represents soleResponses linked := by
    intro linked
    rw [represents_iff, represents_iff]
    exact Iff.rfl
  have same := (represented_alike .empty .empty "/pets" .empty).2 manyResponses soleResponses
    manyDeclared soleDeclared alike
  refine ⟨manyDeclared, soleDeclared, alike, (same.1 ["Pets"]).1, ?_⟩
  cbv

end RestConnector.Typing
