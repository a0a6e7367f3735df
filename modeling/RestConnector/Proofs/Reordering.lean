import RestConnector.Proofs.Agreement
import RestConnector.Proofs.DistinctNames

/-!
Contract: what the order of a document's entries decides, and what it does not.

Owns:
- `Document.Reordered`: two documents differ in the order of paths and definitions alone;
- `Connector.Matches`, what their connectors have in common;
- `Connector.matches_of_reordered`: both conversions succeed or none, and their connectors match.

Does not own: documents that differ in the order of other things, such as parameters.

Each entry writes the same to the catalog wherever it stands, so reordered documents have reordered
events.  Which of two definitions of one name stays depends on their order; hence the last two parts
of `Matches` ask that all definitions of a name are equal.
-/

namespace RestConnector

open Swagger (Document PathItem)
open Conversion (Entry entries operations gathered)
open Typing (Callables Event Outcome Scope State)

/-! ## Reordered documents -/

/-- Two documents differ in the order of their paths, definitions and security definitions alone. -/
structure Swagger.Document.Reordered (one other : Document) : Prop where
  pathItems : one.pathItems.Perm other.pathItems
  definitions : one.definitions.Perm other.definitions
  securityDefinitions : one.securityDefinitions.Perm other.securityDefinitions
  rest : other = { one with
    paths := other.paths
    definitions := other.definitions
    securityDefinitions := other.securityDefinitions }

namespace Swagger.Document.Reordered

variable {one other : Document}

theorem entries (reordered : one.Reordered other) : (entries one).Perm (entries other) :=
  ((reordered.pathItems.flatMap_right _).append (reordered.definitions.map _)).append
    (reordered.securityDefinitions.map _)

theorem agrees (reordered : one.Reordered other) (keyed : one.Keyed) : one.Agrees other where
  definition? := Members.find?_perm reordered.definitions keyed.definitions
  parameter? := by
    intro linked
    rw [reordered.rest]
    rfl
  response? := by
    intro linked
    rw [reordered.rest]
    rfl
  consumes := by
    rw [reordered.rest]

end Swagger.Document.Reordered

/-! ## The parts of a connector -/

namespace Conversion

/-- The callables of a path on its own, if it succeeds. -/
def pathCallables? (document : Document) (preferences : Preferences)
    (item : String × PathItem) : Option Callables :=
  (Typing.ofPathItem (.top document preferences) item.1 item.2).value.toOption

theorem name_of_credential {preferences : Preferences}
    {entry : String × Swagger.SecurityDefinition} {pair : String × Credential}
    (granted : credential preferences entry = .ok pair) : pair.1 = entry.1 := by
  unfold credential at granted
  split at granted
  · cases granted
    rfl
  · cases granted

theorem credentials_eq {preferences : Preferences}
    {definitions : List (String × Swagger.SecurityDefinition)}
    {credentials : List (String × Credential)}
    (granted : definitions.mapM (credential preferences) = .ok credentials) :
    credentials = definitions.filterMap fun entry => (credential preferences entry).toOption := by
  have walked := Outcome.value_forEach
    (fun entry => .ofExcept (credential preferences entry)) definitions
  exact Outcome.forEach_ok_filterMap (walked.trans granted)

theorem names_credentials {preferences : Preferences}
    {definitions : List (String × Swagger.SecurityDefinition)}
    {credentials : List (String × Credential)}
    (granted : definitions.mapM (credential preferences) = .ok credentials) :
    (credentials.map Prod.fst).Sublist (definitions.map Prod.fst) := by
  rw [credentials_eq granted]
  clear granted
  induction definitions with
  | nil => exact .slnil
  | cons entry rest inductionHypothesis =>
    rw [List.filterMap_cons, List.map_cons]
    cases result : credential preferences entry with
    | error fault => exact inductionHypothesis.cons entry.1
    | ok pair =>
      have named : pair.1 = entry.1 := name_of_credential result
      show (pair.1 :: _).Sublist _
      rw [named]
      exact inductionHypothesis.cons_cons entry.1

end Conversion

namespace Connector

variable {document : Document} {preferences : Preferences} {connector : Connector}

/-- The callables are those of the paths, one after the other. -/
theorem callables_eq (converted : ofDocument document preferences = .ok connector) :
    connector.callables =
      gathered (document.pathItems.filterMap (Conversion.pathCallables? document preferences)) := by
  obtain ⟨found, walked, functions, procedures, -⟩ := ofDocument_ok converted
  obtain ⟨callables, typed, registered, -⟩ := Outcome.andThen_ok walked
  obtain ⟨done, -, rfl⟩ := Outcome.map_ok_iff.1 registered
  obtain ⟨parts, each, rfl⟩ := Outcome.map_ok_iff.1 typed
  unfold Connector.callables
  rw [functions, procedures, Outcome.forEach_ok_filterMap each]
  rfl

theorem settings_eq (converted : ofDocument document preferences = .ok connector) :
    ∃ credentials,
      document.securityDefinitions.mapM (Conversion.credential preferences) = .ok credentials ∧
        connector.settings = Conversion.settings document preferences credentials := by
  unfold ofDocument at converted
  split at converted
  · cases walked : (Conversion.walk (Scope.top document preferences)).value with
    | error fault =>
      simp only [walked] at converted
      cases converted
    | ok found =>
      simp only [walked] at converted
      cases granted : document.securityDefinitions.mapM (Conversion.credential preferences) with
      | error fault =>
        simp only [granted] at converted
        cases converted
      | ok credentials =>
        simp only [granted] at converted
        cases converted
        exact ⟨credentials, rfl, rfl⟩
  · cases converted

end Connector

/-! ## Reordered conversions -/

section Reordered

variable {one other : Document} {preferences : Preferences}

theorem Conversion.outcome_reordered (reordered : one.Reordered other) (keyed : one.Keyed)
    (entry : Entry) :
    entry.outcome (.top other preferences) = entry.outcome (.top one preferences) := by
  have agree : (Scope.top one preferences).document.Agrees other := reordered.agrees keyed
  exact entry.outcome_inside agree

theorem Conversion.pathCallables?_reordered (reordered : one.Reordered other) (keyed : one.Keyed) :
    pathCallables? other preferences = pathCallables? one preferences := by
  funext item
  unfold pathCallables?
  have located : Entry.located (.top other preferences) = Entry.located (.top one preferences) := by
    funext entry
    unfold Entry.located
    rw [outcome_reordered reordered keyed]
  rw [← gather_operations, ← gather_operations, located]

theorem Connector.converts_reordered (reordered : one.Reordered other) (keyed : one.Keyed) :
    (∃ connector, ofDocument one preferences = .ok connector) ↔
      ∃ connector, ofDocument other preferences = .ok connector := by
  have alone : ∀ entry : Entry, entry.alone other preferences = entry.alone one preferences :=
    fun entry => congrArg Outcome.value (Conversion.outcome_reordered reordered keyed entry)
  have nothing : one.pathItems = [] ↔ other.pathItems = [] := by
    rw [← List.length_eq_zero_iff, ← List.length_eq_zero_iff, reordered.pathItems.length_eq]
  have succeed : (∀ entry ∈ entries one, ∃ found, entry.alone one preferences = .ok found) ↔
      ∀ entry ∈ entries other, ∃ found, entry.alone other preferences = .ok found := by
    constructor
    · intro succeed entry inside
      rw [alone]
      exact succeed entry (reordered.entries.mem_iff.2 inside)
    · intro succeed entry inside
      rw [← alone]
      exact succeed entry (reordered.entries.mem_iff.1 inside)
  rw [converts_iff, converts_iff]
  exact and_congr (not_congr nothing) succeed

/-- The events of reordered documents are reordered. -/
theorem Connector.log_reordered (reordered : one.Reordered other) (keyed : one.Keyed)
    {first second : Connector} (firstConverted : ofDocument one preferences = .ok first)
    (secondConverted : ofDocument other preferences = .ok second) :
    (Conversion.walk (.top one preferences)).log.Perm
      (Conversion.walk (.top other preferences)).log := by
  rw [log_walk firstConverted, log_walk secondConverted]
  simp only [Conversion.outcome_reordered reordered keyed]
  exact reordered.entries.flatMap_right _

theorem Connector.settings_reordered (reordered : one.Reordered other) (keyed : one.Keyed)
    {first second : Connector} (firstConverted : ofDocument one preferences = .ok first)
    (secondConverted : ofDocument other preferences = .ok second) :
    first.settings = second.settings := by
  obtain ⟨firstCredentials, firstGranted, firstSettings⟩ := settings_eq firstConverted
  obtain ⟨secondCredentials, secondGranted, secondSettings⟩ := settings_eq secondConverted
  have permuted : firstCredentials.Perm secondCredentials := by
    rw [Conversion.credentials_eq firstGranted, Conversion.credentials_eq secondGranted]
    exact reordered.securityDefinitions.filterMap _
  have distinct : (firstCredentials.map Prod.fst).Nodup :=
    keyed.securityDefinitions.sublist (Conversion.names_credentials firstGranted)
  rw [firstSettings, secondSettings]
  unfold Conversion.settings
  rw [NameMap.ofList_perm permuted distinct, reordered.rest]
  rfl

end Reordered

/-! ## What stays under a name -/

theorem findSome?_eq_of_unique {α β : Type} {choose : α → Option β} {one other : List α}
    (same : ∀ member, member ∈ one ↔ member ∈ other)
    (unique : ∀ left ∈ one, ∀ right ∈ one, ∀ first second,
      choose left = some first → choose right = some second → first = second) :
    one.findSome? choose = other.findSome? choose := by
  cases here : one.findSome? choose with
  | none =>
    refine (List.findSome?_eq_none_iff.2 ?_).symm
    intro member inside
    exact List.findSome?_eq_none_iff.1 here member ((same member).2 inside)
  | some first =>
    obtain ⟨left, leftInside, isFirst⟩ := List.exists_of_findSome?_eq_some here
    cases there : other.findSome? choose with
    | none =>
      have absent := List.findSome?_eq_none_iff.1 there left ((same left).1 leftInside)
      cases absent.symm.trans isFirst
    | some second =>
      obtain ⟨right, rightInside, isSecond⟩ := List.exists_of_findSome?_eq_some there
      rw [unique left leftInside right ((same right).2 rightInside) first second isFirst isSecond]

namespace Typing

/-- An event offers or sets a scalar under a name. -/
def GivesScalar (events : List Event) (name : String) (scalar : ScalarDefinition) : Prop :=
  .offer name scalar ∈ events ∨ .set name scalar ∈ events

variable {one other : List Event} {name : String}

/-- Where all objects of a name are equal, the order of events does not matter for it. -/
theorem object_of_perm (permuted : one.Perm other)
    (equal : ∀ left right, .put name left ∈ one → .put name right ∈ one → left = right) :
    (State.empty.replay one).catalog.objects.find? name =
      (State.empty.replay other).catalog.objects.find? name := by
  rw [State.find?_objects_replay, State.find?_objects_replay]
  congr 1
  refine findSome?_eq_of_unique ?_ ?_
  · intro event
    rw [List.mem_reverse, List.mem_reverse]
    exact permuted.mem_iff
  · intro left leftInside right rightInside first second isFirst isSecond
    rw [Event.putting?_eq_some.1 isFirst, List.mem_reverse] at leftInside
    rw [Event.putting?_eq_some.1 isSecond, List.mem_reverse] at rightInside
    exact equal first second leftInside rightInside

/-- Where all scalars of a name are equal, the order of events does not matter for it. -/
theorem scalar_of_perm (permuted : one.Perm other)
    (equal : ∀ left right, GivesScalar one name left → GivesScalar one name right → left = right) :
    (State.empty.replay one).catalog.scalars.find? name =
      (State.empty.replay other).catalog.scalars.find? name := by
  have settings : one.reverse.findSome? (Event.setting? name) =
      other.reverse.findSome? (Event.setting? name) := by
    refine findSome?_eq_of_unique ?_ ?_
    · intro event
      rw [List.mem_reverse, List.mem_reverse]
      exact permuted.mem_iff
    · intro left leftInside right rightInside first second isFirst isSecond
      rw [Event.setting?_eq_some.1 isFirst, List.mem_reverse] at leftInside
      rw [Event.setting?_eq_some.1 isSecond, List.mem_reverse] at rightInside
      exact equal first second (Or.inr leftInside) (Or.inr rightInside)
  have offers : one.findSome? (Event.offering? name) = other.findSome? (Event.offering? name) := by
    refine findSome?_eq_of_unique (fun event => permuted.mem_iff) ?_
    intro left leftInside right rightInside first second isFirst isSecond
    rw [Event.offering?_eq_some.1 isFirst] at leftInside
    rw [Event.offering?_eq_some.1 isSecond] at rightInside
    exact equal first second (Or.inl leftInside) (Or.inl rightInside)
  rw [State.find?_scalars_replay, State.find?_scalars_replay, settings, offers]

end Typing

namespace Connector

/-- What two connectors have in common that come from the same entries in different orders.  The
events are those of one of the two conversions. -/
structure Matches (events : List Event) (first second : Connector) : Prop where
  functions : first.functions.Perm second.functions
  procedures : first.procedures.Perm second.procedures
  settings : first.settings = second.settings
  objectNames : ∀ name, first.objects.contains name = second.objects.contains name
  scalarNames : ∀ name, first.scalars.contains name = second.scalars.contains name
  object : ∀ name,
    (∀ left right, .put name left ∈ events → .put name right ∈ events → left = right) →
      first.objects.find? name = second.objects.find? name
  /-- The same scalar stands under a name for which only one was ever offered or set. -/
  scalar : ∀ name,
    (∀ left right, Typing.GivesScalar events name left → Typing.GivesScalar events name right →
      left = right) → first.scalars.find? name = second.scalars.find? name

variable {one other : Document}

/-- The order of the entries of a document does not decide whether it is converted, and of the
connector it decides the order of the callables at most, apart from names with several definitions. -/
theorem matches_of_reordered (reordered : one.Reordered other) (keyed : one.Keyed)
    (preferences : Preferences) :
    ((∃ connector, ofDocument one preferences = .ok connector) ↔
      ∃ connector, ofDocument other preferences = .ok connector) ∧
    ∀ first second, ofDocument one preferences = .ok first →
      ofDocument other preferences = .ok second →
        (first.callables =
            gathered (one.pathItems.filterMap (Conversion.pathCallables? one preferences)) ∧
          second.callables =
            gathered (other.pathItems.filterMap (Conversion.pathCallables? one preferences))) ∧
        Matches (Conversion.walk (.top one preferences)).log first second := by
  refine ⟨converts_reordered reordered keyed, ?_⟩
  intro first second firstConverted secondConverted
  have firstCallables := callables_eq firstConverted
  have secondCallables := callables_eq secondConverted
  rw [Conversion.pathCallables?_reordered reordered keyed] at secondCallables
  obtain ⟨-, -, -, -, firstCatalog⟩ := ofDocument_ok firstConverted
  obtain ⟨-, -, -, -, secondCatalog⟩ := ofDocument_ok secondConverted
  have firstObjects : first.objects = _ := congrArg Catalog.objects firstCatalog
  have secondObjects : second.objects = _ := congrArg Catalog.objects secondCatalog
  have firstScalars : first.scalars = _ := congrArg Catalog.scalars firstCatalog
  have secondScalars : second.scalars = _ := congrArg Catalog.scalars secondCatalog
  have permuted := log_reordered reordered keyed firstConverted secondConverted
  have items := reordered.pathItems.filterMap (Conversion.pathCallables? one preferences)
  refine ⟨⟨firstCallables, secondCallables⟩, ?_⟩
  constructor
  case functions =>
    have here : first.functions = _ := congrArg Callables.functions firstCallables
    have there : second.functions = _ := congrArg Callables.functions secondCallables
    rw [here, there]
    exact items.flatMap_right _
  case procedures =>
    have here : first.procedures = _ := congrArg Callables.procedures firstCallables
    have there : second.procedures = _ := congrArg Callables.procedures secondCallables
    rw [here, there]
    exact items.flatMap_right _
  case settings => exact settings_reordered reordered keyed firstConverted secondConverted
  case objectNames =>
    intro name
    rw [firstObjects, secondObjects, Bool.eq_iff_iff, State.contains_objects_replay,
      State.contains_objects_replay]
    simp only [permuted.mem_iff]
  case scalarNames =>
    intro name
    rw [firstScalars, secondScalars, Bool.eq_iff_iff, State.contains_scalars_replay,
      State.contains_scalars_replay]
    simp only [permuted.mem_iff]
  case object =>
    intro name equal
    rw [firstObjects, secondObjects]
    exact Typing.object_of_perm permuted equal
  case scalar =>
    intro name equal
    rw [firstScalars, secondScalars]
    exact Typing.scalar_of_perm permuted equal

/-- A document of two paths and of two definitions whose names come to the same. -/
def petsDocument : Document :=
  let named : Swagger.Schema :=
    { Swagger.Schema.ofType "object" with properties := [("name", .ofType "string")] }
  let counted : Swagger.Schema :=
    { Swagger.Schema.ofType "object" with properties := [("age", .ofType "integer")] }
  { Document.empty with
    paths := some
      ⟨[("/pets", .answering (.ofType "string")), ("/ages", .answering (.ofType "number"))], []⟩
    definitions := [("Pet", named), ("pet", counted)] }

/-- The same document the other way round. -/
def reversedPetsDocument : Document :=
  { petsDocument with
    paths := some ⟨petsDocument.pathItems.reverse, []⟩
    definitions := petsDocument.definitions.reverse }

private theorem petsDocument_names :
    (ofDocument petsDocument .empty).toOption.map (fun connector => connector.functions.length) =
      some 2 := by
  cbv

theorem matches_of_reordered_pets :
    petsDocument.Reordered reversedPetsDocument ∧ petsDocument.Keyed ∧
      ∃ first second, ofDocument petsDocument .empty = .ok first ∧
        ofDocument reversedPetsDocument .empty = .ok second ∧
        Matches (Conversion.walk (.top petsDocument .empty)).log first second := by
  have reordered : petsDocument.Reordered reversedPetsDocument :=
    ⟨(List.reverse_perm _).symm, (List.reverse_perm _).symm, .refl _, rfl⟩
  have keyed : petsDocument.Keyed := ⟨by decide, by decide⟩
  obtain ⟨first, firstConverted, -⟩ := exists_of_observed petsDocument_names
  obtain ⟨both, each⟩ := matches_of_reordered reordered keyed .empty
  obtain ⟨second, secondConverted⟩ := both.1 ⟨first, firstConverted⟩
  have matched := (each first second firstConverted secondConverted).2
  exact ⟨reordered, keyed, first, second, firstConverted, secondConverted, matched⟩

end Connector

end RestConnector
