import RestConnector.Conversion
import RestConnector.Proofs.Trace

/-!
Contract: what a document has typed, read off the document alone.

Owns:
- `Source`, a schema or a scalar that the walk over a document comes to, and `sources`, all of them;
- `Outcome.StemsFrom`, with a rule for each way to combine outcomes;
- `walk_stems`: the events of a walk that succeeds are those of its sources.

Does not own: what the catalog holds afterwards, see `RestConnector.Proofs.Registries`.

Operations without a response have no sources, and neither have definitions that are no objects:
these are typed where they are used.
-/

namespace RestConnector.Typing

open Swagger (Linked Operation Parameter ParameterItems PathItem Response Responses Schema)

/-- A primitive type that stands outside of schemas, with all that its scalar depends on. -/
structure PlainNode where
  scope : Scope
  apiPath : String
  path : List String
  type : String
  format : Option String
  choices : List Json

def PlainNode.scalar (node : PlainNode) : String × WireForm :=
  primitive node.scope node.apiPath node.path node.type node.format node.choices

inductive Source where
  | schema (site : Site)
  | plain (node : PlainNode)

namespace Source

def log : Source → List Event
  | .schema site => site.outcome.log
  | .plain node => [.offer node.scalar.1 (.ofForm node.scalar.2)]

def Succeeds : Source → Prop
  | .schema site => ∃ typed, site.outcome.value = .ok typed
  | .plain _ => True

end Source

/-! ## The sources of a document -/

/-- The items inside all layers of lists. -/
def innermost : ParameterItems → ParameterItems
  | ⟨type, format, some nested, choices, collectionFormat⟩ =>
    if type.getD "" = "array" then innermost nested
    else ⟨type, format, some nested, choices, collectionFormat⟩
  | items => items

def itemsNode (scope : Scope) (apiPath : String) (path : List String) (items : ParameterItems) :
    PlainNode :=
  ⟨scope, apiPath, path, items.type.getD "", items.format, items.choices⟩

/-- The node of a parameter without a schema: that of its items, if it is a list. -/
def simpleNode (scope : Scope) (apiPath : String) (path : List String) (parameter : Parameter) :
    PlainNode :=
  let type := parameter.type.getD ""
  match parameter.items.filter fun _ => type = "array" with
  | some items => itemsNode scope apiPath path (innermost items)
  | none => ⟨scope, apiPath, path, type, parameter.format, parameter.choices⟩

def parameterSource (scope : Scope) (apiPath : String) (path : List String)
    (parameter : Parameter) : Source :=
  match parameter.schema with
  | some schema => .schema (Site.ofUse scope apiPath path schema)
  | none => .plain (simpleNode scope apiPath path parameter)

/-- The source of a parameter of an operation.  The body has no name of its own. -/
def placedSource (scope : Scope) (apiPath : String) (path : List String) (parameter : Parameter) :
    Source :=
  let inBody := ParameterPlace.ofName? parameter.location = some .body
  parameterSource scope apiPath (if inBody then path else path ++ [parameter.name]) parameter

/-- The source of a result without a payload, which counts as a truth value. -/
def emptySource (scope : Scope) (apiPath : String) (path : List String) : Source :=
  .plain ⟨scope, apiPath, path, "boolean", none, []⟩

def chosenSources (scope : Scope) (apiPath : String) (path : List String) :
    Option (Linked Response) → List Source
  | none => [emptySource scope apiPath path]
  | some linked =>
    match payload scope linked with
    | .ok (some schema) => [.schema (Site.ofUse scope apiPath path schema)]
    | .ok none => [emptySource scope apiPath path]
    | .error _ => []

def argumentSources (scope : Scope) (apiPath : String) (path : List String)
    (shared own : List (Linked Parameter)) : List Source :=
  match merge scope.document shared own with
  | .ok parameters => parameters.map (placedSource scope apiPath path)
  | .error _ => []

def answeredSources (scope : Scope) (apiPath : String) (shared : List (Linked Parameter))
    (name : String) (operation : Operation) (responses : Responses) : List Source :=
  chosenSources scope apiPath [name, "Result"] (representative? responses) ++
    argumentSources scope apiPath [name] shared operation.parameters

def slotSources (scope : Scope) (apiPath : String) (shared : List (Linked Parameter))
    (slot : Method × Option Operation) : List Source :=
  match slot.2 with
  | none => []
  | some operation =>
    match operation.responses with
    | none => []
    | some responses =>
      if isSilent responses then []
      else
        let name := operationName scope apiPath slot.1 operation
        answeredSources scope apiPath shared name operation responses

def pathItemSources (scope : Scope) (item : String × PathItem) : List Source :=
  [(Method.get, item.2.get), (.post, item.2.post), (.put, item.2.put), (.patch, item.2.patch),
    (.delete, item.2.delete)].flatMap (slotSources scope item.1 item.2.parameters)

def definitionSources (scope : Scope) (entry : String × Schema) : List Source :=
  if entry.2.isObjectLike then [.schema ⟨scope, "", [entry.1], entry.2⟩] else []

/-- Everything that the walk over a document has typed. -/
def sources (scope : Scope) : List Source :=
  scope.document.pathItems.flatMap (pathItemSources scope) ++
    scope.document.definitions.flatMap (definitionSources scope)

/-! ## Outcomes and their sources -/

/-- A success of an outcome has the events of some sources, which all succeed. -/
def Outcome.StemsFrom {α : Type} (outcome : Outcome α) (sources : List Source) : Prop :=
  ∀ value, outcome.value = .ok value →
    outcome.log = sources.flatMap Source.log ∧ ∀ source ∈ sources, source.Succeeds

namespace Outcome.StemsFrom

variable {α β : Type} {first : Outcome α} {found others : List Source}

theorem ok (value : α) : (Outcome.ok value).StemsFrom [] := by
  intro _ _
  refine ⟨rfl, ?_⟩
  intro source member
  cases member

theorem fail (fault : Fault) (found : List Source) : (.fail fault : Outcome α).StemsFrom found := by
  intro value succeeded
  cases succeeded

theorem offer (node : PlainNode) :
    (Outcome.emit (.offer node.scalar.1 (.ofForm node.scalar.2))).StemsFrom [.plain node] := by
  intro _ _
  refine ⟨(List.flatMap_singleton Source.log (.plain node)).symm, ?_⟩
  intro source member
  rw [List.mem_singleton.1 member]
  exact trivial

theorem andThen {next : α → Outcome β} (firstStems : first.StemsFrom found)
    (nextStems : ∀ value, first.value = .ok value → (next value).StemsFrom others) :
    (first.andThen next).StemsFrom (found ++ others) := by
  intro value succeeded
  obtain ⟨between, firstSucceeded, nextSucceeded, log⟩ := Outcome.andThen_ok succeeded
  obtain ⟨firstLog, firstAll⟩ := firstStems between firstSucceeded
  obtain ⟨nextLog, nextAll⟩ := nextStems between firstSucceeded value nextSucceeded
  refine ⟨?_, ?_⟩
  · rw [log, firstLog, nextLog, List.flatMap_append]
  · intro source member
    rcases List.mem_append.1 member with early | late
    · exact firstAll source early
    · exact nextAll source late

/-- A result that is made of another one has no sources of its own. -/
theorem map (change : α → β) (firstStems : first.StemsFrom found) :
    (first.andThen fun value => .ok (change value)).StemsFrom found := by
  have whole := firstStems.andThen fun value _ => ok (change value)
  rw [List.append_nil] at whole
  exact whole

theorem mapFault (change : Fault → Fault) (firstStems : first.StemsFrom found) :
    (first.mapFault change).StemsFrom found := by
  intro value succeeded
  rw [Outcome.log_mapFault]
  exact firstStems value (Outcome.mapFault_ok succeeded)

theorem forEach {step : α → Outcome β} {stepSources : α → List Source} (members : List α)
    (stepStems : ∀ member, (step member).StemsFrom (stepSources member)) :
    (Outcome.forEach step members).StemsFrom (members.flatMap stepSources) := by
  induction members with
  | nil => exact ok []
  | cons member rest inductionHypothesis =>
    unfold Outcome.forEach
    rw [List.flatMap_cons]
    refine (stepStems member).andThen ?_
    intro value _
    exact inductionHypothesis.map fun values => value :: values

end Outcome.StemsFrom

/-! ## The walk -/

variable {scope : Scope} {apiPath : String} {path : List String}

theorem Site.outcome_stems (site : Site) : site.outcome.StemsFrom [.schema site] := by
  intro typed succeeded
  refine ⟨(List.flatMap_singleton Source.log (.schema site)).symm, ?_⟩
  intro source member
  rw [List.mem_singleton.1 member]
  exact ⟨typed, succeeded⟩

theorem ofUse_stems (schema : Schema) (nullable : Bool) :
    (ofUse scope apiPath path schema nullable).StemsFrom
      [.schema (Site.ofUse scope apiPath path schema)] := by
  rw [ofUse_eq]
  exact (Site.outcome_stems _).map _

theorem ofPrimitive_stems (type : String) (format : Option String) (choices : List Json) :
    (ofPrimitive scope apiPath path type format choices).StemsFrom
      [.plain ⟨scope, apiPath, path, type, format, choices⟩] :=
  (Outcome.StemsFrom.offer ⟨scope, apiPath, path, type, format, choices⟩).map _

theorem innermost_of_nested {items nested : ParameterItems}
    (isArray : items.type.getD "" = "array") (given : items.items = some nested) :
    innermost items = innermost nested := by
  obtain ⟨type, format, inner, choices, collectionFormat⟩ := items
  simp only at isArray given
  rw [given, innermost, if_pos isArray]

theorem innermost_of_plain {items : ParameterItems} (notArray : items.type.getD "" ≠ "array") :
    innermost items = items := by
  obtain ⟨type, format, inner, choices, collectionFormat⟩ := items
  cases inner with
  | none =>
    unfold innermost
    rfl
  | some nested => rw [innermost, if_neg notArray]

theorem ofItems_stems (items : ParameterItems) :
    (ofItems scope apiPath path items).StemsFrom
      [.plain (itemsNode scope apiPath path (innermost items))] := by
  fun_induction ofItems scope apiPath path items with
  | case1 => exact .fail _ _
  | case2 => exact .fail _ _
  | case3 items _ _ isArray nested given inductionHypothesis =>
    rw [innermost_of_nested isArray given]
    exact inductionHypothesis.map _
  | case4 items _ _ notArray _ =>
    rw [innermost_of_plain notArray]
    exact (ofPrimitive_stems _ _ _).map _
  | case5 => exact .fail _ _

theorem ofSimple_stems (parameter : Parameter) :
    (ofSimple scope apiPath path parameter).StemsFrom
      [.plain (simpleNode scope apiPath path parameter)] := by
  unfold ofSimple simpleNode
  simp only
  split
  · exact .fail _ _
  · split
    · rename_i isArray
      split
      · exact .fail _ _
      · rename_i items given
        simp only [given, isArray, Option.filter, decide_true, if_true]
        exact (ofItems_stems items).map _
    · rename_i notArray
      split
      · have noItems : (parameter.items.filter fun _ => parameter.type.getD "" = "array") = none := by
          simp [notArray]
        rw [noItems]
        exact (ofPrimitive_stems _ _ _).map _
      · exact .fail _ _

theorem ofParameter_stems (parameter : Parameter) :
    (ofParameter scope apiPath path parameter).StemsFrom
      [parameterSource scope apiPath path parameter] := by
  unfold ofParameter parameterSource
  cases parameter.schema with
  | some schema => exact (ofUse_stems schema _).map _
  | none => exact (ofSimple_stems parameter).map _

theorem ofPlaced_stems (parameter : Parameter) :
    (ofPlaced scope apiPath path parameter).StemsFrom
      [placedSource scope apiPath path parameter] := by
  unfold ofPlaced placedSource
  simp only
  split
  · exact .fail _ _
  · cases ParameterPlace.ofName? parameter.location with
    | none => exact .fail _ _
    | some place =>
      simp only [Option.some.injEq]
      exact (ofParameter_stems parameter).map _

theorem ofParameters_stems (parameters : List Parameter) :
    (ofParameters scope apiPath path parameters).StemsFrom
      (parameters.map (placedSource scope apiPath path)) := by
  have placed : (Outcome.forEach (ofPlaced scope apiPath path) parameters).StemsFrom
      (parameters.map (placedSource scope apiPath path)) := by
    rw [List.map_eq_flatMap]
    exact .forEach parameters ofPlaced_stems
  exact placed.map gather

theorem ofChosen_stems (chosen : Option (Linked Response)) :
    (ofChosen scope apiPath path chosen).StemsFrom (chosenSources scope apiPath path chosen) := by
  have nothing : emptyResult.StemsFrom [emptySource scope apiPath path] :=
    (Outcome.StemsFrom.offer ⟨scope, apiPath, path, "boolean", none, []⟩).map _
  cases chosen with
  | none => exact nothing
  | some linked =>
    simp only [ofChosen, chosenSources]
    cases payload scope linked with
    | error fault => exact .fail _ _
    | ok schema =>
      cases schema with
      | none => exact nothing
      | some schema => exact (ofUse_stems schema false).map fun typed => typed.term.asPresent

theorem arguments_stem (shared own : List (Linked Parameter)) :
    ((Outcome.ofExcept (merge scope.document shared own)).andThen
      (ofParameters scope apiPath path)).StemsFrom
        (argumentSources scope apiPath path shared own) := by
  unfold argumentSources
  cases merge scope.document shared own with
  | error fault => exact .fail _ _
  | ok parameters => exact ofParameters_stems parameters

theorem ofSlot_stems (shared : List (Linked Parameter)) (slot : Method × Option Operation) :
    (ofSlot scope apiPath shared slot).StemsFrom (slotSources scope apiPath shared slot) := by
  obtain ⟨method, slotOperation⟩ := slot
  cases slotOperation with
  | none => exact .ok none
  | some operation =>
    simp only [ofSlot, slotSources, ofOperation]
    refine .mapFault _ ?_
    cases operation.responses with
    | none => exact .ok none
    | some responses =>
      simp only [ofResponses]
      split
      · exact .ok none
      · rw [Outcome.andThen_assoc]
        refine (ofChosen_stems _).andThen ?_
        intro result _
        -- merging and typing the parameters count as one step, which has the argument sources
        simp only [Outcome.ok_andThen]
        rw [← Outcome.andThen_assoc]
        exact (arguments_stem _ _).map _

theorem ofPathItem_stems (item : String × PathItem) :
    (ofPathItem scope item.1 item.2).StemsFrom (pathItemSources scope item) := by
  unfold ofPathItem pathItemSources
  rw [List.flatMap_cons]
  refine (ofSlot_stems _ _).andThen ?_
  intro reading _
  exact (Outcome.StemsFrom.forEach _ (ofSlot_stems item.2.parameters)).map _

theorem definition_stems (entry : String × Schema) :
    (Conversion.definition scope entry).StemsFrom (definitionSources scope entry) := by
  unfold Conversion.definition definitionSources ofDefinition
  refine .mapFault _ ?_
  split
  · exact (Site.outcome_stems ⟨scope, "", [entry.1], entry.2⟩).map _
  · exact .ok ()

/-- The events of a walk over a document are those of its sources. -/
theorem walk_stems (scope : Scope) : (Conversion.walk scope).StemsFrom (sources scope) := by
  unfold Conversion.walk Conversion.callables sources
  refine ((Outcome.StemsFrom.forEach _ ofPathItem_stems).map _).andThen ?_
  intro found _
  exact (Outcome.StemsFrom.forEach _ definition_stems).map _

end RestConnector.Typing
