import RestConnector.Proofs.Entries

/-!
Contract: what typings read of a document.

Owns:
- `Document.Agrees`: two documents have the same definitions, parameters and responses by name, and
  the same media types;
- for each function from schemas up to single entries, that it cannot tell such documents apart.

Does not own: which documents agree.

A document is looked up by names only, so the order of its entries is not seen below the walk.
-/

namespace RestConnector

open Swagger (Document Linked Operation Parameter ParameterItems PathItem Response Responses Schema)

/-- Two documents give the same answers to whatever a typing asks of them. -/
structure Swagger.Document.Agrees (one other : Document) : Prop where
  definition? : ∀ name, one.definition? name = other.definition? name
  parameter? : ∀ linked, one.parameter? linked = other.parameter? linked
  response? : ∀ linked, one.response? linked = other.response? linked
  consumes : one.consumes = other.consumes

namespace Typing

def Scope.inside (scope : Scope) (document : Document) : Scope := { scope with document }

variable {scope : Scope} {document : Document} {apiPath : String} {path : List String}

/-! ## Schemas -/

namespace Site

/-- The site in another document. -/
def inside (site : Site) (document : Document) : Site :=
  { site with scope := site.scope.inside document }

theorem kind_inside {site : Site} (agree : site.scope.document.Agrees document) :
    (site.inside document).kind = site.kind := by
  have sameDefinitions : document.definition? = site.scope.document.definition? :=
    funext fun name => (agree.definition? name).symm
  unfold kind referenceKind
  simp only [inside, Scope.inside, sameDefinitions]
  rfl

/-- The typing of a site is the same in a document that agrees. -/
theorem outcome_inside (site : Site) (agree : site.scope.document.Agrees document) :
    (site.inside document).outcome = site.outcome := by
  induction site using Site.induct with
  | step site inductionHypothesis =>
    refine outcome_inScope (kind_inside agree) rfl ?_ ?_
    · intro name target isExpanded
      exact inductionHypothesis _ (expansion_mem_parts isExpanded) agree
    · intro part member sameScope
      have partAgrees : part.scope.document.Agrees document := by
        rw [sameScope]
        exact agree
      have same := inductionHypothesis part member partAgrees
      rw [inside, sameScope] at same
      exact same

end Site

section Agreement

variable (agree : scope.document.Agrees document)

include agree

theorem ofUse_inside (schema : Schema) (nullable : Bool) :
    ofUse (scope.inside document) apiPath path schema nullable =
      ofUse scope apiPath path schema nullable := by
  rw [ofUse_eq, ofUse_eq]
  have same := (Site.ofUse scope apiPath path schema).outcome_inside agree
  exact congrArg (Outcome.andThen · fun typed => .ok (typed.nullableIf nullable)) same

theorem ofDefinition_inside (name : String) (schema : Schema) :
    ofDefinition (scope.inside document) name schema = ofDefinition scope name schema := by
  unfold ofDefinition
  have same := Site.outcome_inside ⟨scope, "", [name], schema⟩ agree
  split
  · exact congrArg (Outcome.andThen · fun _ => .ok ()) same
  · rfl

end Agreement

/-! ## Parameters -/

theorem ofPrimitive_inside (type : String) (format : Option String) (choices : List Json) :
    ofPrimitive (scope.inside document) apiPath path type format choices =
      ofPrimitive scope apiPath path type format choices := rfl

theorem ofItems_inside : (items : ParameterItems) →
    ofItems (scope.inside document) apiPath path items = ofItems scope apiPath path items
  | ⟨type, format, none, choices, collectionFormat⟩ => by
    rw [ofItems, ofItems]
    rfl
  | ⟨type, format, some nested, choices, collectionFormat⟩ => by
    have inner := ofItems_inside nested
    rw [ofItems, ofItems]
    simp only [inner]
    rfl

theorem ofSimple_inside (parameter : Parameter) :
    ofSimple (scope.inside document) apiPath path parameter =
      ofSimple scope apiPath path parameter := by
  unfold ofSimple
  simp only [ofItems_inside, ofPrimitive_inside]

section Agreement

variable (agree : scope.document.Agrees document)

include agree

theorem ofParameter_inside (parameter : Parameter) :
    ofParameter (scope.inside document) apiPath path parameter =
      ofParameter scope apiPath path parameter := by
  unfold ofParameter
  simp only [ofUse_inside agree, ofSimple_inside]

theorem ofPlaced_inside (parameter : Parameter) :
    ofPlaced (scope.inside document) apiPath path parameter =
      ofPlaced scope apiPath path parameter := by
  unfold ofPlaced
  simp only [ofParameter_inside agree]

theorem ofParameters_inside (parameters : List Parameter) :
    ofParameters (scope.inside document) apiPath path parameters =
      ofParameters scope apiPath path parameters := by
  have steps : ofPlaced (scope.inside document) apiPath path = ofPlaced scope apiPath path :=
    funext fun parameter => ofPlaced_inside agree parameter
  unfold ofParameters
  rw [steps]

/-! ## Operations -/

theorem merge_inside (shared own : List (Linked Parameter)) :
    merge document shared own = merge scope.document shared own := by
  have steps : lookedUp document = lookedUp scope.document := by
    funext linked
    unfold lookedUp
    rw [agree.parameter?]
  unfold merge
  rw [steps]

theorem ofResponses_inside (responses : Option Responses) :
    ofResponses (scope.inside document) apiPath path responses =
      ofResponses scope apiPath path responses := by
  have payloads : payload (scope.inside document) = payload scope := by
    funext linked
    unfold payload
    rw [agree.response?]
    rfl
  have chosen : ofChosen (scope.inside document) apiPath path = ofChosen scope apiPath path := by
    funext linked
    unfold ofChosen
    simp only [payloads, ofUse_inside agree]
  unfold ofResponses
  rw [chosen]

theorem ofOperation_inside (method : Method) (operation : Operation)
    (shared : List (Linked Parameter)) :
    ofOperation (scope.inside document) apiPath method operation shared =
      ofOperation scope apiPath method operation shared := by
  have bodies : settledBody (scope.inside document) method operation =
      settledBody scope method operation := by
    unfold settledBody
    rw [agree.consumes]
    rfl
  have merged : merge (scope.inside document).document = merge scope.document :=
    funext fun shared => funext fun own => merge_inside agree shared own
  unfold ofOperation
  simp only [ofResponses_inside agree, ofParameters_inside agree, bodies, merged]
  rfl

end Agreement

end Typing

/-- An entry comes to the same in documents that agree. -/
theorem Conversion.Entry.outcome_inside {scope : Typing.Scope} {document : Document}
    (agree : scope.document.Agrees document) (entry : Entry) :
    entry.outcome (scope.inside document) = entry.outcome scope := by
  cases entry with
  | operation apiPath shared method content =>
    simp only [outcome, Typing.ofOperation_inside agree]
  | definition name schema => simp only [outcome, Typing.ofDefinition_inside agree]
  | credential key scheme => rfl

end RestConnector
