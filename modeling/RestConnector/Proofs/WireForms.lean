import RestConnector.Proofs.Registries

/-!
Contract: what the names of the built-in scalars stand for.

Owns:
- `classifierScalars`, the scalars of primitive types without a choice of values;
- `Usurped`, the two ways in which something else takes the name of a scalar;
- `Connector.classifier_form`, the wire form under such a name in either case.

Does not own: which names are registered at all, see `RestConnector.Proofs.Registries`.

Scalars share one space of names with objects that have no properties and with definitions that
contain themselves.  The former replace what they find, and the latter keep what they find.
-/

namespace RestConnector

open Typing

/-! ## The built-in scalars -/

/-- The scalars of primitive types without a choice of values, and that of untyped values. -/
def classifierScalars : List (String × WireForm) :=
  [("Boolean", .boolean), ("Int32", .int32), ("Int64", .int64), ("Float32", .float32),
    ("Float64", .float64), ("Date", .date), ("TimestampTZ", .timestamp), ("UUID", .uuid),
    ("Bytes", .bytes), ("Binary", .bytes), ("String", .string), ("JSON", .json)]

/-- The table lists what types and formats stand for, and nothing else. -/
theorem mem_classifierScalars_iff (scalar : String × WireForm) :
    scalar ∈ classifierScalars ↔ ∃ type format, builtin type format = scalar := by
  constructor
  · intro listed
    simp only [classifierScalars, List.mem_cons, List.not_mem_nil, or_false] at listed
    rcases listed with rfl | rfl | rfl | rfl | rfl | rfl | rfl | rfl | rfl | rfl | rfl | rfl
    · exact ⟨"boolean", "", rfl⟩
    · exact ⟨"integer", "int32", rfl⟩
    · exact ⟨"integer", "", rfl⟩
    · exact ⟨"number", "float", rfl⟩
    · exact ⟨"number", "", rfl⟩
    · exact ⟨"string", "date", rfl⟩
    · exact ⟨"string", "date-time", rfl⟩
    · exact ⟨"string", "uuid", rfl⟩
    · exact ⟨"string", "byte", rfl⟩
    · exact ⟨"file", "", rfl⟩
    · exact ⟨"string", "", rfl⟩
    · exact ⟨"", "", rfl⟩
  · rintro ⟨type, format, rfl⟩
    unfold builtin
    repeat' split
    all_goals decide

theorem classifierScalars_unique {name : String} {first second : WireForm}
    (one : (name, first) ∈ classifierScalars) (other : (name, second) ∈ classifierScalars) :
    first = second := by
  have unique : ∀ left ∈ classifierScalars, ∀ right ∈ classifierScalars,
      left.1 = right.1 → left.2 = right.2 := by
    decide
  exact unique _ one _ other rfl

/-- The scalar of a choice of values is not listed, whatever it is named for. -/
theorem not_mem_classifierScalars_enum (owner : String) (form : WireForm) :
    (owner ++ "Enum", form) ∉ classifierScalars := by
  -- no listed name ends in the last letter of the suffix
  have lastLetter : ∀ scalar ∈ classifierScalars, scalar.1.toList.getLast? ≠ some 'm' := by decide
  intro listed
  refine lastLetter _ listed ?_
  have letters : "Enum".toList = ['E', 'n', 'u', 'm'] := by decide
  rw [String.toList_append, letters, List.getLast?_append]
  rfl

theorem primitive_form {scope : Scope} {apiPath : String} {path : List String} {type : String}
    {format : Option String} {choices : List Json} {form : WireForm}
    (listed : ((primitive scope apiPath path type format choices).1, form) ∈ classifierScalars) :
    (primitive scope apiPath path type format choices).2 = form := by
  unfold primitive at listed ⊢
  split at listed
  · exact absurd listed (not_mem_classifierScalars_enum _ form)
  · rename_i noChoice
    rw [if_neg noChoice]
    have isBuiltin : builtin type (format.getD "") ∈ classifierScalars :=
      (mem_classifierScalars_iff _).2 ⟨type, format.getD "", rfl⟩
    exact classifierScalars_unique isBuiltin listed

/-! ## Who else writes under a name -/

variable {document : Swagger.Document} {preferences : Preferences} {found : Callables}

/-- Something else takes the name of a scalar: an object without properties is typed under it, or
the placeholder of a definition that contains itself is offered under it before anything else. -/
def Usurped (document : Swagger.Document) (preferences : Preferences) (name : String) : Prop :=
  (∃ site, Visits document preferences site ∧ site.kind = .formless name) ∨
    ((∃ site entry, Visits document preferences site ∧ site.kind = .recurring entry ∧
        Identifier.pascal entry = name) ∧
      (Conversion.walk (Scope.top document preferences)).log.findSome? (Event.offering? name) =
        some (.ofForm .json))

namespace Typing

/-- A site sets a scalar only for an object without properties, and then one of any form. -/
theorem Site.set_mem_ownEvents_iff (site : Site) (name : String) (scalar : ScalarDefinition) :
    .set name scalar ∈ site.ownEvents ↔ site.kind = .formless name ∧ scalar = anyScalar := by
  cases isKind : site.kind with
  | record other =>
    simp only [ownEvents, isKind]
    split <;> simp
  | formless other =>
    simp only [ownEvents, isKind, List.mem_singleton, Event.set.injEq, Kind.formless.injEq]
    rw [eq_comm]
  | _ => simp [ownEvents, isKind]

theorem Site.offer_of_mem_ownEvents {site : Site} {name : String} {scalar : ScalarDefinition}
    (offered : .offer name scalar ∈ site.ownEvents) :
    ∃ form, site.scalar? = some (name, form) ∧ scalar = .ofForm form := by
  cases isKind : site.kind with
  | record other =>
    simp only [ownEvents, isKind] at offered
    split at offered <;> simp at offered
  | recurring other =>
    simp only [ownEvents, isKind, List.mem_singleton, Event.offer.injEq] at offered
    obtain ⟨rfl, rfl⟩ := offered
    exact ⟨.json, by simp only [scalar?, isKind], rfl⟩
  | untyped =>
    simp only [ownEvents, isKind, List.mem_singleton, Event.offer.injEq] at offered
    obtain ⟨rfl, rfl⟩ := offered
    exact ⟨.json, by simp only [scalar?, isKind], rfl⟩
  | primitive type =>
    simp only [ownEvents, isKind, List.mem_singleton, Event.offer.injEq] at offered
    obtain ⟨rfl, rfl⟩ := offered
    exact ⟨_, by simp only [scalar?, isKind], rfl⟩
  | _ => simp [ownEvents, isKind] at offered

/-- A scalar that a site asks for under a listed name has the listed wire form, unless the name is
that of an object without properties or of a definition that contains itself. -/
theorem Site.scalar?_form {site : Site} {name : String} {form other : WireForm}
    (listed : (name, form) ∈ classifierScalars) (asked : site.scalar? = some (name, other)) :
    other = form ∨ site.kind = .formless name ∨
      other = .json ∧ ∃ entry, site.kind = .recurring entry ∧ Identifier.pascal entry = name := by
  unfold scalar? at asked
  cases isKind : site.kind with
  | recurring entry =>
    simp only [isKind, Option.some.injEq, Prod.mk.injEq] at asked
    obtain ⟨same, rfl⟩ := asked
    exact Or.inr (Or.inr ⟨rfl, entry, rfl, same⟩)
  | untyped =>
    simp only [isKind, Option.some.injEq, Prod.mk.injEq] at asked
    obtain ⟨rfl, rfl⟩ := asked
    have json : (jsonScalar, WireForm.json) ∈ classifierScalars := by decide
    exact Or.inl (classifierScalars_unique json listed)
  | primitive type =>
    simp only [isKind, Option.some.injEq] at asked
    have sameName : (site.primitiveScalar type).1 = name := congrArg Prod.fst asked
    have sameForm : (site.primitiveScalar type).2 = other := congrArg Prod.snd asked
    rw [← sameName] at listed
    rw [← sameForm]
    exact Or.inl (primitive_form listed)
  | formless scalar =>
    simp only [isKind, Option.some.injEq, Prod.mk.injEq] at asked
    rw [asked.1]
    exact Or.inr (Or.inl rfl)
  | _ => simp [isKind] at asked

/-- What a walk sets under a name is a scalar of any form, for an object without properties. -/
theorem set_mem_log_walk_iff
    (walked : (Conversion.walk (Scope.top document preferences)).value = .ok found)
    (name : String) (scalar : ScalarDefinition) :
    .set name scalar ∈ (Conversion.walk (Scope.top document preferences)).log ↔
      (∃ site, Visits document preferences site ∧ site.kind = .formless name) ∧
        scalar = anyScalar := by
  rw [mem_log_walk walked]
  constructor
  · rintro (⟨node, -, other⟩ | ⟨site, visited, own⟩)
    · cases other
    · obtain ⟨isFormless, anyForm⟩ := (site.set_mem_ownEvents_iff name scalar).1 own
      exact ⟨⟨site, visited, isFormless⟩, anyForm⟩
  · rintro ⟨⟨site, visited, isFormless⟩, anyForm⟩
    refine Or.inr ⟨site, visited, ?_⟩
    exact (site.set_mem_ownEvents_iff name scalar).2 ⟨isFormless, anyForm⟩

/-- What a walk offers under a listed name has the listed wire form, unless it is the placeholder of
a definition that contains itself. -/
theorem offer_form (walked : (Conversion.walk (Scope.top document preferences)).value = .ok found)
    {name : String} {form : WireForm} {scalar : ScalarDefinition}
    (listed : (name, form) ∈ classifierScalars)
    (offered : .offer name scalar ∈ (Conversion.walk (Scope.top document preferences)).log) :
    scalar = .ofForm form ∨
      (∃ site, Visits document preferences site ∧ site.kind = .formless name) ∨
      scalar = .ofForm .json ∧ ∃ site entry, Visits document preferences site ∧
        site.kind = .recurring entry ∧ Identifier.pascal entry = name := by
  rcases (mem_log_walk walked _).1 offered with ⟨node, -, isOffer⟩ | ⟨site, visited, own⟩
  · obtain ⟨rfl, rfl⟩ := Event.offer.inj isOffer
    have sameForm : node.scalar.2 = form := primitive_form listed
    rw [sameForm]
    exact Or.inl rfl
  · obtain ⟨other, asked, rfl⟩ := Site.offer_of_mem_ownEvents own
    rcases Site.scalar?_form listed asked with rfl | isFormless | ⟨rfl, entry, isRecurring, same⟩
    · exact Or.inl rfl
    · exact Or.inr (Or.inl ⟨site, visited, isFormless⟩)
    · exact Or.inr (Or.inr ⟨rfl, site, entry, visited, isRecurring, same⟩)

end Typing

/-! ## The scalars of a connector -/

namespace Connector

variable {connector : Connector}

/-- The scalar of a name is the last one set under it, and else the first one offered for it. -/
theorem find?_scalars (converted : ofDocument document preferences = .ok connector)
    (name : String) :
    connector.scalars.find? name =
      ((Conversion.walk (Scope.top document preferences)).log.reverse.findSome?
        (Event.setting? name)).or
      ((Conversion.walk (Scope.top document preferences)).log.findSome?
        (Event.offering? name)) := by
  obtain ⟨_, _, -, -, catalog⟩ := ofDocument_ok converted
  have scalars : connector.scalars = _ := congrArg Catalog.scalars catalog
  have nothing : State.empty.catalog.scalars.find? name = none := rfl
  rw [scalars, State.find?_scalars_replay, nothing, Option.none_or]

/-- Without an object without properties of that name, the first offer decides. -/
private theorem find?_of_no_formless
    (converted : ofDocument document preferences = .ok connector) {name : String}
    (noFormless : ¬ ∃ site, Visits document preferences site ∧ site.kind = .formless name) :
    connector.scalars.find? name =
      (Conversion.walk (Scope.top document preferences)).log.findSome? (Event.offering? name) := by
  obtain ⟨found, walked, -⟩ := ofDocument_ok converted
  rw [find?_scalars converted]
  cases settled : (Conversion.walk (Scope.top document preferences)).log.reverse.findSome?
      (Event.setting? name) with
  | none => rfl
  | some scalar =>
    obtain ⟨event, happened, sets⟩ := List.exists_of_findSome?_eq_some settled
    rw [Event.setting?_eq_some.1 sets, List.mem_reverse] at happened
    exact absurd ((set_mem_log_walk_iff walked name scalar).1 happened).1 noFormless

/-- An object without properties leaves a scalar of any form under its name. -/
private theorem find?_of_formless (converted : ofDocument document preferences = .ok connector)
    {name : String}
    (formless : ∃ site, Visits document preferences site ∧ site.kind = .formless name) :
    connector.scalars.find? name = some anyScalar := by
  obtain ⟨found, walked, -⟩ := ofDocument_ok converted
  rw [find?_scalars converted]
  cases settled : (Conversion.walk (Scope.top document preferences)).log.reverse.findSome?
      (Event.setting? name) with
  | none =>
    have happened := (set_mem_log_walk_iff walked name anyScalar).2 ⟨formless, rfl⟩
    have never := List.findSome?_eq_none_iff.1 settled _ (List.mem_reverse.2 happened)
    rw [Event.setting?_eq_some.2 rfl] at never
    cases never
  | some scalar =>
    obtain ⟨event, happened, sets⟩ := List.exists_of_findSome?_eq_some settled
    rw [Event.setting?_eq_some.1 sets, List.mem_reverse] at happened
    rw [((set_mem_log_walk_iff walked name scalar).1 happened).2]
    rfl

/-- A listed name has the listed wire form as long as nothing else takes it. -/
private theorem form_of_not_usurped (converted : ofDocument document preferences = .ok connector)
    {name : String} {form : WireForm} (listed : (name, form) ∈ classifierScalars)
    (free : ¬ Usurped document preferences name) {scalar : ScalarDefinition}
    (present : connector.scalars.find? name = some scalar) : scalar = .ofForm form := by
  obtain ⟨found, walked, -⟩ := ofDocument_ok converted
  have noFormless : ¬ ∃ site, Visits document preferences site ∧ site.kind = .formless name :=
    fun formless => free (Or.inl formless)
  rw [find?_of_no_formless converted noFormless] at present
  obtain ⟨event, happened, offers⟩ := List.exists_of_findSome?_eq_some present
  rw [Event.offering?_eq_some.1 offers] at happened
  rcases offer_form walked listed happened with isListed | formless | ⟨isJson, recurring⟩
  · exact isListed
  · exact absurd formless noFormless
  · rw [isJson] at present
    exact absurd (Or.inr ⟨recurring, present⟩) free

/-- Under the name of a built-in scalar stands that scalar, and it is there if anything asks for it.
The exceptions are the names that something else takes: these stand for values of any form. -/
theorem classifier_form (converted : ofDocument document preferences = .ok connector)
    {name : String} {form : WireForm} (listed : (name, form) ∈ classifierScalars) :
    (¬ Usurped document preferences name →
      (∀ scalar, connector.scalars.find? name = some scalar → scalar = .ofForm form) ∧
      (Asks document preferences (name, form) →
        connector.scalars.find? name = some (.ofForm form))) ∧
    (Usurped document preferences name →
      connector.scalars.find? name = some (.ofForm .json)) := by
  refine ⟨?_, ?_⟩
  · intro free
    refine ⟨fun scalar present => form_of_not_usurped converted listed free present, ?_⟩
    intro asked
    have known := (contains_scalars_iff converted name).2 ⟨form, asked⟩
    obtain ⟨scalar, present⟩ := Option.isSome_iff_exists.1 known
    rw [present, form_of_not_usurped converted listed free present]
  · intro usurped
    -- what is set wins over all offers, whatever their order
    by_cases formless : ∃ site, Visits document preferences site ∧ site.kind = .formless name
    · exact find?_of_formless converted formless
    · rcases usurped with isFormless | ⟨_, first⟩
      · exact absurd isFormless formless
      · rw [find?_of_no_formless converted formless]
        exact first

/-- A definition without properties that is called like the scalar of texts. -/
def textDocument : Swagger.Document :=
  .answering (.ofType "string") [("String", .ofType "object")]

private theorem textDocument_converts :
    ∃ connector, ofDocument textDocument .empty = .ok connector := by
  have succeeded : (Conversion.walk (Scope.top textDocument .empty)).value.toOption.map
      (fun _ => ()) = some () := by
    cbv
  obtain ⟨found, walked, -⟩ := exists_of_observed succeeded
  exact converts_of_walk rfl rfl walked

private theorem textDocument_formless :
    ∃ site, Visits textDocument .empty site ∧ site.kind = .formless "String" := by
  let site : Site := ⟨Scope.top textDocument .empty, "", ["String"], .ofType "object"⟩
  refine ⟨site, ⟨site, List.mem_append_right _ List.mem_cons_self, .refl⟩, ?_⟩
  have name : Identifier.joined ["String"] = "String" := by decide +kernel
  show Site.objectKind ["String"] (.ofType "object") = _
  unfold Site.objectKind
  rw [name]
  rfl

/-- The definition takes the name of the scalar, so the result is no longer a text. -/
theorem classifier_form_string :
    ("String", WireForm.string) ∈ classifierScalars ∧
      ∃ connector, ofDocument textDocument .empty = .ok connector ∧
        Usurped textDocument .empty "String" ∧
        connector.scalars.find? "String" = some (.ofForm .json) := by
  have listed : ("String", WireForm.string) ∈ classifierScalars := by decide
  obtain ⟨connector, converted⟩ := textDocument_converts
  have usurped : Usurped textDocument .empty "String" := Or.inl textDocument_formless
  exact ⟨listed, connector, converted, usurped, (classifier_form converted listed).2 usurped⟩

theorem not_classifier_form :
    ¬ ∀ (document : Swagger.Document) (preferences : Preferences) (connector : Connector),
      ofDocument document preferences = .ok connector →
        ∀ name form, (name, form) ∈ classifierScalars →
          ∀ scalar, connector.scalars.find? name = some scalar → scalar = .ofForm form := by
  intro sound
  obtain ⟨connector, converted⟩ := textDocument_converts
  have present := find?_of_formless converted textDocument_formless
  have isText := sound textDocument .empty connector converted "String" .string (by decide) _ present
  cases isText

end Connector

end RestConnector
