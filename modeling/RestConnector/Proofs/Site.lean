import RestConnector.Proofs.Outcome
import RestConnector.Typing.Schema

/-!
Contract: the places at which a schema is typed, and what each of them comes down to.

Owns:
- `Site`, a schema with all that its typing depends on, and `Site.kind`, the case that decides it;
- `Site.parts`, the sites that are typed on the way;
- `Site.outcome_eq`, the outcome of a site by its kind, and `Site.induct`, the induction over parts.

Does not own: what is proved of outcomes.

Every later statement about the typing of schemas goes through these, so that the rules of typing
are opened here alone.  A part has a smaller schema in the same scope, or it opens one more of the
definitions that are no objects; that is why the induction is sound.
-/

namespace RestConnector.Typing

open Swagger (Schema Document)

/-- A schema that is typed in place, with all that its typing depends on. -/
structure Site where
  scope : Scope
  apiPath : String
  path : List String
  schema : Schema

namespace Site

/-- What the typing of a site comes down to. -/
inductive Kind where
  /-- A reference that leads to no definition. -/
  | dangling (reference : String)
  /-- A reference to a definition that describes an object. -/
  | object (name : String)
  /-- A reference to a definition that is being expanded. -/
  | recurring (name : String)
  /-- A reference to any other definition. -/
  | expanded (name : String) (target : Schema)
  | untyped
  | undeclared
  | primitive (type : String)
  /-- An object without properties or without a name, which has a scalar instead. -/
  | formless (scalar : String)
  /-- An object with properties, under its name. -/
  | record (name : String)
  | itemless
  | array (items : Schema)
  | unsupported (type : String)

def referenceKind (scope : Scope) (reference : String) : Kind :=
  match Swagger.Pointer.definition? reference with
  | none => .dangling reference
  | some name =>
    match scope.document.definition? name with
    | none => .dangling reference
    | some target =>
      if target.isObjectLike then .object name
      else if scope.expanding.contains name then .recurring name
      else .expanded name target

def objectKind (path : List String) (schema : Schema) : Kind :=
  let name := Identifier.joined path
  if schema.properties.isEmpty || name.isEmpty then
    .formless (if name.isEmpty then jsonScalar else name)
  else .record name

/-- The kind of a schema that declares at most one type. -/
def declaredKind (path : List String) (schema : Schema) : Kind :=
  match declaredType? schema with
  | none => .undeclared
  | some type =>
    if isPrimitive type then .primitive type
    else if type = "object" then objectKind path schema
    else if type = "array" then
      match schema.items with
      | none => .itemless
      | some items => .array items
    else .unsupported type

def kind (site : Site) : Kind :=
  match site.schema.reference with
  | some reference => referenceKind site.scope reference
  | none => if site.schema.isUntyped then .untyped else declaredKind site.path site.schema

/-- The site of a schema that is used under a path.  Only a schema in place takes its title. -/
def ofUse (scope : Scope) (apiPath : String) (path : List String) (schema : Schema) : Site :=
  ⟨scope, apiPath, if schema.reference.isSome then path else namingPath schema path, schema⟩

/-- The site of a definition that is expanded. -/
def expansion (site : Site) (name : String) (target : Schema) : Site :=
  ⟨site.scope.entering name, site.apiPath, [name], target⟩

def property (site : Site) (entry : String × Schema) : Site :=
  ofUse site.scope site.apiPath (site.path ++ [entry.1]) entry.2

/-- The site of the items of a list. -/
def element (site : Site) (items : Schema) : Site :=
  ofUse site.scope site.apiPath site.path items

/-- The sites that are typed on the way, in order. -/
def parts (site : Site) : List Site :=
  match site.kind with
  | .expanded name target => [site.expansion name target]
  | .record _ => site.schema.properties.map site.property
  | .array items => [site.element items]
  | _ => []

def outcome (site : Site) : Outcome Typed :=
  ofNode site.scope site.apiPath site.path site.schema

/-! ## The outcome by kinds -/

/-- The type that a name stands for without a look at its definition. -/
def pointer (name : String) : Typed :=
  .named (Identifier.pascal name) (.ofKind name)

/-- A type in place, which its schema may mark as nullable. -/
def marked (site : Site) (typed : Typed) : Typed :=
  typed.nullableIf site.schema.isNullable

/-- A type by the name of a scalar that is written first. -/
def scalarOutcome (site : Site) (event : Event) (name kind : String) : Outcome Typed :=
  (Outcome.emit event).andThen fun _ => .ok (site.marked (.named name (shapeOf site.schema kind)))

/-- The type of a property, which is nullable unless it is required. -/
def propertyType (site : Site) (entry : String × Schema) (typed : Typed) : Typed :=
  typed.nullableIf (!site.schema.required.contains entry.1)

def field (site : Site) (entry : String × Schema) (typed : Typed) :
    String × FieldDefinition × ValueShape :=
  let used := site.propertyType entry typed
  (entry.1, ⟨used.shape.description.or entry.2.description, used.term⟩,
    { used.shape with nullable := used.term.isNullable })

def fieldOutcome (site : Site) (entry : String × Schema) :
    Outcome (String × FieldDefinition × ValueShape) :=
  (site.property entry).outcome.andThen fun typed => .ok (site.field entry typed)

def object (site : Site) (fields : List (String × FieldDefinition × ValueShape)) :
    ObjectDefinition :=
  ⟨site.schema.description, fields.map fun entry => (entry.1, entry.2.1)⟩

def objectType (site : Site) (name : String)
    (fields : List (String × FieldDefinition × ValueShape)) : Typed :=
  .named name { shapeOf site.schema "object" with
    properties := fields.map fun entry => (entry.1, entry.2.2) }

def fault (site : Site) (cause : Cause) : Outcome Typed :=
  .fail ((Fault.bare cause).atField site.path)

def primitiveScalar (site : Site) (type : String) : String × WireForm :=
  primitive site.scope site.apiPath site.path type site.schema.format site.schema.choices

end Site

/-- A use is the typing of its site, made nullable on demand. -/
theorem ofUse_eq (scope : Scope) (apiPath : String) (path : List String) (schema : Schema)
    (nullable : Bool) :
    ofUse scope apiPath path schema nullable =
      (Site.ofUse scope apiPath path schema).outcome.andThen fun typed =>
        .ok (typed.nullableIf nullable) := by
  rw [ofUse]
  unfold Site.outcome Site.ofUse
  cases given : schema.reference with
  | none => rfl
  | some reference =>
    simp only [Option.isSome_some, if_true]
    rw [ofNode, given]

/-- The properties of an object are typed one after the other. -/
theorem ofProperties_eq (site : Site) (properties : List (String × Schema)) :
    ofProperties site.scope site.apiPath site.path site.schema.required properties =
      Outcome.forEach site.fieldOutcome properties := by
  induction properties with
  | nil => rw [ofProperties, Outcome.forEach]
  | cons entry rest inductionHypothesis =>
    obtain ⟨name, schema⟩ := entry
    rw [ofProperties, Outcome.forEach, ofUse_eq, inductionHypothesis]
    unfold Site.fieldOutcome Outcome.andThen Outcome.ok
    cases result : (site.property (name, schema)).outcome.value with
    | error fault =>
      have same : (Site.ofUse site.scope site.apiPath (site.path ++ [name]) schema).outcome.value =
        .error fault := result
      simp only [same]
      rfl
    | ok typed =>
      have same : (Site.ofUse site.scope site.apiPath (site.path ++ [name]) schema).outcome.value =
        .ok typed := result
      simp only [same]
      rfl

namespace Site

def outcomeOf (site : Site) : Kind → Outcome Typed
  | .dangling reference => site.fault (.danglingReference reference)
  | .object name => .ok (pointer name)
  | .recurring name =>
    (Outcome.emit (.offer (Identifier.pascal name) anyScalar)).andThen fun _ => .ok (pointer name)
  | .expanded name target => (site.expansion name target).outcome.within name
  | .untyped => site.scalarOutcome (.offer jsonScalar anyScalar) jsonScalar jsonScalar
  | .undeclared => site.fault .emptySchema
  | .primitive type =>
    let scalar := site.primitiveScalar type
    site.scalarOutcome (.offer scalar.1 (.ofForm scalar.2)) scalar.1 scalar.1
  | .formless scalar => site.scalarOutcome (.set scalar anyScalar) scalar "object"
  | .record name =>
    (Outcome.forEach site.fieldOutcome site.schema.properties).andThen fun fields =>
    (Outcome.emit (.put name (site.object fields))).andThen fun _ =>
      .ok (site.marked (site.objectType name fields))
  | .itemless => site.fault .missingItems
  | .array items =>
    (site.element items).outcome.andThen fun item =>
      .ok (site.marked (item.listOf (shapeOf site.schema "array")))
  | .unsupported type => site.fault (.unsupportedType type)

/-- The cases of a reference are those of its kind, in the same order. -/
theorem ofReference_eq (site : Site) (reference : String) :
    ofReference site.scope site.apiPath site.path reference =
      site.outcomeOf (referenceKind site.scope reference) := by
  rw [ofReference]
  unfold referenceKind
  cases Swagger.Pointer.definition? reference with
  | none => rfl
  | some name =>
    simp only
    split
    · rename_i missing
      rw [missing]
      rfl
    · rename_i target found
      rw [found]
      simp only
      split
      · rfl
      · split <;> rfl

private theorem ofDeclared_eq (site : Site) (given : site.schema.reference = none) :
    site.outcome =
      site.outcomeOf
        (if site.schema.isUntyped then .untyped else declaredKind site.path site.schema) := by
  unfold outcome
  rw [ofNode, given]
  simp only
  split
  · rfl
  · unfold declaredKind
    cases declaredType? site.schema with
    | none => rfl
    | some type =>
      simp only
      split
      · rfl
      · split
        · -- an object is a record only with properties and with a name
          split
          · rename_i bare
            have isFormless : objectKind site.path site.schema = .formless _ := if_pos bare
            rw [isFormless]
            rfl
          · rename_i named
            have isRecord : objectKind site.path site.schema = .record _ := if_neg named
            rw [isRecord, ofProperties_eq, Outcome.andThen_assoc]
            rfl
        · split
          · split
            · rename_i missing
              rw [missing]
              rfl
            · rename_i items present
              rw [present, ofUse_eq, Outcome.andThen_assoc, Outcome.andThen_assoc]
              rfl
          · rfl

theorem outcome_eq (site : Site) : site.outcome = site.outcomeOf site.kind := by
  unfold kind
  cases given : site.schema.reference with
  | some reference =>
    rw [← ofReference_eq]
    unfold outcome
    rw [ofNode, given]
  | none => exact ofDeclared_eq site given

/-- A reference to an object is its name, and nothing happens. -/
theorem outcome_of_object {site : Site} {reference name : String} {target : Schema}
    (given : site.schema.reference = some reference)
    (points : Swagger.Pointer.definition? reference = some name)
    (found : site.scope.document.definition? name = some target)
    (isObject : target.isObjectLike = true) : site.outcome = .ok (pointer name) := by
  have isKind : site.kind = .object name := by
    simp only [kind, given, referenceKind, points, found, isObject, if_true]
  rw [outcome_eq, isKind]
  rfl

/-! ## What a kind says of its site -/

/-- Objects that are named by reference are definitions of the document. -/
theorem kind_eq_object {site : Site} {name : String} (isObject : site.kind = .object name) :
    ∃ target, site.scope.document.definition? name = some target ∧ target.isObjectLike = true := by
  grind [kind, referenceKind, declaredKind, objectKind]

theorem kind_eq_expanded {site : Site} {name : String} {target : Schema}
    (isExpanded : site.kind = .expanded name target) :
    site.scope.document.definition? name = some target ∧ target.isObjectLike = false ∧
      site.scope.expanding.contains name = false := by
  grind [kind, referenceKind, declaredKind, objectKind]

theorem kind_eq_array {site : Site} {items : Schema} (isArray : site.kind = .array items) :
    site.schema.items = some items := by
  grind [kind, referenceKind, declaredKind, objectKind]

/-- A reference dangles, or it points to a definition: an object, one in progress, or any other. -/
theorem kind_of_reference {site : Site} {reference : String}
    (given : site.schema.reference = some reference) :
    site.kind = .dangling reference ∨
      ∃ name target, Swagger.Pointer.definition? reference = some name ∧
        site.scope.document.definition? name = some target ∧
        (target.isObjectLike = true ∧ site.kind = .object name ∨
          target.isObjectLike = false ∧ name ∈ site.scope.expanding ∧ site.kind = .recurring name ∨
          target.isObjectLike = false ∧ name ∉ site.scope.expanding ∧
            site.kind = .expanded name target) := by
  unfold kind
  simp only [given]
  unfold referenceKind
  cases points : Swagger.Pointer.definition? reference with
  | none => exact Or.inl rfl
  | some name =>
    cases found : site.scope.document.definition? name with
    | none =>
      simp only [found, true_or]
    | some target =>
      refine Or.inr ⟨name, target, rfl, found, ?_⟩
      simp only [found]
      cases isObject : target.isObjectLike with
      | true => exact Or.inl ⟨rfl, rfl⟩
      | false =>
        by_cases isOpen : name ∈ site.scope.expanding
        · exact Or.inr (Or.inl ⟨rfl, isOpen, by simp [isOpen]⟩)
        · exact Or.inr (Or.inr ⟨rfl, isOpen, by simp [isOpen]⟩)

/-! ## Induction over parts -/

/-- A part is the expansion of a definition, a property, or what a list consists of. -/
theorem mem_parts {site part : Site} (member : part ∈ site.parts) :
    (∃ name target, site.kind = .expanded name target ∧ part = site.expansion name target) ∨
    (∃ name entry, site.kind = .record name ∧ entry ∈ site.schema.properties ∧
      part = site.property entry) ∨
    (∃ items, site.kind = .array items ∧ part = site.element items) := by
  unfold parts at member
  split at member
  · rename_i name target isExpanded
    exact Or.inl ⟨name, target, isExpanded, List.mem_singleton.1 member⟩
  · rename_i name isRecord
    obtain ⟨entry, inside, rfl⟩ := List.mem_map.1 member
    exact Or.inr (Or.inl ⟨name, entry, isRecord, inside, rfl⟩)
  · rename_i items isArray
    exact Or.inr (Or.inr ⟨items, isArray, List.mem_singleton.1 member⟩)
  · cases member

theorem expansion_mem_parts {site : Site} {name : String} {target : Schema}
    (isExpanded : site.kind = .expanded name target) : site.expansion name target ∈ site.parts := by
  simp [parts, isExpanded]

theorem property_mem_parts {site : Site} {name : String} {entry : String × Schema}
    (isRecord : site.kind = .record name) (inside : entry ∈ site.schema.properties) :
    site.property entry ∈ site.parts := by
  simp only [parts, isRecord]
  exact List.mem_map_of_mem inside

theorem element_mem_parts {site : Site} {items : Schema} (isArray : site.kind = .array items) :
    site.element items ∈ site.parts := by
  simp [parts, isArray]

theorem sizeOf_property_lt {schema : Schema} {entry : String × Schema}
    (inside : entry ∈ schema.properties) : sizeOf entry.2 < sizeOf schema := by
  have entryLt := List.sizeOf_lt_of_mem inside
  have propertiesLt := sizeOf_properties_lt schema
  have schemaLt : sizeOf entry.2 < sizeOf entry := by
    obtain ⟨name, property⟩ := entry
    simp only [Prod.mk.sizeOf_spec]
    omega
  omega

/-- A part has a smaller schema in the same scope, or fewer definitions are left to be opened. -/
theorem part_lt {site part : Site} (member : part ∈ site.parts) :
    Prod.Lex (· < ·) (· < ·) (closedDefinitions part.scope, sizeOf part.schema)
      (closedDefinitions site.scope, sizeOf site.schema) := by
  rcases mem_parts member with ⟨name, target, isExpanded, rfl⟩ | ⟨name, entry, -, inside, rfl⟩ |
    ⟨items, isArray, rfl⟩
  · -- the schema may be larger here, but one definition less is left to be opened
    obtain ⟨found, notObject, notOpen⟩ := kind_eq_expanded isExpanded
    exact Prod.Lex.left _ _ (closedDefinitions_entering_lt found notObject notOpen)
  · exact Prod.Lex.right _ (sizeOf_property_lt inside)
  · exact Prod.Lex.right _ (sizeOf_items_lt (kind_eq_array isArray))

/-- What holds of a site as soon as it holds of its parts holds of all sites. -/
@[elab_as_elim]
theorem induct {motive : Site → Prop}
    (step : ∀ site, (∀ part ∈ site.parts, motive part) → motive site) (site : Site) :
    motive site :=
  step site fun part _member => induct step part
termination_by (closedDefinitions site.scope, sizeOf site.schema)
decreasing_by exact part_lt _member

/-! ## The same schema in another scope -/

/-- The site in another scope. -/
def inScope (site : Site) (scope : Scope) : Site := { site with scope }

theorem primitiveScalar_inScope (site : Site) {scope : Scope}
    (samePreferences : scope.preferences = site.scope.preferences) (type : String) :
    (site.inScope scope).primitiveScalar type = site.primitiveScalar type := by
  unfold primitiveScalar primitive choiceOwner inScope
  rw [samePreferences]

/-- Where a site is of the same kind in another scope, and its parts come to the same there, so does
the site. -/
theorem outcome_inScope {site : Site} {scope : Scope}
    (sameKind : (site.inScope scope).kind = site.kind)
    (samePreferences : scope.preferences = site.scope.preferences)
    (sameExpansion : ∀ name target, site.kind = .expanded name target →
      ((site.expansion name target).inScope (scope.entering name)).outcome =
        (site.expansion name target).outcome)
    (sameParts : ∀ part ∈ site.parts, part.scope = site.scope →
      (part.inScope scope).outcome = part.outcome) :
    (site.inScope scope).outcome = site.outcome := by
  rw [outcome_eq, outcome_eq, sameKind]
  cases isKind : site.kind with
  | expanded name target =>
    exact congrArg (Outcome.within name) (sameExpansion name target isKind)
  | primitive type =>
    have sameScalar := site.primitiveScalar_inScope samePreferences type
    simp only [outcomeOf, sameScalar]
    rfl
  | record name =>
    have fields : ∀ entry ∈ site.schema.properties,
        (site.inScope scope).fieldOutcome entry = site.fieldOutcome entry := by
      intro entry inside
      have same := sameParts _ (property_mem_parts isKind inside) rfl
      exact congrArg (Outcome.andThen · fun typed => .ok (site.field entry typed)) same
    exact congrArg (Outcome.andThen · fun fields =>
      (Outcome.emit (.put name (site.object fields))).andThen fun _ =>
        .ok (site.marked (site.objectType name fields))) (Outcome.forEach_congr fields)
  | array items =>
    have same := sameParts _ (element_mem_parts isKind) rfl
    exact congrArg (Outcome.andThen · fun item =>
      .ok (site.marked (item.listOf (shapeOf site.schema "array")))) same
  | _ => rfl

end Site

end RestConnector.Typing
