import RestConnector.Proofs.Termination

/-!
Contract: when the typing of a schema succeeds.

Owns:
- `Node.Leads` and `Node.Bad`, the schemas that a schema leads to and those that cannot be typed, both
  read off the document alone;
- `Site.succeeds_iff_parts`, what a success comes down to at one site;
- `succeeds_iff_reachable`: a typing succeeds exactly if no bad node is reachable.

Does not own: which of several bad nodes a fault is reported for.

The typing does not enter a definition that is in progress, so it sees fewer nodes along a chain of
references than the document has.  Nothing is missed: a chain that enters a definition twice can be
cut short, since a definition is typed under its own name wherever it is referred to.
-/

namespace RestConnector.Typing

open Swagger (Document Schema)

/-! ## The graph of a document -/

/-- A schema with the path that names it. -/
structure Node where
  path : List String
  schema : Schema

namespace Node

/-- The node of a schema that is used under a path.  One in place is named for its title, if that is
one word. -/
def ofUse (path : List String) (schema : Schema) : Node :=
  ⟨if schema.reference.isSome then path else namingPath schema path, schema⟩

/-- A schema leads to another one on which its type depends. -/
inductive Leads (document : Document) (node : Node) : Node → Prop where
  /-- A reference leads to any definition but an object, under the name of the definition. -/
  | definition {reference name : String} {target : Schema}
      (given : node.schema.reference = some reference)
      (points : Swagger.Pointer.definition? reference = some name)
      (found : document.definition? name = some target)
      (notObject : target.isObjectLike = false) :
      Leads document node ⟨[name], target⟩
  /-- An object that has a name leads to its properties. -/
  | property {entry : String × Schema} (inPlace : node.schema.reference = none)
      (typed : node.schema.isUntyped = false) (isObject : node.schema.isObjectTyped = true)
      (named : Identifier.joined node.path ≠ "") (inside : entry ∈ node.schema.properties) :
      Leads document node (ofUse (node.path ++ [entry.1]) entry.2)
  /-- A list leads to its items, under the same path. -/
  | items {items : Schema} (inPlace : node.schema.reference = none)
      (typed : node.schema.isUntyped = false) (isArray : node.schema.types = ["array"])
      (given : node.schema.items = some items) :
      Leads document node (ofUse node.path items)

/-- A schema that cannot be typed, whatever it leads to. -/
inductive Bad (document : Document) (node : Node) : Prop where
  /-- A reference that points to no definition. -/
  | dangling {reference : String} (given : node.schema.reference = some reference)
      (missing : ∀ name, Swagger.Pointer.definition? reference = some name →
        document.definition? name = none)
  /-- A schema in place that has no type and no properties. -/
  | undeclared (inPlace : node.schema.reference = none) (typed : node.schema.isUntyped = false)
      (noType : node.schema.types = []) (noProperties : node.schema.properties = [])
  /-- A list that does not say of what. -/
  | itemless (inPlace : node.schema.reference = none) (typed : node.schema.isUntyped = false)
      (isArray : node.schema.types = ["array"]) (noItems : node.schema.items = none)
  /-- A schema of a type that is neither primitive nor a list nor an object. -/
  | unsupported {type : String} (inPlace : node.schema.reference = none)
      (typed : node.schema.isUntyped = false) (declared : node.schema.types = [type])
      (notPrimitive : isPrimitive type = false) (notObject : type ≠ "object")
      (notArray : type ≠ "array")

/-- A node is a reference to a name. -/
def RefersTo (node : Node) (name : String) : Prop :=
  ∃ reference, node.schema.reference = some reference ∧
    Swagger.Pointer.definition? reference = some name

/-- A node leads to another one, and not by a reference to certain definitions. -/
def LeadsOutside (document : Document) (opened : List String) (node next : Node) : Prop :=
  node.Leads document next ∧ ∀ name ∈ opened, ¬ node.RefersTo name

/-- A reference leads to its definition alone. -/
theorem Leads.eq_of_refersTo {document : Document} {node next : Node} {name : String}
    {target : Schema} (leads : node.Leads document next) (refers : node.RefersTo name)
    (found : document.definition? name = some target) : next = ⟨[name], target⟩ := by
  obtain ⟨reference, given, points⟩ := refers
  cases leads with
  | definition same pointsAlso foundAlso =>
    cases given.symm.trans same
    cases points.symm.trans pointsAlso
    cases found.symm.trans foundAlso
    rfl
  | property inPlace => cases given.symm.trans inPlace
  | items inPlace => cases given.symm.trans inPlace

end Node

namespace Site

def node (site : Site) : Node := ⟨site.path, site.schema⟩

/-- Whether a kind of sites is a fault in itself. -/
def Kind.isFault : Kind → Bool
  | .dangling _ | .undeclared | .itemless | .unsupported _ => true
  | _ => false

/-! ## One site -/

/-- A schema that is not left untyped declares one type at most. -/
theorem types_of_typed {schema : Schema} (typed : schema.isUntyped = false) :
    schema.types = [] ∨ ∃ type, schema.types = [type] := by
  cases types : schema.types with
  | nil => exact Or.inl rfl
  | cons type rest =>
    cases rest with
    | nil => exact Or.inr ⟨type, rfl⟩
    | cons second others => simp [Schema.isUntyped, types] at typed

theorem declaredType?_eq_none_iff {schema : Schema} :
    declaredType? schema = none ↔ schema.types = [] ∧ schema.properties = [] := by
  unfold declaredType?
  cases schema.types <;> simp

theorem declaredType?_eq_some_iff {schema : Schema} (typed : schema.isUntyped = false)
    {type : String} (notObject : type ≠ "object") :
    declaredType? schema = some type ↔ schema.types = [type] := by
  unfold declaredType?
  rcases types_of_typed typed with noType | ⟨other, declared⟩
  · simp [noType, notObject.symm]
  · simp [declared]

theorem declaredType?_eq_object_iff {schema : Schema} (typed : schema.isUntyped = false) :
    declaredType? schema = some "object" ↔ schema.isObjectTyped = true := by
  unfold Schema.isObjectTyped declaredType?
  rcases types_of_typed typed with noType | ⟨type, declared⟩
  · simp [noType]
  · simp [declared]

/-- In place, the declared type decides. -/
theorem declaredKind_of_declared {path : List String} {schema : Schema} {type : String}
    (declared : declaredType? schema = some type) :
    declaredKind path schema =
      if isPrimitive type then .primitive type
      else if type = "object" then objectKind path schema
      else if type = "array" then
        match schema.items with
        | none => .itemless
        | some items => .array items
      else .unsupported type := by
  unfold declaredKind
  rewrite [declared]
  rfl

theorem isFault_objectKind (path : List String) (schema : Schema) :
    (objectKind path schema).isFault = false := by
  unfold objectKind
  simp only
  split <;> rfl

theorem isFault_referenceKind {scope : Scope} {reference : String} :
    (referenceKind scope reference).isFault = true ↔
      ∀ name, Swagger.Pointer.definition? reference = some name →
        scope.document.definition? name = none := by
  unfold referenceKind
  cases points : Swagger.Pointer.definition? reference with
  | none => simp [Kind.isFault]
  | some name =>
    cases found : scope.document.definition? name with
    | none => simp [Kind.isFault, found]
    | some target =>
      simp only [Option.some.injEq, forall_eq', found, reduceCtorEq, iff_false]
      split
      · exact Bool.false_ne_true
      · split <;> exact Bool.false_ne_true

theorem isFault_declaredKind {document : Document} {node : Node}
    (inPlace : node.schema.reference = none) (typed : node.schema.isUntyped = false) :
    (declaredKind node.path node.schema).isFault = true ↔ node.Bad document := by
  constructor
  · intro fault
    cases declared : declaredType? node.schema with
    | none =>
      obtain ⟨noType, noProperties⟩ := declaredType?_eq_none_iff.1 declared
      exact .undeclared inPlace typed noType noProperties
    | some type =>
      rw [declaredKind_of_declared declared] at fault
      by_cases isKnown : isPrimitive type = true
      · rw [if_pos isKnown] at fault
        cases fault
      · rw [if_neg isKnown] at fault
        by_cases isObject : type = "object"
        · rw [if_pos isObject, isFault_objectKind] at fault
          cases fault
        · have types := (declaredType?_eq_some_iff typed isObject).1 declared
          rw [if_neg isObject] at fault
          by_cases isArray : type = "array"
          · cases given : node.schema.items with
            | none => exact .itemless inPlace typed (isArray ▸ types) given
            | some items =>
              rw [if_pos isArray, given] at fault
              cases fault
          · exact .unsupported inPlace typed types (Bool.eq_false_iff.2 isKnown) isObject isArray
  · intro bad
    cases bad with
    | dangling given => cases inPlace.symm.trans given
    | undeclared _ _ noType noProperties =>
      have declared := declaredType?_eq_none_iff.2 ⟨noType, noProperties⟩
      unfold declaredKind
      rw [declared]
      rfl
    | itemless _ _ isArray noItems =>
      have declared := (declaredType?_eq_some_iff typed (by decide)).2 isArray
      rw [declaredKind_of_declared declared, noItems]
      rfl
    | unsupported _ _ types notPrimitive notObject notArray =>
      have declared := (declaredType?_eq_some_iff typed notObject).2 types
      rw [declaredKind_of_declared declared, notPrimitive, if_neg notObject, if_neg notArray]
      rfl

/-- The kinds that are faults are those of bad nodes. -/
theorem isFault_iff (site : Site) :
    site.kind.isFault = true ↔ site.node.Bad site.scope.document := by
  unfold kind
  cases given : site.schema.reference with
  | some reference =>
    simp only [isFault_referenceKind]
    constructor
    · exact fun missing => .dangling given missing
    · intro bad
      cases bad with
      | dangling same missing =>
        cases given.symm.trans same
        exact missing
      | undeclared inPlace => cases given.symm.trans inPlace
      | itemless inPlace => cases given.symm.trans inPlace
      | unsupported inPlace => cases given.symm.trans inPlace
  | none =>
    simp only
    cases typed : site.schema.isUntyped with
    | true =>
      constructor
      · intro fault
        cases fault
      · intro bad
        cases bad with
        | dangling same => cases given.symm.trans same
        | undeclared _ notUntyped => cases typed.symm.trans notUntyped
        | itemless _ notUntyped => cases typed.symm.trans notUntyped
        | unsupported _ notUntyped => cases typed.symm.trans notUntyped
    | false =>
      have inPlace : site.node.schema.reference = none := given
      exact isFault_declaredKind inPlace typed

/-! ## Parts and edges -/

theorem reference_of_expanded {site : Site} {name : String} {target : Schema}
    (isExpanded : site.kind = .expanded name target) :
    ∃ reference, site.schema.reference = some reference ∧
      Swagger.Pointer.definition? reference = some name := by
  grind [kind, referenceKind, declaredKind, objectKind]

theorem kind_eq_record {site : Site} {name : String} (isRecord : site.kind = .record name) :
    site.schema.reference = none ∧ site.schema.isUntyped = false ∧
      declaredType? site.schema = some "object" ∧ Identifier.joined site.path ≠ "" := by
  grind [kind, referenceKind, declaredKind, objectKind, String.isEmpty_iff]

theorem declaredType?_of_array {site : Site} {items : Schema} (isArray : site.kind = .array items) :
    site.schema.reference = none ∧ site.schema.isUntyped = false ∧
      declaredType? site.schema = some "array" := by
  grind [kind, referenceKind, declaredKind, objectKind]

theorem kind_of_typed {site : Site} (inPlace : site.schema.reference = none)
    (typed : site.schema.isUntyped = false) : site.kind = declaredKind site.path site.schema := by
  simp [kind, inPlace, typed]

theorem objectKind_of_named {path : List String} {schema : Schema} {entry : String × Schema}
    (named : Identifier.joined path ≠ "") (inside : entry ∈ schema.properties) :
    objectKind path schema = .record (Identifier.joined path) := by
  have hasProperties : schema.properties.isEmpty = false :=
    List.isEmpty_eq_false_iff_exists_mem.2 ⟨entry, inside⟩
  have hasName : (Identifier.joined path).isEmpty = false := by
    simpa [String.isEmpty_iff] using named
  unfold objectKind
  simp only [hasProperties, hasName]
  rfl

/-- A part is a node to which its site leads. -/
theorem leads_of_mem_parts {site part : Site} (member : part ∈ site.parts) :
    site.node.Leads site.scope.document part.node := by
  rcases mem_parts member with ⟨name, target, isExpanded, rfl⟩ | ⟨name, entry, isRecord, inside, rfl⟩ |
    ⟨items, isArray, rfl⟩
  · obtain ⟨reference, given, points⟩ := reference_of_expanded isExpanded
    obtain ⟨found, notObject, -⟩ := kind_eq_expanded isExpanded
    exact .definition given points found notObject
  · obtain ⟨inPlace, typed, declared, named⟩ := kind_eq_record isRecord
    exact .property inPlace typed ((declaredType?_eq_object_iff typed).1 declared) named inside
  · obtain ⟨inPlace, typed, declared⟩ := declaredType?_of_array isArray
    have types := (declaredType?_eq_some_iff typed (by decide)).1 declared
    exact .items inPlace typed types (kind_eq_array isArray)

/-- Conversely, a site has a part for each node to which it leads, unless it refers to a definition
that is in progress. -/
theorem part_of_leads {site : Site} {next : Node}
    (leads : site.node.Leads site.scope.document next)
    (outside : ∀ name ∈ site.scope.expanding, ¬ site.node.RefersTo name) :
    ∃ part ∈ site.parts, part.node = next := by
  cases leads with
  | @definition reference name target given points found notObject =>
    have given : site.schema.reference = some reference := given
    have notOpen : site.scope.expanding.contains name = false := by
      by_contra isOpen
      exact outside name (by simpa using isOpen) ⟨reference, given, points⟩
    have isExpanded : site.kind = .expanded name target := by
      simp only [kind, given, referenceKind, points, found, notObject, notOpen, Bool.false_eq_true,
        if_false]
    exact ⟨site.expansion name target, expansion_mem_parts isExpanded, rfl⟩
  | @property entry inPlace typed isObject named inside =>
    have declared : declaredType? site.schema = some "object" :=
      (declaredType?_eq_object_iff typed).2 isObject
    have isRecord : site.kind = .record (Identifier.joined site.path) := by
      rw [kind_of_typed inPlace typed, declaredKind_of_declared declared]
      exact objectKind_of_named named inside
    exact ⟨site.property entry, property_mem_parts isRecord inside, rfl⟩
  | @items items inPlace typed isArray given =>
    have given : site.schema.items = some items := given
    have declared : declaredType? site.schema = some "array" :=
      (declaredType?_eq_some_iff typed (by decide)).2 isArray
    have isList : site.kind = .array items := by
      rw [kind_of_typed inPlace typed, declaredKind_of_declared declared, given]
      rfl
    exact ⟨site.element items, element_mem_parts isList, rfl⟩

/-! ## Chains -/

/-- A chain that starts at a definition need not refer to that definition: where it does, it is back
at its start. -/
theorem reaches_outside_cons {document : Document} {opened : List String} {name : String}
    {target : Schema} (found : document.definition? name = some target) {last : Node}
    (chain : Relation.ReflTransGen (Node.LeadsOutside document opened) ⟨[name], target⟩ last) :
    Relation.ReflTransGen (Node.LeadsOutside document (name :: opened)) ⟨[name], target⟩ last := by
  induction chain with
  | refl => exact .refl
  | @tail between next _ edge inductionHypothesis =>
    obtain ⟨leads, outside⟩ := edge
    by_cases again : between.RefersTo name
    · rw [leads.eq_of_refersTo again found]
    · refine inductionHypothesis.tail ⟨leads, ?_⟩
      intro other member
      rcases List.mem_cons.1 member with rfl | before
      · exact again
      · exact outside other before

/-- Each node on a chain that keeps outside of the definitions in progress is typed on the way. -/
theorem reaches_of_chain (site : Site) {last : Node}
    (chain : Relation.ReflTransGen (Node.LeadsOutside site.scope.document site.scope.expanding)
      site.node last) :
    ∃ other, site.Reaches other ∧ other.node = last := by
  induction site using Site.induct with
  | step site inductionHypothesis =>
    rcases Relation.ReflTransGen.cases_head chain with rfl | ⟨next, ⟨leads, outside⟩, rest⟩
    · exact ⟨site, .refl, rfl⟩
    · obtain ⟨part, member, rfl⟩ := part_of_leads leads outside
      have followed : Relation.ReflTransGen
          (Node.LeadsOutside part.scope.document part.scope.expanding) part.node last := by
        rcases mem_parts member with ⟨name, target, isExpanded, rfl⟩ | ⟨_, _, -, -, rfl⟩ |
          ⟨_, -, rfl⟩
        · -- the part is a definition that is in progress from here
          exact reaches_outside_cons (kind_eq_expanded isExpanded).1 rest
        · exact rest
        · exact rest
      obtain ⟨other, reached, same⟩ := inductionHypothesis part member followed
      exact ⟨other, .head member reached, same⟩

theorem chain_of_reaches {site other : Site} (reached : site.Reaches other) :
    Relation.ReflTransGen (Node.Leads site.scope.document) site.node other.node := by
  induction reached with
  | refl => exact .refl
  | @tail between next reached member inductionHypothesis =>
    have leads := leads_of_mem_parts member
    rw [(opens_of_reaches reached).1] at leads
    exact inductionHypothesis.tail leads

/-! ## Success -/

/-- A site is a success exactly if its kind is no fault and all its parts are successes. -/
theorem succeeds_iff_parts (site : Site) :
    (∃ typed, site.outcome.value = .ok typed) ↔
      site.kind.isFault = false ∧ ∀ part ∈ site.parts, ∃ typed, part.outcome.value = .ok typed := by
  constructor
  · rintro ⟨typed, succeeded⟩
    refine ⟨?_, (splits succeeded).1⟩
    rw [outcome_eq] at succeeded
    cases isKind : site.kind <;> rw [isKind] at succeeded <;> first | rfl | cases succeeded
  · rintro ⟨noFault, succeed⟩
    rw [outcome_eq]
    cases isKind : site.kind with
    | dangling => rw [isKind] at noFault; cases noFault
    | undeclared => rw [isKind] at noFault; cases noFault
    | itemless => rw [isKind] at noFault; cases noFault
    | unsupported => rw [isKind] at noFault; cases noFault
    | expanded name target => exact succeed _ (expansion_mem_parts isKind)
    | array items =>
      obtain ⟨item, succeeded⟩ := succeed _ (element_mem_parts isKind)
      exact ⟨_, congrArg Outcome.value (Outcome.andThen_of_ok succeeded _)⟩
    | record name =>
      have fields : ∀ entry ∈ site.schema.properties,
          ∃ field, (site.fieldOutcome entry).value = .ok field := by
        intro entry inside
        obtain ⟨typed, succeeded⟩ := succeed _ (property_mem_parts isKind inside)
        exact ⟨_, congrArg Outcome.value (Outcome.andThen_of_ok succeeded _)⟩
      obtain ⟨values, walked⟩ := Outcome.forEach_succeeds fields
      exact ⟨_, congrArg Outcome.value (Outcome.andThen_of_ok walked _)⟩
    | _ => exact ⟨_, rfl⟩

theorem succeeds_iff_reaches (site : Site) :
    (∃ typed, site.outcome.value = .ok typed) ↔
      ∀ other, site.Reaches other → other.kind.isFault = false := by
  constructor
  · intro succeeds other reached
    exact ((succeeds_iff_parts other).1 (succeeds_of_reaches reached succeeds)).1
  · intro noFault
    induction site using Site.induct with
    | step site inductionHypothesis =>
      refine (succeeds_iff_parts site).2 ⟨noFault site .refl, ?_⟩
      intro part member
      refine inductionHypothesis part member ?_
      intro other reached
      exact noFault other (.head member reached)

end Site

/-- With no definition in progress, the typing of a schema succeeds exactly if all nodes that are
reachable from it can be typed. -/
theorem succeeds_iff_reachable (document : Document) (preferences : Preferences) (apiPath : String)
    (path : List String) (schema : Schema) (nullable : Bool) :
    (∃ typed, (ofUse (.top document preferences) apiPath path schema nullable).value = .ok typed) ↔
      ∀ node, Relation.ReflTransGen (Node.Leads document) (.ofUse path schema) node →
        ¬ node.Bad document := by
  let root := Site.ofUse (.top document preferences) apiPath path schema
  have isUse : (∃ typed, (ofUse (.top document preferences) apiPath path schema nullable).value =
      .ok typed) ↔ ∃ typed, root.outcome.value = .ok typed := by
    rw [ofUse_eq]
    constructor
    · rintro ⟨typed, succeeded⟩
      obtain ⟨inner, rootSucceeded, -⟩ := Outcome.andThen_ok succeeded
      exact ⟨inner, rootSucceeded⟩
    · rintro ⟨typed, succeeded⟩
      exact ⟨_, congrArg Outcome.value (Outcome.andThen_of_ok succeeded _)⟩
  rw [isUse, Site.succeeds_iff_reaches]
  constructor
  · intro noFault node chain bad
    have outside : Relation.ReflTransGen (Node.LeadsOutside document []) root.node node :=
      Relation.ReflTransGen.mono (fun _ _ leads => ⟨leads, by simp⟩) _ _ chain
    obtain ⟨other, reached, rfl⟩ := root.reaches_of_chain outside
    have sameDocument : other.scope.document = document := (Site.opens_of_reaches reached).1
    rw [← sameDocument, ← Site.isFault_iff, noFault other reached] at bad
    cases bad
  · intro noneBad other reached
    have sameDocument : other.scope.document = document := (Site.opens_of_reaches reached).1
    have notBad := noneBad other.node (Site.chain_of_reaches reached)
    rw [← sameDocument, ← Site.isFault_iff] at notBad
    exact Bool.eq_false_iff.2 notBad

end RestConnector.Typing
