import RestConnector.Connector.Decode
import RestConnector.Proofs.Readings

/-!
Contract: the JSON forms of types, of shapes and of what names stand for lose nothing.

Owns:
- `ValueShape.Everywhere`, a property of a shape and of all that is inside of it;
- `ValueShape.IsKeyed` and `ValueShape.HasFiniteBounds`, what a shape has to be;
- one `reads` for each kind of types and definitions: its reader finds it in its JSON form.

Does not own: operations and settings, see `RestConnector.Proofs.RoundTrip`.

The members of each object are written in the order in which its reader declares them, those that
are absent being left out, so each kind comes down to a list of slots.  Types and shapes nest
without bound, and their readers count down from the depth of the value that they are given.
-/

namespace RestConnector

open Members (present)
open Source (Datum Fields Node Reading Reads)

/-! ## Types -/

namespace TypeTerm

/-- A type is found with a bound that is greater than its depth. -/
theorem reads_read (term : TypeTerm) (fuel : Nat)
    (enough : (Datum.ofJson term.toJson).depth < fuel) : Reads (read fuel) term.toJson term := by
  induction term generalizing fuel with
  | named name =>
    intro held
    obtain ⟨fuel, rfl⟩ := Nat.exists_eq_succ_of_ne_zero (Nat.ne_zero_of_lt enough)
    rw [read, toJson, Node.tagged_record (by decide) (by simp) held, pure_bind]
    exact Node.only_field (.text name) "name" true fun found => pure (named found)
  | nullable inner inductionHypothesis =>
    intro held
    obtain ⟨fuel, rfl⟩ := Nat.exists_eq_succ_of_ne_zero (Nat.ne_zero_of_lt enough)
    have less : (Datum.ofJson inner.toJson).depth < (Datum.ofJson (nullable inner).toJson).depth :=
      Datum.depth_lt_of_mem (List.mem_cons_of_mem _ (List.mem_singleton_self _))
    have isInner : Reads (read fuel) inner.toJson inner := inductionHypothesis fuel (by omega)
    rw [read, toJson, Node.tagged_record (by decide) (by simp) held, pure_bind]
    exact Node.only_field isInner "underlying_type" true fun found => pure (nullable found)
  | array element inductionHypothesis =>
    intro held
    obtain ⟨fuel, rfl⟩ := Nat.exists_eq_succ_of_ne_zero (Nat.ne_zero_of_lt enough)
    have less : (Datum.ofJson element.toJson).depth <
        (Datum.ofJson (array element).toJson).depth :=
      Datum.depth_lt_of_mem (List.mem_cons_of_mem _ (List.mem_singleton_self _))
    have isElement : Reads (read fuel) element.toJson element := inductionHypothesis fuel (by omega)
    rw [read, toJson, Node.tagged_record (by decide) (by simp) held, pure_bind]
    exact Node.only_field isElement "element_type" true fun found => pure (array found)

theorem reads (term : TypeTerm) : Reads ofNode term.toJson term :=
  fun held => term.reads_read _ (Nat.lt_succ_self _) held

end TypeTerm

/-! ## Shapes -/

namespace ValueShape

/-- A property of a shape and of all shapes inside of it. -/
inductive Everywhere (holds : ValueShape → Prop) : ValueShape → Prop where
  | intro {shape : ValueShape} (here : holds shape)
      (items : ∀ item, shape.items = some item → Everywhere holds item)
      (properties : ∀ entry ∈ shape.properties, Everywhere holds entry.2) : Everywhere holds shape

/-- The properties have distinct names. -/
def IsKeyed (shape : ValueShape) : Prop := (shape.properties.map Prod.fst).Nodup

def HasFiniteBounds (shape : ValueShape) : Prop :=
  ∀ bound, shape.minimum = some bound ∨ shape.maximum = some bound → bound.isFinite = true

/-- What is written of a shape, in order. -/
def slots (shape : ValueShape) : List (String × Option Json) :=
  [("type", some (.text shape.kind)),
    ("format", shape.format.map .text),
    ("pattern", shape.pattern.map .text),
    ("nullable", if !shape.nullable then none else some (.bool true)),
    ("minimum", shape.minimum.map Json.double),
    ("maximum", shape.maximum.map Json.double),
    ("minLength", shape.minLength.map Json.ofNat),
    ("maxLength", shape.maxLength.map Json.ofNat),
    ("description", shape.description.map .text),
    ("items", shape.items.map toJson),
    ("properties",
      if shape.properties.isEmpty then none else some (Json.table toJson shape.properties))]

theorem propertyMembers_eq_map (properties : List (String × ValueShape)) :
    propertyMembers properties = properties.map fun entry => (entry.1, entry.2.toJson) := by
  induction properties with
  | nil => rw [propertyMembers, List.map_nil]
  | cons entry rest inductionHypothesis =>
    obtain ⟨name, shape⟩ := entry
    rw [propertyMembers, inductionHypothesis, List.map_cons]

theorem toJson_eq (shape : ValueShape) : shape.toJson = .record (present shape.slots) := by
  have items : itemsMember shape.items = Json.optional "items" toJson shape.items := by
    cases shape.items with
    | none => rw [itemsMember, Json.optional]
    | some items => rw [itemsMember, Json.optional]
  have nullable : (if shape.nullable then [("nullable", Json.bool true)] else []) =
      if !shape.nullable then [] else [("nullable", Json.bool true)] := by
    cases shape.nullable <;> rfl
  rw [toJson, plainMembers, items, nullable, propertyMembers_eq_map, slots]
  simp only [Members.present_cons_some, Members.present_cons_map, Members.present_cons_unless,
    Members.present_nil, List.append_assoc, List.cons_append, List.nil_append, List.append_nil,
    Json.table]

theorem depth_item_lt {shape item : ValueShape} (isItem : shape.items = some item) :
    (Datum.ofJson item.toJson).depth < (Datum.ofJson shape.toJson).depth := by
  have slot : ("items", some item.toJson) ∈ shape.slots := by simp [slots, isItem]
  rw [toJson_eq shape]
  exact Datum.depth_lt_of_mem (Members.mem_present.2 slot)

theorem depth_property_lt {shape : ValueShape} {entry : String × ValueShape}
    (isProperty : entry ∈ shape.properties) :
    (Datum.ofJson entry.2.toJson).depth < (Datum.ofJson shape.toJson).depth := by
  have notEmpty : shape.properties ≠ [] := List.ne_nil_of_mem isProperty
  have slot : ("properties", some (Json.table toJson shape.properties)) ∈ shape.slots := by
    simp [slots, notEmpty]
  have inner : (Datum.ofJson entry.2.toJson).depth <
      (Datum.ofJson (Json.table toJson shape.properties)).depth :=
    Datum.depth_lt_of_mem (List.mem_map_of_mem isProperty)
  rw [toJson_eq shape]
  exact Nat.lt_trans inner (Datum.depth_lt_of_mem (Members.mem_present.2 slot))

/-- A shape is found with a bound that is greater than its depth. -/
theorem reads_read (fuel : Nat) (shape : ValueShape) (keyed : shape.Everywhere IsKeyed)
    (finite : shape.Everywhere HasFiniteBounds)
    (enough : (Datum.ofJson shape.toJson).depth < fuel) :
    Reads (read fuel) shape.toJson shape := by
  induction fuel generalizing shape with
  | zero => omega
  | succ fuel inductionHypothesis =>
    intro held
    -- each field is read on its own, and only the last two nest
    obtain ⟨distinct, keyedItems, keyedProperties⟩ := keyed
    obtain ⟨bounded, finiteItems, finiteProperties⟩ := finite
    obtain ⟨fields, isRead, holds⟩ := Node.fields_present shape.slots
      ["type", "format", "pattern", "nullable", "minimum", "maximum", "minLength", "maxLength",
        "description", "items", "properties"] rfl (by decide) held
    have kind : fields.required "type" Node.text = pure shape.kind :=
      holds.required (by simp [slots]) (.text shape.kind)
    have format : fields.maybe "format" Node.text = pure shape.format :=
      holds.maybeText (by simp [slots])
    have pattern : fields.maybe "pattern" Node.text = pure shape.pattern :=
      holds.maybeText (by simp [slots])
    have nullable : fields.defaulted "nullable" false Node.flag = pure shape.nullable := by
      have inside : ("nullable", if !shape.nullable then none else some (Json.bool true)) ∈
          shape.slots := by simp [slots]
      refine holds.defaulted inside ?_ ?_
      · intro omitted
        have notNullable : shape.nullable = false := by simpa using omitted
        exact notNullable.symm
      · intro written
        have isNullable : shape.nullable = true := by simpa using written
        rw [isNullable]
        exact .flag true
    have minimum : fields.maybe "minimum" Node.double = pure shape.minimum :=
      holds.maybeDouble (by simp [slots]) fun bound isBound => bounded bound (Or.inl isBound)
    have maximum : fields.maybe "maximum" Node.double = pure shape.maximum :=
      holds.maybeDouble (by simp [slots]) fun bound isBound => bounded bound (Or.inr isBound)
    have minLength : fields.maybe "minLength" Node.natural = pure shape.minLength :=
      holds.maybeNatural (by simp [slots])
    have maxLength : fields.maybe "maxLength" Node.natural = pure shape.maxLength :=
      holds.maybeNatural (by simp [slots])
    have description : fields.maybe "description" Node.text = pure shape.description :=
      holds.maybeText (by simp [slots])
    have items : fields.maybe "items" (read fuel) = pure shape.items := by
      have slot : ("items", shape.items.map toJson) ∈ shape.slots := by simp [slots]
      refine holds.maybe slot ?_ ?_
      · intro item _ isNull
        rw [toJson_eq] at isNull
        cases isNull
      · intro item isItem
        have less := depth_item_lt isItem
        exact inductionHypothesis item (keyedItems item isItem) (finiteItems item isItem) (by omega)
    have properties : fields.defaulted "properties" [] (fun inner => inner.orderedOf (read fuel)) =
        pure shape.properties := by
      have slot : ("properties", if shape.properties.isEmpty then none
          else some (Json.table toJson shape.properties)) ∈ shape.slots := by simp [slots]
      refine holds.defaulted slot ?_ ?_
      · intro omitted
        exact (List.isEmpty_iff.1 omitted).symm
      · intro _
        refine .orderedOf distinct ?_
        intro entry isProperty
        have less := depth_property_lt isProperty
        exact inductionHypothesis entry.2 (keyedProperties entry isProperty)
          (finiteProperties entry isProperty) (by omega)
    rw [toJson_eq, read, isRead]
    simp only [pure_bind, kind, format, pattern, nullable, minimum, maximum, minLength, maxLength,
      description, items, properties]
    -- a shape contains shapes, so it is not its own fields by definition
    cases shape
    rfl

theorem reads (shape : ValueShape) (keyed : shape.Everywhere IsKeyed)
    (finite : shape.Everywhere HasFiniteBounds) : Reads ofNode shape.toJson shape :=
  fun held => reads_read _ shape keyed finite (Nat.lt_succ_self _) held

end ValueShape

/-! ## What names stand for -/

theorem WireForm.reads (form : WireForm) : Reads ofNode form.toJson form := by
  intro held
  have isVariant : form.tag ∈ simple.map Prod.fst ++ ["enum"] := by
    cases form <;> simp [tag, simple]
  have unlabelled : ∀ member ∈ form.members, member.1 ≠ "type" := by
    cases form <;> simp [members]
  rw [ofNode, toJson, Node.tagged_record isVariant unlabelled held, pure_bind]
  cases form with
  | choice values =>
    exact Node.only_field (.texts values) "one_of" true fun found => pure (choice found)
  | _ => rfl

theorem ScalarDefinition.reads {scalar : ScalarDefinition}
    (aggregates : ∀ entry ∈ scalar.aggregates.entries, entry.2.Plain)
    (comparisons : ∀ entry ∈ scalar.comparisons.entries, entry.2.Plain) :
    Reads ofNode scalar.toJson scalar := by
  intro held
  let slots := [("aggregate_functions", some (Json.table id scalar.aggregates.entries)),
    ("comparison_operators", some (Json.table id scalar.comparisons.entries)),
    ("representation", scalar.form.map WireForm.toJson)]
  have written : scalar.toJson = .record (present slots) := by simp [toJson, slots, Json.table]
  obtain ⟨fields, isRead, holds⟩ :=
    Node.fields_present slots ["aggregate_functions", "comparison_operators", "representation"] rfl
      (by decide) held
  have isAggregates : fields.defaulted "aggregate_functions" ∅ (·.sortedOf Node.json) =
      pure scalar.aggregates := by
    refine holds.given (List.mem_cons_self) (.sortedOf ?_)
    exact fun entry inside => .json (aggregates entry inside)
  have isComparisons : fields.defaulted "comparison_operators" ∅ (·.sortedOf Node.json) =
      pure scalar.comparisons := by
    refine holds.given (List.mem_cons_of_mem _ List.mem_cons_self) (.sortedOf ?_)
    exact fun entry inside => .json (comparisons entry inside)
  have isForm : fields.maybe "representation" WireForm.ofNode = pure scalar.form := by
    refine holds.maybe (by simp [slots]) ?_ fun form _ => form.reads
    intro form _ isNull
    cases isNull
  rw [written, ofNode, isRead]
  simp only [pure_bind, isAggregates, isComparisons, isForm]

/-- A type with a description is found by any reader that asks for these two. -/
theorem reads_described {α : Type} (make : Option String → TypeTerm → α)
    (description : Option String) (type : TypeTerm) :
    Reads
      (fun node => do
        let fields ← node.fields ["description", "type"]
        return make (← fields.maybe "description" Node.text)
          (← fields.required "type" TypeTerm.ofNode))
      (.record (Json.optional "description" .text description ++ [("type", type.toJson)]))
      (make description type) := by
  intro held
  let slots := [("description", description.map Json.text), ("type", some type.toJson)]
  have written : Json.optional "description" .text description ++ [("type", type.toJson)] =
      present slots := by simp [slots]
  obtain ⟨fields, isRead, holds⟩ :=
    Node.fields_present slots ["description", "type"] rfl (by decide) held
  have isDescription : fields.maybe "description" Node.text = pure description :=
    holds.maybeText (by simp [slots])
  have isType : fields.required "type" TypeTerm.ofNode = pure type :=
    holds.required (by simp [slots]) type.reads
  simp only [written, isRead, pure_bind, isDescription, isType]

theorem FieldDefinition.reads (field : FieldDefinition) : Reads ofNode field.toJson field :=
  reads_described FieldDefinition.mk field.description field.type

theorem Argument.reads (argument : Argument) : Reads ofNode argument.toJson argument :=
  reads_described Argument.mk argument.description argument.type

theorem ObjectDefinition.reads {object : ObjectDefinition}
    (distinct : (object.fields.map Prod.fst).Nodup) : Reads ofNode object.toJson object := by
  intro held
  let slots := [("description", object.description.map Json.text),
    ("fields", some object.fieldsJson)]
  have written : object.toJson = .record (present slots) := by simp [toJson, slots]
  obtain ⟨fields, isRead, holds⟩ :=
    Node.fields_present slots ["description", "fields"] rfl (by decide) held
  have isDescription : fields.maybe "description" Node.text = pure object.description :=
    holds.maybeText (by simp [slots])
  have inner : Reads (·.orderedOf FieldDefinition.ofNode) object.fieldsJson object.fields :=
    .orderedOf distinct fun entry _ => entry.2.reads
  have isFields : fields.required "fields" (·.orderedOf FieldDefinition.ofNode) =
      pure object.fields := holds.required (by simp [slots]) inner
  rw [written, ofNode, isRead]
  simp only [pure_bind, isDescription, isFields]

end RestConnector
