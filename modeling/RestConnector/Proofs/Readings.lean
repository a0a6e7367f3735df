import RestConnector.Proofs.Slots
import RestConnector.Source.Fields

/-!
Contract: what readers find in plain values.

Owns:
- `Reads`, a reader that finds a value in a plain value, with one rule for each kind of reader;
- `Fields.Holds`, the fields that a reader gets of the slots of a writer, with one rule for each way
  to ask for a field;
- `Node.tagged_record`, the variant of a record that begins with its label;
- `Json.Plain`, the values whose own reading gives them back;
- `Datum.depth_lt_of_mem`, the bound of what is nested in a record.

Does not own: any particular object, see `RestConnector.Proofs.TypeForms` and
`RestConnector.Proofs.RoundTrip`.

A reading of a plain value follows no alias, so it is a pure computation, and a rule is an equation
between the reader at a node and its value.
-/

namespace RestConnector

namespace Source

/-! ## Plain values as data -/

namespace Datum

theorem ofJsonItems_eq_map (items : List Json) : ofJsonItems items = items.map ofJson := by
  induction items with
  | nil => rfl
  | cons item rest inductionHypothesis => rw [ofJsonItems, inductionHypothesis, List.map_cons]

theorem ofJsonMembers_eq_map (members : List (String × Json)) :
    ofJsonMembers members = members.map fun member => (.name member.1, ofJson member.2) := by
  induction members with
  | nil => rfl
  | cons member rest inductionHypothesis =>
    obtain ⟨name, value⟩ := member
    rw [ofJsonMembers, inductionHypothesis, List.map_cons]

theorem ofJson_double {value : Double} (finite : value.isFinite = true) :
    ofJson (Json.double value) = .number (.decimal value) := by
  simp [Json.double, ofJson, finite]

/-- What is nested in a record is less deep. -/
theorem depth_lt_of_mem {name : String} {value : Json} {members : List (String × Json)}
    (inside : (name, value) ∈ members) :
    (ofJson value).depth < (ofJson (.record members)).depth := by
  have bounded : (ofJson value).depth ≤ depthMembers (ofJsonMembers members) := by
    induction members with
    | nil => cases inside
    | cons member rest inductionHypothesis =>
      rw [ofJsonMembers, depthMembers]
      rcases List.mem_cons.1 inside with rfl | later
      · exact Nat.le_max_left _ _
      · exact Nat.le_trans (inductionHypothesis later) (Nat.le_max_right _ _)
  rw [ofJson, depth]
  omega

end Datum

/-- The node of a plain value, whether the reading holds it or not. -/
def Node.ofJson (held : Bool) (value : Json) : Node := .settled held (Datum.ofJson value)

theorem Node.items_list (held : Bool) (items : List Json) :
    (Node.ofJson held (.list items)).items = pure (items.map (.ofJson held)) := by
  show (pure ((Datum.ofJsonItems items).map (Node.settled held)) : Reading _) = _
  rw [Datum.ofJsonItems_eq_map, List.map_map]
  rfl

theorem Node.members_record (held : Bool) (members : List (String × Json)) :
    (Node.ofJson held (.record members)).members =
      pure (members.map fun member => (.ofJson held (.text member.1), .ofJson held member.2)) := by
  show (pure ((Datum.ofJsonMembers members).map fun member =>
    (Node.settled held (keyDatum member.1), Node.settled held member.2)) : Reading _) = _
  rw [Datum.ofJsonMembers_eq_map, List.map_map]
  rfl

/-! ## Readers that find a value -/

/-- A reader finds a value in a plain value, wherever that stands. -/
def Reads {α : Type} (reader : Node → Reading α) (json : Json) (value : α) : Prop :=
  ∀ held, reader (.ofJson held json) = pure value

/-- A walk through nodes finds what its step finds. -/
theorem mapM_of_steps {α β : Type} {step : β → Reading α} {node : α → β} {values : List α}
    (steps : ∀ value ∈ values, step (node value) = pure value) :
    (values.map node).mapM step = pure values := by
  induction values with
  | nil => rfl
  | cons value rest inductionHypothesis =>
    have restSteps : ∀ other ∈ rest, step (node other) = pure other := fun other inside =>
      steps other (List.mem_cons_of_mem value inside)
    rw [List.map_cons, List.mapM_cons, steps value List.mem_cons_self, pure_bind,
      inductionHypothesis restSteps, pure_bind]

namespace Reads

variable {α : Type} {reader : Node → Reading α} {encode : α → Json}

theorem text (value : String) : Reads Node.text (.text value) value := fun _ => rfl

theorem flag (value : Bool) : Reads Node.flag (.bool value) value := fun _ => rfl

theorem natural (value : Nat) : Reads Node.natural (.ofNat value) value := by
  intro held
  have found : Node.naturalOf (.number (.integer value)) = some value := by
    simp [Node.naturalOf]
  show (StateT.lift (Node.naturalOf (.number (.integer value))) : Reading Nat) = _
  rw [found]
  rfl

theorem double {value : Double} (finite : value.isFinite = true) :
    Reads Node.double (Json.double value) value := by
  intro held
  show (StateT.lift (Node.doubleOf (Datum.ofJson (Json.double value))) : Reading Double) = _
  rw [Datum.ofJson_double finite]
  rfl

theorem listOf {values : List α} (reads : ∀ value ∈ values, Reads reader (encode value) value) :
    Reads (Node.listOf reader) (.list (values.map encode)) values := by
  intro held
  rw [Node.listOf, Node.items_list, pure_bind, List.map_map]
  refine mapM_of_steps ?_
  intro value inside
  exact reads value inside held

theorem texts (values : List String) : Reads (Node.listOf Node.text) (.ofTexts values) values :=
  listOf fun value _ => text value

theorem pairsOf {entries : List (String × α)}
    (reads : ∀ entry ∈ entries, Reads reader (encode entry.2) entry.2) :
    Reads (Node.pairsOf reader) (Json.table encode entries) entries := by
  intro held
  rw [Node.pairsOf, Json.table, Node.members_record, pure_bind, List.map_map]
  refine mapM_of_steps ?_
  intro entry inside
  show (do return (← (Node.ofJson held (.text entry.1)).text,
    ← reader (.ofJson held (encode entry.2))) : Reading (String × α)) = _
  rw [text entry.1 held, reads entry inside held]
  rfl

/-- A map keeps its order if its names are distinct. -/
theorem orderedOf {entries : List (String × α)} (distinct : (entries.map Prod.fst).Nodup)
    (reads : ∀ entry ∈ entries, Reads reader (encode entry.2) entry.2) :
    Reads (Node.orderedOf reader) (Json.table encode entries) entries := by
  intro held
  rw [Node.orderedOf, pairsOf reads held, pure_bind, Members.collapse_of_nodup distinct]

theorem sortedOf {table : NameMap α}
    (reads : ∀ entry ∈ table.entries, Reads reader (encode entry.2) entry.2) :
    Reads (Node.sortedOf reader) (Json.table encode table.entries) table := by
  intro held
  rw [Node.sortedOf, pairsOf reads held, pure_bind, NameMap.ofList_entries]

theorem choice {choices : List (String × α)} {name : String} {value : α}
    (isChoice : choices.lookup name = some value) :
    Reads (Node.choice choices) (.text name) value := by
  intro held
  show (StateT.lift (choices.lookup name) : Reading α) = _
  rw [isChoice]
  rfl

end Reads

/-! ## Fields -/

namespace Fields

/-- Fields hold what stands in the slots of a writer. -/
def Holds (fields : Fields) (held : Bool) (slots : List (String × Option Json)) : Prop :=
  ∀ slot ∈ slots, fields.find? slot.1 = slot.2.map (.ofJson held)

variable {fields : Fields} {held : Bool} {slots : List (String × Option Json)} {name : String}
  {α : Type} {reader : Node → Reading α}

theorem Holds.required (holds : fields.Holds held slots) {json : Json} {value : α}
    (inside : (name, some json) ∈ slots) (reads : Reads reader json value) :
    fields.required name reader = pure value := by
  have found : fields.find? name = some (.ofJson held json) := holds _ inside
  rw [Fields.required, found]
  exact reads held

/-- A value that is not written as null is found if it is there. -/
theorem Holds.maybe (holds : fields.Holds held slots) {encode : α → Json} {value : Option α}
    (inside : (name, value.map encode) ∈ slots)
    (notNull : ∀ given, value = some given → Datum.ofJson (encode given) ≠ .null)
    (reads : ∀ given, value = some given → Reads reader (encode given) given) :
    fields.maybe name reader = pure value := by
  have found : fields.find? name = (value.map encode).map (.ofJson held) := holds _ inside
  rw [Fields.maybe, found]
  cases value with
  | none => rfl
  | some given =>
    have isPresent : (Node.ofJson held (encode given)).present? =
        pure (some (.ofJson held (encode given))) := by
      have present := notNull given rfl
      unfold Node.ofJson
      generalize Datum.ofJson (encode given) = datum at present
      cases datum with
      | null => exact absurd rfl present
      | _ => rfl
    show (do (← (Node.ofJson held (encode given)).present?).mapM reader) = _
    rw [isPresent, pure_bind, Option.mapM_some, reads given rfl held, map_pure]

theorem Holds.maybeText (holds : fields.Holds held slots) {value : Option String}
    (inside : (name, value.map .text) ∈ slots) : fields.maybe name Node.text = pure value := by
  refine holds.maybe inside ?_ fun given _ => .text given
  intro given _ isNull
  cases isNull

theorem Holds.maybeNatural (holds : fields.Holds held slots) {value : Option Nat}
    (inside : (name, value.map .ofNat) ∈ slots) : fields.maybe name Node.natural = pure value := by
  refine holds.maybe inside ?_ fun given _ => .natural given
  intro given _ isNull
  cases isNull

theorem Holds.maybeDouble (holds : fields.Holds held slots) {value : Option Double}
    (inside : (name, value.map Json.double) ∈ slots)
    (finite : ∀ given, value = some given → given.isFinite = true) :
    fields.maybe name Node.double = pure value := by
  refine holds.maybe inside ?_ fun given isGiven => .double (finite given isGiven)
  intro given isGiven isNull
  rw [Datum.ofJson_double (finite given isGiven)] at isNull
  cases isNull

/-- A value that is left out where it is the default is found in any case. -/
theorem Holds.defaulted (holds : fields.Holds held slots) {default value : α} {omitted : Bool}
    {json : Json} (inside : (name, if omitted then none else some json) ∈ slots)
    (isDefault : omitted = true → default = value)
    (reads : omitted = false → Reads reader json value) :
    fields.defaulted name default reader = pure value := by
  have found : fields.find? name = (if omitted then none else some json).map (.ofJson held) :=
    holds _ inside
  rw [Fields.defaulted, found]
  cases omitted with
  | true => exact congrArg pure (isDefault rfl)
  | false => exact reads rfl held

/-- So is one that is never left out. -/
theorem Holds.given (holds : fields.Holds held slots) {default value : α} {json : Json}
    (inside : (name, some json) ∈ slots) (reads : Reads reader json value) :
    fields.defaulted name default reader = pure value := by
  have found : fields.find? name = some (.ofJson held json) := holds _ inside
  rw [Fields.defaulted, found]
  exact reads held

theorem Holds.list (holds : fields.Holds held slots) {encode : α → Json} {values : List α}
    (inside : (name, some (.list (values.map encode))) ∈ slots)
    (reads : ∀ value ∈ values, Reads reader (encode value) value) :
    fields.list name reader = pure values :=
  holds.given inside (Reads.listOf reads)

end Fields

theorem Node.fieldName_text {names : List String} {name : String} (declared : name ∈ names)
    (held : Bool) : (Node.ofJson held (.text name)).fieldName names = pure (some name) := by
  have known : names.contains name = true := List.contains_iff_mem.2 declared
  show (pure (if names.contains name then some name else none) : Reading (Option String)) = _
  rw [if_pos known]

/-- The members of a record become fields one after the other. -/
theorem Node.addFields_record {names : List String} {held : Bool}
    {members : List (String × Json)} (declared : ∀ member ∈ members, member.1 ∈ names)
    {given : List (String × Node)}
    (distinct : (given.map Prod.fst ++ members.map Prod.fst).Nodup) :
    Node.addFields names given
        (members.map fun member => (.ofJson held (.text member.1), .ofJson held member.2)) =
      pure ((members.map fun member => (member.1, .ofJson held member.2)).reverse ++ given) := by
  induction members generalizing given with
  | nil => rfl
  | cons member rest inductionHypothesis =>
    have isDeclared : member.1 ∈ names := declared member List.mem_cons_self
    have restDeclared : ∀ other ∈ rest, other.1 ∈ names := fun other inside =>
      declared other (List.mem_cons_of_mem member inside)
    have fresh : given.lookup member.1 = none := Members.lookup_of_not_mem fun inside =>
      (List.disjoint_of_nodup_append distinct) inside List.mem_cons_self
    have restDistinct : (((member.1, Node.ofJson held member.2) :: given).map Prod.fst ++
        rest.map Prod.fst).Nodup :=
      (List.perm_middle.nodup_iff).1 distinct
    rw [List.map_cons, Node.addFields, fieldName_text isDeclared held, pure_bind]
    simp only [fresh, Option.isSome_none, Bool.false_eq_true, if_false]
    rw [inductionHypothesis restDeclared restDistinct, List.map_cons, List.reverse_cons,
      List.append_assoc]
    rfl

/-- A record with some of the declared members has the fields of its slots. -/
theorem Node.fields_present (slots : List (String × Option Json)) (names : List String)
    (same : slots.map Prod.fst = names) (distinct : names.Nodup) (held : Bool) :
    ∃ fields : Fields,
      Node.fields names (.ofJson held (.record (Members.present slots))) = pure fields ∧
        fields.Holds held slots := by
  subst same
  let node (slot : String × Option Json) : String × Option Node :=
    (slot.1, slot.2.map (.ofJson held))
  let given : List (String × Node) :=
    (Members.present slots).map fun member => (member.1, .ofJson held member.2)
  have presentDistinct : ((Members.present slots).map Prod.fst).Nodup :=
    distinct.sublist (Members.names_present slots)
  have declared : ∀ member ∈ Members.present slots, member.1 ∈ slots.map Prod.fst :=
    fun member inside => (Members.names_present slots).subset (List.mem_map_of_mem inside)
  have added : Node.addFields (slots.map Prod.fst) []
      ((Members.present slots).map fun member =>
        (.ofJson held (.text member.1), .ofJson held member.2)) = pure (given.reverse ++ []) :=
    Node.addFields_record declared presentDistinct
  refine ⟨⟨false, given.reverse⟩, ?_, ?_⟩
  · show (do return (⟨false, ← Node.addFields (slots.map Prod.fst) []
      (← (Node.ofJson held (.record (Members.present slots))).members)⟩ : Fields)) = _
    rw [Node.members_record, pure_bind, added, pure_bind, List.append_nil]
  · -- fields are collected last first, which distinct names hide
    intro slot inside
    have isPresent : given = Members.present (slots.map node) :=
      (Members.present_map (Node.ofJson held) slots).symm
    have givenDistinct : (given.map Prod.fst).Nodup := by
      rw [List.map_map]
      exact presentDistinct
    have nodeDistinct : ((slots.map node).map Prod.fst).Nodup := by
      rw [List.map_map]
      exact distinct
    have isNode : (slot.1, slot.2.map (Node.ofJson held)) ∈ slots.map node :=
      List.mem_map_of_mem inside
    show given.reverse.lookup slot.1 = _
    rw [Members.lookup_reverse givenDistinct, isPresent]
    exact Members.lookup_present nodeDistinct isNode

/-- A reader that asks for the only field goes on with what is found there. -/
theorem Node.only_field {α β : Type} {reader : Node → Reading α} {json : Json} {value : α}
    (reads : Reads reader json value) (name : String) (held : Bool) (next : α → Reading β) :
    (do next (← (← Node.fields [name] (.ofJson held (.record [(name, json)]))).required name
      reader)) = next value := by
  obtain ⟨fields, isRead, holds⟩ :=
    Node.fields_present [(name, some json)] [name] rfl (List.nodup_singleton name) held
  have isRecord : Node.fields [name] (.ofJson held (.record [(name, json)])) = pure fields := isRead
  rw [isRecord, pure_bind, holds.required (List.mem_singleton_self _) reads, pure_bind]

/-! ## Variants -/

/-- Once the variant is found, all members are kept. -/
theorem Node.splitVariant_found {label tag : String} {variants : List String} {held : Bool}
    {members : List (String × Json)} (unlabelled : ∀ member ∈ members, member.1 ≠ label)
    (before : List (Key × Datum)) :
    Node.splitVariant label variants (some tag) before
        (members.map fun member => (.ofJson held (.text member.1), .ofJson held member.2)) =
      pure (tag, .record (before.reverse ++ Datum.ofJsonMembers members)) := by
  induction members generalizing before with
  | nil =>
    rw [Datum.ofJsonMembers, List.append_nil]
    rfl
  | cons member rest inductionHypothesis =>
    have different : member.1 ≠ label := unlabelled member List.mem_cons_self
    have restUnlabelled : ∀ other ∈ rest, other.1 ≠ label := fun other inside =>
      unlabelled other (List.mem_cons_of_mem member inside)
    have next : Node.splitVariant label variants (some tag)
        ((.name member.1, Datum.ofJson member.2) :: before)
        (rest.map fun member => (.ofJson held (.text member.1), .ofJson held member.2)) = _ :=
      inductionHypothesis restUnlabelled _
    have kept : (before.reverse ++ [(.name member.1, Datum.ofJson member.2)]) ++
        Datum.ofJsonMembers rest = before.reverse ++ Datum.ofJsonMembers (member :: rest) :=
      List.append_assoc ..
    rw [List.reverse_cons, kept] at next
    rw [List.map_cons, Node.splitVariant, ← next]
    show (if member.1 = label then _ else _) = _
    rw [if_neg different]
    rfl

/-- A record whose first member is the label has its variant, and the others stay as they are. -/
theorem Node.tagged_record {label tag : String} {variants : List String}
    (isVariant : tag ∈ variants) {others : List (String × Json)}
    (unlabelled : ∀ member ∈ others, member.1 ≠ label) (held : Bool) :
    Node.tagged label variants (.ofJson held (.record ((label, .text tag) :: others))) =
      pure (tag, .ofJson true (.record others)) := by
  have variant : (Node.ofJson held (.text tag)).variant variants = pure tag := by
    have known : variants.contains tag = true := List.contains_iff_mem.2 isVariant
    -- only a number would be read in another way in a value that the reading holds
    cases held with
    | true => exact if_pos known
    | false => exact if_pos known
  have split : Node.splitVariant label variants none []
      (((label, Json.text tag) :: others).map fun member =>
        (.ofJson held (.text member.1), .ofJson held member.2)) =
      pure (tag, .record (Datum.ofJsonMembers others)) := by
    rw [List.map_cons, Node.splitVariant]
    show (if label = label then _ else _) = _
    rw [if_pos rfl]
    show (do Node.splitVariant label variants (some (← (Node.ofJson held (.text tag)).variant
      variants)) [] _) = _
    rw [variant, pure_bind]
    exact Node.splitVariant_found unlabelled []
  show (do
    let found ← Node.splitVariant label variants none []
      (← (Node.ofJson held (.record ((label, .text tag) :: others))).members)
    return (found.1, Node.settled true found.2)) = _
  rw [Node.members_record, pure_bind, split, pure_bind]
  rfl

end Source

/-! ## Values of any type -/

/-- A value that is written as it stands: names are distinct in each record, and numbers are
finite. -/
inductive Json.Plain : Json → Prop where
  | null : Plain .null
  | bool (value : Bool) : Plain (.bool value)
  | integer (value : Int) : Plain (.number (.integer value))
  | decimal {value : Double} (finite : value.isFinite = true) : Plain (.number (.decimal value))
  | text (value : String) : Plain (.text value)
  | list {items : List Json} (values : ∀ item ∈ items, Plain item) : Plain (.list items)
  | record {members : List (String × Json)} (distinct : (members.map Prod.fst).Nodup)
      (values : ∀ member ∈ members, Plain member.2) : Plain (.record members)

namespace Source

namespace Datum

theorem toJsonItems_ofJson {items : List Json}
    (each : ∀ item ∈ items, (ofJson item).toJson = some item) :
    toJsonItems (ofJsonItems items) = some items := by
  induction items with
  | nil => rfl
  | cons item rest inductionHypothesis =>
    have others := inductionHypothesis fun other inside =>
      each other (List.mem_cons_of_mem item inside)
    rw [ofJsonItems, toJsonItems, each item List.mem_cons_self, others]
    rfl

theorem toJsonMembers_ofJson {members : List (String × Json)}
    (each : ∀ member ∈ members, (ofJson member.2).toJson = some member.2) :
    toJsonMembers (ofJsonMembers members) = some members := by
  induction members with
  | nil => rfl
  | cons member rest inductionHypothesis =>
    have others := inductionHypothesis fun other inside =>
      each other (List.mem_cons_of_mem member inside)
    have first := each member List.mem_cons_self
    obtain ⟨name, value⟩ := member
    rw [ofJsonMembers, toJsonMembers]
    simp only [first, others]
    rfl

theorem toJson_ofJson {value : Json} (plain : value.Plain) :
    (Datum.ofJson value).toJson = some value := by
  induction plain with
  | null => rfl
  | bool value => rfl
  | integer value => rfl
  | decimal finite =>
    simp [ofJson, toJson, finite]
  | text value => rfl
  | list _ inductionHypothesis =>
    rw [ofJson, toJson, toJsonItems_ofJson inductionHypothesis]
    rfl
  | record distinct _ inductionHypothesis =>
    rw [ofJson, toJson, toJsonMembers_ofJson inductionHypothesis, Option.map_some,
      Members.collapse_of_nodup distinct]

end Datum

theorem Reads.json {value : Json} (plain : value.Plain) : Reads Node.json value value := by
  intro held
  show (StateT.lift (Datum.ofJson value).toJson : Reading Json) = _
  rw [Datum.toJson_ofJson plain]
  rfl

end Source

end RestConnector
