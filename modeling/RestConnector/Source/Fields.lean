import RestConnector.NameMap
import RestConnector.Source.Node

/-!
Contract: typed readings of written values.

Owns:
- readers of lists, of maps and of choices between names;
- `Fields`, the parts of an object with declared fields, and the four ways to ask for one of them;
- `Node.tagged`, the reading of an object whose first question is its variant.

Does not own: any particular object.

A declared field must not be given twice; other members are not looked at.  Outside of YAML an
object may also be given as the list of its fields in the order of their declaration.  In such a
list only fields that have a default may be missing at the end.
-/

namespace RestConnector.Source

namespace Node

def listOf {α : Type} (reader : Node → Reading α) (node : Node) : Reading (List α) := do
  (← node.items).mapM reader

/-- The pairs of a record with a reader for its values. -/
def pairsOf {α : Type} (reader : Node → Reading α) (node : Node) : Reading (List (String × α)) := do
  (← node.members).mapM fun (key, value) => do
    return (← key.text, ← reader value)

/-- A map that keeps the order of its text: the last value of a name stands at its first place. -/
def orderedOf {α : Type} (reader : Node → Reading α) (node : Node) :
    Reading (List (String × α)) := do
  return Members.collapse (← node.pairsOf reader)

/-- A map in the order of its names. -/
def sortedOf {α : Type} (reader : Node → Reading α) (node : Node) : Reading (NameMap α) := do
  return NameMap.ofList (← node.pairsOf reader)

/-- One of several readers on a value that is read in full: the first that does not fail. -/
def firstOf {α : Type} (readers : List (Node → Reading α)) (node : Node) : Reading α := do
  let held ← node.settle
  fun left => readers.findSome? fun reader => (reader held).run left

/-- Whether a node is a record without members, or null. -/
def isUnit : Bool → Datum → Bool
  | _, .null => true
  | true, .record [] => true
  | _, _ => false

/-- A choice by its name, which may also be the only member of a record, with null as its value. -/
def choice {α : Type} (choices : List (String × α)) (node : Node) : Reading α := do
  let name ← match ← node.follow with
    | .written _ (.record [(.name name, value)]) => if isUnit false value then pure name else failure
    | .settled held (.record [(.name name, value)]) =>
      if isUnit held value then pure name else failure
    | other => other.text
  (choices.lookup name : Option _)

end Node

/-! ## Declared fields -/

/-- The parts of an object that were given for its declared fields. -/
structure Fields where
  /-- Whether the object was given as a list. -/
  positional : Bool
  given : List (String × Node)

namespace Node

/-- The declared field that a key names: a natural number counts the declarations. -/
def fieldName (names : List String) (key : Node) : Reading (Option String) := do
  match ← key.follow with
  | .settled _ (.number (.integer index)) => return names[index.toNat]?
  | other =>
    let name ← other.text
    return if names.contains name then some name else none

/-- Add the members of a record one after the other. -/
def addFields (names : List String) : List (String × Node) → List (Node × Node) →
    Reading (List (String × Node))
  | given, [] => return given
  | given, (key, value) :: rest => do
    match ← key.fieldName names with
    | none => addFields names given rest
    | some name =>
      if (given.lookup name).isSome then failure
      else addFields names ((name, value) :: given) rest

def placed (names : List String) (values : List Node) : Reading Fields :=
  if values.length ≤ names.length then return ⟨true, names.zip values⟩ else failure

def fields (names : List String) (node : Node) : Reading Fields := do
  match ← node.follow with
  | .written (room + 1) (.list values) => placed names (values.map (.written room))
  | .settled held (.list values) => placed names (values.map (.settled held))
  | other => return ⟨false, ← addFields names [] (← other.members)⟩

end Node

namespace Fields

def find? (fields : Fields) (name : String) : Option Node := fields.given.lookup name

def required {α : Type} (fields : Fields) (name : String) (reader : Node → Reading α) :
    Reading α :=
  match fields.find? name with
  | some node => reader node
  | none => failure

/-- A field that may be missing, except in a list, and that may be given as absent. -/
def optional {α : Type} (fields : Fields) (name : String) (reader : Node → Reading α) :
    Reading (Option α) := do
  match fields.find? name with
  | some node => (← node.present?).mapM reader
  | none => if fields.positional then failure else return none

/-- A field that may be missing and that may be given as absent. -/
def maybe {α : Type} (fields : Fields) (name : String) (reader : Node → Reading α) :
    Reading (Option α) := do
  match fields.find? name with
  | some node => (← node.present?).mapM reader
  | none => return none

/-- A field that has a value when it is missing. -/
def defaulted {α : Type} (fields : Fields) (name : String) (value : α)
    (reader : Node → Reading α) : Reading α :=
  match fields.find? name with
  | some node => reader node
  | none => return value

/-- A list that is empty when it is missing. -/
def list {α : Type} (fields : Fields) (name : String) (reader : Node → Reading α) :
    Reading (List α) :=
  fields.defaulted name [] (·.listOf reader)

end Fields

/-! ## Variants -/

namespace Node

/-- The variant that a node names; by its number only in a value that the reading holds. -/
def variant (variants : List String) (node : Node) : Reading String := do
  match ← node.follow with
  | .settled true (.number (.integer index)) =>
    if index < 0 then failure else (variants[index.toNat]? : Option _)
  | other =>
    let name ← other.text
    if variants.contains name then return name else failure

def asKey (datum : Datum) : Key := keyOf datum none

/-- Part the members of a record into those of the variant and the others. -/
def splitVariant (label : String) (variants : List String) : Option String →
    List (Key × Datum) → List (Node × Node) → Reading (String × Datum)
  | found, others, [] =>
    match found with
    | some name => return (name, .record others.reverse)
    | none => failure
  | found, others, (key, value) :: rest => do
    match asKey (← key.datum false) with
    | .name name =>
      if name = label then
        if found.isSome then failure
        else splitVariant label variants (some (← value.variant variants)) others rest
      else splitVariant label variants found ((.name name, ← value.datum false) :: others) rest
    | unnamed => splitVariant label variants found ((unnamed, ← value.datum false) :: others) rest

/-- The variant of an object and the object without it.  In a list the variant comes first. -/
def tagged (label : String) (variants : List String) (node : Node) : Reading (String × Node) := do
  match ← node.follow with
  | .written (room + 1) (.list (first :: rest)) =>
    let others ← rest.mapM fun value => (Node.written room value).datum false
    return (← (Node.written room first).variant variants, .settled true (.list others))
  | .settled held (.list (first :: rest)) =>
    return (← (Node.settled held first).variant variants, .settled true (.list rest))
  | .yaml stream (room + 1) (.sequence tag (first :: rest)) =>
    if Yaml.Scalar.isLocalTag tag then failure
    let others ← rest.mapM fun value => (Node.yaml stream room value).datum false
    return (← (Node.yaml stream room first).variant variants, .settled true (.list others))
  | .yaml stream room (.mapping tag entries) =>
    if Yaml.Scalar.isLocalTag tag then failure
    let members ← (Node.yaml stream room (.mapping tag entries)).members
    let (name, rest) ← splitVariant label variants none [] members
    return (name, .settled true rest)
  | .yaml .. => failure
  | .nothing => failure
  | record =>
    let (name, rest) ← splitVariant label variants none [] (← record.members)
    return (name, .settled true rest)

/-- Nothing more than the variant: a list must be at its end. -/
def unitVariant : Node → Reading Unit
  | .settled _ (.list (_ :: _)) => failure
  | _ => return ()

end Node

end RestConnector.Source
