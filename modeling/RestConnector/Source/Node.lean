import RestConnector.Source.Datum
import RestConnector.Yaml.Scalar

/-!
Contract: written values as they are asked for their types.

Owns:
- `Node`, a part of a written value together with what limits its reading;
- the questions that a reader asks of a node: `text`, `flag`, `natural`, `double`, `present?`,
  `items`, `members`, `settle` and `json`;
- `Source`, a whole written value, and `Source.read`.

Does not own: objects with declared fields, see `RestConnector.Source.Fields`.

A scalar of a YAML document has the type that it is asked for; every other value has one type.  A
reading fails as a whole, so no answer tells why.
-/

namespace RestConnector

open Yaml (Stream Tree Style)

namespace Source

inductive Node where
  /-- A part of a JSON text, where `room` more containers may be nested. -/
  | written (room : Nat) (datum : Datum)
  /-- A part of a value that has been read before; `held` if this reading itself holds it. -/
  | settled (held : Bool) (datum : Datum)
  /-- A part of a YAML document, where `room` more collections may be nested. -/
  | yaml (stream : Stream) (room : Nat) (tree : Tree)
  /-- A YAML document without any node. -/
  | nothing
deriving Inhabited

/-- A reading: it spends from the number of aliases that may still be followed. -/
abbrev Reading := StateT Nat Option

namespace Node

/-- A bound for the nesting of what can be read below a node. -/
def height : Node → Nat
  | .written _ datum => datum.depth + 1
  | .settled _ datum => datum.depth + 1
  | .yaml _ room _ => room + 1
  | .nothing => 1

/-- The node that an alias stands for. -/
def followTree (stream : Stream) : Tree → Reading Tree
  | .alias number => do
    match ← get with
    | 0 => failure
    | left + 1 =>
      set left
      match stream.target? number with
      | some tree => return tree
      | none => failure
  | tree => return tree

def follow : Node → Reading Node
  | .yaml stream room tree => return .yaml stream room (← followTree stream tree)
  | node => return node

/-! ## Scalars -/

/-- The text of a node; any scalar of a YAML document has one. -/
def text (node : Node) : Reading String := do
  match ← node.follow with
  | .written _ (.text value) => return value
  | .settled _ (.text value) => return value
  | .yaml _ _ (.scalar _ _ value) => return value
  | _ => failure

def flag (node : Node) : Reading Bool := do
  match ← node.follow with
  | .written _ (.bool value) => return value
  | .settled _ (.bool value) => return value
  | .yaml _ _ (.scalar tag style value) =>
    if Yaml.Scalar.admits Yaml.Scalar.boolTag tag style then (Yaml.Scalar.flag? value : Option _)
    else failure
  | _ => failure

def naturalOf : Datum → Option Nat
  | .number (.integer value) => if 0 ≤ value then some value.toNat else none
  | _ => none

/-- The natural number of at most 64 bits of a node. -/
def natural (node : Node) : Reading Nat := do
  match ← node.follow with
  | .written _ datum => (naturalOf datum : Option _)
  | .settled _ datum => (naturalOf datum : Option _)
  | .yaml _ _ (.scalar tag style value) =>
    if Yaml.Scalar.admits Yaml.Scalar.integerTag tag style then (Yaml.Scalar.word? value : Option _)
    else failure
  | _ => failure

/-- The double of a datum, nearest if it is an integer. -/
def doubleOf : Datum → Option Double
  | .number (.integer value) => some (Double.ofInt value)
  | .number (.decimal value) => some value
  | _ => none

def double (node : Node) : Reading Double := do
  match ← node.follow with
  | .written _ datum => (doubleOf datum : Option _)
  | .settled _ datum => (doubleOf datum : Option _)
  | .yaml _ _ (.scalar tag style value) =>
    if Yaml.Scalar.admits Yaml.Scalar.floatTag tag style then (Yaml.Scalar.double? value : Option _)
    else failure
  | _ => failure

/-- The node, unless it stands for an absent value. -/
def present? (node : Node) : Reading (Option Node) := do
  match ← node.follow with
  | .written _ .null => return none
  | .settled _ .null => return none
  | .nothing => return none
  | .yaml stream room (.scalar tag style value) =>
    match Yaml.Scalar.isAbsent? tag style value with
    | some true => return none
    | some false => return some (.yaml stream room (.scalar tag style value))
    | none => failure
  | other => return some other

/-! ## Containers -/

/-- The items of a list; where nothing is written there are none. -/
def items (node : Node) : Reading (List Node) := do
  match ← node.follow with
  | .written (room + 1) (.list items) => return items.map (.written room)
  | .settled held (.list items) => return items.map (.settled held)
  | .yaml stream (room + 1) (.sequence _ items) => return items.map (.yaml stream room)
  | .yaml _ _ (.scalar _ style value) =>
    if style = .plain && value.isEmpty then return [] else failure
  | .nothing => return []
  | _ => failure

def keyDatum : Key → Datum
  | .name text => .text text
  | .position index => .number (.integer index)
  | .other => .null
  | .unreadable => .unreadable

/-- The keys and values of a record; where nothing is written there are none. -/
def members (node : Node) : Reading (List (Node × Node)) := do
  match ← node.follow with
  | .written (room + 1) (.record members) =>
    return members.map fun (key, value) => (.written room (keyDatum key), .written room value)
  | .settled held (.record members) =>
    return members.map fun (key, value) => (.settled held (keyDatum key), .settled held value)
  | .yaml stream (room + 1) (.mapping _ entries) =>
    return entries.map fun (key, value) => (.yaml stream room key, .yaml stream room value)
  | .yaml _ _ (.scalar _ style value) =>
    if style = .plain && value.isEmpty then return [] else failure
  | .nothing => return []
  | _ => failure

/-! ## Values of any type -/

/-- The key that a scalar of a YAML document is where no type is asked for. -/
def keyOf : Datum → Text.Symbol → Key
  | .text text, _ => .name text
  | .number (.integer value), sign =>
    if 0 ≤ value ∧ sign ≠ some '-' then .position value.toNat else .other
  | _, _ => .other

/-- The datum of a YAML node.  The keys are texts where `textKeys` holds. -/
def settleTree (stream : Stream) (textKeys : Bool) : Nat → Tree → Reading Datum
  | room, tree => do
    match ← followTree stream tree with
    | .scalar tag style text =>
      match Yaml.Scalar.untyped? tag style text with
      | some .unreadable => failure
      | some datum => return datum
      | none => failure
    | .sequence tag items =>
      match room with
      | 0 => failure
      | inner + 1 =>
        if Yaml.Scalar.isLocalTag tag then failure
        else return .list (← items.mapM (settleTree stream textKeys inner))
    | .mapping tag entries =>
      match room with
      | 0 => failure
      | inner + 1 =>
        if Yaml.Scalar.isLocalTag tag then failure
        else
          return .record (← entries.mapM fun (key, value) => do
            let name ← settleKey (settleTree stream textKeys inner) key
            return (name, ← settleTree stream textKeys inner value))
    | .alias _ => failure
where
  /-- The key of an entry. -/
  settleKey (settle : Tree → Reading Datum) (key : Tree) : Reading Key := do
    if textKeys then
      match ← followTree stream key with
      | .scalar _ _ text => return .name text
      | _ => failure
    else
      let target ← followTree stream key
      let sign := match target with
        | .scalar _ _ text => text.toList.head?
        | _ => none
      return keyOf (← settle target) sign

/-- The datum of a node that is read in full before its type is settled. -/
def datum (textKeys : Bool) : Node → Reading Datum
  | .written room datum => if datum.readable room then return datum else failure
  | .settled _ datum => return datum
  | .yaml stream room tree => settleTree stream textKeys room tree
  | .nothing => return .null

/-- The node of a value that is read in full before its type is settled. -/
def settle (node : Node) : Reading Node :=
  return .settled true (← node.datum false)

def json (node : Node) : Reading Json := do
  ((← node.datum true).toJson : Option _)

end Node

end Source

/-- A whole written value, with the number of aliases that a reading of it may follow. -/
structure Source where
  node : Source.Node
  allowance : Nat

namespace Source

def ofJson (value : Json) : Source := ⟨.settled false (Datum.ofJson value), 0⟩

/-- The source of a JSON text, in which 127 containers may be nested. -/
def ofJsonDatum (datum : Datum) : Source := ⟨.written 127 datum, 0⟩

/-- The source of a YAML document, in which 128 collections may be nested. -/
def ofStream (stream : Stream) : Source :=
  match stream.root with
  | some tree => ⟨.yaml stream 128 tree, 100 * stream.size⟩
  | none => ⟨.nothing, 0⟩

def ofYaml? (input : List Char) : Option Source :=
  (Stream.ofText? input).map ofStream

def read {α : Type} (source : Source) (reader : Node → Reading α) : Option α :=
  ((reader source.node).run source.allowance).map Prod.fst

end Source

end RestConnector
