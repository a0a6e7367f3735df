import RestConnector.Json.Value
import RestConnector.Members

/-!
Contract: written values before a type is asked of them.

Owns:
- `Datum`, a value as its text gives it, with repeated keys and with parts that no reader can use;
- `Datum.toJson`, the plain value that a datum stands for.

Does not own: how a datum comes from a text, and how typed values are read from it.

A part that no reader can use (a number out of range, a text that is not Unicode) spoils a document
only if something reads that part, so it is kept as `unreadable` until then.
-/

namespace RestConnector.Source

inductive Key where
  | name (text : String)
  /-- A natural number: it stands for the place of a declared field. -/
  | position (index : Nat)
  /-- A key of any other type. -/
  | other
  /-- A key that no reader can use. -/
  | unreadable
deriving Repr, DecidableEq

inductive Datum where
  | null
  | bool (value : Bool)
  | number (value : Number)
  | text (value : String)
  | list (items : List Datum)
  | record (members : List (Key × Datum))
  | unreadable
deriving Repr, Inhabited

namespace Datum

mutual

/-- The plain value of a datum: the last of the members of one name counts, at the place of the
first, and a number without a finite value is `null`. -/
def toJson : Datum → Option Json
  | .null => some .null
  | .bool value => some (.bool value)
  | .number (.integer value) => some (.number (.integer value))
  | .number (.decimal value) =>
    some (if value.isFinite then .number (.decimal value) else .null)
  | .text value => some (.text value)
  | .list items => (toJsonItems items).map .list
  | .record members => (toJsonMembers members).map fun pairs => .record (Members.collapse pairs)
  | .unreadable => none

def toJsonItems : List Datum → Option (List Json)
  | [] => some []
  | item :: rest => do
    let first ← toJson item
    let others ← toJsonItems rest
    return first :: others

/-- The plain values of the members of a record, whose keys must all be names. -/
def toJsonMembers : List (Key × Datum) → Option (List (String × Json))
  | [] => some []
  | (key, value) :: rest =>
    match key with
    | .name name => do
      let first ← toJson value
      let others ← toJsonMembers rest
      return (name, first) :: others
    | _ => none

end

mutual

/-- The datum of a plain value, in which a number without a finite value is `null`. -/
def ofJson : Json → Datum
  | .null => .null
  | .bool value => .bool value
  | .number (.integer value) => .number (.integer value)
  | .number (.decimal value) => if value.isFinite then .number (.decimal value) else .null
  | .text value => .text value
  | .list items => .list (ofJsonItems items)
  | .record members => .record (ofJsonMembers members)

def ofJsonItems : List Json → List Datum
  | [] => []
  | item :: rest => ofJson item :: ofJsonItems rest

def ofJsonMembers : List (String × Json) → List (Key × Datum)
  | [] => []
  | (name, value) :: rest => (.name name, ofJson value) :: ofJsonMembers rest

end

mutual

/-- How deep lists and records are nested in a datum. -/
def depth : Datum → Nat
  | .list items => depthItems items + 1
  | .record members => depthMembers members + 1
  | _ => 0

def depthItems : List Datum → Nat
  | [] => 0
  | item :: rest => max (depth item) (depthItems rest)

def depthMembers : List (Key × Datum) → Nat
  | [] => 0
  | (_, value) :: rest => max (depth value) (depthMembers rest)

end

mutual

/-- Whether a datum can be read as a whole by a reader that may open `room` nested containers. -/
def readable (room : Nat) : Datum → Bool
  | .unreadable => false
  | .list items =>
    match room with
    | 0 => false
    | inner + 1 => readableItems inner items
  | .record members =>
    match room with
    | 0 => false
    | inner + 1 => readableMembers inner members
  | _ => true

def readableItems (room : Nat) : List Datum → Bool
  | [] => true
  | item :: rest => readable room item && readableItems room rest

/-- Whether all keys and values of a record can be read. -/
def readableMembers (room : Nat) : List (Key × Datum) → Bool
  | [] => true
  | (key, value) :: rest =>
    key != .unreadable && readable room value && readableMembers room rest

end

end Datum

end RestConnector.Source
