/-!
Contract: finite maps from names, in the order of their names.

Owns:
- `NameMap`, a list of pairs whose names increase, so that equal maps are equal values;
- `find?`, `insert`, `names` and `size`.

Does not own: collections that remember the order of their writing, see `RestConnector.Members`.

Names are compared character by character by code point.
-/

namespace RestConnector

universe u

/-- A finite map from names to values. -/
structure NameMap (α : Type u) where
  entries : List (String × α)
  increasing : entries.Pairwise fun left right => left.1 < right.1
deriving Repr, DecidableEq

namespace NameMap

variable {α : Type u}

def empty : NameMap α := ⟨[], .nil⟩

instance : EmptyCollection (NameMap α) := ⟨empty⟩

/-- The value of a name in a list of pairs. -/
def findIn (name : String) : List (String × α) → Option α
  | [] => none
  | (other, value) :: rest => if other = name then some value else findIn name rest

def find? (table : NameMap α) (name : String) : Option α :=
  findIn name table.entries

/-- Whether a name has a value. -/
def contains (table : NameMap α) (name : String) : Bool :=
  (table.find? name).isSome

/-- Put a pair before the first name that is greater, in place of the one that is equal. -/
def insertIn (name : String) (value : α) : List (String × α) → List (String × α)
  | [] => [(name, value)]
  | (other, old) :: rest =>
    if name < other then (name, value) :: (other, old) :: rest
    else if other = name then (name, value) :: rest
    else (other, old) :: insertIn name value rest

theorem mem_insertIn {name : String} {value : α} {pairs : List (String × α)} {pair : String × α}
    (member : pair ∈ insertIn name value pairs) : pair = (name, value) ∨ pair ∈ pairs := by
  induction pairs with
  | nil => simpa [insertIn] using member
  | cons head rest inductionHypothesis =>
    unfold insertIn at member
    split at member
    · simpa using member
    · split at member
      · simp only [List.mem_cons] at member ⊢
        exact member.imp_right Or.inr
      · simp only [List.mem_cons] at member ⊢
        rcases member with rfl | member
        · exact Or.inr (Or.inl rfl)
        · exact (inductionHypothesis member).imp_right Or.inr

theorem pairwise_insertIn (name : String) (value : α) {pairs : List (String × α)}
    (increasing : pairs.Pairwise fun left right => left.1 < right.1) :
    (insertIn name value pairs).Pairwise fun left right => left.1 < right.1 := by
  induction pairs with
  | nil => simp [insertIn]
  | cons head rest inductionHypothesis =>
    obtain ⟨headLess, restIncreasing⟩ := List.pairwise_cons.1 increasing
    unfold insertIn
    split
    · rename_i less
      refine List.pairwise_cons.2 ⟨fun pair member => ?_, increasing⟩
      rcases List.mem_cons.1 member with rfl | member
      · exact less
      · exact String.lt_trans less (headLess pair member)
    · split
      · rename_i _ same
        refine List.pairwise_cons.2 ⟨fun pair member => ?_, restIncreasing⟩
        exact same ▸ headLess pair member
      · rename_i notLess different
        refine List.pairwise_cons.2 ⟨fun pair member => ?_, inductionHypothesis restIncreasing⟩
        rcases mem_insertIn member with rfl | member
        · rcases Std.lt_trichotomy head.1 name with less | same | greater
          · exact less
          · exact absurd same different
          · exact absurd greater notLess
        · exact headLess pair member

def insert (table : NameMap α) (name : String) (value : α) : NameMap α :=
  ⟨insertIn name value table.entries, pairwise_insertIn name value table.increasing⟩

/-- Insert pairs one after the other, so that the last value of a name stays. -/
def ofList (pairs : List (String × α)) : NameMap α :=
  pairs.foldl (fun table pair => table.insert pair.1 pair.2) empty

def names (table : NameMap α) : List String :=
  table.entries.map Prod.fst

def size (table : NameMap α) : Nat :=
  table.entries.length

/-! ## Views -/

@[simp]
theorem find?_empty (name : String) : (empty : NameMap α).find? name = none := rfl

theorem findIn_insertIn_self (name : String) (value : α) (pairs : List (String × α)) :
    findIn name (insertIn name value pairs) = some value := by
  induction pairs with
  | nil => simp [insertIn, findIn]
  | cons head rest inductionHypothesis =>
    unfold insertIn
    split
    · simp [findIn]
    · split
      · simp [findIn]
      · rename_i _ different
        simp [findIn, different, inductionHypothesis]

theorem findIn_insertIn_of_ne {name other : String} (different : other ≠ name) (value : α)
    (pairs : List (String × α)) :
    findIn name (insertIn other value pairs) = findIn name pairs := by
  induction pairs with
  | nil => simp [insertIn, findIn, different]
  | cons head rest inductionHypothesis =>
    unfold insertIn
    split
    · simp [findIn, different]
    · split
      · rename_i _ same
        simp [findIn, different, same]
      · simp [findIn, inductionHypothesis]

@[simp]
theorem find?_insert_self (table : NameMap α) (name : String) (value : α) :
    (table.insert name value).find? name = some value :=
  findIn_insertIn_self name value table.entries

theorem find?_insert_of_ne (table : NameMap α) {name other : String} (different : other ≠ name)
    (value : α) : (table.insert other value).find? name = table.find? name :=
  findIn_insertIn_of_ne different value table.entries

end NameMap

end RestConnector
