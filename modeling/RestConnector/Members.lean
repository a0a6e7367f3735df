/-!
Contract: keyed values in the order in which their keys first came.

Owns:
- `find?`, `assign` and `collapse` on lists of pairs.

Does not own: sorted collections, see `RestConnector.NameMap`.

Assigning to a name that is there keeps its place and replaces its value, so a collapsed list has
each name once, at its first place, with its last value.
-/

namespace RestConnector.Members

universe u v

variable {κ : Type v} [DecidableEq κ] {α : Type u}

/-- The value of the first pair with a name. -/
def find? (name : κ) : List (κ × α) → Option α
  | [] => none
  | (other, value) :: rest => if other = name then some value else find? name rest

/-- Give a name a value: in its place if it has one, else at the end. -/
def assign (name : κ) (value : α) : List (κ × α) → List (κ × α)
  | [] => [(name, value)]
  | (other, old) :: rest =>
    if other = name then (name, value) :: rest else (other, old) :: assign name value rest

/-- Assign pairs one after the other. -/
def collapseOnto (start pairs : List (κ × α)) : List (κ × α) :=
  pairs.foldl (fun collected pair => assign pair.1 pair.2 collected) start

/-- Each name once, at its first place, with its last value. -/
def collapse (pairs : List (κ × α)) : List (κ × α) :=
  collapseOnto [] pairs

/-! ## Views -/

theorem mem_of_find? {name : κ} {value : α} {pairs : List (κ × α)}
    (found : find? name pairs = some value) : (name, value) ∈ pairs := by
  induction pairs with
  | nil => simp [find?] at found
  | cons pair rest inductionHypothesis =>
    unfold find? at found
    split at found
    · rename_i same
      obtain ⟨other, held⟩ := pair
      simp only at same found
      simp [same, Option.some.inj found]
    · exact List.mem_cons_of_mem _ (inductionHypothesis found)

theorem find?_assign_self (name : κ) (value : α) (pairs : List (κ × α)) :
    find? name (assign name value pairs) = some value := by
  induction pairs with
  | nil => simp [assign, find?]
  | cons pair rest inductionHypothesis =>
    by_cases same : pair.1 = name <;> simp [assign, find?, same, inductionHypothesis]

theorem find?_assign_of_ne {name other : κ} (different : other ≠ name) (value : α)
    (pairs : List (κ × α)) :
    find? name (assign other value pairs) = find? name pairs := by
  induction pairs with
  | nil => simp [assign, find?, different]
  | cons pair rest inductionHypothesis =>
    by_cases same : pair.1 = other
    · simp [assign, find?, same, different]
    · simp [assign, find?, same, inductionHypothesis]

/-- Assigning to a name keeps the names, or adds a new one at the end. -/
theorem names_assign (name : κ) (value : α) (pairs : List (κ × α)) :
    (assign name value pairs).map Prod.fst =
      if name ∈ pairs.map Prod.fst then pairs.map Prod.fst
      else pairs.map Prod.fst ++ [name] := by
  induction pairs with
  | nil => simp [assign]
  | cons pair rest inductionHypothesis =>
    by_cases same : pair.1 = name
    · simp [assign, same]
    · have different : name ≠ pair.1 := fun equal => same equal.symm
      by_cases member : name ∈ rest.map Prod.fst
      · rw [if_pos member] at inductionHypothesis
        rw [if_pos (by simp only [List.map_cons, List.mem_cons]; exact Or.inr member)]
        simp only [assign, if_neg same, List.map_cons, inductionHypothesis]
      · rw [if_neg member] at inductionHypothesis
        rw [if_neg (by simp only [List.map_cons, List.mem_cons]; exact not_or.2 ⟨different, member⟩)]
        simp only [assign, if_neg same, List.map_cons, inductionHypothesis, List.cons_append]

end RestConnector.Members
