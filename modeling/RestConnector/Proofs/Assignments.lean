import RestConnector.Proofs.DistinctNames

/-!
Contract: what a sequence of assignments to names leaves.

Owns:
- for lists that remember their order, the names, what is found under each of them, and what stands
  where nothing was assigned;
- for maps in the order of their names, what is found.

Does not own: what is assigned to, see `RestConnector.Proofs.Merging` and
`RestConnector.Proofs.Arguments`.

The start of a sequence need not have distinct names.  Only the first pair with a name is ever
assigned to, so any later one stays what it was.
-/

namespace RestConnector

universe u

namespace Members

variable {κ : Type} [DecidableEq κ] {α : Type u} {β : Type u}

/-! ## What is found -/

theorem find?_append (name : κ) (front back : List (κ × α)) :
    find? name (front ++ back) = (find? name front).or (find? name back) := by
  induction front with
  | nil => rfl
  | cons pair rest inductionHypothesis =>
    rw [List.cons_append, find?, find?, inductionHypothesis]
    split <;> rfl

/-- Looking up a key among values under their keys is looking for a value with that key. -/
theorem find?_map (name : κ) (key : β → κ) (value : β → α) (members : List β) :
    find? name (members.map fun member => (key member, value member)) =
      (members.find? fun member => key member == name).map value := by
  induction members with
  | nil => rfl
  | cons member rest inductionHypothesis =>
    rw [List.map_cons, find?, inductionHypothesis]
    by_cases same : key member = name
    · simp [same]
    · simp [same]

/-- What is found among other values under the same keys. -/
theorem find?_mapValues (name : κ) (view : κ → α → β) (pairs : List (κ × α)) :
    find? name (pairs.map fun pair => (pair.1, view pair.1 pair.2)) =
      (find? name pairs).map (view name) := by
  induction pairs with
  | nil => rfl
  | cons pair rest inductionHypothesis =>
    rw [List.map_cons, find?, find?, inductionHypothesis]
    by_cases same : pair.1 = name
    · simp [same]
    · simp [same]

theorem find?_assign (name other : κ) (value : α) (pairs : List (κ × α)) :
    find? name (assign other value pairs) =
      if other = name then some value else find? name pairs := by
  by_cases same : other = name
  · rw [if_pos same, same, find?_assign_self]
  · rw [if_neg same, find?_assign_of_ne same]

/-- The last value that is assigned to a name is found, and else what was there. -/
theorem find?_collapseOnto (name : κ) (start pairs : List (κ × α)) :
    find? name (collapseOnto start pairs) = (find? name pairs.reverse).or (find? name start) := by
  induction pairs generalizing start with
  | nil => rfl
  | cons pair rest inductionHypothesis =>
    have onto : collapseOnto start (pair :: rest) =
      collapseOnto (assign pair.1 pair.2 start) rest := rfl
    have single : find? name [pair] = if pair.1 = name then some pair.2 else none := rfl
    rw [onto, inductionHypothesis, List.reverse_cons, find?_append, Option.or_assoc, single,
      find?_assign]
    split <;> rfl

theorem find?_collapse (name : κ) (pairs : List (κ × α)) :
    find? name (collapse pairs) = find? name pairs.reverse := by
  rw [collapse, find?_collapseOnto]
  exact Option.or_none

theorem find?_of_mem {pairs : List (κ × α)} (distinct : (pairs.map Prod.fst).Nodup)
    {pair : κ × α} (inside : pair ∈ pairs) : find? pair.1 pairs = some pair.2 := by
  induction pairs with
  | nil => cases inside
  | cons head rest inductionHypothesis =>
    rw [List.map_cons, List.nodup_cons] at distinct
    rcases List.mem_cons.1 inside with rfl | later
    · exact if_pos rfl
    · have differ : head.1 ≠ pair.1 := fun same =>
        distinct.1 (same ▸ List.mem_map_of_mem later)
      rw [find?, if_neg differ, inductionHypothesis distinct.2 later]

/-! ## Names -/

/-- Names that are new come behind all others, each in the place of its first assignment. -/
theorem names_collapseOnto (start pairs : List (κ × α)) :
    (collapseOnto start pairs).map Prod.fst =
      start.map Prod.fst ++
        ((pairs.map Prod.fst).filter fun name => name ∉ start.map Prod.fst).eraseDups := by
  induction pairs generalizing start with
  | nil => exact (List.append_nil _).symm
  | cons pair rest inductionHypothesis =>
    have onto : collapseOnto start (pair :: rest) =
      collapseOnto (assign pair.1 pair.2 start) rest := rfl
    rw [onto, inductionHypothesis, names_assign, List.map_cons]
    by_cases known : pair.1 ∈ start.map Prod.fst
    · rw [if_pos known, List.filter_cons_of_neg (by simpa using known)]
    · rw [if_neg known, List.filter_cons_of_pos (by simpa using known), List.eraseDups_cons,
        List.filter_filter, List.append_assoc, List.singleton_append]
      congr 3
      refine List.filter_congr ?_
      intro name _
      rw [Bool.eq_iff_iff]
      simp [or_comm, and_comm]

theorem names_collapse (pairs : List (κ × α)) :
    (collapse pairs).map Prod.fst = (pairs.map Prod.fst).eraseDups := by
  rw [collapse, names_collapseOnto]
  simp

/-! ## Places -/

/-- An assignment changes the first place of its name, or the one behind the last. -/
theorem getElem?_assign (name : κ) (value : α) (pairs : List (κ × α)) (index : Nat) :
    (assign name value pairs)[index]? =
      if index = (pairs.map Prod.fst).idxOf name then some (name, value) else pairs[index]? := by
  induction pairs generalizing index with
  | nil => cases index <;> simp [assign]
  | cons pair rest inductionHypothesis =>
    by_cases same : pair.1 = name
    · cases index <;> simp [assign, same]
    · cases index with
      | zero => simp [assign, same]
      | succ index => simp [assign, same, inductionHypothesis]

/-- What is found under a name stands in the first place of that name. -/
theorem getElem?_idxOf (name : κ) (pairs : List (κ × α)) :
    pairs[(pairs.map Prod.fst).idxOf name]? =
      (find? name pairs).map fun value => (name, value) := by
  induction pairs with
  | nil => rfl
  | cons pair rest inductionHypothesis =>
    rw [List.map_cons, List.idxOf_cons, find?]
    by_cases same : pair.1 = name
    · subst same
      simp
    · rw [if_neg same, beq_false_of_ne same, cond_false, List.getElem?_cons_succ]
      exact inductionHypothesis

/-- Places that are not the first of an assigned name keep what they had at the start. -/
theorem getElem?_collapseOnto {start pairs : List (κ × α)} {index : Nat}
    (elsewhere : ∀ name ∈ pairs.map Prod.fst,
      index ≠ ((collapseOnto start pairs).map Prod.fst).idxOf name) :
    (collapseOnto start pairs)[index]? = start[index]? := by
  induction pairs generalizing start with
  | nil => rfl
  | cons pair rest inductionHypothesis =>
    have onto : collapseOnto start (pair :: rest) =
      collapseOnto (assign pair.1 pair.2 start) rest := rfl
    rw [onto] at elsewhere ⊢
    -- the name has its first place from this assignment on, whatever follows
    have first : ((collapseOnto (assign pair.1 pair.2 start) rest).map Prod.fst).idxOf pair.1 =
        (start.map Prod.fst).idxOf pair.1 := by
      have known : pair.1 ∈ (assign pair.1 pair.2 start).map Prod.fst := by
        rw [names_assign]
        split
        · assumption
        · simp
      rw [names_collapseOnto, List.idxOf_append_of_mem known, names_assign]
      split
      · rfl
      · rename_i new
        rw [List.idxOf_append, if_neg new, List.idxOf_cons_self, List.idxOf_eq_length new,
          Nat.zero_add]
    have notFirst : index ≠ (start.map Prod.fst).idxOf pair.1 :=
      first ▸ elsewhere pair.1 List.mem_cons_self
    rw [inductionHypothesis fun name later => elsewhere name (List.mem_cons_of_mem _ later),
      getElem?_assign, if_neg notFirst]

end Members

namespace NameMap

variable {α : Type u}

/-- The last pair with a name is found. -/
theorem find?_ofList (pairs : List (String × α)) (name : String) :
    (ofList pairs).find? name = Members.find? name pairs.reverse := by
  have onward : ∀ start : NameMap α,
      (pairs.foldl (fun table pair => table.insert pair.1 pair.2) start).find? name =
        (Members.find? name pairs.reverse).or (start.find? name) := by
    induction pairs with
    | nil => exact fun start => rfl
    | cons pair rest inductionHypothesis =>
      intro start
      have single : Members.find? name [pair] = if pair.1 = name then some pair.2 else none := rfl
      rw [List.foldl_cons, inductionHypothesis, List.reverse_cons, Members.find?_append,
        Option.or_assoc, single]
      by_cases same : pair.1 = name
      · rw [if_pos same, same, find?_insert_self, Option.some_or]
      · rw [if_neg same, find?_insert_of_ne start same, Option.none_or]
  rw [ofList, onward, find?_empty, Option.or_none]

end NameMap

end RestConnector
