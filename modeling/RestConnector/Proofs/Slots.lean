import Mathlib.Data.List.Nodup
import RestConnector.Connector.Encode
import RestConnector.Members

/-!
Contract: members that may be missing, and pairs of distinct names.

Owns:
- `Members.present`, the members that a writer makes of what there is;
- `Members.lookup_present`: each name has among them what stands in its slot;
- `Members.collapse_of_nodup` and `NameMap.ofList_entries`: collecting pairs that are in order
  changes nothing.

Does not own: what readers make of such members, see `RestConnector.Proofs.Readings`.
-/

namespace RestConnector

/-! ## Members that are there -/

namespace Members

variable {α : Type}

/-- The pairs whose value is there. -/
def present (slots : List (String × Option α)) : List (String × α) :=
  slots.filterMap fun slot => slot.2.map fun value => (slot.1, value)

@[simp]
theorem present_nil : present ([] : List (String × Option α)) = [] := rfl

@[simp]
theorem present_cons_some (name : String) (value : α) (rest : List (String × Option α)) :
    present ((name, some value) :: rest) = (name, value) :: present rest := rfl

@[simp]
theorem present_cons_map (name : String) (encode : α → Json) (value : Option α)
    (rest : List (String × Option Json)) :
    present ((name, value.map encode) :: rest) =
      Json.optional name encode value ++ present rest := by
  cases value <;> rfl

@[simp]
theorem present_cons_unless (name : String) (omitted : Bool) (value : α)
    (rest : List (String × Option α)) :
    present ((name, if omitted then none else some value) :: rest) =
      (if omitted then [] else [(name, value)]) ++ present rest := by
  cases omitted <;> rfl

theorem present_map {β : Type} (encode : α → β) (slots : List (String × Option α)) :
    present (slots.map fun slot => (slot.1, slot.2.map encode)) =
      (present slots).map fun pair => (pair.1, encode pair.2) := by
  induction slots with
  | nil => rfl
  | cons slot rest inductionHypothesis =>
    obtain ⟨name, value⟩ := slot
    cases value with
    | none => exact inductionHypothesis
    | some value => exact congrArg ((name, encode value) :: ·) inductionHypothesis

theorem mem_present {slots : List (String × Option α)} {name : String} {value : α} :
    (name, value) ∈ present slots ↔ (name, some value) ∈ slots := by
  simp [present]

theorem names_present (slots : List (String × Option α)) :
    ((present slots).map Prod.fst).Sublist (slots.map Prod.fst) := by
  induction slots with
  | nil => exact List.Sublist.slnil
  | cons slot rest inductionHypothesis =>
    obtain ⟨name, value⟩ := slot
    cases value with
    | none => exact inductionHypothesis.cons name
    | some value => exact inductionHypothesis.cons_cons name

/-- A name that stands once has the value of its pair. -/
theorem lookup_of_mem {name : String} {value : α} {pairs : List (String × α)}
    (distinct : (pairs.map Prod.fst).Nodup) (inside : (name, value) ∈ pairs) :
    pairs.lookup name = some value := by
  induction pairs with
  | nil => cases inside
  | cons pair rest inductionHypothesis =>
    obtain ⟨other, held⟩ := pair
    obtain ⟨fresh, restDistinct⟩ := List.nodup_cons.1 distinct
    rcases List.mem_cons.1 inside with same | later
    · cases same
      exact List.lookup_cons_self
    · have different : name ≠ other := by
        rintro rfl
        exact fresh (List.mem_map.2 ⟨(name, value), later, rfl⟩)
      rw [List.lookup_cons, beq_false_of_ne different]
      exact inductionHypothesis restDistinct later

theorem lookup_of_not_mem {name : String} {pairs : List (String × α)}
    (absent : name ∉ pairs.map Prod.fst) : pairs.lookup name = none := by
  refine List.lookup_eq_none_iff.2 ?_
  intro pair inside
  refine bne_iff_ne.2 ?_
  rintro rfl
  exact absent (List.mem_map_of_mem inside)

theorem lookup_reverse {pairs : List (String × α)} (distinct : (pairs.map Prod.fst).Nodup)
    (name : String) : pairs.reverse.lookup name = pairs.lookup name := by
  have reversed : pairs.reverse.map Prod.fst = (pairs.map Prod.fst).reverse := List.map_reverse
  by_cases inside : name ∈ pairs.map Prod.fst
  · obtain ⟨⟨_, value⟩, among, rfl⟩ := List.mem_map.1 inside
    have reverseDistinct : (pairs.reverse.map Prod.fst).Nodup := by
      rw [reversed]
      exact List.nodup_reverse.2 distinct
    rw [lookup_of_mem distinct among, lookup_of_mem reverseDistinct (List.mem_reverse.2 among)]
  · have absent : name ∉ pairs.reverse.map Prod.fst := by
      rw [reversed, List.mem_reverse]
      exact inside
    rw [lookup_of_not_mem inside, lookup_of_not_mem absent]

/-- Among the members that are there, a name has what stands in its slot. -/
theorem lookup_present {slots : List (String × Option α)} (distinct : (slots.map Prod.fst).Nodup)
    {name : String} {slot : Option α} (inside : (name, slot) ∈ slots) :
    (present slots).lookup name = slot := by
  cases slot with
  | some value =>
    exact lookup_of_mem (distinct.sublist (names_present slots)) (mem_present.2 inside)
  | none =>
    refine lookup_of_not_mem ?_
    intro isPresent
    obtain ⟨⟨_, value⟩, among, rfl⟩ := List.mem_map.1 isPresent
    have once := lookup_of_mem distinct inside
    rw [lookup_of_mem distinct (mem_present.1 among)] at once
    cases once

theorem assign_of_fresh {name : String} (value : α) {pairs : List (String × α)}
    (fresh : name ∉ pairs.map Prod.fst) : assign name value pairs = pairs ++ [(name, value)] := by
  induction pairs with
  | nil => rfl
  | cons pair rest inductionHypothesis =>
    simp only [List.map_cons, List.mem_cons, not_or] at fresh
    rw [assign, if_neg (Ne.symm fresh.1), inductionHypothesis fresh.2, List.cons_append]

/-- Pairs of distinct names are left as they are. -/
theorem collapse_of_nodup {pairs : List (String × α)} (distinct : (pairs.map Prod.fst).Nodup) :
    collapse pairs = pairs := by
  have onward : ∀ start : List (String × α), ((start ++ pairs).map Prod.fst).Nodup →
      collapseOnto start pairs = start ++ pairs := by
    clear distinct
    intro start distinct
    induction pairs generalizing start with
    | nil => exact (List.append_nil start).symm
    | cons pair rest inductionHypothesis =>
      have fresh : pair.1 ∉ start.map Prod.fst := by
        rw [List.map_append] at distinct
        intro inside
        exact (List.disjoint_of_nodup_append distinct) inside List.mem_cons_self
      have split : start ++ pair :: rest = start ++ [(pair.1, pair.2)] ++ rest :=
        List.append_cons start pair rest
      rw [split] at distinct ⊢
      rw [← inductionHypothesis _ distinct, ← assign_of_fresh pair.2 fresh]
      rfl
  exact onward [] distinct

end Members

namespace NameMap

variable {α : Type}

theorem insertIn_of_greater {name : String} (value : α) {pairs : List (String × α)}
    (greater : ∀ pair ∈ pairs, pair.1 < name) :
    insertIn name value pairs = pairs ++ [(name, value)] := by
  induction pairs with
  | nil => rfl
  | cons pair rest inductionHypothesis =>
    have less : pair.1 < name := greater pair List.mem_cons_self
    have notGreater : ¬ name < pair.1 := fun more =>
      String.lt_irrefl name (String.lt_trans more less)
    have different : pair.1 ≠ name := fun same => String.lt_irrefl name (same ▸ less)
    have restGreater : ∀ other ∈ rest, other.1 < name := fun other inside =>
      greater other (List.mem_cons_of_mem pair inside)
    rw [insertIn, if_neg notGreater, if_neg different, inductionHypothesis restGreater,
      List.cons_append]

theorem eq_empty_of_isEmpty {table : NameMap α} (isEmpty : table.entries.isEmpty = true) :
    table = ∅ := by
  obtain ⟨pairs, increasing⟩ := table
  cases List.isEmpty_iff.1 isEmpty
  rfl

/-- A map is made of its own entries. -/
theorem ofList_entries (table : NameMap α) : ofList table.entries = table := by
  have onward : ∀ (pairs : List (String × α)) (start : NameMap α),
      (start.entries ++ pairs).Pairwise (fun left right => left.1 < right.1) →
      (pairs.foldl (fun table pair => table.insert pair.1 pair.2) start).entries =
        start.entries ++ pairs := by
    intro pairs
    induction pairs with
    | nil => exact fun start _ => (List.append_nil start.entries).symm
    | cons pair rest inductionHypothesis =>
      intro start increasing
      have greater : ∀ earlier ∈ start.entries, earlier.1 < pair.1 := fun earlier inside =>
        (List.pairwise_append.1 increasing).2.2 earlier inside pair List.mem_cons_self
      have inserted : (start.insert pair.1 pair.2).entries = start.entries ++ [pair] :=
        insertIn_of_greater pair.2 greater
      have split : start.entries ++ pair :: rest =
          (start.insert pair.1 pair.2).entries ++ rest := by
        rw [inserted]
        exact List.append_cons start.entries pair rest
      rw [split] at increasing ⊢
      exact inductionHypothesis (start.insert pair.1 pair.2) increasing
  have entries : (ofList table.entries).entries = table.entries :=
    onward table.entries empty table.increasing
  obtain ⟨pairs, increasing⟩ := table
  generalize ofList pairs = other at entries
  cases other
  cases entries
  rfl

end NameMap

end RestConnector
