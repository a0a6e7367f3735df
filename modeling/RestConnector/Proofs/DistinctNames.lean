import Mathlib.Data.List.Nodup
import RestConnector.Proofs.Registration
import RestConnector.Swagger.Reader

/-!
Contract: collections in which each name stands once.

Owns:
- `Document.Keyed`: the definitions and the security definitions of a document have distinct names;
- `Document.keyed_of_ofSymbols`: so they have in every document that is read from a text;
- what the order of pairs with distinct names decides: nothing that is looked up, and no map.

Does not own: what follows for a conversion, see `RestConnector.Proofs.Reordering`.
-/

namespace RestConnector

universe u

/-! ## Pairs in order -/

namespace Members

variable {κ : Type} [DecidableEq κ] {α : Type u}

theorem nodup_assign {name : κ} {value : α} {pairs : List (κ × α)}
    (distinct : (pairs.map Prod.fst).Nodup) :
    ((assign name value pairs).map Prod.fst).Nodup := by
  rw [names_assign]
  split
  · exact distinct
  · rename_i absent
    refine List.nodup_append.2 ⟨distinct, List.pairwise_singleton _ name, ?_⟩
    intro one inside other single same
    rw [List.mem_singleton.1 single] at same
    exact absent (same ▸ inside)

theorem nodup_collapse (pairs : List (κ × α)) : ((collapse pairs).map Prod.fst).Nodup := by
  have onward : ∀ start : List (κ × α), (start.map Prod.fst).Nodup →
      ((collapseOnto start pairs).map Prod.fst).Nodup := by
    induction pairs with
    | nil => exact fun start distinct => distinct
    | cons pair rest inductionHypothesis =>
      exact fun start distinct => inductionHypothesis _ (nodup_assign distinct)
  exact onward [] List.nodup_nil

/-- Where names are distinct, their order does not matter for what is found. -/
theorem find?_perm {pairs others : List (κ × α)} (reordered : pairs.Perm others)
    (distinct : (pairs.map Prod.fst).Nodup) (name : κ) : find? name pairs = find? name others := by
  induction reordered with
  | nil => rfl
  | cons pair _ inductionHypothesis =>
    rw [List.map_cons, List.nodup_cons] at distinct
    simp only [find?, inductionHypothesis distinct.2]
  | swap first second rest =>
    have differ : second.1 ≠ first.1 := by
      rw [List.map_cons, List.nodup_cons] at distinct
      intro same
      exact distinct.1 (same ▸ List.mem_cons_self)
    by_cases isFirst : first.1 = name
    · have notSecond : second.1 ≠ name := fun same => differ (same.trans isFirst.symm)
      simp only [find?, isFirst, notSecond, if_true, if_false]
    · simp only [find?, isFirst, if_false]
  | trans leading _ first second =>
    have between := (leading.map Prod.fst).nodup_iff.1 distinct
    rw [first distinct, second between]

end Members

/-! ## Maps -/

namespace NameMap

variable {α : Type u}

theorem findIn_eq_some {name : String} {value : α} {pairs : List (String × α)}
    (increasing : pairs.Pairwise fun left right => left.1 < right.1) :
    findIn name pairs = some value ↔ (name, value) ∈ pairs := by
  induction pairs with
  | nil => simp [findIn]
  | cons pair rest inductionHypothesis =>
    obtain ⟨other, held⟩ := pair
    obtain ⟨less, restIncreasing⟩ := List.pairwise_cons.1 increasing
    rw [findIn, List.mem_cons]
    by_cases same : other = name
    · subst same
      rw [if_pos rfl]
      constructor
      · intro found
        cases found
        exact Or.inl rfl
      · rintro (here | later)
        · cases here
          rfl
        · exact absurd (less _ later) (String.lt_irrefl other)
    · rw [if_neg same, inductionHypothesis restIncreasing]
      constructor
      · exact Or.inr
      · rintro (here | later)
        · cases here
          exact absurd rfl same
        · exact later

theorem nodup_entries (table : NameMap α) : table.entries.Nodup := by
  refine table.increasing.imp ?_
  intro left right less same
  exact absurd (same ▸ less) (String.lt_irrefl left.1)

theorem ext_find? {one other : NameMap α} (same : ∀ name, one.find? name = other.find? name) :
    one = other := by
  have members : ∀ pair, pair ∈ one.entries ↔ pair ∈ other.entries := by
    intro pair
    have answers : findIn pair.1 one.entries = findIn pair.1 other.entries := same pair.1
    have here : findIn pair.1 one.entries = some pair.2 ↔ pair ∈ one.entries :=
      findIn_eq_some one.increasing
    have there : findIn pair.1 other.entries = some pair.2 ↔ pair ∈ other.entries :=
      findIn_eq_some other.increasing
    rw [← here, ← there, answers]
  have reordered : one.entries.Perm other.entries :=
    (List.perm_ext_iff_of_nodup one.nodup_entries other.nodup_entries).2 members
  have entries : one.entries = other.entries := by
    refine reordered.eq_of_pairwise ?_ one.increasing other.increasing
    intro left right _ _ less greater
    exact absurd (String.lt_trans less greater) (String.lt_irrefl left.1)
  cases one
  cases other
  cases entries
  rfl

theorem insert_comm {first second : String} (differ : first ≠ second) (table : NameMap α)
    (left right : α) :
    (table.insert first left).insert second right =
      (table.insert second right).insert first left := by
  refine ext_find? ?_
  intro name
  by_cases isSecond : second = name
  · subst isSecond
    rw [find?_insert_self, find?_insert_of_ne _ differ, find?_insert_self]
  · rw [find?_insert_of_ne _ isSecond]
    by_cases isFirst : first = name
    · subst isFirst
      rw [find?_insert_self, find?_insert_self]
    · rw [find?_insert_of_ne _ isFirst, find?_insert_of_ne _ isFirst, find?_insert_of_ne _ isSecond]

/-- Where names are distinct, their order does not matter for the map of the pairs. -/
theorem ofList_perm {pairs others : List (String × α)} (reordered : pairs.Perm others)
    (distinct : (pairs.map Prod.fst).Nodup) : ofList pairs = ofList others := by
  refine reordered.foldl_eq' ?_ empty
  intro first isFirst second isSecond table
  by_cases same : first.1 = second.1
  · rw [List.inj_on_of_nodup_map distinct isFirst isSecond same]
  · exact insert_comm same table first.2 second.2

end NameMap

/-! ## Documents -/

namespace Swagger

/-- The definitions and the security definitions of a document have distinct names. -/
structure Document.Keyed (document : Document) : Prop where
  definitions : (document.definitions.map Prod.fst).Nodup
  securityDefinitions : (document.securityDefinitions.map Prod.fst).Nodup

end Swagger

/-! ## Readings -/

namespace Source

open Swagger (Document)

/-- Whatever a reading comes to has a property. -/
def Reading.Ensures {α : Type} (reading : Reading α) (holds : α → Prop) : Prop :=
  ∀ left value rest, reading.run left = some (value, rest) → holds value

namespace Reading.Ensures

variable {α β : Type} {holds : β → Prop}

theorem pure {value : β} (held : holds value) : Ensures (Pure.pure value) holds := by
  intro left other rest came
  cases came
  exact held

theorem bind {holdsFirst : α → Prop} {first : Reading α} {next : α → Reading β}
    (start : Ensures first holdsFirst)
    (rest : ∀ value, holdsFirst value → Ensures (next value) holds) :
    Ensures (first >>= next) holds := by
  intro left value after came
  rw [StateT.run_bind] at came
  cases result : first.run left with
  | none =>
    rw [result] at came
    cases came
  | some reached =>
    rw [result] at came
    exact rest reached.1 (start left reached.1 reached.2 result) reached.2 value after came

theorem onward {first : Reading α} {next : α → Reading β}
    (rest : ∀ value, Ensures (next value) holds) : Ensures (first >>= next) holds := by
  have nothing : Ensures first fun _ => True := fun _ _ _ _ => trivial
  exact nothing.bind fun value _ => rest value

end Reading.Ensures

theorem Node.orderedOf_ensures {α : Type} (reader : Node → Reading α) (node : Node) :
    (node.orderedOf reader).Ensures fun pairs => (pairs.map Prod.fst).Nodup :=
  .onward fun pairs => .pure (Members.nodup_collapse pairs)

/-- A map that may be missing has distinct names in either case. -/
theorem Fields.ordered_ensures {α : Type} (fields : Fields) (name : String)
    (reader : Node → Reading α) :
    (fields.defaulted name [] fun node => node.orderedOf reader).Ensures fun pairs =>
      (pairs.map Prod.fst).Nodup := by
  unfold Fields.defaulted
  split
  · exact Node.orderedOf_ensures reader _
  · exact .pure List.nodup_nil

theorem read_ensures {α : Type} {source : Source} {reader : Node → Reading α} {holds : α → Prop}
    (ensures : ∀ node, (reader node).Ensures holds) {value : α}
    (reads : source.read reader = some value) : holds value := by
  obtain ⟨⟨other, left⟩, came, rfl⟩ := Option.map_eq_some_iff.1 reads
  exact ensures source.node source.allowance other left came

end Source

namespace Swagger.Document

open Source (Fields Node Reading)

theorem ofNode_ensures (node : Node) : (ofNode node).Ensures Keyed := by
  unfold ofNode
  -- swagger, info, host, basePath, schemes, consumes, produces and paths
  refine .onward fun fields => ?_
  refine .onward fun _ => .onward fun _ => .onward fun _ => .onward fun _ => ?_
  refine .onward fun _ => .onward fun _ => .onward fun _ => .onward fun _ => ?_
  refine .bind (fields.ordered_ensures _ _) ?_
  intro definitions definitionsDistinct
  -- parameters and responses
  refine .onward fun _ => .onward fun _ => ?_
  refine .bind (fields.ordered_ensures _ _) ?_
  intro securityDefinitions securityDistinct
  refine .onward fun _ => .pure ?_
  exact ⟨definitionsDistinct, securityDistinct⟩

theorem keyed_of_ofYamlTextOr {format : TextFormat} {input : List Text.Symbol}
    {document : Document} (reads : ofYamlTextOr format input = .ok document) : document.Keyed := by
  unfold ofYamlTextOr at reads
  split at reads
  · rename_i other found
    cases reads
    obtain ⟨characters, -, found⟩ := Option.bind_eq_some_iff.1 found
    obtain ⟨source, -, found⟩ := Option.bind_eq_some_iff.1 found
    exact Source.read_ensures ofNode_ensures found
  · cases reads

/-- In a document that is read from a text, the later one of two entries with the same name has
replaced the earlier one. -/
theorem keyed_of_ofSymbols {input : List Text.Symbol} {document : Document}
    (reads : ofSymbols input = .ok document) : document.Keyed := by
  unfold ofSymbols at reads
  split at reads
  · split at reads
    · rename_i other found
      cases reads
      obtain ⟨datum, -, found⟩ := Option.bind_eq_some_iff.1 found
      exact Source.read_ensures ofNode_ensures found
    · exact keyed_of_ofYamlTextOr reads
  · exact keyed_of_ofYamlTextOr reads

end Swagger.Document

end RestConnector
