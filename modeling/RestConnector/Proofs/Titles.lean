import RestConnector.Proofs.Recasing
import RestConnector.Proofs.Records

/-!
Contract: objects that are named after their titles.

Owns:
- `named_after_title`: the name of such an object, and when a definition called like the title gets
  the same one;
- `not_named_after_title`: that they do not always.

Does not own: names after a path, see `RestConnector.Proofs.Presence`.

A title is cased when it takes the place of a path, and the path is cased once more when the object
gets its name.  So the name is the title cased twice, while a definition has its own name cased
once.
-/

namespace RestConnector.Typing

open Swagger (Document Schema)

section Titled

variable {scope : Scope} {apiPath : String} {path : List String} {schema : Schema} {title : String}

theorem soleTitle?_of_word (titled : schema.title = some title)
    (oneWord : ∀ c ∈ title.toList, Text.isBlank c = false)
    (telling : ∃ c ∈ title.toList, Text.isAlphanumeric c = true) :
    soleTitle? schema = some title := by
  have notEmpty : title.isEmpty = false := by
    rw [← Bool.not_eq_true, String.isEmpty_iff]
    rintro rfl
    obtain ⟨c, impossible, -⟩ := telling
    cases impossible
  have noBlank : title.toList.any Text.isBlank = false := List.any_eq_false.2 fun c inside => by
    rw [oneWord c inside]
    exact Bool.false_ne_true
  unfold soleTitle?
  simp only [titled, notEmpty, noBlank]
  rfl

/-- In use, a schema in place that has a title is typed under the title alone. -/
theorem ofUse_of_title (inPlace : schema.reference = none)
    (isTitled : soleTitle? schema = some title) (nullable : Bool) :
    ofUse scope apiPath path schema nullable =
      (ofNode scope apiPath [Identifier.pascal title] schema).andThen fun typed =>
        .ok (typed.nullableIf nullable) := by
  rw [ofUse_eq]
  unfold Site.outcome Site.ofUse namingPath
  rw [inPlace, isTitled]
  rfl

/-- A record is typed by its name, and what it leaves there has its description and its
properties. -/
theorem ofNode_record (isRecord : schema.IsRecord) {name : String}
    (isNamed : Identifier.joined path = name) (notEmpty : name ≠ "") {typed : Typed}
    (succeeded : (ofNode scope apiPath path schema).value = .ok typed) (state : State) :
    typed.term = (if schema.isNullable then .nullable (.named name) else .named name) ∧
      ∃ object, (state.replay (ofNode scope apiPath path schema).log).catalog.object? name =
          some object ∧
        object.description = schema.description ∧
        object.fields.map Prod.fst = schema.properties.map Prod.fst := by
  let site : Site := ⟨scope, apiPath, path, schema⟩
  have isKind : site.kind = .record name := Site.kind_eq_record_iff.2 ⟨isRecord, isNamed, notEmpty⟩
  obtain ⟨fields, walked, result, found⟩ := Site.find?_record isKind succeeded state
  refine ⟨?_, site.object fields, found, rfl, Site.names_object walked⟩
  rw [result]
  show (Typed.nullableIf schema.isNullable _).term = _
  cases schema.isNullable <;> rfl

end Titled

/-- What has a one-word title with a letter or a digit is named after the title, cased twice.  It is
nullable if it is used so or marked so, and what it leaves under its name has its description and
its properties.  A definition called like the title leaves its object under the title cased once.
For a title in ASCII that is the same name exactly if it is steady. -/
theorem named_after_title (document : Document) (preferences : Preferences) (apiPath : String)
    (path : List String) (nullable : Bool) (state : State) {schema : Schema} {title : String}
    (isRecord : schema.IsRecord) (titled : schema.title = some title)
    (oneWord : ∀ c ∈ title.toList, Text.isBlank c = false)
    (telling : ∃ c ∈ title.toList, Text.isAlphanumeric c = true) :
    let scope : Scope := ⟨document, preferences, state.expanding⟩
    let used := ofUse scope apiPath path schema nullable
    let name := Identifier.pascal (Identifier.pascal title)
    (∀ typed, used.value = .ok typed →
      typed.term = (if nullable || schema.isNullable then .nullable (.named name)
        else .named name) ∧
      ∃ object, (state.replay used.log).catalog.object? name = some object ∧
        object.description = schema.description ∧
        object.fields.map Prod.fst = schema.properties.map Prod.fst) ∧
    (∀ declared : Schema, declared.IsRecord →
      let definition := ofDefinition scope title declared
      definition.value = .ok () →
      ∃ object, (state.replay definition.log).catalog.object? (Identifier.pascal title) =
          some object ∧
        object.description = declared.description ∧
        object.fields.map Prod.fst = declared.properties.map Prod.fst) ∧
    ((∀ c ∈ title.toList, c.toNat < 0x80) →
      (name = Identifier.pascal title ↔ Identifier.IsSteady (Identifier.pascal title))) := by
  intro scope used name
  have once : ∃ c ∈ (Identifier.pascal title).toList, Text.isAlphanumeric c = true :=
    Identifier.exists_isAlphanumeric_pascal telling
  refine ⟨?_, ?_, fun isAscii => Identifier.pascal_pascal_iff isAscii⟩
  · intro typed succeeded
    have use : used = _ := ofUse_of_title isRecord.inPlace
      (soleTitle?_of_word titled oneWord telling) nullable
    rw [use] at succeeded ⊢
    obtain ⟨inner, typedNode, rfl⟩ := Outcome.map_ok_iff.1 succeeded
    obtain ⟨term, left⟩ := ofNode_record isRecord (Identifier.joined_singleton _)
      (Identifier.pascal_ne_empty once) typedNode state
    rw [Outcome.log_andThen_ok]
    refine ⟨?_, left⟩
    cases nullable with
    | false => exact term
    | true =>
      show inner.term.asNullable = .nullable (.named name)
      rw [term]
      cases schema.isNullable <;> rfl
  · intro declared isRecordToo definition succeeded
    have registers : definition =
        (ofNode scope "" [title] declared).andThen fun _ => .ok () := if_pos isRecordToo.isObject
    rw [registers] at succeeded ⊢
    obtain ⟨typed, typedNode, -⟩ := Outcome.map_ok_iff.1 succeeded
    rw [Outcome.log_andThen_ok]
    exact (ofNode_record isRecordToo (Identifier.joined_singleton title)
      (Identifier.pascal_ne_empty telling) typedNode state).2

def titledSchema (title : String) : Schema :=
  { Schema.ofType "object" with title := some title, properties := [("id", .ofType "integer")] }

theorem titledSchema_isRecord (title : String) : (titledSchema title).IsRecord :=
  ⟨rfl, rfl, List.cons_ne_nil _ _⟩

private theorem ofNode_petCategory :
    (ofNode (.top .empty .empty) "" ["PetCategory"]
      (titledSchema "petCategory")).value.toOption.map (fun typed => typed.term) =
        some (.named "PetCategory") := by
  cbv

/-- In the name, too, the second word of this title follows a small letter. -/
theorem named_after_title_petCategory :
    (titledSchema "petCategory").IsRecord ∧
      (∀ c ∈ "petCategory".toList, Text.isBlank c = false) ∧
      (∃ c ∈ "petCategory".toList, Text.isAlphanumeric c = true) ∧
      Identifier.IsSteady "PetCategory" ∧
      ∃ typed object,
        (ofUse (.top .empty .empty) "" ["Pet", "tag"] (titledSchema "petCategory") true).value =
          .ok typed ∧
        typed.term = .nullable (.named "PetCategory") ∧
        (State.empty.replay (ofUse (.top .empty .empty) "" ["Pet", "tag"]
          (titledSchema "petCategory") true).log).catalog.object? "PetCategory" = some object ∧
        object.fields.map Prod.fst = ["id"] := by
  have isRecord := titledSchema_isRecord "petCategory"
  have oneWord : ∀ c ∈ "petCategory".toList, Text.isBlank c = false := by simp [Text.isBlank]
  have telling : ∃ c ∈ "petCategory".toList, Text.isAlphanumeric c = true :=
    ⟨'p', by simp, by decide⟩
  have once : Identifier.pascal "petCategory" = "PetCategory" := by decide +kernel
  have twice : Identifier.pascal "PetCategory" = "PetCategory" := by decide +kernel
  obtain ⟨inner, typedNode, -⟩ := exists_of_observed ofNode_petCategory
  have succeeded : (ofUse (.top .empty .empty) "" ["Pet", "tag"] (titledSchema "petCategory")
      true).value = .ok (inner.nullableIf true) := by
    rw [ofUse_of_title rfl (soleTitle?_of_word rfl oneWord telling), once]
    exact Outcome.map_ok_iff.2 ⟨inner, typedNode, rfl⟩
  obtain ⟨uses, -, steady⟩ := named_after_title .empty .empty "" ["Pet", "tag"] true .empty
    isRecord rfl oneWord telling
  obtain ⟨term, object, found, -, names⟩ := uses _ succeeded
  rw [once, twice] at term found steady
  exact ⟨isRecord, oneWord, telling, (steady (by simp)).1 rfl, _, object, succeeded, term,
    found, names⟩

private theorem ofUse_initials :
    (ofUse (.top .empty .empty) "" ["Pet", "tag"] (titledSchema "aB") false).value.toOption.map
      (fun typed => typed.term) = some (.named "Ab") := by
  cbv

/-- A title of two initials is cased to `AB`, which is one word, so the object is named `Ab`. -/
theorem not_named_after_title :
    ¬ ∀ (document : Document) (preferences : Preferences) (apiPath : String) (path : List String)
        (nullable : Bool) (state : State) (schema : Schema) (title : String),
      schema.IsRecord → schema.title = some title → title ≠ "" →
      (∀ c ∈ title.toList, Text.isBlank c = false) →
      (∃ c ∈ title.toList, Text.isAlphanumeric c = true) →
      ∀ typed,
        (ofUse ⟨document, preferences, state.expanding⟩ apiPath path schema nullable).value =
          .ok typed →
        typed.term.asPresent = .named (Identifier.pascal title) ∧
          ((state.replay (ofUse ⟨document, preferences, state.expanding⟩ apiPath path schema
            nullable).log).catalog.object? (Identifier.pascal title)).isSome = true := by
  intro claim
  obtain ⟨typed, succeeded, term⟩ := exists_of_observed ofUse_initials
  have named := (claim .empty .empty "" ["Pet", "tag"] false .empty (titledSchema "aB") "aB"
    (titledSchema_isRecord "aB") rfl (by decide) (by simp [Text.isBlank])
    ⟨'a', by simp, by decide⟩ typed succeeded).1
  have once : Identifier.pascal "aB" = "AB" := by decide +kernel
  rw [term, once] at named
  exact absurd named (by decide)

end RestConnector.Typing
