import RestConnector.Proofs.Escapes
import RestConnector.Swagger.Pointer

/-!
Contract: references that point to entries of a document.

Owns:
- `segment`, the name of an entry as it is written in a reference;
- `nameIn?_eq_some_iff`, the references that point to an entry of a part, and its name;
- `definition?_encoded`: a reference to a definition is read as its name, however it is escaped, and
  references of no other form are read at all.

Does not own: whether there is such an entry.
-/

namespace RestConnector.Swagger.Pointer

open Text.Percent (Encodes Escapes)

/-! ## Names and segments -/

/-- A name with each tilde written `~0` and each slash written `~1`. -/
def segment (name : List Char) : List Char :=
  name.flatMap fun c => if c = '~' then ['~', '0'] else if c = '/' then ['~', '1'] else [c]

/-- A segment whose slashes are read already: each tilde is still written `~0`. -/
def slashed (name : List Char) : List Char :=
  name.flatMap fun c => if c = '~' then ['~', '0'] else [c]

theorem slash_not_mem_segment (name : List Char) : '/' ∉ segment name := by
  intro inside
  obtain ⟨c, -, written⟩ := List.mem_flatMap.1 inside
  by_cases isTilde : c = '~'
  · simp [isTilde] at written
  · by_cases isSlash : c = '/'
    · simp [isSlash] at written
    · rw [if_neg isTilde, if_neg isSlash, List.mem_singleton] at written
      exact isSlash written.symm

section Unescape

variable {digit value : Char}

theorem unescape_cons {c : Char} (plain : c ≠ '~') (rest : List Char) :
    unescape digit value (c :: rest) = c :: unescape digit value rest := by
  rw [unescape]
  intro _ _ isTilde
  exact absurd isTilde plain

theorem unescape_tilde (c : Char) (rest : List Char) :
    unescape digit value ('~' :: c :: rest) =
      if c = digit then value :: unescape digit value rest
      else '~' :: unescape digit value (c :: rest) := by
  rw [unescape]

/-- What is written character by character is read so, if that holds of each of them. -/
theorem unescape_flatMap {write read : Char → List Char}
    (each : ∀ c rest, unescape digit value (write c ++ rest) =
      read c ++ unescape digit value rest) (name : List Char) :
    unescape digit value (name.flatMap write) = name.flatMap read := by
  induction name with
  | nil => rfl
  | cons c rest inductionHypothesis =>
    rw [List.flatMap_cons, each, inductionHypothesis, List.flatMap_cons]

end Unescape

theorem unescape_slashes (name : List Char) : unescape '1' '/' (segment name) = slashed name := by
  refine unescape_flatMap ?_ name
  intro c rest
  -- A tilde of the name stays with its digit, so that no `~1` of the name is taken for a slash.
  have digits : '0' ≠ '1' := by decide
  have zero : '0' ≠ '~' := by decide
  by_cases isTilde : c = '~'
  · rw [if_pos isTilde, if_pos isTilde, List.cons_append, List.singleton_append, unescape_tilde,
      if_neg digits, unescape_cons zero]
    rfl
  · by_cases isSlash : c = '/'
    · rw [if_neg isTilde, if_pos isSlash, if_neg isTilde, List.cons_append, List.singleton_append,
        unescape_tilde, if_pos rfl, isSlash]
      rfl
    · rw [if_neg isTilde, if_neg isSlash, if_neg isTilde, List.singleton_append,
        unescape_cons isTilde]
      rfl

theorem unescape_tildes (name : List Char) : unescape '0' '~' (slashed name) = name := by
  have each : ∀ (c : Char) rest,
      unescape '0' '~' ((if c = '~' then ['~', '0'] else [c]) ++ rest) =
        [c] ++ unescape '0' '~' rest := by
    intro c rest
    by_cases isTilde : c = '~'
    · rw [if_pos isTilde, List.cons_append, List.singleton_append, unescape_tilde, if_pos rfl,
        isTilde]
      rfl
    · rw [if_neg isTilde, List.singleton_append, unescape_cons isTilde]
      rfl
  rw [slashed, unescape_flatMap each]
  exact List.flatMap_singleton' name

/-- A segment is decoded to its name, whichever of its characters are escapes. -/
theorem decodeSegment_encoded {name written : List Char}
    (encodes : Encodes (segment name) written) :
    decodeSegment written = String.ofList name := by
  unfold decodeSegment
  simp only
  rw [encodes.decode, String.toList_ofList, unescape_slashes, unescape_tildes]

/-! ## References -/

/-- A reference points to an entry of a part exactly if it is the part and one more segment. -/
theorem nameIn?_eq_some_iff {part reference name : String} (noSlash : '/' ∉ part.toList) :
    nameIn? part reference = some name ↔ ∃ written,
      reference.toList = '#' :: '/' :: (part.toList ++ '/' :: written) ∧ written ≠ [] ∧
        '/' ∉ written ∧ decodeSegment written = name := by
  unfold nameIn?
  constructor
  · intro isName
    split at isName
    · rename_i rest isReference
      simp only at isName
      split at isName
      · rename_i written isRest
        split at isName
        · rename_i isPart
          refine ⟨written, ?_, isPart.2.1, isPart.2.2, Option.some.inj isName⟩
          rw [isReference, ← isPart.1, ← isRest, List.takeWhile_append_dropWhile]
        · cases isName
      · cases isName
    · cases isName
  · rintro ⟨written, isReference, notEmpty, oneSegment, rfl⟩
    have inPart : ∀ c ∈ part.toList, (c != '/') = true := by
      intro c inside
      rw [bne_iff_ne]
      rintro rfl
      exact noSlash inside
    have head : (part.toList ++ '/' :: written).takeWhile (· != '/') = part.toList := by
      rw [List.takeWhile_append_of_pos inPart, List.takeWhile_cons_of_neg (by decide),
        List.append_nil]
    have tail : (part.toList ++ '/' :: written).dropWhile (· != '/') = '/' :: written := by
      rw [List.dropWhile_append_of_pos inPart, List.dropWhile_cons_of_neg (by decide)]
    rw [isReference]
    simp only [head, tail]
    exact if_pos ⟨trivial, notEmpty, oneSegment⟩

/-- A reference to a definition points to its name, if that is written as a segment and any of its
characters as escapes.  Nothing else points to a name than one segment behind `#/definitions/`. -/
theorem definition?_encoded :
    (∀ name written : String, name ≠ "" → Encodes (segment name.toList) written.toList →
      definition? ("#/definitions/" ++ written) = some name) ∧
    ∀ reference, (definition? reference).isSome = true ↔ ∃ written,
      reference = "#/definitions/" ++ written ∧ written ≠ "" ∧ '/' ∉ written.toList := by
  have noSlash : '/' ∉ "definitions".toList := by decide
  have isReference : ∀ written : String, ("#/definitions/" ++ written).toList =
      '#' :: '/' :: ("definitions".toList ++ '/' :: written.toList) := by
    intro written
    rw [String.toList_append]
    rfl
  refine ⟨?_, ?_⟩
  · intro name written notEmpty encodes
    have decoded := decodeSegment_encoded encodes
    rw [String.ofList_toList] at decoded
    refine (nameIn?_eq_some_iff noSlash).2 ⟨written.toList, isReference written, ?_,
      encodes.slash_not_mem (slash_not_mem_segment _), decoded⟩
    intro isEmpty
    rw [isEmpty] at decoded
    exact notEmpty decoded.symm
  · intro reference
    rw [Option.isSome_iff_exists]
    constructor
    · rintro ⟨name, isName⟩
      obtain ⟨written, isWritten, notEmpty, oneSegment, -⟩ := (nameIn?_eq_some_iff noSlash).1 isName
      refine ⟨String.ofList written, ?_, ?_, ?_⟩
      · rw [← String.toList_inj, isReference, isWritten, String.toList_ofList (l := written)]
      · rw [Ne, ← String.toList_eq_nil_iff, String.toList_ofList]
        exact notEmpty
      · rw [String.toList_ofList]
        exact oneSegment
    · rintro ⟨written, rfl, notEmpty, oneSegment⟩
      exact ⟨_, (nameIn?_eq_some_iff noSlash).2 ⟨written.toList, isReference written,
        mt String.toList_eq_nil_iff.1 notEmpty, oneSegment, rfl⟩⟩

/-- A name of characters that are special in segments, with escapes in both cases.  One tilde of the
segment is escaped and the other is kept. -/
theorem definition?_encoded_special :
    "~1/%é" ≠ "" ∧ Encodes (segment "~1/%é".toList) "%7e01~1%25%c3%A9".toList ∧
      definition? ("#/definitions/" ++ "%7e01~1%25%c3%A9") = some "~1/%é" := by
  have notEmpty : "~1/%é" ≠ "" := by decide
  have isSegment : segment "~1/%é".toList = ['~', '0', '1', '~', '1', '%', 'é'] := by decide
  have tilde : Escapes (String.utf8EncodeChar '~') ['%', '7', 'e'] :=
    .cons (by decide) (by decide) .nil
  have percent : Escapes (String.utf8EncodeChar '%') ['%', '2', '5'] :=
    .cons (by decide) (by decide) .nil
  have accented : Escapes (String.utf8EncodeChar 'é') ['%', 'c', '3', '%', 'A', '9'] :=
    .cons (by decide) (by decide) (.cons (by decide) (by decide) .nil)
  have encodes : Encodes (segment "~1/%é".toList) "%7e01~1%25%c3%A9".toList := by
    rw [isSegment]
    exact .escaped tilde (.kept (by decide) (.kept (by decide) (.kept (by decide)
      (.kept (by decide) (.escaped percent (.escaped accented .nil))))))
  exact ⟨notEmpty, encodes, definition?_encoded.1 _ _ notEmpty encodes⟩

end RestConnector.Swagger.Pointer
