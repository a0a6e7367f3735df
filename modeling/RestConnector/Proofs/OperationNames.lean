import RestConnector.Proofs.Recasing

/-!
Contract: names that are made of paths and methods.

Owns:
- `stem`, the letters and digits from which an operation without an identifier gets its name;
- `Spells`, what such a name has to do with them;
- `ofOperation_spells`: in ASCII, a name spells its stem, so names tell stems apart up to case.

Does not own: what recasing does to a name that is recased already, see
`RestConnector.Proofs.Recasing`.

The cut into words decides only about case.  No letter is lost between two words, because the cut
loses nothing but separators, and the first letter of the first word is the only one that is never a
capital.
-/

namespace RestConnector

namespace Text

/-! ## Letters up to case -/

theorem isAsciiAlphanumeric_eq (c : Char) : isAsciiAlphanumeric c = c.isAlphanum := by
  have capital : ('A' ≤ c && c ≤ 'Z') = c.isUpper := (Bool.decide_and _ _).symm
  show (c.isLower || ('A' ≤ c && c ≤ 'Z') || c.isDigit) = (c.isUpper || c.isLower || c.isDigit)
  rw [capital, Bool.or_comm c.isLower]

private theorem lower_code : ∀ code < 0x80,
    (Char.ofNat code).toUpper.toLower = (Char.ofNat code).toLower ∧
    (Char.ofNat code).toLower.toLower = (Char.ofNat code).toLower ∧
    (Char.ofNat code).toLower.isUpper = false ∧
    (Char.ofNat code).toLower.isAlphanum = (Char.ofNat code).isAlphanum := by
  decide +kernel

/-- A small letter tells nothing of the case of the letter that it is made of. -/
theorem lower_of_ascii {c : Char} (isAscii : c.toNat < 0x80) :
    c.toUpper.toLower = c.toLower ∧ c.toLower.toLower = c.toLower ∧ c.toLower.isUpper = false ∧
      c.toLower.isAlphanum = c.isAlphanum := by
  have own := lower_code c.toNat isAscii
  rwa [Char.ofNat_toNat] at own

theorem isAlphanum_toLower (c : Char) : c.toLower.isAlphanum = c.isAlphanum := by
  by_cases isAscii : c.toNat < 0x80
  · exact (lower_of_ascii isAscii).2.2.2
  · have notCapital : ¬ (c.val ≥ 'A'.val ∧ c.val ≤ 'Z'.val) := by
      rintro ⟨-, upTo⟩
      have bound : c.val.toNat ≤ 90 := UInt32.le_iff_toNat_le.1 upTo
      exact isAscii (Nat.lt_of_le_of_lt bound (by decide))
    have stays : c.toLower = c := dif_neg notCapital
    rw [stays]

theorem filter_isAlphanumeric {text : List Char} (isAscii : ∀ c ∈ text, c.toNat < 0x80) :
    text.filter isAlphanumeric = text.filter Char.isAlphanum := by
  refine List.filter_congr ?_
  intro c inside
  rw [isAlphanumeric, if_pos (isAscii c inside), isAsciiAlphanumeric_eq]

section Case

variable {several : List (List Char)}

theorem map_toLower_lowered {word : List Char} (isAscii : ∀ c ∈ word, c.toNat < 0x80) :
    (lowered word).map Char.toLower = word.map Char.toLower := by
  rw [lowered_eq_map isAscii, List.map_map]
  exact List.map_congr_left fun c inside => (lower_of_ascii (isAscii c inside)).2.1

theorem map_toLower_capitalised {word : List Char} (isAscii : ∀ c ∈ word, c.toNat < 0x80) :
    (capitalised word).map Char.toLower = word.map Char.toLower := by
  cases word with
  | nil => rfl
  | cons c rest =>
    obtain ⟨cAscii, restAscii⟩ := List.forall_mem_cons.1 isAscii
    rw [capitalised_cons cAscii, List.map_cons, List.map_cons, (lower_of_ascii cAscii).1,
      map_toLower_lowered restAscii]

/-- Words put together have the letters of the words. -/
theorem map_toLower_rejoined (isAscii : ∀ word ∈ several, ∀ c ∈ word, c.toNat < 0x80)
    (fresh : Bool) :
    (rejoined fresh several).map Char.toLower = several.flatten.map Char.toLower := by
  induction several generalizing fresh with
  | nil => rfl
  | cons word rest inductionHypothesis =>
    obtain ⟨wordAscii, restAscii⟩ := List.forall_mem_cons.1 isAscii
    have first : (if fresh then capitalised word else lowered word).map Char.toLower =
        word.map Char.toLower := by
      cases fresh with
      | true => exact map_toLower_capitalised wordAscii
      | false => exact map_toLower_lowered wordAscii
    rw [rejoined, List.map_append, first, flatMap_capitalised, inductionHypothesis restAscii,
      List.flatten_cons, List.map_append]

end Case

theorem caseWords_ne_nil (mode : CaseMode) (c : Char) (rest : List Char) :
    caseWords mode (c :: rest) ≠ [] := by
  intro none
  have kept := flatten_caseWords mode (c :: rest)
  rw [none] at kept
  cases kept

theorem rejoined_append {front : List (List Char)} (notEmpty : front ≠ []) (fresh : Bool)
    (back : List (List Char)) :
    rejoined fresh (front ++ back) = rejoined fresh front ++ back.flatMap capitalised := by
  cases front with
  | nil => exact absurd rfl notEmpty
  | cons word rest => simp [rejoined]

/-- The first of all words does not start with a capital. -/
theorem head_rejoined {several : List (List Char)}
    (isAscii : ∀ piece ∈ several, ∀ c ∈ piece, c.toNat < 0x80) :
    ∀ c ∈ (rejoined false (several.flatMap (caseWords .boundary))).head?, c.isUpper = false := by
  induction several with
  | nil =>
    intro c impossible
    cases impossible
  | cons piece rest inductionHypothesis =>
    obtain ⟨pieceAscii, restAscii⟩ := List.forall_mem_cons.1 isAscii
    cases piece with
    -- An empty piece has no word, so the first word is one of the pieces behind it.
    | nil => exact inductionHypothesis restAscii
    | cons first others =>
      have notLower : false = false → CaseMode.boundary = .lower →
          (first :: others).head?.any isUppercase = false := by
        intro _ impossible
        cases impossible
      have onePass : rejoined false (caseWords .boundary (first :: others)) =
          first.toLower :: recased (CaseMode.boundary.after first) false others := by
        rw [rejoined_caseWords pieceAscii notLower, recased_cons]
        simp [startsWord]
      rw [List.flatMap_cons, rejoined_append (caseWords_ne_nil _ _ _), onePass]
      rintro _ ⟨⟩
      exact (lower_of_ascii (pieceAscii first List.mem_cons_self)).2.2.1

theorem pieces_subset (text : List Char) : ∀ piece ∈ pieces text, ∀ c ∈ piece, c ∈ text := by
  intro piece isPiece c inside
  have kept : c ∈ (pieces text).flatten := List.mem_flatten.2 ⟨piece, isPiece, inside⟩
  rw [flatten_pieces] at kept
  exact (List.mem_filter.1 kept).1

end Text

namespace Identifier

open Text

/-! ## Names that start small -/

theorem toList_camel (text : String) : (camel text).toList = rejoined false (words text) := by
  unfold camel
  split
  · rename_i noWord
    rw [noWord]
    rfl
  · rename_i first rest areWords
    rw [areWords]
    exact String.toList_ofList

/-- What a name has to do with letters and digits that it spells. -/
structure Spells (name : String) (letters : List Char) : Prop where
  /-- Only the case of its letters is its own. -/
  letters : name.toList.map Char.toLower = letters.map Char.toLower
  plain : ∀ c ∈ name.toList, c.isAlphanum = true
  /-- It does not start with a capital. -/
  small : ∀ c ∈ name.toList.head?, c.isUpper = false

/-- The name of a text in ASCII spells all of its letters and digits. -/
theorem camel_spells {text : String} (isAscii : ∀ c ∈ text.toList, c.toNat < 0x80) :
    Spells (camel text) (text.toList.filter Char.isAlphanum) := by
  have wordsAscii : ∀ word ∈ words text, ∀ c ∈ word, c.toNat < 0x80 :=
    fun word isWord c inside => isAscii c (mem_of_mem_words isWord inside).1
  have piecesAscii : ∀ piece ∈ pieces text.toList, ∀ c ∈ piece, c.toNat < 0x80 :=
    fun piece isPiece c inside => isAscii c (pieces_subset _ piece isPiece c inside)
  have letters : (camel text).toList.map Char.toLower =
      (text.toList.filter Char.isAlphanum).map Char.toLower := by
    rw [toList_camel, map_toLower_rejoined wordsAscii, flatten_words,
      filter_isAlphanumeric isAscii]
  refine ⟨letters, ?_, ?_⟩
  · intro c inside
    have same : c.toLower ∈ (text.toList.filter Char.isAlphanum).map Char.toLower :=
      letters ▸ List.mem_map_of_mem inside
    obtain ⟨own, among, isLower⟩ := List.mem_map.1 same
    rw [← isAlphanum_toLower, ← isLower, isAlphanum_toLower]
    exact (List.mem_filter.1 among).2
  · rw [toList_camel]
    exact head_rejoined piecesAscii

/-! ## Names of operations -/

/-- The letters and digits from which an operation gets its name: those of its path without the root
that is cut off, and in front of them those of the word for its method, unless it only reads. -/
def stem (path : String) (method : Method) (preferences : Preferences) : List Char :=
  let place := (preferences.shorten path).toList.filter Char.isAlphanum
  if method = .get then place
  else (preferences.verb method.name).toList.filter Char.isAlphanum ++ place

section Operations

variable {path : String} {method : Method} {preferences : Preferences}

theorem filter_withoutBraces (path : String) :
    (withoutBraces path).toList.filter Char.isAlphanum = path.toList.filter Char.isAlphanum := by
  unfold withoutBraces
  rw [String.toList_ofList, List.filter_filter]
  refine List.filter_congr ?_
  intro c _
  by_cases brace : c = '\x7b' ∨ c = '\x7d'
  · rcases brace with rfl | rfl <;> rfl
  · rw [not_or] at brace
    simp [brace]

theorem mem_shorten {c : Char} (inside : c ∈ (preferences.shorten path).toList) :
    c ∈ path.toList := by
  unfold Preferences.shorten at inside
  simp only at inside
  split at inside
  · rw [String.toList_ofList] at inside
    exact List.mem_of_mem_drop inside
  · exact inside

theorem mem_verb_name {c : Char} (inside : c ∈ (preferences.verb method.name).toList) :
    (∃ word, preferences.verbs.find? method.name = some word ∧ c ∈ word.toList) ∨
      c ∈ method.name.toList := by
  unfold Preferences.verb at inside
  split at inside
  · rename_i word found
    split at inside
    · exact Or.inr inside
    · exact Or.inl ⟨word, found, inside⟩
  · exact Or.inr inside

theorem name_ascii (method : Method) : ∀ c ∈ method.name.toList, c.toNat < 0x80 := by
  cases method <;> simp [Method.name]

/-- The text that is cased into the name of an operation. -/
def wording (path : String) (method : Method) (preferences : Preferences) : String :=
  let place := withoutBraces (preferences.shorten path)
  if method = .get then place else preferences.verb method.name ++ " " ++ place

theorem ofOperation_eq (path : String) (method : Method) (preferences : Preferences) :
    ofOperation path method preferences =
      if (camel (wording path method preferences)).isEmpty then method.name
      else camel (wording path method preferences) := by
  cases method <;> rfl

theorem filter_wording (path : String) (method : Method) (preferences : Preferences) :
    (wording path method preferences).toList.filter Char.isAlphanum =
      stem path method preferences := by
  unfold wording stem
  simp only
  split
  · exact filter_withoutBraces _
  · have blank : " ".toList.filter Char.isAlphanum = [] := by decide
    rw [String.toList_append, String.toList_append, List.filter_append, List.filter_append, blank,
      List.append_nil, filter_withoutBraces]

/-- Whether all that enters into the name of an operation is ASCII.  The root to be cut off and the
words for other methods need not be. -/
structure IsAscii (path : String) (method : Method) (preferences : Preferences) : Prop where
  path : ∀ c ∈ path.toList, c.toNat < 0x80
  verb : ∀ word, preferences.verbs.find? method.name = some word → ∀ c ∈ word.toList, c.toNat < 0x80

theorem IsAscii.wording (isAscii : IsAscii path method preferences) :
    ∀ c ∈ (wording path method preferences).toList, c.toNat < 0x80 := by
  have place : ∀ c ∈ (withoutBraces (preferences.shorten path)).toList, c.toNat < 0x80 := by
    intro c inside
    rw [withoutBraces, String.toList_ofList] at inside
    exact isAscii.path c (mem_shorten (List.mem_filter.1 inside).1)
  have verb : ∀ c ∈ (preferences.verb method.name).toList, c.toNat < 0x80 := by
    intro c inside
    rcases mem_verb_name inside with ⟨word, found, among⟩ | among
    · exact isAscii.verb word found c among
    · exact name_ascii method c among
  unfold Identifier.wording
  simp only
  split
  · exact place
  · intro c inside
    rw [String.toList_append, String.toList_append, List.mem_append, List.mem_append] at inside
    rcases inside with (inVerb | isBlank) | inPlace
    · exact verb c inVerb
    · cases List.mem_singleton.1 isBlank
      decide
    · exact place c inPlace

/-- A name is empty exactly if it spells nothing. -/
theorem Spells.eq_empty_iff {name : String} {letters : List Char} (spells : Spells name letters) :
    name = "" ↔ letters = [] := by
  have lengths := congrArg List.length spells.letters
  rw [List.length_map, List.length_map] at lengths
  rw [← String.toList_eq_nil_iff, ← List.length_eq_zero_iff, lengths, List.length_eq_zero_iff]

/-- Without letters or digits an operation is called like its method. -/
theorem ofOperation_of_mute (isAscii : IsAscii path method preferences)
    (mute : stem path method preferences = []) :
    ofOperation path method preferences = method.name := by
  have spells := camel_spells isAscii.wording
  rw [filter_wording] at spells
  rw [ofOperation_eq, if_pos (String.isEmpty_iff.2 (spells.eq_empty_iff.2 mute))]

theorem spells_of_telling (isAscii : IsAscii path method preferences)
    (telling : stem path method preferences ≠ []) :
    Spells (ofOperation path method preferences) (stem path method preferences) := by
  have spells := camel_spells isAscii.wording
  rw [filter_wording] at spells
  rw [ofOperation_eq, if_neg (mt (String.isEmpty_iff.trans spells.eq_empty_iff).1 telling)]
  exact spells

end Operations

/-- An operation is called like its method if its stem is empty, and else its name spells the stem.
So operations with stems of other letters have other names. -/
theorem ofOperation_spells {path : String} {method : Method} {preferences : Preferences}
    (isAscii : IsAscii path method preferences) :
    (stem path method preferences = [] → ofOperation path method preferences = method.name) ∧
    (stem path method preferences ≠ [] →
      Spells (ofOperation path method preferences) (stem path method preferences) ∧
      ∀ otherPath otherMethod otherPreferences,
        IsAscii otherPath otherMethod otherPreferences →
        stem otherPath otherMethod otherPreferences ≠ [] →
        ofOperation path method preferences =
          ofOperation otherPath otherMethod otherPreferences →
        (stem path method preferences).map Char.toLower =
          (stem otherPath otherMethod otherPreferences).map Char.toLower) := by
  refine ⟨ofOperation_of_mute isAscii, ?_⟩
  intro telling
  have spells := spells_of_telling isAscii telling
  refine ⟨spells, ?_⟩
  intro otherPath otherMethod otherPreferences otherAscii otherTelling same
  rw [← spells.letters, ← (spells_of_telling otherAscii otherTelling).letters, same]

/-- Names without the root `/v1` of paths, and with a word for one method. -/
def createPreferences : Preferences := ⟨"", "/v1", .ofList [("post", "create")]⟩

theorem createPreferences_ascii {path : String} (pathAscii : ∀ c ∈ path.toList, c.toNat < 0x80) :
    IsAscii path .post createPreferences := by
  refine ⟨pathAscii, ?_⟩
  intro word found
  have isCreate : createPreferences.verbs.find? Method.post.name = some "create" := by
    decide +kernel
  cases isCreate.symm.trans found
  simp

/-- Two paths with one name, for which they need the same letters. -/
theorem ofOperation_spells_pets :
    let parameter := "/v1/pets/{petId}"
    let plain := "/pets/pet-id"
    IsAscii parameter .post createPreferences ∧ IsAscii plain .post createPreferences ∧
      stem parameter .post createPreferences = "createpetspetId".toList ∧
      stem plain .post createPreferences = "createpetspetid".toList ∧
      ofOperation parameter .post createPreferences = "createPetsPetId" ∧
      ofOperation plain .post createPreferences = "createPetsPetId" ∧
      Spells "createPetsPetId" "createpetspetId".toList ∧
      "createpetspetId".toList.map Char.toLower = "createpetspetid".toList.map Char.toLower := by
  intro parameter plain
  have parameterAscii : IsAscii parameter .post createPreferences :=
    createPreferences_ascii (by simp [parameter])
  have plainAscii : IsAscii plain .post createPreferences :=
    createPreferences_ascii (by simp [plain])
  have parameterStem : stem parameter .post createPreferences = "createpetspetId".toList := by
    decide +kernel
  have plainStem : stem plain .post createPreferences = "createpetspetid".toList := by
    decide +kernel
  have parameterName : ofOperation parameter .post createPreferences = "createPetsPetId" := by
    decide +kernel
  have plainName : ofOperation plain .post createPreferences = "createPetsPetId" := by
    decide +kernel
  obtain ⟨spells, tells⟩ := (ofOperation_spells parameterAscii).2 (by simp [parameterStem])
  have same := tells plain .post createPreferences plainAscii (by simp [plainStem])
    (parameterName.trans plainName.symm)
  rw [parameterStem, plainStem] at same
  rw [parameterStem, parameterName] at spells
  exact ⟨parameterAscii, plainAscii, parameterStem, plainStem, parameterName, plainName, spells,
    same⟩

end Identifier

end RestConnector
