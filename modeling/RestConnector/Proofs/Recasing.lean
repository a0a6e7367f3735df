import Mathlib.Data.List.Induction
import RestConnector.Identifier

/-!
Contract: what is left of a name that is made of a name.

Owns:
- `flatten_words`: the words of a text hold its letters and digits;
- `exists_isAlphanumeric_pascal`: a name of a text with a letter or a digit has one too;
- `IsSteady`, the names whose capitals start words, and `pascal_pascal_iff`: exactly these are left
  as they are.

Does not own: what gets which name.

A capital in the middle of a name need not start a word when the name is cut again: the words of
`a_b_cat` are three, but the name `ABCat` that is made of them has the words `AB` and `Cat`.  The
last of these laws is about ASCII, where each letter has one counterpart in the other case.
-/

namespace RestConnector

namespace Text

/-! ## ASCII -/

private theorem toUpper_code : ∀ code < 0x80, (Char.ofNat code).toUpper.toNat < 0x80 ∧
    isAlphanumeric (Char.ofNat code).toUpper = isAlphanumeric (Char.ofNat code) ∧
    isLowercase (Char.ofNat code).toUpper = false ∧
    ((Char.ofNat code).toUpper = Char.ofNat code ↔ isLowercase (Char.ofNat code) = false) := by
  decide

private theorem toLower_code : ∀ code < 0x80, (Char.ofNat code).toLower.toNat < 0x80 ∧
    isAlphanumeric (Char.ofNat code).toLower = isAlphanumeric (Char.ofNat code) ∧
    ((Char.ofNat code).toLower = Char.ofNat code ↔ isUppercase (Char.ofNat code) = false) := by
  decide

private theorem isLowercase_code : ∀ code < 0x80, isUppercase (Char.ofNat code) = true →
    isLowercase (Char.ofNat code) = false := by
  decide

section Ascii

variable {c : Char}

theorem toUpper_of_ascii (isAscii : c.toNat < 0x80) : c.toUpper.toNat < 0x80 ∧
    isAlphanumeric c.toUpper = isAlphanumeric c ∧ isLowercase c.toUpper = false ∧
    (c.toUpper = c ↔ isLowercase c = false) := by
  have own := toUpper_code c.toNat isAscii
  rwa [Char.ofNat_toNat] at own

theorem toLower_of_ascii (isAscii : c.toNat < 0x80) : c.toLower.toNat < 0x80 ∧
    isAlphanumeric c.toLower = isAlphanumeric c ∧ (c.toLower = c ↔ isUppercase c = false) := by
  have own := toLower_code c.toNat isAscii
  rwa [Char.ofNat_toNat] at own

theorem isLowercase_eq_false (isAscii : c.toNat < 0x80) (upper : isUppercase c = true) :
    isLowercase c = false := by
  have own := isLowercase_code c.toNat isAscii
  rw [Char.ofNat_toNat] at own
  exact own upper

end Ascii

/-! ## Letters and digits -/

theorem flatten_words (text : String) :
    (words text).flatten = text.toList.filter isAlphanumeric := by
  rw [← flatten_pieces, words]
  induction pieces text.toList with
  | nil => rfl
  | cons piece rest inductionHypothesis =>
    rw [List.flatMap_cons, List.flatten_append, flatten_caseWords, List.flatten_cons,
      inductionHypothesis]

/-- Whether all that is shifted comes to lie in one of some spans that leave nothing out. -/
def Shift.landsIn (spans : List Span) (shift : Shift) : Bool :=
  spans.any fun span => (shift.target + (shift.span.last - shift.span.first)).ble span.last &&
    span.first.ble shift.target && span.step == 1

def capitalSpan : Span := ⟨0x41, 0x5a, 1⟩

/-- The four letters whose capitals are not next to one another. -/
def scatteredShift : Shift := ⟨⟨0x1f51, 0x1f57, 2⟩, 0x1f59⟩

private theorem landsIn_of_mem : ∀ shift ∈ uppercaseShifts, shift = scatteredShift ∨
    shift.landsIn (capitalSpan :: alphanumericSpans) = true := by
  decide +kernel

private theorem isAlphanumeric_expansion : ∀ entry ∈ uppercaseExpansions,
    ∃ code ∈ entry.2, isAlphanumeric (Char.ofNat code) = true := by
  decide +kernel

private theorem alphanumericSpans_valid : ∀ span ∈ alphanumericSpans, 0x80 ≤ span.first ∧
    (span.last < 0xd800 ∨ 0xdfff < span.first ∧ span.last < 0x110000) := by
  decide +kernel

private theorem isAlphanumeric_capital : ∀ code < 0x5b, capitalSpan.contains code = true →
    isAlphanumeric (Char.ofNat code) = true := by
  decide

theorem Span.bounds_of_contains {span : Span} {code : Nat} (contains : span.contains code = true) :
    span.first ≤ code ∧ code ≤ span.last := by
  simp only [Span.contains, Bool.and_eq_true, decide_eq_true_eq] at contains
  exact contains.1

theorem isAlphanumeric_of_contains {span : Span} {code : Nat}
    (inside : span ∈ capitalSpan :: alphanumericSpans) (contains : span.contains code = true) :
    isAlphanumeric (Char.ofNat code) = true := by
  have bounds := Span.bounds_of_contains contains
  rcases List.mem_cons.1 inside with rfl | inside
  · exact isAlphanumeric_capital code (Nat.lt_succ_of_le bounds.2) contains
  · obtain ⟨aboveAscii, valid⟩ := alphanumericSpans_valid span inside
    have isValid : code.isValidChar := by
      unfold Nat.isValidChar
      omega
    have isCode : (Char.ofNat code).toNat = code := by
      unfold Char.ofNat
      rw [dif_pos isValid]
      rfl
    unfold isAlphanumeric
    rw [isCode, if_neg (by omega)]
    exact List.any_eq_true.2 ⟨span, inside, contains⟩

theorem Shift.apply_cases (shifts : List Shift) (code : Nat) :
    Shift.apply shifts code = code ∨ ∃ shift ∈ shifts, shift.span.contains code = true ∧
      Shift.apply shifts code = shift.target + (code - shift.span.first) := by
  induction shifts with
  | nil => exact Or.inl rfl
  | cons shift rest inductionHypothesis =>
    unfold Shift.apply
    split
    · rename_i contains
      exact Or.inr ⟨shift, List.mem_cons_self, contains, rfl⟩
    · rcases inductionHypothesis with stays | ⟨other, inside, contains, moves⟩
      · exact Or.inl stays
      · exact Or.inr ⟨other, List.mem_cons_of_mem _ inside, contains, moves⟩

private theorem isAlphanumeric_shifted {shift : Shift} {code : Nat}
    (inside : shift ∈ uppercaseShifts) (contains : shift.span.contains code = true) :
    isAlphanumeric (Char.ofNat (shift.target + (code - shift.span.first))) = true := by
  have bounds := Span.bounds_of_contains contains
  rcases landsIn_of_mem shift inside with rfl | lands
  · have one : code = 0x1f51 ∨ code = 0x1f53 ∨ code = 0x1f55 ∨ code = 0x1f57 := by
      change 0x1f51 ≤ code ∧ code ≤ 0x1f57 at bounds
      have even : (code - 0x1f51) % 2 = 0 := by
        simp only [Span.contains, Bool.and_eq_true, beq_iff_eq] at contains
        exact contains.2
      omega
    rcases one with rfl | rfl | rfl | rfl <;> decide +kernel
  · obtain ⟨span, among, holds⟩ := List.any_eq_true.1 lands
    simp only [Bool.and_eq_true, Nat.ble_eq, beq_iff_eq] at holds
    obtain ⟨⟨last, first⟩, step⟩ := holds
    refine isAlphanumeric_of_contains among ?_
    simp only [Span.contains, step, Nat.mod_one, Bool.and_eq_true, decide_eq_true_eq,
      beq_self_eq_true]
    refine ⟨?_, trivial⟩
    omega

/-- A capital form of a letter or a digit has one too. -/
theorem exists_isAlphanumeric_uppercase {c : Char} (alphanumeric : isAlphanumeric c = true) :
    ∃ upper ∈ uppercase c, isAlphanumeric upper = true := by
  unfold uppercase
  split
  · rename_i isAscii
    exact ⟨_, List.mem_singleton_self _, (toUpper_of_ascii isAscii).2.1.trans alphanumeric⟩
  · unfold mapCase
    split
    · rename_i codes isExpanded
      obtain ⟨before, after, split, -⟩ := List.lookup_eq_some_iff.1 isExpanded
      have inside : (c.toNat, codes) ∈ uppercaseExpansions := by
        rw [split]
        exact List.mem_append_right _ List.mem_cons_self
      obtain ⟨code, among, isLetter⟩ := isAlphanumeric_expansion _ inside
      exact ⟨_, List.mem_map_of_mem among, isLetter⟩
    · refine ⟨_, List.mem_singleton_self _, ?_⟩
      rcases Shift.apply_cases uppercaseShifts c.toNat with stays | ⟨shift, inside, contains, moves⟩
      · rw [stays, Char.ofNat_toNat]
        exact alphanumeric
      · rw [moves]
        exact isAlphanumeric_shifted inside contains

/-! ## Words in one pass -/

section OnePass

/-- Whether a character starts a word inside a piece. -/
def startsWord (mode : CaseMode) (c : Char) (rest : List Char) : Bool :=
  isUppercase c && (mode == .lower || mode == .upper && rest.head?.any isLowercase)

/-- A piece in ASCII, recased as its words are, but in one pass that never forgets the case.  The
first character may start a word, whatever it is. -/
def recased (mode : CaseMode) (fresh : Bool) : List Char → List Char
  | [] => []
  | c :: rest =>
    (if fresh || startsWord mode c rest then c.toUpper else c.toLower) ::
      recased (mode.after c) false rest

/-- Words put together again, the first of which may go on with another one. -/
def rejoined (fresh : Bool) : List (List Char) → List Char
  | [] => []
  | word :: rest => (if fresh then capitalised word else lowered word) ++ rest.flatMap capitalised

theorem flatMap_capitalised (some : List (List Char)) :
    some.flatMap capitalised = rejoined true some := by
  cases some <;> rfl

variable {c : Char}

theorem CaseMode.after_of_isLowercase (mode : CaseMode) (lower : isLowercase c = true) :
    mode.after c = .lower :=
  if_pos lower

theorem CaseMode.after_of_isUppercase (isAscii : c.toNat < 0x80) (mode : CaseMode)
    (upper : isUppercase c = true) : mode.after c = .upper := by
  unfold CaseMode.after
  rw [isLowercase_eq_false isAscii upper, upper]
  rfl

/-- A word that is not cut goes on. -/
theorem fresh_or_startsWord {mode : CaseMode} {fresh : Bool} {rest : List Char}
    (continues : fresh = false → mode = .lower → isUppercase c = false)
    (notCut : ¬ (mode = .upper ∧ isUppercase c = true ∧ rest.head?.any isLowercase = true)) :
    (fresh || startsWord mode c rest) = fresh := by
  cases fresh with
  | true => rfl
  | false =>
    rw [Bool.false_or, ← Bool.not_eq_true]
    intro starts
    simp only [startsWord, Bool.and_eq_true, Bool.or_eq_true, beq_iff_eq] at starts
    obtain ⟨upper, afterLower | ⟨afterUpper, lower⟩⟩ := starts
    · rw [continues rfl afterLower] at upper
      cases upper
    · exact notCut ⟨afterUpper, upper, lower⟩

theorem recased_cons (mode : CaseMode) (fresh : Bool) (c : Char) (rest : List Char) :
    recased mode fresh (c :: rest) =
      (if fresh || startsWord mode c rest then c.toUpper else c.toLower) ::
        recased (mode.after c) false rest :=
  rfl

/-- Where a lowercase letter and a capital meet, the scan may forget the letter and cut. -/
theorem recased_capital (isAscii : c.toNat < 0x80) (upper : isUppercase c = true)
    (rest : List Char) : recased .boundary true (c :: rest) = recased .lower false (c :: rest) := by
  have starts : startsWord .lower c rest = true := by simp [startsWord, upper]
  simp only [recased, starts, CaseMode.after_of_isUppercase isAscii _ upper, Bool.true_or,
    Bool.false_or]

/-- In front of a lowercase letter, the scan may forget whatever it has read. -/
theorem recased_small (isAscii : c.toNat < 0x80) (lower : isLowercase c = true)
    (mode : CaseMode) (rest : List Char) :
    recased .boundary false (c :: rest) = recased mode false (c :: rest) := by
  have notUpper : isUppercase c = false := by
    rw [← Bool.not_eq_true]
    intro upper
    rw [isLowercase_eq_false isAscii upper] at lower
    cases lower
  simp only [recased, startsWord, notUpper, CaseMode.after_of_isLowercase _ lower, Bool.false_and]

theorem lowered_cons (isAscii : c.toNat < 0x80) (word : List Char) :
    lowered (c :: word) = c.toLower :: lowered word := by
  cases word with
  | nil =>
    have notSigma : c ≠ 'Σ' := by
      rintro rfl
      exact absurd isAscii (by decide)
    simp only [lowered, if_neg notSigma, lowercase, if_pos isAscii]
  | cons next rest => simp only [lowered, lowercase, if_pos isAscii, List.singleton_append]

theorem capitalised_cons (isAscii : c.toNat < 0x80) (word : List Char) :
    capitalised (c :: word) = c.toUpper :: lowered word := by
  simp only [capitalised, uppercase, if_pos isAscii, List.singleton_append]

theorem lowered_eq_map {word : List Char} (isAscii : ∀ c ∈ word, c.toNat < 0x80) :
    lowered word = word.map Char.toLower := by
  induction word with
  | nil => rfl
  | cons c rest inductionHypothesis =>
    obtain ⟨cAscii, restAscii⟩ := List.forall_mem_cons.1 isAscii
    rw [lowered_cons cAscii, inductionHypothesis restAscii, List.map_cons]

theorem rejoined_grow (isAscii : c.toNat < 0x80) (fresh : Bool) (some : List (List Char)) :
    rejoined fresh (grow c some) =
      (if fresh then c.toUpper else c.toLower) :: rejoined false some := by
  have nothing : lowered [] = [] := rfl
  cases some <;> cases fresh <;>
    simp [grow, rejoined, capitalised_cons isAscii, lowered_cons isAscii, nothing]

/-- To recase a piece word by word is to recase it in one pass. -/
theorem rejoined_caseWords {mode : CaseMode} {fresh : Bool} {piece : List Char}
    (isAscii : ∀ c ∈ piece, c.toNat < 0x80)
    (continues : fresh = false → mode = .lower → piece.head?.any isUppercase = false) :
    rejoined fresh (caseWords mode piece) = recased mode fresh piece := by
  fun_induction caseWords mode piece generalizing fresh with
  | case1 => rfl
  | case2 mode c =>
    have goesOn : (fresh || startsWord mode c []) = fresh :=
      fresh_or_startsWord continues fun cut => Bool.false_ne_true cut.2.2
    rw [show [[c]] = grow c [] from rfl, rejoined_grow (isAscii c List.mem_cons_self)]
    simp only [recased, goesOn]
    rfl
  | case3 mode c next rest ends inductionHypothesis =>
    -- the word ends with this character, and the next one starts another
    obtain ⟨lower, upper⟩ := ends
    obtain ⟨cAscii, restAscii⟩ := List.forall_mem_cons.1 isAscii
    have nextAscii := restAscii next List.mem_cons_self
    have notStart : startsWord mode c (next :: rest) = false := by
      cases capital : isUppercase c with
      | false => simp only [startsWord, capital, Bool.false_and]
      | true =>
        rw [CaseMode.after_of_isUppercase cAscii mode capital] at lower
        cases lower
    have others : (caseWords .boundary (next :: rest)).flatMap capitalised =
        recased (mode.after c) false (next :: rest) := by
      rw [flatMap_capitalised, lower, ← recased_capital nextAscii upper]
      refine inductionHypothesis restAscii ?_
      intro impossible
      cases impossible
    have first : (if fresh then capitalised [c] else lowered [c]) =
        [if fresh || startsWord mode c (next :: rest) then c.toUpper else c.toLower] := by
      rw [notStart, Bool.or_false]
      cases fresh
      · exact lowered_cons cAscii []
      · exact capitalised_cons cAscii []
    rw [rejoined, recased_cons mode, first, others, List.singleton_append]
  | case4 mode c next rest ends begins inductionHypothesis =>
    -- this character starts a word, and the next one goes on with it
    obtain ⟨rfl, upper, lower⟩ := begins
    obtain ⟨cAscii, restAscii⟩ := List.forall_mem_cons.1 isAscii
    have nextAscii := restAscii next List.mem_cons_self
    have starts : startsWord .upper c (next :: rest) = true := by
      simp [startsWord, upper, lower]
    have others : rejoined false (caseWords .boundary (next :: rest)) =
        recased (CaseMode.upper.after c) false (next :: rest) := by
      rw [← recased_small nextAscii lower]
      refine inductionHypothesis restAscii ?_
      intro _ impossible
      cases impossible
    have nothing : (if fresh then capitalised [] else lowered []) = [] := by cases fresh <;> rfl
    rw [rejoined, nothing, List.nil_append, flatMap_capitalised, rejoined_grow cAscii, others,
      recased_cons .upper fresh, starts, Bool.or_true]
  | case5 mode c next rest ends begins inductionHypothesis =>
    obtain ⟨cAscii, restAscii⟩ := List.forall_mem_cons.1 isAscii
    have goesOn : (fresh || startsWord mode c (next :: rest)) = fresh :=
      fresh_or_startsWord continues begins
    have others : rejoined false (caseWords (mode.after c) (next :: rest)) =
        recased (mode.after c) false (next :: rest) := by
      refine inductionHypothesis restAscii fun _ lower => ?_
      rw [← Bool.not_eq_true]
      exact fun upper => ends ⟨lower, upper⟩
    rw [rejoined_grow cAscii, others, recased_cons mode fresh, goesOn]

private theorem recased_head_iff (isAscii : c.toNat < 0x80) (mode : CaseMode) (fresh : Bool)
    (rest : List Char) :
    (if fresh || startsWord mode c rest then c.toUpper else c.toLower) = c ↔
      (fresh = true → isLowercase c = false) ∧
        (isUppercase c = true → fresh = true ∨ startsWord mode c rest = true) := by
  have upperIff := (toUpper_of_ascii isAscii).2.2.2
  have lowerIff := (toLower_of_ascii isAscii).2.2
  cases fresh with
  | true => simp [upperIff]
  | false =>
    cases starts : startsWord mode c rest with
    | true =>
      have upper : isUppercase c = true := by
        simp only [startsWord, Bool.and_eq_true] at starts
        exact starts.1
      simp [upperIff, isLowercase_eq_false isAscii upper]
    | false => simp [lowerIff]

/-- Recasing leaves a piece as it is if no small letter comes first and each capital starts a
word. -/
theorem recased_eq_self_iff {mode : CaseMode} {fresh : Bool} {piece : List Char}
    (isAscii : ∀ c ∈ piece, c.toNat < 0x80) :
    recased mode fresh piece = piece ↔
      (fresh = true → ∀ c ∈ piece.head?, isLowercase c = false) ∧
        ∀ before c after, piece = before ++ c :: after → isUppercase c = true →
          fresh = true ∧ before = [] ∨
            startsWord (before.foldl CaseMode.after mode) c after = true := by
  induction piece generalizing mode fresh with
  | nil => simp [recased]
  | cons c rest inductionHypothesis =>
    obtain ⟨cAscii, restAscii⟩ := List.forall_mem_cons.1 isAscii
    rw [recased_cons, List.cons.injEq, recased_head_iff cAscii, inductionHypothesis restAscii]
    constructor
    · rintro ⟨⟨notLower, first⟩, -, others⟩
      refine ⟨fun isFresh d isHead => Option.some.inj isHead ▸ notLower isFresh, ?_⟩
      intro before d after split upper
      cases before with
      | nil =>
        cases split
        exact (first upper).imp (fun isFresh => ⟨isFresh, rfl⟩) id
      | cons own before =>
        cases split
        refine (others before d after rfl upper).imp ?_ id
        rintro ⟨impossible, -⟩
        cases impossible
    · rintro ⟨notLower, all⟩
      refine ⟨⟨fun isFresh => notLower isFresh c rfl, ?_⟩, ?_, ?_⟩
      · intro upper
        exact (all [] c rest rfl upper).imp And.left id
      · intro impossible
        cases impossible
      · intro before d after split upper
        refine (all (c :: before) d after (congrArg (c :: ·) split) upper).imp ?_ id
        rintro ⟨-, impossible⟩
        cases impossible

end OnePass

/-! ## Steady names -/

def lastLetter? (chars : List Char) : Option Char :=
  chars.reverse.find? fun c => isLowercase c || isUppercase c

theorem foldl_after (chars : List Char) :
    chars.foldl CaseMode.after .boundary =
      match lastLetter? chars with
      | none => .boundary
      | some letter => if isLowercase letter then .lower else .upper := by
  induction chars using List.reverseRecOn with
  | nil => rfl
  | append_singleton before c inductionHypothesis =>
    rw [List.foldl_append, inductionHypothesis]
    unfold lastLetter?
    rw [List.reverse_append, List.reverse_singleton, List.singleton_append, List.find?_cons]
    cases lower : isLowercase c <;> cases upper : isUppercase c <;>
      simp [CaseMode.after, lower, upper]

theorem startsWord_iff {before after : List Char} {c : Char} :
    startsWord (before.foldl CaseMode.after .boundary) c after = true ↔
      isUppercase c = true ∧ ∃ letter, lastLetter? before = some letter ∧
        (isLowercase letter = true ∨
          ∃ next, after.head? = some next ∧ isLowercase next = true) := by
  unfold startsWord
  rw [foldl_after]
  cases lastLetter? before with
  | none => simp
  | some letter => cases lower : isLowercase letter <;> simp [lower, Option.any_eq_true]

end Text

namespace Identifier

open Text

/-- Whether each capital of a name but a leading one starts a word: there is a letter before it, and
either the last one is lowercase or a lowercase letter comes right after the capital. -/
def IsSteady (name : String) : Prop :=
  ∀ before c after, name.toList = before ++ c :: after → isUppercase c = true → before ≠ [] →
    ∃ letter, lastLetter? before = some letter ∧
      (isLowercase letter = true ∨ ∃ next, after.head? = some next ∧ isLowercase next = true)

variable {text : String}

theorem toList_pascal (text : String) :
    (pascal text).toList = (words text).flatMap capitalised :=
  String.toList_ofList

/-- The characters of words are letters and digits of the text. -/
theorem mem_of_mem_words {word : List Char} (isWord : word ∈ words text) {c : Char}
    (inside : c ∈ word) : c ∈ text.toList ∧ isAlphanumeric c = true := by
  have kept : c ∈ (words text).flatten := List.mem_flatten.2 ⟨word, isWord, inside⟩
  rw [flatten_words] at kept
  exact List.mem_filter.1 kept

theorem exists_isAlphanumeric_pascal (given : ∃ c ∈ text.toList, isAlphanumeric c = true) :
    ∃ c ∈ (pascal text).toList, isAlphanumeric c = true := by
  obtain ⟨c, inside, alphanumeric⟩ := given
  have kept : c ∈ (words text).flatten := by
    rw [flatten_words]
    exact List.mem_filter.2 ⟨inside, alphanumeric⟩
  obtain ⟨word, isWord, among⟩ := List.mem_flatten.1 kept
  obtain ⟨first, rest, rfl⟩ := List.exists_cons_of_ne_nil (List.ne_nil_of_mem among)
  obtain ⟨upper, isUpper, isLetter⟩ :=
    exists_isAlphanumeric_uppercase (mem_of_mem_words isWord List.mem_cons_self).2
  refine ⟨upper, ?_, isLetter⟩
  rw [toList_pascal]
  exact List.mem_flatMap.2 ⟨_, isWord, List.mem_append_left _ isUpper⟩

theorem pascal_ne_empty (given : ∃ c ∈ text.toList, isAlphanumeric c = true) :
    pascal text ≠ "" := by
  intro empty
  obtain ⟨c, inside, -⟩ := exists_isAlphanumeric_pascal given
  rw [empty] at inside
  cases inside

/-! ### Names in ASCII -/

theorem mem_capitalised {word : List Char} (isAscii : ∀ c ∈ word, c.toNat < 0x80) {d : Char}
    (inside : d ∈ capitalised word) : ∃ c ∈ word, d = c.toUpper ∨ d = c.toLower := by
  cases word with
  | nil => cases inside
  | cons c rest =>
    obtain ⟨cAscii, restAscii⟩ := List.forall_mem_cons.1 isAscii
    rw [capitalised_cons cAscii, lowered_eq_map restAscii] at inside
    rcases List.mem_cons.1 inside with isUpper | inRest
    · exact ⟨c, List.mem_cons_self, Or.inl isUpper⟩
    · obtain ⟨own, among, isLower⟩ := List.mem_map.1 inRest
      exact ⟨own, List.mem_cons_of_mem _ among, Or.inr isLower.symm⟩

theorem pascal_ascii (isAscii : ∀ c ∈ text.toList, c.toNat < 0x80) :
    ∀ c ∈ (pascal text).toList, c.toNat < 0x80 ∧ isAlphanumeric c = true := by
  intro d inside
  rw [toList_pascal] at inside
  obtain ⟨word, isWord, among⟩ := List.mem_flatMap.1 inside
  have wordAscii : ∀ c ∈ word, c.toNat < 0x80 :=
    fun c inWord => isAscii c (mem_of_mem_words isWord inWord).1
  obtain ⟨c, inWord, cased⟩ := mem_capitalised wordAscii among
  have alphanumeric := (mem_of_mem_words isWord inWord).2
  have upper := toUpper_of_ascii (wordAscii c inWord)
  have lower := toLower_of_ascii (wordAscii c inWord)
  rcases cased with rfl | rfl
  · exact ⟨upper.1, upper.2.1.trans alphanumeric⟩
  · exact ⟨lower.1, lower.2.1.trans alphanumeric⟩

/-- No name in ASCII starts with a small letter. -/
theorem head_pascal (isAscii : ∀ c ∈ text.toList, c.toNat < 0x80) :
    ∀ c ∈ (pascal text).toList.head?, isLowercase c = false := by
  rw [toList_pascal]
  have wordsAscii : ∀ word ∈ words text, ∀ c ∈ word, c.toNat < 0x80 :=
    fun word isWord c inWord => isAscii c (mem_of_mem_words isWord inWord).1
  generalize words text = some at wordsAscii
  induction some with
  | nil =>
    intro c impossible
    cases impossible
  | cons word rest inductionHypothesis =>
    obtain ⟨wordAscii, restAscii⟩ := List.forall_mem_cons.1 wordsAscii
    cases word with
    | nil => exact inductionHypothesis restAscii
    | cons first others =>
      have firstAscii := wordAscii first List.mem_cons_self
      rw [List.flatMap_cons, capitalised_cons firstAscii, List.cons_append]
      rintro _ ⟨⟩
      exact (toUpper_of_ascii firstAscii).2.2.1

theorem words_of_alphanumeric (alphanumeric : ∀ c ∈ text.toList, isAlphanumeric c = true) :
    words text = caseWords .boundary text.toList := by
  have whole : pieces text.toList = [text.toList] := by
    generalize text.toList = chars at alphanumeric
    induction chars with
    | nil => rfl
    | cons c rest inductionHypothesis =>
      obtain ⟨cAlphanumeric, restAlphanumeric⟩ := List.forall_mem_cons.1 alphanumeric
      rw [pieces, if_pos cAlphanumeric, inductionHypothesis restAlphanumeric, grow]
  rw [words, whole, List.flatMap_singleton]

/-- A name in ASCII is left as it is exactly if it is steady. -/
theorem pascal_pascal_iff (isAscii : ∀ c ∈ text.toList, c.toNat < 0x80) :
    pascal (pascal text) = pascal text ↔ IsSteady (pascal text) := by
  have plain := pascal_ascii isAscii
  have onePass : (pascal (pascal text)).toList = recased .boundary true (pascal text).toList := by
    rw [toList_pascal, words_of_alphanumeric fun c inside => (plain c inside).2,
      flatMap_capitalised]
    refine rejoined_caseWords (fun c inside => (plain c inside).1) ?_
    intro impossible
    cases impossible
  rw [← String.toList_inj, onePass, recased_eq_self_iff fun c inside => (plain c inside).1]
  constructor
  · rintro ⟨-, starts⟩ before c after split upper notFirst
    rcases starts before c after split upper with ⟨-, first⟩ | starts
    · exact absurd first notFirst
    · exact (startsWord_iff.1 starts).2
  · intro steady
    refine ⟨fun _ => head_pascal isAscii, ?_⟩
    intro before c after split upper
    by_cases first : before = []
    · exact Or.inl ⟨rfl, first⟩
    · exact Or.inr (startsWord_iff.2 ⟨upper, steady before c after split upper first⟩)

end Identifier

end RestConnector
