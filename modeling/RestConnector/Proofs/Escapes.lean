import RestConnector.Text.Percent

/-!
Contract: text that is written with escapes and read back.

Owns:
- `Encodes`, the texts that stand for another one, with the bytes of any of its characters as
  escapes;
- `Utf8.read_character`: the bytes of a character are read as that character;
- `Encodes.decode`: a text that stands for another one is decoded to it.

Does not own: texts whose bytes are no UTF-8 once they are decoded.

An escape is read byte by byte and a character only when all of its bytes are there, so the two
readings are kept apart: the escapes give the bytes of the text, whichever characters were escaped.
-/

namespace RestConnector.Text

namespace Utf8

/-! ## Characters and their bytes -/

section Sequences

variable {byte code : Nat} {rest : List UInt8}

theorem start_two (first : 0xc2 ≤ byte) (last : byte ≤ 0xdf) :
    start byte = .inr ⟨byte % 0x20, 0x80, 0xbf, 1⟩ := by
  unfold start lead?
  rw [if_neg (by omega), if_pos (by omega)]
  rfl

/-- After the first lead byte of three, and after the one whose characters would be surrogates, the
second byte has narrower bounds. -/
theorem start_three (first : 0xe0 ≤ byte) (last : byte ≤ 0xef) :
    start byte = .inr ⟨byte % 0x10, if byte = 0xe0 then 0xa0 else 0x80,
      if byte = 0xed then 0x9f else 0xbf, 2⟩ := by
  unfold start lead?
  rw [if_neg (by omega), if_neg (by omega)]
  by_cases lowest : byte = 0xe0
  · subst lowest
    rfl
  · by_cases surrogate : byte = 0xed
    · subst surrogate
      rfl
    · rw [if_neg lowest, if_neg surrogate, if_pos (by omega), if_neg lowest, if_neg surrogate]
      rfl

theorem start_four (first : 0xf0 ≤ byte) (last : byte ≤ 0xf4) :
    start byte = .inr ⟨byte % 0x8, if byte = 0xf0 then 0x90 else 0x80,
      if byte = 0xf4 then 0x8f else 0xbf, 3⟩ := by
  have one : byte = 0xf0 ∨ byte = 0xf1 ∨ byte = 0xf2 ∨ byte = 0xf3 ∨ byte = 0xf4 := by omega
  rcases one with rfl | rfl | rfl | rfl | rfl <;> rfl

theorem read_opening {opened : Open} (isByte : byte < 0x100) (opens : start byte = .inr opened) :
    read none (UInt8.ofNat byte :: rest) = read (some opened) rest := by
  rw [read, UInt8.toNat_ofNat_of_lt' isByte, opens]

theorem read_next {current : Open} (isByte : byte < 0x100)
    (bounds : current.low ≤ byte ∧ byte ≤ current.high) (isNext : 1 < current.missing) :
    read (some current) (UInt8.ofNat byte :: rest) =
      read (some ⟨current.code * 64 + byte % 64, 0x80, 0xbf, current.missing - 1⟩) rest := by
  rw [read, UInt8.toNat_ofNat_of_lt' isByte, if_pos bounds]
  exact if_neg (Nat.not_le.2 isNext)

/-- The last byte of a sequence completes a character. -/
theorem read_last {current : Open} (isByte : byte < 0x100)
    (bounds : current.low ≤ byte ∧ byte ≤ current.high) (isLast : current.missing = 1)
    (isCode : current.code * 64 + byte % 64 = code) :
    read (some current) (UInt8.ofNat byte :: rest) =
      some (Char.ofNat code) :: read none rest := by
  rw [read, UInt8.toNat_ofNat_of_lt' isByte, if_pos bounds, ← isCode]
  exact if_pos (Nat.le_of_eq isLast)

theorem read_one (isOne : code < 0x80) :
    read none (UInt8.ofNat code :: rest) = some (Char.ofNat code) :: read none rest := by
  have isByte : code < 0x100 := by omega
  rw [read, UInt8.toNat_ofNat_of_lt' isByte, start, if_pos isOne]

theorem read_two (low : 0x80 ≤ code) (high : code < 0x800) :
    read none (UInt8.ofNat (code / 64 % 32 + 192) :: UInt8.ofNat (code % 64 + 128) :: rest) =
      some (Char.ofNat code) :: read none rest := by
  rw [read_opening (by omega) (start_two (by omega) (by omega))]
  exact read_last (by omega) (by simp only; omega) rfl (by simp only; omega)

theorem read_three (low : 0x800 ≤ code) (high : code < 0x10000)
    (noSurrogate : code < 0xd800 ∨ 0xdfff < code) :
    read none (UInt8.ofNat (code / 4096 % 16 + 224) :: UInt8.ofNat (code / 64 % 64 + 128) ::
        UInt8.ofNat (code % 64 + 128) :: rest) =
      some (Char.ofNat code) :: read none rest := by
  have second : (if code / 4096 % 16 + 224 = 0xe0 then 0xa0 else 0x80) ≤ code / 64 % 64 + 128 ∧
      code / 64 % 64 + 128 ≤ if code / 4096 % 16 + 224 = 0xed then 0x9f else 0xbf := by
    constructor
    · split <;> omega
    · split <;> omega
  rw [read_opening (by omega) (start_three (by omega) (by omega)),
    read_next (by omega) second (by simp)]
  exact read_last (by omega) (by simp only; omega) rfl (by simp only; omega)

theorem read_four (low : 0x10000 ≤ code) (high : code < 0x110000) :
    read none (UInt8.ofNat (code / 262144 % 8 + 240) :: UInt8.ofNat (code / 4096 % 64 + 128) ::
        UInt8.ofNat (code / 64 % 64 + 128) :: UInt8.ofNat (code % 64 + 128) :: rest) =
      some (Char.ofNat code) :: read none rest := by
  have second : (if code / 262144 % 8 + 240 = 0xf0 then 0x90 else 0x80) ≤
        code / 4096 % 64 + 128 ∧
      code / 4096 % 64 + 128 ≤ if code / 262144 % 8 + 240 = 0xf4 then 0x8f else 0xbf := by
    constructor
    · split <;> omega
    · split <;> omega
  rw [read_opening (by omega) (start_four (by omega) (by omega)),
    read_next (by omega) second (by simp), read_next (by omega) (by simp only; omega) (by simp)]
  exact read_last (by omega) (by simp only; omega) rfl (by simp only; omega)

end Sequences

/-- The bytes of a character read as that character, whatever follows them. -/
theorem read_character (c : Char) (rest : List UInt8) :
    read none (String.utf8EncodeChar c ++ rest) = some c :: read none rest := by
  have valid : c.toNat < 0xd800 ∨ 0xdfff < c.toNat ∧ c.toNat < 0x110000 := c.valid
  have own : Char.ofNat c.toNat = c := Char.ofNat_toNat c
  unfold String.utf8EncodeChar
  rw [Char.toNat_val]
  simp only
  split
  · have one := @read_one c.toNat rest (by omega)
    rwa [own] at one
  split
  · have two := @read_two c.toNat rest (by omega) (by omega)
    rwa [own] at two
  split
  · have three := @read_three c.toNat rest (by omega) (by omega) (by omega)
    rwa [own] at three
  · have four := @read_four c.toNat rest (by omega) (by omega)
    rwa [own] at four

theorem ofBytes_bytesOf (text : List Char) : ofBytes (Percent.bytesOf text) = text.map some := by
  unfold ofBytes Percent.bytesOf
  induction text with
  | nil => rfl
  | cons c rest inductionHypothesis =>
    rw [List.flatMap_cons, read_character, inductionHypothesis, List.map_cons]

/-- A text is what its bytes stand for. -/
theorem lossy_bytesOf (text : List Char) : lossy (Percent.bytesOf text) = String.ofList text := by
  rw [lossy, ofBytes_bytesOf, List.map_map]
  exact congrArg String.ofList (List.map_id text)

end Utf8

namespace Percent

/-! ## Escapes -/

/-- The hexadecimal digits, each with its value. -/
def digits : List (Char × Nat) :=
  "0123456789abcdef".toList.zipIdx ++ "0123456789ABCDEF".toList.zipIdx

/-- Whether a character is the hexadecimal digit of a value, in either case. -/
def IsDigitOf (value : Nat) (c : Char) : Prop := (c, value) ∈ digits

instance (value : Nat) (c : Char) : Decidable (IsDigitOf value c) :=
  inferInstanceAs (Decidable ((c, value) ∈ digits))

/-- Some bytes, each as a percent sign and two hexadecimal digits. -/
inductive Escapes : List UInt8 → List Char → Prop where
  | nil : Escapes [] []
  | cons {byte : UInt8} {bytes : List UInt8} {high low : Char} {others : List Char}
      (isHigh : IsDigitOf (byte.toNat / 16) high) (isLow : IsDigitOf (byte.toNat % 16) low)
      (escapes : Escapes bytes others) : Escapes (byte :: bytes) ('%' :: high :: low :: others)

/-- A text with the bytes of some of its characters as escapes, among them each percent sign. -/
inductive Encodes : List Char → List Char → Prop where
  | nil : Encodes [] []
  | kept {c : Char} {text written : List Char} (plain : c ≠ '%') (encodes : Encodes text written) :
      Encodes (c :: text) (c :: written)
  | escaped {c : Char} {escape text written : List Char}
      (escapes : Escapes (String.utf8EncodeChar c) escape) (encodes : Encodes text written) :
      Encodes (c :: text) (escape ++ written)

theorem bytesOf_cons (c : Char) (rest : List Char) :
    bytesOf (c :: rest) = String.utf8EncodeChar c ++ bytesOf rest :=
  List.flatMap_cons

theorem bytesOf_append (front back : List Char) :
    bytesOf (front ++ back) = bytesOf front ++ bytesOf back :=
  List.flatMap_append

theorem digits_read : ∀ digit ∈ digits,
    (String.utf8EncodeChar digit.1).map hexDigit? = [some digit.2] := by
  decide

section Digits

variable {value : Nat} {c : Char}

theorem IsDigitOf.read (isDigit : IsDigitOf value c) :
    ∃ byte, String.utf8EncodeChar c = [byte] ∧ hexDigit? byte = some value :=
  List.map_eq_singleton_iff.1 (digits_read _ isDigit)

theorem IsDigitOf.ne_slash (isDigit : IsDigitOf value c) : c ≠ '/' := by
  rintro rfl
  obtain ⟨byte, isByte, isValue⟩ := isDigit.read
  cases isByte
  cases isValue

end Digits

/-- Bytes that are no percent signs are kept, whatever follows them. -/
theorem decodeBytes_append {front : List UInt8} (plain : 0x25 ∉ front) (back : List UInt8) :
    decodeBytes (front ++ back) = front ++ decodeBytes back := by
  induction front with
  | nil => rfl
  | cons byte rest inductionHypothesis =>
    rw [List.mem_cons, not_or] at plain
    have kept : ∀ more, decodeBytes (byte :: more) = byte :: decodeBytes more := by
      intro more
      match more with
      | [] => rfl
      | [next] => rfl
      | high :: low :: more => exact if_neg (Ne.symm plain.1)
    rw [List.cons_append, kept, inductionHypothesis plain.2, List.cons_append]

theorem decodeBytes_escape {byte high low : UInt8}
    (isHigh : hexDigit? high = some (byte.toNat / 16))
    (isLow : hexDigit? low = some (byte.toNat % 16)) (rest : List UInt8) :
    decodeBytes (0x25 :: high :: low :: rest) = byte :: decodeBytes rest := by
  have whole : byte.toNat / 16 * 16 + byte.toNat % 16 = byte.toNat := by omega
  rw [decodeBytes, if_pos rfl, isHigh, isLow]
  simp only [whole, UInt8.ofNat_toNat]

theorem Escapes.decode {bytes : List UInt8} {escape : List Char} (escapes : Escapes bytes escape)
    (rest : List UInt8) : decodeBytes (bytesOf escape ++ rest) = bytes ++ decodeBytes rest := by
  induction escapes with
  | nil => rfl
  | cons isHigh isLow _ inductionHypothesis =>
    obtain ⟨high, highBytes, isHigh⟩ := isHigh.read
    obtain ⟨low, lowBytes, isLow⟩ := isLow.read
    have percent : String.utf8EncodeChar '%' = [0x25] := rfl
    rw [bytesOf_cons, bytesOf_cons, bytesOf_cons, percent, highBytes, lowBytes]
    simp only [List.cons_append, List.nil_append]
    rw [decodeBytes_escape isHigh isLow, inductionHypothesis]

/-- A byte of a character is the code of the character, unless it is none of ASCII. -/
theorem toNat_of_mem_utf8EncodeChar {c : Char} {byte : UInt8}
    (inside : byte ∈ String.utf8EncodeChar c) : byte.toNat = c.toNat ∨ 0x80 ≤ byte.toNat := by
  unfold String.utf8EncodeChar at inside
  rw [Char.toNat_val] at inside
  simp only at inside
  split at inside
  · rw [List.mem_singleton.1 inside, UInt8.toNat_ofNat']
    omega
  refine Or.inr ?_
  split at inside
  · simp only [List.mem_cons, List.not_mem_nil, or_false] at inside
    rcases inside with rfl | rfl <;> rw [UInt8.toNat_ofNat'] <;> omega
  split at inside
  · simp only [List.mem_cons, List.not_mem_nil, or_false] at inside
    rcases inside with rfl | rfl | rfl <;> rw [UInt8.toNat_ofNat'] <;> omega
  · simp only [List.mem_cons, List.not_mem_nil, or_false] at inside
    rcases inside with rfl | rfl | rfl | rfl <;> rw [UInt8.toNat_ofNat'] <;> omega

theorem percent_not_mem {c : Char} (plain : c ≠ '%') : 0x25 ∉ String.utf8EncodeChar c := by
  intro inside
  rcases toNat_of_mem_utf8EncodeChar inside with same | isHigh
  · exact plain (Char.toNat_inj.1 same.symm)
  · exact absurd isHigh (by decide)

/-- An encoded text decodes to itself. -/
theorem Encodes.decodeBytes {text written : List Char} (encodes : Encodes text written) :
    decodeBytes (bytesOf written) = bytesOf text := by
  induction encodes with
  | nil => rfl
  | kept plain _ inductionHypothesis =>
    rw [bytesOf_cons, decodeBytes_append (percent_not_mem plain), inductionHypothesis,
      ← bytesOf_cons]
  | escaped escapes _ inductionHypothesis =>
    rw [bytesOf_append, escapes.decode, inductionHypothesis, ← bytesOf_cons]

theorem Encodes.decode {text written : List Char} (encodes : Encodes text written) :
    decode (String.ofList written) = String.ofList text := by
  rw [Percent.decode, String.toList_ofList, encodes.decodeBytes, Utf8.lossy_bytesOf]

theorem Escapes.slash_not_mem {bytes : List UInt8} {escape : List Char}
    (escapes : Escapes bytes escape) : '/' ∉ escape := by
  induction escapes with
  | nil => exact List.not_mem_nil
  | cons isHigh isLow _ inductionHypothesis =>
    have noPercent : '/' ≠ '%' := by decide
    simp [noPercent, isHigh.ne_slash.symm, isLow.ne_slash.symm, inductionHypothesis]

/-- No escape brings a slash with it. -/
theorem Encodes.slash_not_mem {text written : List Char} (encodes : Encodes text written)
    (noSlash : '/' ∉ text) : '/' ∉ written := by
  induction encodes with
  | nil => exact List.not_mem_nil
  | kept _ _ inductionHypothesis =>
    rw [List.mem_cons, not_or] at noSlash ⊢
    exact ⟨noSlash.1, inductionHypothesis noSlash.2⟩
  | escaped escapes _ inductionHypothesis =>
    rw [List.mem_cons, not_or] at noSlash
    rw [List.mem_append, not_or]
    exact ⟨escapes.slash_not_mem, inductionHypothesis noSlash.2⟩

end Percent

end RestConnector.Text
