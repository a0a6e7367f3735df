/-!
Contract: characters from bytes.

Owns:
- `ofBytes`, the reading of bytes as UTF-8 in which each ill-formed stretch stands as one hole;
- `strict` and `lossy`, the two ways to make a text of it.

Does not own: the writing of bytes, which the core library has as `String.toUTF8`.

An ill-formed stretch is a longest initial part of a well-formed sequence, or one byte that starts
none.
-/

namespace RestConnector.Text

/-- A character of the input, or a hole where its bytes are ill-formed. -/
abbrev Symbol := Option Char

namespace Utf8

/-- The bounds of the byte after a lead byte, and the number of bytes that follow it. -/
def lead? (byte : Nat) : Option (Nat × Nat × Nat) :=
  if 0xc2 ≤ byte ∧ byte ≤ 0xdf then some (0x80, 0xbf, 1)
  else if byte = 0xe0 then some (0xa0, 0xbf, 2)
  else if byte = 0xed then some (0x80, 0x9f, 2)
  else if 0xe1 ≤ byte ∧ byte ≤ 0xef then some (0x80, 0xbf, 2)
  else if byte = 0xf0 then some (0x90, 0xbf, 3)
  else if 0xf1 ≤ byte ∧ byte ≤ 0xf3 then some (0x80, 0xbf, 3)
  else if byte = 0xf4 then some (0x80, 0x8f, 3)
  else none

/-- The state inside a sequence: the bits so far, the bounds of the next byte and the number of
bytes still to come. -/
structure Open where
  code : Nat
  low : Nat
  high : Nat
  missing : Nat
deriving Repr, DecidableEq

/-- What a byte outside every sequence stands for, or the sequence that it opens. -/
def start (byte : Nat) : Symbol ⊕ Open :=
  if byte < 0x80 then .inl (some (Char.ofNat byte))
  else
    match lead? byte with
    | none => .inl none
    | some (low, high, missing) => .inr ⟨byte % (0x40 >>> missing), low, high, missing⟩

/-- Read bytes from inside a sequence, or from outside of one. -/
def read : Option Open → List UInt8 → List Symbol
  | none, [] => []
  | some _, [] => [none]
  | none, byte :: rest =>
    match start byte.toNat with
    | .inl symbol => symbol :: read none rest
    | .inr opened => read (some opened) rest
  | some current, byte :: rest =>
    if current.low ≤ byte.toNat ∧ byte.toNat ≤ current.high then
      let code := current.code * 64 + byte.toNat % 64
      if current.missing ≤ 1 then some (Char.ofNat code) :: read none rest
      else read (some ⟨code, 0x80, 0xbf, current.missing - 1⟩) rest
    else
      none ::
        match start byte.toNat with
        | .inl symbol => symbol :: read none rest
        | .inr opened => read (some opened) rest

/-- The characters that some bytes stand for. -/
def ofBytes (bytes : List UInt8) : List Symbol :=
  read none bytes

/-- The text of bytes that are well-formed throughout. -/
def strict (bytes : List UInt8) : Option String :=
  ((ofBytes bytes).mapM id).map String.ofList

/-- The text of bytes with a replacement character for each ill-formed stretch. -/
def lossy (bytes : List UInt8) : String :=
  String.ofList ((ofBytes bytes).map (·.getD '\ufffd'))

end Utf8

end RestConnector.Text
