import RestConnector.Text.Utf8

/-!
Contract: percent-encoded text.

Owns:
- `decodeBytes`, which replaces each `%` that two hexadecimal digits follow by the byte they name
  and keeps every other byte;
- `decode`, the text of those bytes.

Does not own: which characters a writer has to encode.
-/

namespace RestConnector.Text.Percent

/-- The value of a hexadecimal digit given as a byte. -/
def hexDigit? (byte : UInt8) : Option Nat :=
  let code := byte.toNat
  if 0x30 ≤ code ∧ code ≤ 0x39 then some (code - 0x30)
  else if 0x41 ≤ code ∧ code ≤ 0x46 then some (code - 0x41 + 10)
  else if 0x61 ≤ code ∧ code ≤ 0x66 then some (code - 0x61 + 10)
  else none

/-- Replace the escapes of a byte sequence. -/
def decodeBytes : List UInt8 → List UInt8
  | [] => []
  | [byte] => [byte]
  | [first, second] => [first, second]
  | byte :: high :: low :: rest =>
    if byte = 0x25 then
      match hexDigit? high, hexDigit? low with
      | some upper, some lower => UInt8.ofNat (upper * 16 + lower) :: decodeBytes rest
      | _, _ => byte :: decodeBytes (high :: low :: rest)
    else
      byte :: decodeBytes (high :: low :: rest)

def bytesOf (text : List Char) : List UInt8 :=
  text.flatMap String.utf8EncodeChar

/-- Replace the escapes of a text; bytes that are no UTF-8 become replacement characters. -/
def decode (text : String) : String :=
  Utf8.lossy (decodeBytes (bytesOf text.toList))

end RestConnector.Text.Percent
