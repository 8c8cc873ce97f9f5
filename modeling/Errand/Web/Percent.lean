import Errand.Text.Quoted

/-!
# Percent encoding

`encode` writes a text as an address part: the letters, digits and `-`, `_`,
`.`, `~` stand for themselves, and every other byte of the text's UTF-8 form is
written as a percent sign and two hexadecimal digits. `decode?` reads such a
part back: a percent sign with two hexadecimal digits behind it is a byte,
everything else stays. The bytes must be UTF-8.

Both stand for the library that the program encodes and decodes address parts
with. It documents the characters that stay, which are the unreserved ones of
the standard for addresses, and that a percent sign without two digits behind
it is left as it is.
-/

namespace Errand.Percent

/-- The byte stands for itself. -/
def isUnreserved (b : UInt8) : Bool :=
  (0x30 ≤ b && b ≤ 0x39) || (0x41 ≤ b && b ≤ 0x5A) || (0x61 ≤ b && b ≤ 0x7A) ||
    b == 0x2D || b == 0x5F || b == 0x2E || b == 0x7E

/-- The upper-case hexadecimal digit of a number below sixteen. -/
def upperHexDigit (d : Nat) : Char :=
  if d < 10 then Char.ofNat (0x30 + d) else Char.ofNat (0x37 + d % 16)

/-- A percent sign and the two digits of a byte. -/
def escapeByte (b : UInt8) : List Char :=
  ['%', upperHexDigit (b.toNat / 16), upperHexDigit (b.toNat % 16)]

/-- One byte as it is written. -/
def encodeByte (b : UInt8) : List Char :=
  if isUnreserved b then [Char.ofNat b.toNat] else escapeByte b

/-- The bytes of a text in UTF-8. -/
def bytesOf (cs : List Char) : List UInt8 := cs.flatMap String.utf8EncodeChar

/-- The text as an address part. -/
def encodeChars (cs : List Char) : List Char := (bytesOf cs).flatMap encodeByte

/-- The text as an address part. -/
def encode (s : String) : String := String.ofList (encodeChars s.toList)

/-- The value of a byte that is a hexadecimal digit. -/
def hexByte? (b : UInt8) : Option UInt8 :=
  if 0x30 ≤ b ∧ b ≤ 0x39 then some (b - 0x30)
  else if 0x61 ≤ b ∧ b ≤ 0x66 then some (b - 0x57)
  else if 0x41 ≤ b ∧ b ≤ 0x46 then some (b - 0x37)
  else none

/-- The bytes that an encoded part stands for. -/
def decodeBytes : List UInt8 → List UInt8
  | [] => []
  | [b] => [b]
  | [b, c] => [b, c]
  | b :: c :: d :: rest =>
    if b = 0x25 then
      match hexByte? c, hexByte? d with
      | some hi, some lo => (hi * 16 + lo) :: decodeBytes rest
      | _, _ => b :: decodeBytes (c :: d :: rest)
    else b :: decodeBytes (c :: d :: rest)

/-- The text of bytes in UTF-8, if they are UTF-8. -/
def textOf? (bytes : List UInt8) : Option String :=
  String.fromUTF8? ⟨bytes.toArray⟩

/-- The text that an encoded part stands for, if its bytes are UTF-8. -/
def decode? (s : String) : Option String :=
  textOf? (decodeBytes (bytesOf s.toList))

end Errand.Percent
