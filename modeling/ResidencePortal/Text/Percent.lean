import ResidencePortal.Text.Chars
import ResidencePortal.Text.Utf8

/-!
# Percent coding

`encode` writes the UTF-8 bytes of a text with only the unreserved characters `A-Z a-z 0-9 - . _ ~`
left as they are. `unescape` reads triples `%XX` back; a percent sign that starts no triple stands for
itself, and the caller may name bytes that stay escaped.
-/

namespace ResidencePortal.Text.Percent

/-- The bytes that need no escape. -/
def isUnreserved (b : UInt8) : Bool :=
  (0x41 ≤ b && b ≤ 0x5A) || (0x61 ≤ b && b ≤ 0x7A) || (0x30 ≤ b && b ≤ 0x39) ||
    b == 0x2D || b == 0x2E || b == 0x5F || b == 0x7E

/-- One byte in percent coding. -/
def encodeByte (b : UInt8) : List Char :=
  if isUnreserved b then [Char.ofNat b.toNat]
  else ['%', upperHexDigit (b.toNat / 16), upperHexDigit (b.toNat % 16)]

/-- The text in percent coding. -/
def encode (s : String) : String := String.ofList ((utf8Bytes s).flatMap encodeByte)

/-- The byte that two hexadecimal digits denote. -/
def byteOf? (hi lo : UInt8) : Option UInt8 :=
  match hexValue? (Char.ofNat hi.toNat), hexValue? (Char.ofNat lo.toNat) with
  | some h, some l => some (UInt8.ofNat (h * 16 + l))
  | _, _ => none

/-- The bytes with every triple `%XX` read, unless its byte is one to keep escaped. -/
def unescape (keep : UInt8 → Bool) : List UInt8 → List UInt8
  | 0x25 :: tail@(hi :: lo :: rest) =>
    match byteOf? hi lo with
    | some x => if keep x then 0x25 :: unescape keep tail else x :: unescape keep rest
    | none => 0x25 :: unescape keep tail
  | b :: rest => b :: unescape keep rest
  | [] => []

/-- The bytes that the percent-coded text stands for. -/
def decodeBytes (s : String) : List UInt8 := unescape (fun _ => false) (utf8Bytes s)

/-- The text that the percent-coded text stands for, damage replaced. -/
def decode (s : String) : String := decodeLossy (decodeBytes s)

end ResidencePortal.Text.Percent
