/-!
# UTF-8

Texts as bytes, and bytes as text where damage is made visible: every maximal run of bytes that
cannot be continued to a character becomes one U+FFFD.
-/

namespace ResidencePortal.Text

/-- The UTF-8 bytes of characters. -/
def charBytes (cs : List Char) : List UInt8 := cs.flatMap String.utf8EncodeChar

/-- The UTF-8 bytes of a text. -/
def utf8Bytes (s : String) : List UInt8 := charBytes s.toList

theorem length_utf8Bytes (s : String) : (utf8Bytes s).length = s.utf8ByteSize := by
  have hbytes : (utf8Bytes s).toByteArray = s.toByteArray := String.utf8Encode_toList
  rw [← String.size_toByteArray, ← hbytes, List.size_toByteArray]

/-- A character of which some bytes are still to come. -/
structure OpenChar where
  /-- How many bytes are missing. -/
  missing : Nat
  /-- The bits read so far. -/
  bits : Nat
  /-- The least next byte. -/
  low : Nat
  /-- The greatest next byte. -/
  high : Nat

/-- What marks damaged bytes. -/
def replacement : Char := Char.ofNat 0xFFFD

/-- What a byte begins: a character, an open character, or damage. -/
def startByte (b : Nat) : List Char × Option OpenChar :=
  if b < 0x80 then ([Char.ofNat b], none)
  else if 0xC2 ≤ b ∧ b ≤ 0xDF then ([], some ⟨1, b % 32, 0x80, 0xBF⟩)
  else if b = 0xE0 then ([], some ⟨2, 0, 0xA0, 0xBF⟩)
  else if b = 0xED then ([], some ⟨2, 13, 0x80, 0x9F⟩)
  else if 0xE1 ≤ b ∧ b ≤ 0xEF then ([], some ⟨2, b % 16, 0x80, 0xBF⟩)
  else if b = 0xF0 then ([], some ⟨3, 0, 0x90, 0xBF⟩)
  else if 0xF1 ≤ b ∧ b ≤ 0xF3 then ([], some ⟨3, b % 8, 0x80, 0xBF⟩)
  else if b = 0xF4 then ([], some ⟨3, 4, 0x80, 0x8F⟩)
  else ([replacement], none)

/-- One byte read in the middle of a character, or between characters. -/
def readByte (pending : Option OpenChar) (b : Nat) : List Char × Option OpenChar :=
  match pending with
  | none => startByte b
  | some o =>
    if o.low ≤ b ∧ b ≤ o.high then
      let bits := o.bits * 64 + b % 64
      if o.missing ≤ 1 then ([Char.ofNat bits], none)
      else ([], some ⟨o.missing - 1, bits, 0x80, 0xBF⟩)
    else
      let next := startByte b
      (replacement :: next.1, next.2)

/-- The characters of the bytes, given an open character in front of them. -/
def decodeFrom (pending : Option OpenChar) : List UInt8 → List Char
  | [] => if pending.isSome then [replacement] else []
  | b :: rest =>
    let step := readByte pending b.toNat
    step.1 ++ decodeFrom step.2 rest

/-- The text of the bytes, damage replaced. -/
def decodeLossy (bytes : List UInt8) : String := String.ofList (decodeFrom none bytes)

end ResidencePortal.Text
