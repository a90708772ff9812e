import ResidencePortal.Charset.Big5Table
import ResidencePortal.Charset.Codes
import ResidencePortal.Charset.Gb18030Table

/-!
# Chinese character sets

`gb18030` reads codes of one, two and four bytes; the codes of two bytes are those of the older sets
that it extends. `big5` reads codes of one and two bytes, four of which stand for a letter with an
accent behind it.
-/

namespace ResidencePortal.Charset

/-! ## GB 18030 -/

/-- The cell of a code of two bytes. -/
def gb18030Cell? (lead trail : Nat) : Option Nat :=
  if within 0x40 0x7E trail then some ((lead - 0x81) * 190 + (trail - 0x40))
  else if within 0x80 0xFE trail then some ((lead - 0x81) * 190 + (trail - 0x41))
  else none

/-- The stretch in which a number lies: the last that starts at or before it. -/
def stretchOf? (stretches : List (Nat × Nat)) (n : Nat) : Option (Nat × Nat) :=
  (stretches.takeWhile fun s => s.1 ≤ n).getLast?

/-- The code point of the four-byte code with a number. -/
def gb18030Point? (n : Nat) : Option Nat :=
  if n = 7457 then some 0xE7C7
  else if n ≤ 39419 then (stretchOf? gb18030Stretches n).map fun s => s.2 + (n - s.1)
  else if within 189000 1237575 n then some (0x10000 + (n - 189000))
  else none

/-- The codes of GB 18030. -/
def gb18030Code : CodeReader := fun first rest =>
  let a := first.toNat
  if a < 0x80 then oneByte a
  else if a = 0x80 then oneByte 0x20AC
  else if a = 0xFF then none
  else
    match rest.map UInt8.toNat with
    | [] => none
    | b :: more =>
      if within 0x30 0x39 b then
        match more with
        | c :: d :: _ => do
          guard (within 0x81 0xFE c && within 0x30 0x39 d)
          let n ← gb18030Point? ((((a - 0x81) * 10 + (b - 0x30)) * 126 + (c - 0x81)) * 10 + (d - 0x30))
          some ([Char.ofNat n], 3)
        | _ => none
      else twoBytes gb18030Cells (gb18030Cell? a b)

/-! ## Big5 -/

/-- The cell of a code. -/
def big5Cell? (lead trail : Nat) : Option Nat :=
  if within 0x40 0x7E trail then some ((lead - 0x81) * 157 + (trail - 0x40))
  else if within 0xA1 0xFE trail then some ((lead - 0x81) * 157 + (trail - 0x62))
  else none

/-- The cells that hold a letter and an accent. -/
def big5Pairs : List (Nat × List Nat) :=
  [(1133, [0xCA, 0x304]), (1135, [0xCA, 0x30C]), (1164, [0xEA, 0x304]), (1166, [0xEA, 0x30C])]

/-- The codes of Big5. -/
def big5Code : CodeReader := fun first rest =>
  let a := first.toNat
  if a < 0x80 then oneByte a
  else if a = 0x80 || a = 0xFF then none
  else
    match rest with
    | [] => none
    | second :: _ =>
      let cell := big5Cell? a second.toNat
      match big5Pairs.find? fun p => cell = some p.1 with
      | some p => some (p.2.map Char.ofNat, 1)
      | none => twoBytes big5Cells cell

end ResidencePortal.Charset
