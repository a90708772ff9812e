import ResidencePortal.Charset.Codes
import ResidencePortal.Charset.Jis0208Table
import ResidencePortal.Charset.Jis0212Table

/-!
# Japanese character sets

Three ways to write the same cells: `shiftJisCode` and `eucJapaneseCode` read codes by their first
byte, and `decodeIso2022Japanese?` is switched between modes by escape sequences.
-/

namespace ResidencePortal.Charset

/-- The cell in a row and column, both counted from a first byte. -/
def jisCell? (base row column : Nat) : Option Nat :=
  if within base (base + 93) row && within base (base + 93) column then
    some ((row - base) * 94 + (column - base))
  else none

/-! ## Codes by their first byte -/

/-- The cell of a code whose rows are taken in pairs. -/
def shiftJisCell? (lead trail : Nat) : Option Nat :=
  let row := (lead - (if lead < 0xA0 then 0x81 else 0xC1)) * 188
  if within 0x40 0x7E trail then some (row + (trail - 0x40))
  else if within 0x80 0xFC trail then some (row + (trail - 0x41))
  else none

/-- The codes with rows in pairs: katakana in one byte, cells in two, and a stretch of private use. -/
def shiftJisCode : CodeReader := fun first rest =>
  let a := first.toNat
  if a ≤ 0x80 then oneByte a
  else if within 0xA1 0xDF a then oneByte (0xFF61 + (a - 0xA1))
  else if a = 0xA0 || 0xFC < a then none
  else
    match rest with
    | [] => none
    | second :: _ => do
      let cell ← shiftJisCell? a second.toNat
      if within 8836 10715 cell then some ([Char.ofNat (0xE000 + (cell - 8836))], 1)
      else twoBytes jis0208Cells (some cell)

/-- The codes with rows from 161 on: a first byte 142 leads to katakana, 143 to the supplement. -/
def eucJapaneseCode : CodeReader := fun first rest =>
  let a := first.toNat
  if a < 0x80 then oneByte a
  else
    match a, rest.map UInt8.toNat with
    | 0x8E, b :: _ => if within 0xA1 0xDF b then some ([Char.ofNat (0xFF61 + (b - 0xA1))], 1) else none
    | 0x8F, b :: c :: _ => do
      let char ← Text.Packed.char? jis0212Cells (← jisCell? 0xA1 b c)
      some ([char], 2)
    | _, b :: _ => twoBytes jis0208Cells (jisCell? 0xA1 a b)
    | _, [] => none

/-! ## Modes switched by escape sequences -/

/-- What the bytes behind an escape sequence mean. -/
inductive JisMode where
  | ascii
  /-- ASCII with a yen sign and an overline. -/
  | roman
  | katakana
  | kanji
deriving Repr, DecidableEq

/-- The mode that the two bytes behind an escape byte choose. -/
def JisMode.ofEscape? : UInt8 → UInt8 → Option JisMode
  | 0x28, 0x42 => some .ascii
  | 0x28, 0x4A => some .roman
  | 0x28, 0x49 => some .katakana
  | 0x24, 0x40 => some .kanji
  | 0x24, 0x42 => some .kanji
  | _, _ => none

/-- A byte of ASCII other than the three that switch. -/
def plainAscii? (b : Nat) : Option Char :=
  if b < 0x80 && b != 0x0E && b != 0x0F && b != 0x1B then some (Char.ofNat b) else none

/-- The character of one byte, outside the kanji mode. -/
def JisMode.char? (mode : JisMode) (b : Nat) : Option Char :=
  match mode with
  | .katakana => if within 0x21 0x5F b then some (Char.ofNat (0xFF61 + (b - 0x21))) else none
  | .roman => if b = 0x5C then some '¥' else if b = 0x7E then some '‾' else plainAscii? b
  | _ => plainAscii? b

/-- The characters of bytes in a mode; `switched` tells that an escape sequence stands right before
them, and a second one must not follow it. -/
def decodeJis? (mode : JisMode) (switched : Bool) : List UInt8 → Option (List Char)
  | [] => some []
  | 0x1B :: a :: b :: rest => do
    guard !switched
    decodeJis? (← JisMode.ofEscape? a b) true rest
  | a :: rest =>
    if mode = .kanji then
      match rest with
      | [] => none
      | b :: rest => do
        let c ← Text.Packed.char? jis0208Cells (← jisCell? 0x21 a.toNat b.toNat)
        let more ← decodeJis? mode false rest
        some (c :: more)
    else do
      let c ← mode.char? a.toNat
      let more ← decodeJis? mode false rest
      some (c :: more)

end ResidencePortal.Charset
