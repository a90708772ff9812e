import ResidencePortal.Charset.Basic
import ResidencePortal.Charset.Chinese
import ResidencePortal.Charset.Japanese
import ResidencePortal.Charset.Korean
import ResidencePortal.Text.Utf8

/-!
# Text in a character set

The bytes of a form are read in the character set of its header. A byte sequence without a meaning
makes the whole unreadable; nothing is replaced.
-/

namespace ResidencePortal.Charset

open Text

/-- The unit of two bytes. -/
def ByteOrder.unit (order : ByteOrder) (a b : UInt8) : Nat :=
  match order with
  | .highFirst => a.toNat * 256 + b.toNat
  | .lowFirst => b.toNat * 256 + a.toNat

/-- The codes of UTF-16: one unit, or a high and a low surrogate. -/
def utf16Code (order : ByteOrder) : CodeReader := fun a rest =>
  match rest with
  | [] => none
  | b :: rest =>
    let n := order.unit a b
    if within 0xDC00 0xDFFF n then none
    else if within 0xD800 0xDBFF n then
      match rest with
      | c :: d :: _ =>
        let low := order.unit c d
        if within 0xDC00 0xDFFF low then
          some ([Char.ofNat (0x10000 + (n - 0xD800) * 1024 + (low - 0xDC00))], 3)
        else none
      | _ => none
    else some ([Char.ofNat n], 1)

/-- The codes of the set in which the upper bytes are for private use. -/
def userDefinedCode : CodeReader := fun a _ =>
  oneByte (if a < 128 then a.toNat else 0xF780 + (a.toNat - 128))

/-- UTF-8 without damage. -/
def decodeUtf8? (bytes : List UInt8) : Option (List Char) :=
  let cs := decodeFrom none bytes
  if charBytes cs = bytes then some cs else none

/-- The characters that bytes stand for. -/
def decode? : Charset → List UInt8 → Option (List Char)
  | .utf8 => decodeUtf8?
  | .utf16 order => (utf16Code order).decode?
  | .codePage p => p.decode?
  | .userDefined => CodeReader.decode? userDefinedCode
  | .gb18030 => CodeReader.decode? gb18030Code
  | .big5 => CodeReader.decode? big5Code
  | .eucKorean => CodeReader.decode? koreanCode
  | .eucJapanese => CodeReader.decode? eucJapaneseCode
  | .shiftJis => CodeReader.decode? shiftJisCode
  | .iso2022Japanese => decodeJis? .ascii false

/-- The text that the bytes of a body stand for. A body in UTF-8 is taken as it is. -/
def text? (charset : Charset) (body : String) : Option String :=
  if charset = .utf8 then some body
  else (charset.decode? (utf8Bytes body)).map String.ofList

end ResidencePortal.Charset
