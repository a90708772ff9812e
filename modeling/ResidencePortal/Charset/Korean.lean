import ResidencePortal.Charset.Codes
import ResidencePortal.Charset.KoreanTable

/-!
# The Korean character set

Codes of one and two bytes.
-/

namespace ResidencePortal.Charset

/-- The codes of the Korean set. -/
def koreanCode : CodeReader := fun first rest =>
  let a := first.toNat
  if a < 0x80 then oneByte a
  else if a = 0x80 || a = 0xFF then none
  else
    match rest with
    | [] => none
    | second :: _ =>
      let b := second.toNat
      twoBytes koreanCells (if within 0x41 0xFE b then some ((a - 0x81) * 190 + (b - 0x41)) else none)

end ResidencePortal.Charset
