import ResidencePortal.Proofs.Text.PercentCoding
import ResidencePortal.Web.Form
import ResidencePortal.Web.Message

/-!
# Paths without escapes

A path is percent-decoded before it is compared with patterns. If it has only ASCII characters and no
percent sign, this changes nothing: every byte is a character, and no byte starts an escape. The names and
values of a form are decoded likewise.

**Results.**
* `Text.decodeLossy_utf8Bytes`: a text of ASCII characters is read back from its bytes.
* `Text.Percent.unescape_of_not_mem`: bytes without a percent sign stay as they are.
* `Web.Path.decoded_of_isPlain`, `Web.Request.decoded_path`: a plain path is routed as it is written.
* `Web.Form.decode_of_isPlain`: a plain piece of a form without a plus sign stands for itself.
-/

namespace ResidencePortal

namespace Text

/-! ## Bytes of ASCII texts -/

theorem charBytes_of_ascii {cs : List Char} (h : ∀ c ∈ cs, c.toNat < 0x80) :
    charBytes cs = cs.map fun c => UInt8.ofNat c.toNat := by
  induction cs with
  | nil => rfl
  | cons c rest ih =>
    rw [charBytes_cons, utf8EncodeChar_of_ascii (h c List.mem_cons_self),
      ih fun d hd => h d (List.mem_cons_of_mem c hd)]
    rfl

/-- Between characters, the byte of an ASCII character is that character. -/
theorem decodeFrom_of_ascii {cs : List Char} (h : ∀ c ∈ cs, c.toNat < 0x80) :
    decodeFrom none (cs.map fun c => UInt8.ofNat c.toNat) = cs := by
  induction cs with
  | nil => rfl
  | cons c rest ih =>
    have hc := h c List.mem_cons_self
    have hstart : startByte c.toNat = ([c], none) := by
      rw [startByte, if_pos hc, Char.ofNat_toNat]
    rw [List.map_cons, decodeFrom, readByte, toNat_byte_of_ascii hc, hstart]
    exact congrArg (c :: ·) (ih fun d hd => h d (List.mem_cons_of_mem c hd))

/-- **Bytes of a text.** A text of ASCII characters is read back from its bytes. -/
theorem decodeLossy_utf8Bytes {s : String} (h : ∀ c ∈ s.toList, c.toNat < 0x80) :
    decodeLossy (utf8Bytes s) = s := by
  rw [decodeLossy, utf8Bytes, charBytes_of_ascii h, decodeFrom_of_ascii h, String.ofList_toList]

/-- Bytes without a percent sign hold no escape. -/
theorem Percent.unescape_of_not_mem (keep : UInt8 → Bool) {bytes : List UInt8} (h : 0x25 ∉ bytes) :
    unescape keep bytes = bytes := by
  induction bytes with
  | nil => rw [unescape]
  | cons b rest ih =>
    have hb : b ≠ 0x25 := fun e => h (e ▸ List.mem_cons_self)
    have hrest := ih fun hmem => h (List.mem_cons_of_mem b hmem)
    rw [unescape, hrest]
    intro hi lo tail heq
    exact absurd heq hb

end Text

namespace Web.Path

open Text

/-- The path has only ASCII characters, and no percent sign. -/
def isPlain (path : String) : Bool := path.toList.all fun c => c.toNat < 0x80 && c != '%'

/-- The bytes of a plain text hold no escape and stand for the text. -/
theorem unescape_of_isPlain {text : String} (h : isPlain text = true) :
    (∀ keep, Percent.unescape keep (utf8Bytes text) = utf8Bytes text) ∧ decodeLossy (utf8Bytes text) = text := by
  have hplain : ∀ c ∈ text.toList, c.toNat < 0x80 ∧ c ≠ '%' := by simpa [isPlain] using h
  have hpercent : 0x25 ∉ utf8Bytes text := by
    intro hmem
    obtain ⟨c, hc, hbyte⟩ := List.mem_flatMap.1 hmem
    exact Percent.percent_not_mem (hplain c hc).2 hbyte
  exact ⟨fun keep => Percent.unescape_of_not_mem keep hpercent,
    decodeLossy_utf8Bytes fun c hc => (hplain c hc).1⟩

/-- **Plain paths.** A plain path is routed as it is written. -/
theorem decoded_of_isPlain {path : String} (h : isPlain path = true) : decoded path = path := by
  obtain ⟨hescapes, hbytes⟩ := unescape_of_isPlain h
  rw [decoded, hescapes, hbytes]

end Web.Path

/-- A request with a plain path is routed by that path. -/
theorem Web.Request.decoded_path {r : Web.Request} {path : String} (hpath : r.path = path)
    (hplain : Web.Path.isPlain path = true) : Web.Path.decoded r.path = path := by
  rw [hpath, Web.Path.decoded_of_isPlain hplain]

open Text in
/-- In a form, a plain piece without a plus sign stands for itself. -/
theorem Web.Form.decode_of_isPlain {text : String} (hplain : Web.Path.isPlain text = true)
    (hplus : '+' ∉ text.toList) : Web.Form.decode text.toList = text := by
  have hspaces : (text.toList.map fun c => if c = '+' then ' ' else c) = text.toList := by
    refine (List.map_congr_left fun c hc => if_neg ?_).trans (List.map_id' _)
    rintro rfl
    exact hplus hc
  obtain ⟨hescapes, hbytes⟩ := Web.Path.unescape_of_isPlain hplain
  rw [Web.Form.decode, hspaces, String.ofList_toList, Percent.decode, Percent.decodeBytes, hescapes, hbytes]

end ResidencePortal
