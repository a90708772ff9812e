import ResidencePortal.Proofs.Text.ByteOrder
import ResidencePortal.Text.Percent

/-!
# Percent coding and its reader

The reader of percent-coded text looks at bytes: a percent sign with two hexadecimal digits behind it stands
for one byte, and everything else for itself. In UTF-8 the bytes of an ASCII character are found nowhere but
in that character, so the escapes among the bytes are the escapes among the characters.

**Results.**
* `charBytes_eq_cons`: a byte below 0x80 in front is the byte of the first character.
* `Percent.unescape_eq_self_iff`, `Percent.decodeBytes_eq_iff`: exactly the texts without escapes stand for
  themselves.
* `Percent.decodeBytes_encode`: the coded text stands for the text.
* `Percent.not_mem_encode`: what divides addresses is always coded.
* `Percent.coded_encode`, `Percent.encode_inj`: coded text holds unreserved characters and triples only, and
  different texts are coded differently.
-/

namespace ResidencePortal.Text

/-! ## Bytes of characters -/

theorem charBytes_cons (c : Char) (cs : List Char) :
    charBytes (c :: cs) = String.utf8EncodeChar c ++ charBytes cs := List.flatMap_cons

theorem charBytes_append (cs ds : List Char) : charBytes (cs ++ ds) = charBytes cs ++ charBytes ds :=
  List.flatMap_append

/-- An ASCII character has one byte. -/
theorem utf8EncodeChar_of_ascii {c : Char} (h : c.toNat < 0x80) :
    String.utf8EncodeChar c = [UInt8.ofNat c.toNat] := if_pos (Nat.le_of_lt_succ h)

theorem toNat_byte_of_ascii {c : Char} (h : c.toNat < 0x80) : (UInt8.ofNat c.toNat).toNat = c.toNat := by
  rw [UInt8.toNat_ofNat']
  exact Nat.mod_eq_of_lt (by omega)

/-- The bytes of any other character are no bytes of ASCII characters. -/
theorem le_of_mem_utf8EncodeChar {c : Char} (h : 0x80 ≤ c.toNat) {b : UInt8}
    (hb : b ∈ String.utf8EncodeChar c) : 0x80 ≤ b.toNat := by
  have htail : ∀ k n, ∀ x ∈ tailBytes k n, 0x80 ≤ x.toNat := by
    intro k
    induction k with
    | zero => intro n x hx; cases hx
    | succ k ih =>
      intro n x hx
      rw [tailBytes, List.mem_append, List.mem_singleton] at hx
      rcases hx with hx | rfl
      · exact ih (n / 64) x hx
      · rw [UInt8.toNat_ofNat']
        omega
  rw [encode_eq, List.mem_cons] at hb
  rcases hb with rfl | hb
  · have hlt := leadByte_lt_256 (toNat_lt_codePoints c)
    have hlead : 0x80 ≤ leadByte c.val.toNat := by
      have hc : 0x80 ≤ c.val.toNat := h
      unfold leadByte tailLength
      split_ifs <;> simp only [leadMark] <;> omega
    rw [UInt8.toNat_ofNat', Nat.mod_eq_of_lt hlt]
    exact hlead
  · exact htail _ _ b hb

/-- A byte below 0x80 in front is the byte of the first character. -/
theorem charBytes_eq_cons {cs : List Char} {b : UInt8} {rest : List UInt8} (hb : b.toNat < 0x80)
    (h : charBytes cs = b :: rest) :
    ∃ c tail, cs = c :: tail ∧ c.toNat = b.toNat ∧ charBytes tail = rest := by
  cases cs with
  | nil => cases h
  | cons c tail =>
    rw [charBytes_cons] at h
    by_cases hc : c.toNat < 0x80
    · rw [utf8EncodeChar_of_ascii hc, List.singleton_append, List.cons.injEq] at h
      exact ⟨c, tail, rfl, h.1 ▸ (toNat_byte_of_ascii hc).symm, h.2⟩
    · have hmem : b ∈ String.utf8EncodeChar c := by
        rw [encode_eq, List.cons_append, List.cons.injEq] at h
        rw [encode_eq, h.1]
        exact List.mem_cons_self
      have hle := le_of_mem_utf8EncodeChar (Nat.le_of_not_lt hc) hmem
      omega

namespace Percent

/-! ## Escapes -/

/-- A percent sign stands in the text with two hexadecimal digits behind it. -/
def HoldsEscape (cs : List Char) : Prop :=
  ∃ front hi lo back, cs = front ++ '%' :: hi :: lo :: back ∧ (hexValue? hi).isSome = true ∧
    (hexValue? lo).isSome = true

/-- The same among bytes. -/
def HoldsByteEscape (bytes : List UInt8) : Prop :=
  ∃ front hi lo back, bytes = front ++ 0x25 :: hi :: lo :: back ∧ (byteOf? hi lo).isSome = true

/-- Where no escape starts with the first byte, the escapes are those of the rest. -/
theorem holdsByteEscape_cons_iff {b : UInt8} {rest : List UInt8}
    (h : ∀ hi lo back, b = 0x25 → rest = hi :: lo :: back → byteOf? hi lo = none) :
    HoldsByteEscape (b :: rest) ↔ HoldsByteEscape rest := by
  constructor
  · rintro ⟨front, hi, lo, back, hbytes, hescape⟩
    cases front with
    | nil =>
      rw [List.nil_append, List.cons.injEq] at hbytes
      rw [h hi lo back hbytes.1 hbytes.2] at hescape
      cases hescape
    | cons x front =>
      rw [List.cons_append, List.cons.injEq] at hbytes
      exact ⟨front, hi, lo, back, hbytes.2, hescape⟩
  · rintro ⟨front, hi, lo, back, rfl, hescape⟩
    exact ⟨b :: front, hi, lo, back, rfl, hescape⟩

/-- Reading escapes never makes bytes more. -/
theorem length_unescape_le (keep : UInt8 → Bool) (bytes : List UInt8) :
    (unescape keep bytes).length ≤ bytes.length := by
  fun_induction unescape keep bytes with
  | case1 hi lo rest x _ _ ih => simp only [List.length_cons] at ih ⊢; omega
  | case2 hi lo rest x _ _ ih => simp only [List.length_cons] at ih ⊢; omega
  | case3 hi lo rest _ ih => simp only [List.length_cons] at ih ⊢; omega
  | case4 b rest _ ih => simp only [List.length_cons] at ih ⊢; omega
  | case5 => exact Nat.le_refl 0

/-- **Bytes without escapes**, and only these, stand for themselves: an escape that is read leaves less. -/
theorem unescape_eq_self_iff {bytes : List UInt8} :
    unescape (fun _ => false) bytes = bytes ↔ ¬ HoldsByteEscape bytes := by
  fun_induction unescape (fun _ => false) bytes with
  | case1 hi lo rest x _ hkeep _ => cases hkeep
  | case2 hi lo rest x hx _ _ =>
    have hlength := length_unescape_le (fun _ => false) rest
    refine ⟨fun heq => ?_, fun hnone => ?_⟩
    · have hsame := congrArg List.length heq
      simp only [List.length_cons] at hsame
      omega
    · exact absurd ⟨[], hi, lo, rest, rfl, by rw [hx]; rfl⟩ hnone
  | case3 hi lo rest hx ih =>
    have hhead : ∀ hi' lo' back, (0x25 : UInt8) = 0x25 → hi :: lo :: rest = hi' :: lo' :: back →
        byteOf? hi' lo' = none := by
      rintro _ _ _ - ⟨⟩
      exact hx
    rw [List.cons.injEq, holdsByteEscape_cons_iff hhead, ← ih]
    exact and_iff_right rfl
  | case4 b rest hb ih =>
    rw [List.cons.injEq, holdsByteEscape_cons_iff fun hi lo back hpercent heq =>
      (hb hi lo back hpercent heq).elim, ← ih]
    exact and_iff_right rfl
  | case5 =>
    refine iff_of_true rfl ?_
    rintro ⟨front, hi, lo, back, hnil, -⟩
    cases front <;> cases hnil

/-! ## Escapes among characters -/

theorem toNat_ofNat_byte (b : UInt8) : (Char.ofNat b.toNat).toNat = b.toNat := by
  have hvalid : b.toNat.isValidChar := Or.inl (Nat.lt_trans b.toNat_lt (by decide))
  rw [Char.ofNat, dif_pos hvalid]
  rfl

theorem ascii_of_hexValue? {c : Char} (h : (hexValue? c).isSome = true) : c.toNat < 0x80 := by
  have hle : ∀ d : Char, c ≤ d → c.toNat ≤ d.toNat := fun _ hcd => hcd
  unfold hexValue? at h
  split at h
  · exact Nat.lt_of_le_of_lt (hle '9' (by simp_all)) (by decide)
  split at h
  · exact Nat.lt_of_le_of_lt (hle 'f' (by simp_all)) (by decide)
  split at h
  · exact Nat.lt_of_le_of_lt (hle 'F' (by simp_all)) (by decide)
  · cases h

theorem isSome_byteOf?_iff {hi lo : UInt8} : (byteOf? hi lo).isSome = true ↔
    (hexValue? (Char.ofNat hi.toNat)).isSome = true ∧ (hexValue? (Char.ofNat lo.toNat)).isSome = true := by
  unfold byteOf?
  cases hexValue? (Char.ofNat hi.toNat) <;> cases hexValue? (Char.ofNat lo.toNat) <;> simp

/-- A byte that is read as a hexadecimal digit is the byte of the first character. -/
theorem digit_of_charBytes {cs : List Char} {b : UInt8} {rest : List UInt8}
    (hdigit : (hexValue? (Char.ofNat b.toNat)).isSome = true) (h : charBytes cs = b :: rest) :
    ∃ tail, cs = Char.ofNat b.toNat :: tail ∧ charBytes tail = rest := by
  have hb : b.toNat < 0x80 := toNat_ofNat_byte b ▸ ascii_of_hexValue? hdigit
  obtain ⟨c, tail, rfl, hc, hrest⟩ := charBytes_eq_cons hb h
  refine ⟨tail, ?_, hrest⟩
  rw [← hc, Char.ofNat_toNat]

/-- The percent sign is found in no other character. -/
theorem percent_not_mem {c : Char} (h : c ≠ '%') : 0x25 ∉ String.utf8EncodeChar c := by
  intro hmem
  by_cases hc : c.toNat < 0x80
  · rw [utf8EncodeChar_of_ascii hc, List.mem_singleton] at hmem
    have hcode : c.toNat = '%'.toNat := by
      rw [← toNat_byte_of_ascii hc, ← hmem]
      rfl
    exact h (Char.toNat_inj.1 hcode)
  · have hle := le_of_mem_utf8EncodeChar (Nat.le_of_not_lt hc) hmem
    exact absurd hle (by decide)

theorem holdsByteEscape_append_iff {front bytes : List UInt8} (h : 0x25 ∉ front) :
    HoldsByteEscape (front ++ bytes) ↔ HoldsByteEscape bytes := by
  induction front with
  | nil => rfl
  | cons b front ih =>
    rw [List.mem_cons, not_or] at h
    rw [List.cons_append, holdsByteEscape_cons_iff fun hi lo back hb => absurd hb.symm h.1, ih h.2]

theorem HoldsEscape.cons {cs : List Char} (h : HoldsEscape cs) (c : Char) : HoldsEscape (c :: cs) := by
  obtain ⟨front, hi, lo, back, rfl, hdigits⟩ := h
  exact ⟨c :: front, hi, lo, back, rfl, hdigits⟩

/-- The escapes among the bytes of a text are those among its characters. -/
theorem holdsByteEscape_charBytes_iff {cs : List Char} :
    HoldsByteEscape (charBytes cs) ↔ HoldsEscape cs := by
  constructor
  · intro h
    induction cs with
    | nil =>
      obtain ⟨front, hi, lo, back, hnil, -⟩ := h
      cases front <;> cases hnil
    | cons c cs ih =>
      rw [charBytes_cons] at h
      by_cases hc : c = '%'
      · subst hc
        by_cases hescape : ∃ hi lo back, charBytes cs = hi :: lo :: back ∧ (byteOf? hi lo).isSome = true
        · obtain ⟨hi, lo, back, hbytes, hsome⟩ := hescape
          obtain ⟨hhi, hlo⟩ := isSome_byteOf?_iff.1 hsome
          obtain ⟨tail, rfl, htail⟩ := digit_of_charBytes hhi hbytes
          obtain ⟨rest, rfl, -⟩ := digit_of_charBytes hlo htail
          exact ⟨[], _, _, rest, rfl, hhi, hlo⟩
        · refine (ih ((holdsByteEscape_cons_iff fun hi lo back _ hbytes => ?_).1 h)).cons '%'
          cases hbyte : byteOf? hi lo with
          | none => rfl
          | some x => exact absurd ⟨hi, lo, back, hbytes, by rw [hbyte]; rfl⟩ hescape
      · exact (ih ((holdsByteEscape_append_iff (percent_not_mem hc)).1 h)).cons c
  · rintro ⟨front, hi, lo, back, rfl, hhi, hlo⟩
    refine ⟨charBytes front, UInt8.ofNat hi.toNat, UInt8.ofNat lo.toNat, charBytes back, ?_, ?_⟩
    · rw [charBytes_append, charBytes_cons, charBytes_cons, charBytes_cons,
        utf8EncodeChar_of_ascii (ascii_of_hexValue? hhi), utf8EncodeChar_of_ascii (ascii_of_hexValue? hlo)]
      rfl
    · rw [isSome_byteOf?_iff, toNat_byte_of_ascii (ascii_of_hexValue? hhi),
        toNat_byte_of_ascii (ascii_of_hexValue? hlo), Char.ofNat_toNat, Char.ofNat_toNat]
      exact ⟨hhi, hlo⟩

/-- **Texts without escapes**, and only these, stand for themselves. -/
theorem decodeBytes_eq_iff {s : String} : decodeBytes s = utf8Bytes s ↔ ¬ HoldsEscape s.toList := by
  rw [decodeBytes, unescape_eq_self_iff, utf8Bytes, holdsByteEscape_charBytes_iff]

/-! ## Coded text -/

/-- What ends a segment of an address. -/
def dividers : List Char := ['/', '?', '#']

/-- An unreserved byte is an ASCII character, and none of those that mark or divide. -/
theorem of_isUnreserved {b : UInt8} (h : isUnreserved b = true) :
    b.toNat < 0x80 ∧ b ≠ 0x25 ∧ Char.ofNat b.toNat ∉ dividers := by
  have hall : ∀ n < 256, isUnreserved (UInt8.ofNat n) = true →
      n < 0x80 ∧ UInt8.ofNat n ≠ 0x25 ∧ Char.ofNat n ∉ dividers := by
    decide +kernel
  have hb := hall b.toNat b.toNat_lt
  rw [UInt8.ofNat_toNat] at hb
  exact hb h

theorem upperHexDigit_ascii : ∀ n < 16, (upperHexDigit n).toNat < 0x80 ∧ upperHexDigit n ∉ dividers := by
  decide

/-- The two digits of a byte are read as that byte. -/
theorem byteOf?_digits (b : UInt8) :
    byteOf? (UInt8.ofNat (upperHexDigit (b.toNat / 16)).toNat)
      (UInt8.ofNat (upperHexDigit (b.toNat % 16)).toNat) = some b := by
  have hhi : b.toNat / 16 < 16 := Nat.div_lt_of_lt_mul b.toNat_lt
  have hlo : b.toNat % 16 < 16 := Nat.mod_lt _ (by decide)
  rw [byteOf?, toNat_byte_of_ascii (upperHexDigit_ascii _ hhi).1,
    toNat_byte_of_ascii (upperHexDigit_ascii _ hlo).1, Char.ofNat_toNat, Char.ofNat_toNat,
    hexValue?_upperHexDigit _ hhi, hexValue?_upperHexDigit _ hlo]
  dsimp only
  rw [Nat.mul_comm, Nat.div_add_mod, UInt8.ofNat_toNat]

/-- One coded byte in front is read as that byte. -/
theorem unescape_encodeByte (b : UInt8) (rest : List UInt8) :
    unescape (fun _ => false) (charBytes (encodeByte b) ++ rest) = b :: unescape (fun _ => false) rest := by
  unfold encodeByte
  split
  next hb =>
    obtain ⟨hascii, hpercent, -⟩ := of_isUnreserved hb
    have hbytes : charBytes [Char.ofNat b.toNat] = [b] := by
      rw [charBytes_cons, utf8EncodeChar_of_ascii (by rwa [toNat_ofNat_byte]), toNat_ofNat_byte,
        UInt8.ofNat_toNat]
      rfl
    rw [hbytes, List.singleton_append, unescape]
    intro hi lo tail heq
    exact absurd heq hpercent
  next =>
    have hhi := (upperHexDigit_ascii (b.toNat / 16) (Nat.div_lt_of_lt_mul b.toNat_lt)).1
    have hlo := (upperHexDigit_ascii (b.toNat % 16) (Nat.mod_lt _ (by decide))).1
    have hbytes : charBytes ['%', upperHexDigit (b.toNat / 16), upperHexDigit (b.toNat % 16)] =
        [0x25, UInt8.ofNat (upperHexDigit (b.toNat / 16)).toNat,
          UInt8.ofNat (upperHexDigit (b.toNat % 16)).toNat] := by
      rw [charBytes_cons, charBytes_cons, charBytes_cons, utf8EncodeChar_of_ascii hhi,
        utf8EncodeChar_of_ascii hlo]
      rfl
    rw [hbytes, List.cons_append, List.cons_append, List.cons_append, List.nil_append, unescape,
      byteOf?_digits]
    exact if_neg Bool.false_ne_true

/-- **Coded text** stands for the text. -/
theorem decodeBytes_encode (s : String) : decodeBytes (encode s) = utf8Bytes s := by
  have hread : ∀ bytes : List UInt8,
      unescape (fun _ => false) (charBytes (bytes.flatMap encodeByte)) = bytes := by
    intro bytes
    induction bytes with
    | nil => rw [List.flatMap_nil, charBytes, List.flatMap_nil, unescape]
    | cons b rest ih => rw [List.flatMap_cons, charBytes_append, unescape_encodeByte, ih]
  rw [decodeBytes, encode, utf8Bytes, String.toList_ofList]
  exact hread _

/-- What divides addresses is always coded. -/
theorem not_mem_encode (s : String) : ∀ c ∈ (encode s).toList, c ∉ dividers := by
  intro c hc
  rw [encode, String.toList_ofList, List.mem_flatMap] at hc
  obtain ⟨b, -, hc⟩ := hc
  unfold encodeByte at hc
  split at hc
  next hb =>
    rw [List.mem_singleton.1 hc]
    exact (of_isUnreserved hb).2.2
  next =>
    simp only [List.mem_cons, List.not_mem_nil, or_false] at hc
    rcases hc with rfl | rfl | rfl
    · decide
    · exact (upperHexDigit_ascii _ (Nat.div_lt_of_lt_mul b.toNat_lt)).2
    · exact (upperHexDigit_ascii _ (Nat.mod_lt _ (by decide))).2

/-- The characters that stand for themselves in coded text. -/
def unreserved : List Char :=
  "ABCDEFGHIJKLMNOPQRSTUVWXYZabcdefghijklmnopqrstuvwxyz0123456789-._~".toList

/-- The hexadecimal digits of coded text. -/
def upperHexDigits : List Char := "0123456789ABCDEF".toList

/-- Text of unreserved characters and triples `%XX` in upper case. -/
inductive Coded : List Char → Prop
  | nil : Coded []
  | plain {c : Char} {rest : List Char} (hc : c ∈ unreserved) (hrest : Coded rest) : Coded (c :: rest)
  | triple {hi lo : Char} {rest : List Char} (hhi : hi ∈ upperHexDigits) (hlo : lo ∈ upperHexDigits)
    (hrest : Coded rest) : Coded ('%' :: hi :: lo :: rest)

theorem mem_unreserved {b : UInt8} (h : isUnreserved b = true) : Char.ofNat b.toNat ∈ unreserved := by
  have hall : ∀ n < 256, isUnreserved (UInt8.ofNat n) = true → Char.ofNat n ∈ unreserved := by
    decide +kernel
  have hb := hall b.toNat b.toNat_lt
  rw [UInt8.ofNat_toNat] at hb
  exact hb h

theorem mem_upperHexDigits : ∀ n < 16, upperHexDigit n ∈ upperHexDigits := by decide

theorem coded_encodeByte (b : UInt8) {rest : List Char} (hrest : Coded rest) :
    Coded (encodeByte b ++ rest) := by
  unfold encodeByte
  split
  next hb => exact .plain (mem_unreserved hb) hrest
  next =>
    have hhi : b.toNat / 16 < 16 := Nat.div_lt_of_lt_mul b.toNat_lt
    have hlo : b.toNat % 16 < 16 := Nat.mod_lt _ (by decide)
    exact .triple (mem_upperHexDigits _ hhi) (mem_upperHexDigits _ hlo) hrest

/-- Coded text is text of unreserved characters and triples. -/
theorem coded_encode (s : String) : Coded (encode s).toList := by
  rw [encode, String.toList_ofList]
  induction utf8Bytes s with
  | nil => exact .nil
  | cons b rest ih =>
    rw [List.flatMap_cons]
    exact coded_encodeByte b ih

/-- **Different texts** are coded differently. -/
theorem encode_inj {s t : String} : encode s = encode t ↔ s = t := by
  refine ⟨fun h => ?_, fun h => h ▸ rfl⟩
  rw [← utf8Bytes_inj, ← decodeBytes_encode, ← decodeBytes_encode, h]

end Percent

end ResidencePortal.Text
