import Mathlib.Algebra.Group.Nat.Defs
import Mathlib.Tactic.SplitIfs
import ResidencePortal.Text.Utf8

/-!
# The order of texts is the order of their bytes

Texts are compared character by character, by code points. Comparing their UTF-8 bytes one by one gives
the same order. The bytes of a character are a first byte, which tells how many follow, and the digits of
the code point to base 64: a greater code point has more digits or the greater digit where they first
differ. In both cases the difference comes before the end of either character, so what follows does not
count.

**Results.**
* `encode_eq`: the bytes of a character as digits to base 64.
* `encode_append_lt`: the bytes of a smaller character come first, whatever follows.
* `utf8Bytes_le_iff`: texts are ordered as their bytes are.
* `utf8Bytes_inj`: different texts have different bytes.
-/

namespace ResidencePortal.Text

/-! ## The bytes of a character -/

/-- How many bytes follow the first of a code point. -/
def tailLength (n : Nat) : Nat :=
  if n ≤ 0x7F then 0 else if n ≤ 0x7FF then 1 else if n ≤ 0xFFFF then 2 else 3

/-- What marks a first byte with so many behind it. -/
def leadMark : Nat → Nat
  | 0 => 0
  | 1 => 0xC0
  | 2 => 0xE0
  | _ => 0xF0

/-- The first byte of a code point. -/
def leadByte (n : Nat) : Nat := n / 64 ^ tailLength n + leadMark (tailLength n)

/-- The last digits of a code point to base 64, so many, each in a byte. -/
def tailBytes : Nat → Nat → List UInt8
  | 0, _ => []
  | k + 1, n => tailBytes k (n / 64) ++ [UInt8.ofNat (n % 64 + 0x80)]

theorem toNat_lt_codePoints (c : Char) : c.val.toNat < 0x110000 := by
  rcases c.valid with h | h
  · exact Nat.lt_trans h (by decide)
  · exact h.2

theorem encode_eq (c : Char) :
    String.utf8EncodeChar c =
      UInt8.ofNat (leadByte c.val.toNat) :: tailBytes (tailLength c.val.toNat) c.val.toNat := by
  have hc := toNat_lt_codePoints c
  unfold String.utf8EncodeChar leadByte tailLength
  generalize c.val.toNat = n at *
  dsimp only
  split_ifs
  · simp [leadMark, tailBytes]
  · simp [leadMark, tailBytes, Nat.mod_eq_of_lt (show n / 64 < 32 by omega)]
  · simp [leadMark, tailBytes, Nat.mod_eq_of_lt (show n / 4096 < 16 by omega)]
  · simp [leadMark, tailBytes, Nat.mod_eq_of_lt (show n / 262144 < 8 by omega), Nat.div_div_eq_div_mul]

theorem leadByte_lt_256 {n : Nat} (h : n < 0x110000) : leadByte n < 256 := by
  unfold leadByte tailLength
  split_ifs <;> simp only [leadMark] <;> omega

theorem tailLength_mono {m n : Nat} (h : m ≤ n) : tailLength m ≤ tailLength n := by
  unfold tailLength
  split_ifs <;> omega

/-- A first byte with more behind it is greater. -/
theorem leadByte_lt {m n : Nat} (h : tailLength m < tailLength n) : leadByte m < leadByte n := by
  unfold leadByte
  unfold tailLength at *
  split_ifs at * <;> simp only [leadMark] <;> omega

/-! ## Comparing bytes -/

theorem byte_cons_lt {a b : Nat} (hab : a < b) (hb : b < 256) (s t : List UInt8) :
    UInt8.ofNat a :: s < UInt8.ofNat b :: t := by
  refine List.cons_lt_cons_iff.2 (Or.inl (UInt8.lt_iff_toNat_lt.2 ?_))
  rw [UInt8.toNat_ofNat', UInt8.toNat_ofNat']
  omega

/-- Of two numbers that differ in their last digits only, the smaller has the smaller digits. -/
theorem tailBytes_lt {k m n : Nat} (h : m < n) (hsame : m / 64 ^ k = n / 64 ^ k) (s t : List UInt8) :
    tailBytes k m ++ s < tailBytes k n ++ t := by
  induction k generalizing m n s t with
  | zero =>
    rw [Nat.pow_zero, Nat.div_one, Nat.div_one] at hsame
    omega
  | succ k ih =>
    rw [Nat.pow_succ, Nat.mul_comm, ← Nat.div_div_eq_div_mul, ← Nat.div_div_eq_div_mul] at hsame
    rw [tailBytes, tailBytes, List.append_assoc, List.append_assoc]
    by_cases hdiv : m / 64 < n / 64
    · exact ih hdiv hsame _ _
    · have heq : m / 64 = n / 64 := by omega
      rw [heq]
      exact List.append_left_lt (byte_cons_lt (by omega) (by omega) s t)

/-- **Characters.** The bytes of a smaller character come first, whatever follows. -/
theorem encode_append_lt {c d : Char} (h : c < d) (s t : List UInt8) :
    String.utf8EncodeChar c ++ s < String.utf8EncodeChar d ++ t := by
  have hlt : c.val.toNat < d.val.toNat := h
  have hlead := leadByte_lt_256 (toNat_lt_codePoints d)
  have hfront : c.val.toNat / 64 ^ tailLength d.val.toNat ≤ d.val.toNat / 64 ^ tailLength d.val.toNat :=
    Nat.div_le_div_right (Nat.le_of_lt hlt)
  rw [encode_eq, encode_eq, List.cons_append, List.cons_append]
  rcases Nat.lt_or_eq_of_le (tailLength_mono (Nat.le_of_lt hlt)) with hlength | hlength
  · exact byte_cons_lt (leadByte_lt hlength) hlead _ _
  rcases Nat.lt_or_eq_of_le hfront with hfirst | hfirst
  · refine byte_cons_lt ?_ hlead _ _
    rw [leadByte, leadByte, hlength]
    omega
  · have hbyte : leadByte c.val.toNat = leadByte d.val.toNat := by
      rw [leadByte, leadByte, hlength, hfirst]
    rw [hbyte, hlength]
    exact List.cons_lt_cons_iff.2 (Or.inr ⟨rfl, tailBytes_lt hlt hfirst s t⟩)

/-! ## Texts -/

theorem charBytes_lt {xs ys : List Char} (h : xs < ys) : charBytes xs < charBytes ys := by
  induction xs generalizing ys with
  | nil =>
    cases ys with
    | nil => exact absurd h (List.lt_irrefl [])
    | cons d ys =>
      unfold charBytes
      rw [List.flatMap_cons, encode_eq]
      exact List.nil_lt_cons _ _
  | cons c xs ih =>
    cases ys with
    | nil => exact absurd h (List.not_lt_nil _)
    | cons d ys =>
      rcases List.cons_lt_cons_iff.1 h with hcd | ⟨rfl, hrest⟩
      · exact encode_append_lt hcd (charBytes xs) (charBytes ys)
      · exact List.append_left_lt (ih hrest)

theorem utf8Bytes_lt_iff {s t : String} : utf8Bytes s < utf8Bytes t ↔ s < t := by
  constructor
  · intro h
    rcases Std.lt_trichotomy s t with hlt | rfl | hgt
    · exact hlt
    · exact absurd h (List.lt_irrefl _)
    · exact absurd h (List.lt_asymm (charBytes_lt (String.lt_iff.1 hgt)))
  · intro h
    exact charBytes_lt (String.lt_iff.1 h)

/-- **Texts** are ordered as their bytes are. -/
theorem utf8Bytes_le_iff {s t : String} : utf8Bytes s ≤ utf8Bytes t ↔ s ≤ t := by
  rw [← List.not_lt, ← String.not_lt, utf8Bytes_lt_iff]

/-- Different texts have different bytes. -/
theorem utf8Bytes_inj {s t : String} : utf8Bytes s = utf8Bytes t ↔ s = t := by
  refine ⟨fun h => ?_, fun h => h ▸ rfl⟩
  exact Std.le_antisymm (utf8Bytes_le_iff.1 (h ▸ List.le_refl _)) (utf8Bytes_le_iff.1 (h ▸ List.le_refl _))

end ResidencePortal.Text
