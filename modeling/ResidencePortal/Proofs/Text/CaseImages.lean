import ResidencePortal.Proofs.Text.Trimming

/-!
# What case mapping can produce

The case tables list runs of code points at a constant distance from their partners. The partners of a
run are a run again, its image, and the points of a run are the bits of one number. So that no partner
can be mapped further is a single comparison of two numbers, and no code point is looked at on its own.

**Results.**
* `settled_of_mem_upperChar`: upper case is reached in one step, in capitals, and brings no blanks.
* `upper_upper`, `trim_upper`: upper case of upper case changes nothing, and trimming may come before or
  after it.
* `exists_foreign_mem_lowerChar`: the lower-case form of a character outside ASCII leaves ASCII, except
  for the Kelvin sign.
* `lower_eq_iff_lowerAscii_eq`: a word of ASCII characters other than `k` is the lower-case form of a
  text exactly if it is so by the ASCII letters alone.
-/

namespace ResidencePortal.Text

theorem toNat_ofNat_of_isValidChar {n : Nat} (h : n.isValidChar) : (Char.ofNat n).toNat = n := by
  rw [Char.ofNat, dif_pos h]
  rfl

/-! ## Runs and their images -/

namespace CaseRun

/-- The partners of a run. -/
def image (r : CaseRun) : CaseRun := ⟨r.partner r.first, r.partner r.last, r.stride, 0⟩

/-- The partners of the run are code points, none of them a surrogate. -/
def Grounded (r : CaseRun) : Prop :=
  0 ≤ Int.ofNat r.first + r.offset ∧
    (r.image.last < 0xD800 ∨ (0xDFFF < r.image.first ∧ r.image.last < 0x110000))

instance (r : CaseRun) : Decidable r.Grounded :=
  inferInstanceAs (Decidable (_ ∧ (_ ∨ (_ ∧ _))))

theorem covers_iff {r : CaseRun} {n : Nat} :
    r.covers n = true ↔ r.first ≤ n ∧ n ≤ r.last ∧ (n - r.first) % r.stride = 0 := by
  simp [covers, and_assoc]

theorem covers_image {r : CaseRun} (hr : r.Grounded) {n : Nat} (h : r.covers n = true) :
    r.image.covers (r.partner n) = true := by
  have hground := hr.1
  rw [covers_iff] at h ⊢
  simp only [image, partner, Int.ofNat_eq_natCast] at hground ⊢
  refine ⟨by omega, by omega, ?_⟩
  rw [show (n + r.offset).toNat - (r.first + r.offset).toNat = n - r.first by omega, h.2.2]

theorem isValidChar_partner {r : CaseRun} (hr : r.Grounded) {n : Nat} (h : r.covers n = true) :
    (r.partner n).isValidChar := by
  have hcovers := covers_iff.1 (covers_image hr h)
  rcases hr.2 with hlow | ⟨hfirst, hlast⟩
  · exact Or.inl (by omega)
  · exact Or.inr ⟨by omega, by omega⟩

end CaseRun

/-! ## Sets of code points as numbers -/

/-- The number with the bits `0, stride, …, count * stride`. -/
def spread (stride : Nat) : (count : Nat) → Nat
  | 0 => 1
  | count + 1 => 1 ||| (spread stride count <<< stride)

theorem testBit_spread (stride : Nat) {i count : Nat} (h : i ≤ count) :
    (spread stride count).testBit (i * stride) = true := by
  induction count generalizing i with
  | zero =>
    obtain rfl : i = 0 := Nat.le_zero.1 h
    simp [spread]
  | succ count ih =>
    cases i with
    | zero => simp [spread]
    | succ i =>
      have hshift : (i + 1) * stride - stride = i * stride := by
        rw [Nat.add_mul, Nat.one_mul, Nat.add_sub_cancel]
      have hle : stride ≤ (i + 1) * stride := Nat.le_mul_of_pos_left _ (Nat.succ_pos i)
      simp [spread, Nat.testBit_shiftLeft, hle, hshift, ih (Nat.le_of_succ_le_succ h)]

/-- The points of a run as the bits of a number. -/
def CaseRun.bits (r : CaseRun) : Nat := spread r.stride ((r.last - r.first) / r.stride) <<< r.first

theorem CaseRun.testBit_bits {r : CaseRun} {n : Nat} (h : r.covers n = true) :
    r.bits.testBit n = true := by
  obtain ⟨hfirst, hlast, hstride⟩ := covers_iff.1 h
  have hsteps : (n - r.first) / r.stride * r.stride = n - r.first :=
    Nat.div_mul_cancel (Nat.dvd_of_mod_eq_zero hstride)
  have hle : (n - r.first) / r.stride ≤ (r.last - r.first) / r.stride :=
    Nat.div_le_div_right (by omega)
  rw [bits, Nat.testBit_shiftLeft, ← hsteps, testBit_spread r.stride hle]
  simp [hfirst]

/-- A code point as a bit of a number. -/
def pointBit (n : Nat) : Nat := 1 <<< n

theorem testBit_pointBit (n : Nat) : (pointBit n).testBit n = true := by
  simp [pointBit, Nat.testBit_shiftLeft]

/-- The bits of all the numbers. -/
def union (sets : List Nat) : Nat := sets.foldr (· ||| ·) 0

theorem testBit_union {sets : List Nat} {bits n : Nat} (hmem : bits ∈ sets)
    (h : bits.testBit n = true) : (union sets).testBit n = true := by
  induction sets with
  | nil => cases hmem
  | cons first rest ih =>
    rw [union, List.foldr_cons, Nat.testBit_or]
    rcases List.mem_cons.1 hmem with rfl | hrest
    · rw [h, Bool.true_or]
    · rw [← union, ih hrest, Bool.or_true]

theorem testBit_eq_false_of_and_eq_zero {a b n : Nat} (hand : a &&& b = 0)
    (h : a.testBit n = true) : b.testBit n = false := by
  have hbit := congrArg (·.testBit n) hand
  simpa [Nat.testBit_and, h] using hbit

/-! ## Partners -/

/-- A full partner is an expansion, the partner on a run, or the code point itself, which then has
neither. -/
theorem fullPartner_cases (expansions : List (Nat × List Nat)) (runs : List CaseRun) (n : Nat) :
    (∃ e ∈ expansions, e.1 = n ∧ fullPartner expansions runs n = e.2) ∨
    (∃ r ∈ runs, r.covers n = true ∧ fullPartner expansions runs n = [r.partner n]) ∨
    ((∀ e ∈ expansions, e.1 ≠ n) ∧ (∀ r ∈ runs, r.covers n = false) ∧
      fullPartner expansions runs n = [n]) := by
  unfold fullPartner simplePartner
  cases hexpansion : expansions.find? (·.1 == n) with
  | some e =>
    exact Or.inl ⟨e, List.mem_of_find?_eq_some hexpansion,
      by simpa using List.find?_some hexpansion, rfl⟩
  | none =>
    have hnone : ∀ e ∈ expansions, e.1 ≠ n := by simpa using hexpansion
    cases hrun : runs.find? (·.covers n) with
    | some r =>
      exact Or.inr (Or.inl ⟨r, List.mem_of_find?_eq_some hrun, by simpa using List.find?_some hrun,
        rfl⟩)
    | none => exact Or.inr (Or.inr ⟨hnone, by simpa using hrun, rfl⟩)

/-! ## Upper case -/

/-- The code points of the blank characters. -/
def blankCodes : List Nat :=
  [9, 10, 11, 12, 13, 0x20, 0x85, 0xA0, 0x1680, 0x2000, 0x2001, 0x2002, 0x2003, 0x2004, 0x2005, 0x2006,
    0x2007, 0x2008, 0x2009, 0x200A, 0x2028, 0x2029, 0x202F, 0x205F, 0x3000]

theorem mem_blankCodes {c : Char} (h : isBlank c = true) : c.toNat ∈ blankCodes := by
  simp only [isBlank, Bool.or_eq_true, Bool.and_eq_true, decide_eq_true_eq, beq_iff_eq] at h
  simp only [blankCodes, List.mem_cons, List.not_mem_nil, or_false]
  grind

/-- The small letters of ASCII, whose upper-case forms come by rule. -/
def smallLetters : CaseRun := ⟨0x61, 0x7A, 1, -32⟩

/-- The runs on which upper case moves a code point, those of ASCII included. -/
def raisingRuns : List CaseRun := smallLetters :: upperRuns

/-- The code points that upper case changes. -/
def raised : Nat := union (raisingRuns.map CaseRun.bits ++ upperExpansions.map (pointBit ·.1))

/-- The code points of the blank characters, as bits. -/
def blanks : Nat := union (blankCodes.map pointBit)

theorem raisingRuns_grounded : ∀ r ∈ raisingRuns, r.Grounded := by decide +kernel

theorem raisingRuns_settle :
    union (raisingRuns.map (·.image.bits)) &&& (raised ||| blanks) = 0 := by decide +kernel

theorem upperExpansions_settle :
    union (upperExpansions.flatMap (·.2.map pointBit)) &&& (raised ||| blanks) = 0 := by
  decide +kernel

theorem upperExpansions_valid :
    ∀ e ∈ upperExpansions, e.2 ≠ [] ∧ ∀ n ∈ e.2, n.isValidChar := by decide +kernel

theorem upperTable_outside_ascii :
    (∀ e ∈ upperExpansions, 0x80 ≤ e.1) ∧ ∀ r ∈ upperRuns, 0x80 ≤ r.first := by decide +kernel

theorem blanks_not_raised : blanks &&& raised = 0 := by decide +kernel

/-- Upper case does not change the code point. -/
def Unraised (n : Nat) : Prop :=
  (∀ e ∈ upperExpansions, e.1 ≠ n) ∧ ∀ r ∈ raisingRuns, r.covers n = false

theorem unraised_of_testBit {n : Nat} (h : raised.testBit n = false) : Unraised n := by
  refine ⟨fun e he hn => ?_, fun r hr => ?_⟩
  · have hbit : raised.testBit n = true :=
      testBit_union (List.mem_append_right _ (List.mem_map_of_mem he)) (hn ▸ testBit_pointBit e.1)
    rw [h] at hbit
    cases hbit
  · rw [Bool.eq_false_iff]
    intro hcovers
    have hbit : raised.testBit n = true :=
      testBit_union (List.mem_append_left _ (List.mem_map_of_mem hr)) (r.testBit_bits hcovers)
    rw [h] at hbit
    cases hbit

/-- What the upper-case form of a character is: an expansion, the partner on a run, or the character
itself, which is then not changed by any. -/
theorem upperChar_cases (c : Char) :
    (∃ e ∈ upperExpansions, e.1 = c.toNat ∧ upperChar c = e.2.map Char.ofNat) ∨
    (∃ r ∈ raisingRuns, r.covers c.toNat = true ∧ upperChar c = [Char.ofNat (r.partner c.toNat)]) ∨
    (Unraised c.toNat ∧ upperChar c = [c]) := by
  unfold upperChar
  by_cases hascii : c.toNat < 0x80
  · rw [if_pos hascii]
    have hforeign : (∀ e ∈ upperExpansions, e.1 ≠ c.toNat) ∧
        ∀ r ∈ upperRuns, r.covers c.toNat = false := by
      refine ⟨fun e he hn => ?_, fun r hr => Bool.eq_false_iff.2 fun hcovers => ?_⟩
      · have := upperTable_outside_ascii.1 e he
        omega
      · have := upperTable_outside_ascii.2 r hr
        have := (CaseRun.covers_iff.1 hcovers).1
        omega
    by_cases hsmall : 0x61 ≤ c.toNat ∧ c.toNat ≤ 0x7A
    · refine Or.inr (Or.inl ⟨smallLetters, List.mem_cons_self, ?_, ?_⟩)
      · exact CaseRun.covers_iff.2 ⟨hsmall.1, hsmall.2, Nat.mod_one _⟩
      · rw [if_pos hsmall]
        congr 2
        simp only [smallLetters, CaseRun.partner, Int.ofNat_eq_natCast]
        omega
    · refine Or.inr (Or.inr ⟨⟨hforeign.1, ?_⟩, by rw [if_neg hsmall]⟩)
      intro r hr
      rcases List.mem_cons.1 hr with rfl | hr
      · exact Bool.eq_false_iff.2 fun hcovers =>
          hsmall ⟨(CaseRun.covers_iff.1 hcovers).1, (CaseRun.covers_iff.1 hcovers).2.1⟩
      · exact hforeign.2 r hr
  · rw [if_neg hascii]
    rcases fullPartner_cases upperExpansions upperRuns c.toNat with
      ⟨e, he, hn, heq⟩ | ⟨r, hr, hn, heq⟩ | ⟨hexpansions, hruns, heq⟩
    · exact Or.inl ⟨e, he, hn, by rw [heq]⟩
    · exact Or.inr (Or.inl ⟨r, List.mem_cons_of_mem _ hr, hn, by rw [heq]; rfl⟩)
    · refine Or.inr (Or.inr ⟨⟨hexpansions, ?_⟩, ?_⟩)
      · intro r hr
        rcases List.mem_cons.1 hr with rfl | hr
        · refine Bool.eq_false_iff.2 fun hcovers => ?_
          have : c.toNat ≤ 0x7A := (CaseRun.covers_iff.1 hcovers).2.1
          omega
        · exact hruns r hr
      · rw [heq, List.map_singleton, Char.ofNat_toNat]

theorem upperChar_of_unraised {c : Char} (h : Unraised c.toNat) : upperChar c = [c] := by
  rcases upperChar_cases c with ⟨e, he, hn, -⟩ | ⟨r, hr, hn, -⟩ | ⟨-, heq⟩
  · exact absurd hn (h.1 e he)
  · rw [h.2 r hr] at hn
    cases hn
  · exact heq

theorem unraised_of_isBlank {c : Char} (h : isBlank c = true) : Unraised c.toNat := by
  apply unraised_of_testBit
  apply testBit_eq_false_of_and_eq_zero blanks_not_raised
  exact testBit_union (List.mem_map_of_mem (mem_blankCodes h)) (testBit_pointBit c.toNat)

/-- A code point is a character that is in upper case already and not a blank. -/
theorem settled_of_testBit {n : Nat} (hvalid : n.isValidChar)
    (h : (raised ||| blanks).testBit n = false) :
    Unraised (Char.ofNat n).toNat ∧ isBlank (Char.ofNat n) = false := by
  rw [Nat.testBit_or, Bool.or_eq_false_iff] at h
  refine ⟨?_, ?_⟩
  · rw [toNat_ofNat_of_isValidChar hvalid]
    exact unraised_of_testBit h.1
  · rw [Bool.eq_false_iff]
    intro hblank
    have hmem := mem_blankCodes hblank
    rw [toNat_ofNat_of_isValidChar hvalid] at hmem
    have hbit : blanks.testBit n = true :=
      testBit_union (List.mem_map_of_mem hmem) (testBit_pointBit n)
    rw [h.2] at hbit
    cases hbit

/-- **Upper case is reached in one step**, and brings no blanks. -/
theorem settled_of_mem_upperChar {c d : Char} (hsolid : isBlank c = false) (hd : d ∈ upperChar c) :
    Unraised d.toNat ∧ isBlank d = false := by
  rcases upperChar_cases c with ⟨e, he, -, heq⟩ | ⟨r, hr, hcovers, heq⟩ | ⟨hunraised, heq⟩
  · rw [heq] at hd
    obtain ⟨n, hn, rfl⟩ := List.mem_map.1 hd
    apply settled_of_testBit ((upperExpansions_valid e he).2 n hn)
    apply testBit_eq_false_of_and_eq_zero upperExpansions_settle
    exact testBit_union (List.mem_flatMap.2 ⟨e, he, List.mem_map_of_mem hn⟩) (testBit_pointBit n)
  · rw [heq, List.mem_singleton] at hd
    subst hd
    have hground := raisingRuns_grounded r hr
    apply settled_of_testBit (r.isValidChar_partner hground hcovers)
    apply testBit_eq_false_of_and_eq_zero raisingRuns_settle
    exact testBit_union (List.mem_map_of_mem hr)
      (r.image.testBit_bits (r.covers_image hground hcovers))
  · rw [heq, List.mem_singleton] at hd
    exact hd ▸ ⟨hunraised, hsolid⟩

theorem upperChar_ne_nil (c : Char) : upperChar c ≠ [] := by
  rcases upperChar_cases c with ⟨e, he, -, heq⟩ | ⟨r, -, -, heq⟩ | ⟨-, heq⟩ <;> rw [heq]
  · simpa using (upperExpansions_valid e he).1
  · simp
  · simp

theorem isBlank_of_mem_upperChar {c d : Char} (hd : d ∈ upperChar c) : isBlank d = isBlank c := by
  cases hblank : isBlank c with
  | true =>
    rw [upperChar_of_unraised (unraised_of_isBlank hblank), List.mem_singleton] at hd
    rw [hd, hblank]
  | false => exact (settled_of_mem_upperChar hblank hd).2

theorem unraised_of_mem_upperChar {c d : Char} (hd : d ∈ upperChar c) : Unraised d.toNat := by
  cases hblank : isBlank c with
  | true => exact unraised_of_isBlank ((isBlank_of_mem_upperChar hd).trans hblank)
  | false => exact (settled_of_mem_upperChar hblank hd).1

theorem upperChars_of_unraised {cs : List Char} (h : ∀ c ∈ cs, Unraised c.toNat) :
    upperChars cs = cs := by
  induction cs with
  | nil => rfl
  | cons c rest ih =>
    rw [upperChars, List.flatMap_cons, upperChar_of_unraised (h c List.mem_cons_self),
      List.singleton_append, ← upperChars, ih fun d hd => h d (List.mem_cons_of_mem _ hd)]

/-- Upper case of upper case changes nothing. -/
theorem upper_upper (s : String) : upper (upper s) = upper s := by
  have hchars : upperChars (upperChars s.toList) = upperChars s.toList := by
    apply upperChars_of_unraised
    intro d hd
    obtain ⟨c, -, hd⟩ := List.mem_flatMap.1 hd
    exact unraised_of_mem_upperChar hd
  rw [upper, toList_upper, hchars, ← upper]

/-! ## Upper case and trimming -/

theorem dropWhile_flatMap {p : Char → Bool} {f : Char → List Char} (hne : ∀ c, f c ≠ [])
    (hp : ∀ c, ∀ d ∈ f c, p d = p c) (cs : List Char) :
    (cs.flatMap f).dropWhile p = (cs.dropWhile p).flatMap f := by
  induction cs with
  | nil => rfl
  | cons c rest ih =>
    rw [List.flatMap_cons, List.dropWhile_cons]
    cases hc : p c with
    | true =>
      rw [if_pos rfl, List.dropWhile_append_of_pos fun d hd => (hp c d hd).trans hc, ih]
    | false =>
      obtain ⟨d, ds, hf⟩ := List.exists_cons_of_ne_nil (hne c)
      have hd : p d = false := (hp c d (by rw [hf]; exact List.mem_cons_self)).trans hc
      rw [if_neg Bool.false_ne_true, List.flatMap_cons, hf, List.cons_append, List.dropWhile_cons,
        if_neg (by rw [hd]; exact Bool.false_ne_true)]

theorem trimStartChars_upperChars (cs : List Char) :
    trimStartChars (upperChars cs) = upperChars (trimStartChars cs) :=
  dropWhile_flatMap upperChar_ne_nil (fun _ _ => isBlank_of_mem_upperChar) cs

theorem trimEndChars_upperChars (cs : List Char) :
    trimEndChars (upperChars cs) = upperChars (trimEndChars cs) := by
  have hdrop : (cs.reverse.flatMap (List.reverse ∘ upperChar)).dropWhile isBlank =
      (cs.reverse.dropWhile isBlank).flatMap (List.reverse ∘ upperChar) :=
    dropWhile_flatMap (fun c => by simpa using upperChar_ne_nil c)
      (fun _ _ hd => isBlank_of_mem_upperChar (List.mem_reverse.1 hd)) cs.reverse
  rw [trimEndChars, trimEndChars, upperChars, upperChars, List.reverse_flatMap, hdrop,
    List.flatMap_reverse]

/-- Trimming may come before or after upper case. -/
theorem trim_upper (s : String) : trim (upper s) = upper (trim s) := by
  rw [trim, toList_upper, upper, toList_trim, trimChars, trimChars, trimStartChars_upperChars,
    trimEndChars_upperChars]

theorem upperChars_eq_nil_iff (cs : List Char) : upperChars cs = [] ↔ cs = [] := by
  cases cs with
  | nil => simp [upperChars]
  | cons c rest => simp [upperChars, upperChar_ne_nil]

theorem allBlank_upper (s : String) : allBlank (upper s) = allBlank s := by
  rw [← trim_isEmpty, ← trim_isEmpty, trim_upper, Bool.eq_iff_iff, String.isEmpty_iff,
    String.isEmpty_iff, ← String.toList_eq_nil_iff, ← String.toList_eq_nil_iff, toList_upper,
    upperChars_eq_nil_iff]

/-! ## Lower case and ASCII -/

/-- A character of ASCII other than `k`, the one letter that a foreign character stands for. -/
def IsPlain (c : Char) : Prop := c.toNat < 0x80 ∧ c ≠ 'k'

instance (c : Char) : Decidable (IsPlain c) := inferInstanceAs (Decidable (c.toNat < 0x80 ∧ c ≠ 'k'))

theorem lowerRuns_foreign :
    ∀ r ∈ lowerRuns, r.Grounded ∧
      (0x80 ≤ r.image.first ∨ (r.image.first = 0x6B ∧ r.image.last = 0x6B)) := by decide +kernel

theorem lowerExpansions_foreign :
    ∀ e ∈ lowerExpansions, ∃ n ∈ e.2, n.isValidChar ∧ 0x80 ≤ n := by decide

/-- The lower-case form of a character outside ASCII leaves ASCII, the Kelvin sign apart. -/
theorem exists_foreign_mem_lowerChar {c : Char} (hc : ¬ c.toNat < 0x80) :
    ∃ d ∈ lowerChar c, ¬ IsPlain d := by
  unfold lowerChar
  rw [if_neg hc]
  rcases fullPartner_cases lowerExpansions lowerRuns c.toNat with
    ⟨e, he, -, heq⟩ | ⟨r, hr, hcovers, heq⟩ | ⟨-, -, heq⟩
  · obtain ⟨n, hn, hvalid, hforeign⟩ := lowerExpansions_foreign e he
    refine ⟨Char.ofNat n, by rw [heq]; exact List.mem_map_of_mem hn, fun hplain => ?_⟩
    have := hplain.1
    rw [toNat_ofNat_of_isValidChar hvalid] at this
    omega
  · obtain ⟨hground, hforeign⟩ := lowerRuns_foreign r hr
    have hvalid := r.isValidChar_partner hground hcovers
    have himage := CaseRun.covers_iff.1 (r.covers_image hground hcovers)
    refine ⟨Char.ofNat (r.partner c.toNat), by rw [heq]; exact List.mem_singleton.2 rfl, ?_⟩
    rintro ⟨hascii, hkelvin⟩
    rw [toNat_ofNat_of_isValidChar hvalid] at hascii
    rcases hforeign with hforeign | ⟨hfirst, hlast⟩
    · omega
    · exact hkelvin (by rw [show r.partner c.toNat = 0x6B by omega])
  · refine ⟨c, ?_, fun hplain => hc hplain.1⟩
    rw [heq, List.map_singleton, Char.ofNat_toNat]
    exact List.mem_singleton.2 rfl

/-- A lower-case form of plain characters comes from ASCII alone. -/
theorem ascii_of_lowerFrom {before cs : List Char} (h : ∀ d ∈ lowerFrom before cs, IsPlain d) :
    ∀ c ∈ cs, c.toNat < 0x80 := by
  induction cs generalizing before with
  | nil => simp
  | cons c rest ih =>
    rw [lowerFrom, List.forall_mem_append] at h
    rw [List.forall_mem_cons]
    refine ⟨?_, ih h.2⟩
    by_cases hsigma : c = capitalSigma
    · rw [if_pos hsigma] at h
      have hplain := h.1 _ List.mem_cons_self
      unfold lowerSigma at hplain
      split at hplain
      · exact absurd hplain (by decide)
      · exact absurd hplain (by decide)
    · rw [if_neg hsigma] at h
      refine Decidable.byContradiction fun hc => ?_
      obtain ⟨d, hd, hforeign⟩ := exists_foreign_mem_lowerChar hc
      exact hforeign (h.1 d hd)

/-- The small form of an ASCII letter. -/
def smallForm (c : Char) : Char :=
  if 0x41 ≤ c.toNat ∧ c.toNat ≤ 0x5A then Char.ofNat (c.toNat + 32) else c

theorem lowerAscii_eq (s : String) : lowerAscii s = String.ofList (s.toList.map smallForm) := rfl

theorem lowerFrom_of_ascii {before cs : List Char} (h : ∀ c ∈ cs, c.toNat < 0x80) :
    lowerFrom before cs = cs.map smallForm := by
  induction cs generalizing before with
  | nil => rfl
  | cons c rest ih =>
    rw [List.forall_mem_cons] at h
    have hsigma : c ≠ capitalSigma := fun heq => absurd h.1 (by rw [heq]; decide)
    rw [lowerFrom, if_neg hsigma, lowerChar, if_pos h.1, ih h.2, List.map_cons,
      List.singleton_append, smallForm]

theorem lower_of_ascii {s : String} (h : ∀ c ∈ s.toList, c.toNat < 0x80) : lower s = lowerAscii s := by
  rw [lower, lowerChars, lowerFrom_of_ascii h, lowerAscii_eq]

/-- The ASCII letters alone change nothing outside ASCII. -/
theorem ascii_of_lowerAscii {s : String} (h : ∀ d ∈ (lowerAscii s).toList, d.toNat < 0x80) :
    ∀ c ∈ s.toList, c.toNat < 0x80 := by
  intro c hc
  refine Decidable.byContradiction fun hforeign => hforeign (h c ?_)
  rw [lowerAscii_eq, String.toList_ofList]
  exact List.mem_map.2 ⟨c, hc, if_neg (by omega)⟩

/-- **A plain word in lower case.** It is the lower-case form of a text exactly if the ASCII letters
alone make it so: no other characters lead there. -/
theorem lower_eq_iff_lowerAscii_eq {word : String} (hword : ∀ d ∈ word.toList, IsPlain d)
    (s : String) : lower s = word ↔ lowerAscii s = word := by
  constructor
  · intro h
    have hplain : ∀ d ∈ lowerFrom [] s.toList, IsPlain d := by
      intro d hd
      apply hword d
      rw [← h, toList_lower]
      exact hd
    rw [← lower_of_ascii (ascii_of_lowerFrom hplain), h]
  · intro h
    have hascii : ∀ d ∈ (lowerAscii s).toList, d.toNat < 0x80 := fun d hd => (hword d (h ▸ hd)).1
    rw [lower_of_ascii (ascii_of_lowerAscii hascii), h]

/-- In ASCII a character and its upper-case form have one small form. -/
theorem upperChar_of_ascii {c : Char} (hc : c.toNat < 0x80) :
    ∃ d, upperChar c = [d] ∧ d.toNat < 0x80 ∧ smallForm d = smallForm c := by
  refine ⟨if 0x61 ≤ c.toNat ∧ c.toNat ≤ 0x7A then Char.ofNat (c.toNat - 32) else c,
    by rw [upperChar, if_pos hc], ?_⟩
  split
  · rename_i hsmall
    have hd : (Char.ofNat (c.toNat - 32)).toNat = c.toNat - 32 :=
      toNat_ofNat_of_isValidChar (Or.inl (by omega))
    refine ⟨by omega, ?_⟩
    rw [smallForm, smallForm, hd, if_pos (by omega), if_neg (by omega),
      Nat.sub_add_cancel (by omega), Char.ofNat_toNat]
  · exact ⟨hc, rfl⟩

/-- In ASCII the two cases belong together. -/
theorem lower_upper_of_ascii {s : String} (h : ∀ c ∈ s.toList, c.toNat < 0x80) :
    lower (upper s) = lower s := by
  have hchars : ∀ cs : List Char, (∀ c ∈ cs, c.toNat < 0x80) →
      (∀ d ∈ upperChars cs, d.toNat < 0x80) ∧
        (upperChars cs).map smallForm = cs.map smallForm := by
    intro cs hcs
    induction cs with
    | nil => exact ⟨by simp [upperChars], rfl⟩
    | cons c rest ih =>
      rw [List.forall_mem_cons] at hcs
      obtain ⟨hrest, hmap⟩ := ih hcs.2
      obtain ⟨d, hd, hascii, hsmall⟩ := upperChar_of_ascii hcs.1
      rw [upperChars, List.flatMap_cons, hd, List.singleton_append, ← upperChars]
      exact ⟨List.forall_mem_cons.2 ⟨hascii, hrest⟩, by rw [List.map_cons, List.map_cons, hsmall, hmap]⟩
  obtain ⟨hascii, hmap⟩ := hchars s.toList h
  rw [lower_of_ascii h, lower_of_ascii (by rw [toList_upper]; exact hascii), lowerAscii_eq,
    lowerAscii_eq, toList_upper, hmap]

end ResidencePortal.Text
