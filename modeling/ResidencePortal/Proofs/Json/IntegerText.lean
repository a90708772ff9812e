import ResidencePortal.Json.Reader

/-!
# Integers read back

An integer is written in decimal, with a sign if it is negative. Every integer of the 64-bit ranges is
read back from its digits, provided that what follows cannot go on with the number.

**Results.**
* `gather_natChars`: the digits of a number collect to the number, as long as it is within the limit.
* `Token.read_natChars`, `Token.read_minus`: the written form of an integer is recognized.
* `scalar_intText`: an integer in the 64-bit ranges is read back.
-/

namespace ResidencePortal

namespace Text

/-! ## Decimal digits -/

theorem natChars_eq (n : Nat) :
    natChars n = if n < 10 then [hexDigit n] else natChars (n / 10) ++ [hexDigit (n % 10)] := by
  unfold natChars
  rw [digitsIn]
  by_cases h : n < 10
  · rw [dif_pos (Or.inl h), if_pos h]
    rfl
  · rw [dif_neg (by omega), if_neg h, List.map_append]
    rfl

theorem digitValue_hexDigit : ∀ d < 10, digitValue (hexDigit d) = d := by decide

theorem isDigit_hexDigit : ∀ d < 10, isDigit (hexDigit d) = true := by decide

theorem hexDigit_ne_zero : ∀ d < 10, 0 < d → hexDigit d ≠ '0' := by decide

theorem natChars_ne_nil (n : Nat) : natChars n ≠ [] := by
  rw [natChars_eq]
  split <;> simp

theorem isDigit_of_mem_natChars {n : Nat} : ∀ c ∈ natChars n, isDigit c = true := by
  induction n using Nat.strongRecOn with
  | ind n ih =>
    intro c hc
    rw [natChars_eq] at hc
    split at hc
    · rename_i h
      rw [List.mem_singleton] at hc
      subst hc
      exact isDigit_hexDigit n h
    · rcases List.mem_append.1 hc with hc | hc
      · exact ih (n / 10) (by omega) c hc
      · rw [List.mem_singleton] at hc
        subst hc
        exact isDigit_hexDigit (n % 10) (by omega)

/-- A number is written with at least one digit. -/
theorem natChars_eq_cons (n : Nat) : ∃ c ds, natChars n = c :: ds ∧ isDigit c = true := by
  obtain ⟨c, ds, hchars⟩ := List.exists_cons_of_ne_nil (natChars_ne_nil n)
  have hc : c ∈ natChars n := by
    rw [hchars]
    exact List.mem_cons_self
  exact ⟨c, ds, hchars, isDigit_of_mem_natChars c hc⟩

/-- Only zero is written with a zero in front. -/
theorem head?_natChars {n : Nat} (h : 0 < n) : (natChars n).head? ≠ some '0' := by
  induction n using Nat.strongRecOn with
  | ind n ih =>
    rw [natChars_eq]
    split
    · rename_i hlt
      intro heq
      exact hexDigit_ne_zero n hlt h (Option.some.inj heq)
    · have hfront := ih (n / 10) (by omega) (by omega)
      obtain ⟨c, ds, hchars, -⟩ := natChars_eq_cons (n / 10)
      rw [hchars] at hfront ⊢
      exact hfront

end Text

namespace Json

open Text

/-- No number goes on into these characters. -/
def Ends (rest : List Char) : Prop :=
  ∀ c ∈ rest.head?, isDigit c = false ∧ c ≠ '.' ∧ c ≠ 'e' ∧ c ≠ 'E'

theorem ends_nil : Ends [] := by
  intro c hc
  cases hc

namespace Token

/-! ## Collecting digits -/

theorem gather_append {limit m x : Nat} {ds : List Char} (h : gather limit m ds = (x, 0))
    (more : List Char) : gather limit m (ds ++ more) = gather limit x more := by
  induction ds generalizing m with
  | nil =>
    cases h
    rfl
  | cons d ds ih =>
    simp only [gather, List.cons_append] at h ⊢
    split at h
    · cases h
    · rename_i hle
      rw [if_neg hle]
      exact ih h

theorem gather_natChars {limit n : Nat} (h : n ≤ limit) : gather limit 0 (natChars n) = (n, 0) := by
  induction n using Nat.strongRecOn with
  | ind n ih =>
    rw [natChars_eq]
    split
    · rename_i hlt
      simp only [gather, digitValue_hexDigit n hlt]
      rw [if_neg (by omega), Nat.zero_mul, Nat.zero_add]
    · have hvalue : n / 10 * 10 + n % 10 = n := by omega
      rw [gather_append (ih (n / 10) (by omega) (by omega))]
      simp only [gather, digitValue_hexDigit (n % 10) (by omega), hvalue]
      rw [if_neg (by omega)]

/-! ## The written form -/

theorem takeWhile_digits {ds rest : List Char} (hds : ∀ c ∈ ds, isDigit c = true)
    (hrest : Ends rest) :
    (ds ++ rest).takeWhile isDigit = ds ∧ (ds ++ rest).dropWhile isDigit = rest := by
  induction ds with
  | nil =>
    cases rest with
    | nil => exact ⟨rfl, rfl⟩
    | cons c rest =>
      have hc := (hrest c rfl).1
      simp [hc]
  | cons d ds ih =>
    have hd := hds d List.mem_cons_self
    obtain ⟨htake, hdrop⟩ := ih fun c hc => hds c (List.mem_cons_of_mem d hc)
    simp [hd, htake, hdrop]

theorem readWhole_natChars (n : Nat) {rest : List Char} (hrest : Ends rest) :
    readWhole (natChars n ++ rest) = some (natChars n, rest) := by
  obtain ⟨htake, hdrop⟩ := takeWhile_digits isDigit_of_mem_natChars hrest
  have hdigits : digits (natChars n ++ rest) = some (natChars n, rest) := by
    obtain ⟨c, ds, hchars, -⟩ := natChars_eq_cons n
    unfold digits
    rw [htake, hdrop, hchars]
  have hzero : ¬ ((natChars n).head? = some '0' ∧ (natChars n).length ≠ 1) := by
    rintro ⟨hhead, hlength⟩
    rcases Nat.eq_zero_or_pos n with rfl | hpos
    · rw [natChars_eq] at hlength
      exact hlength rfl
    · exact head?_natChars hpos hhead
  simp only [readWhole, hdigits, Option.bind_eq_bind, Option.bind_some, hzero, if_false]

theorem readFraction_of_ends {rest : List Char} (hrest : Ends rest) :
    readFraction rest = some (none, rest) := by
  unfold readFraction
  split
  · exact absurd rfl (hrest '.' rfl).2.1
  · rfl

theorem readExponent_of_ends {rest : List Char} (hrest : Ends rest) :
    readExponent rest = some (none, rest) := by
  unfold readExponent
  split
  · exact absurd rfl (hrest 'e' rfl).2.2.1
  · exact absurd rfl (hrest 'E' rfl).2.2.2
  · rfl

theorem read_minus (n : Nat) {rest : List Char} (hrest : Ends rest) :
    read ('-' :: (natChars n ++ rest)) = some (⟨true, natChars n, none, none⟩, rest) := by
  simp only [read, readWhole_natChars n hrest, readFraction_of_ends hrest,
    readExponent_of_ends hrest, Option.bind_eq_bind, Option.bind_some]

theorem read_natChars (n : Nat) {rest : List Char} (hrest : Ends rest) :
    read (natChars n ++ rest) = some (⟨false, natChars n, none, none⟩, rest) := by
  have hsign : ∀ more, natChars n ++ rest ≠ '-' :: more := by
    intro more heq
    obtain ⟨c, ds, hchars, hc⟩ := natChars_eq_cons n
    rw [hchars, List.cons_append, List.cons.injEq] at heq
    rw [heq.1] at hc
    exact absurd hc (by decide)
  unfold read
  split
  rename_i negative cs hsplit
  split at hsplit
  · rename_i more heq
    exact absurd heq (hsign more)
  · cases hsplit
    simp only [readWhole_natChars n hrest, readFraction_of_ends hrest, readExponent_of_ends hrest,
      Option.bind_eq_bind, Option.bind_some]

/-! ## The value -/

theorem significandLimit_eq : significandLimit = 18446744073709551615 := by decide

theorem number?_natChars {n : Nat} (h : n < 18446744073709551616) :
    number? ⟨false, natChars n, none, none⟩ = some (.int n) := by
  simp only [number?, gather_natChars (show n ≤ significandLimit by rw [significandLimit_eq]; omega),
    integer?, ne_eq, not_true_eq_false, Bool.false_eq_true, if_false, not_false_eq_true, if_true]

theorem number?_minus {n : Nat} (hpos : 0 < n) (h : n ≤ 9223372036854775808) :
    number? ⟨true, natChars n, none, none⟩ = some (.int (-(n : Int))) := by
  have hpow : Numeric.twoPow 63 = 9223372036854775808 := rfl
  have hrange : n ≠ 0 ∧ n ≤ Numeric.twoPow 63 := ⟨by omega, by rw [hpow]; exact h⟩
  simp only [number?, gather_natChars (show n ≤ significandLimit by rw [significandLimit_eq]; omega),
    integer?, ne_eq, not_true_eq_false, if_false, hrange, not_false_eq_true, and_self, if_true]

end Token

/-- An integer starts with its sign or a digit. -/
theorem head_intText (n : Int) :
    ∃ c cs, (intText n).toList = c :: cs ∧ (c = '-' ∨ isDigit c = true) := by
  cases n with
  | ofNat n =>
    obtain ⟨c, ds, hchars, hc⟩ := natChars_eq_cons n
    refine ⟨c, ds, ?_, Or.inr hc⟩
    simp only [intText, natText, String.toList_ofList, hchars]
  | negSucc n =>
    have hsign : "-".toList = ['-'] := by decide
    refine ⟨'-', natChars (n + 1), ?_, Or.inl rfl⟩
    simp only [intText, natText, String.toList_append, hsign, String.toList_ofList,
      List.cons_append, List.nil_append]

/-- A character that starts a number starts no other value. -/
theorem scalar_of_sign {c : Char} (h : c = '-' ∨ isDigit c = true) (cs : List Char) :
    scalar (c :: cs) =
      (Token.read (c :: cs)).bind fun r => r.1.number?.bind fun n => some (.num n, r.2) := by
  have hne : c ≠ 'n' ∧ c ≠ 't' ∧ c ≠ 'f' ∧ c ≠ '"' := by
    rcases h with rfl | h
    · decide
    · refine ⟨?_, ?_, ?_, ?_⟩ <;> (rintro rfl; exact absurd h (by decide))
  unfold scalar
  split
  · rename_i heq; exact absurd (List.cons.inj heq).1 hne.1
  · rename_i heq; exact absurd (List.cons.inj heq).1 hne.2.1
  · rename_i heq; exact absurd (List.cons.inj heq).1 hne.2.2.1
  · rename_i heq; exact absurd (List.cons.inj heq).1 hne.2.2.2
  · rfl

/-- **Integers read back.** An integer in the 64-bit ranges is read back from its text. -/
theorem scalar_intText {n : Int} (hlow : -9223372036854775808 ≤ n)
    (hhigh : n < 18446744073709551616) {rest : List Char} (hrest : Ends rest) :
    scalar ((intText n).toList ++ rest) = some (.num (.int n), rest) := by
  cases n with
  | ofNat n =>
    have hn : (n : Int) < 18446744073709551616 := hhigh
    have hread := Token.read_natChars n hrest
    obtain ⟨c, ds, hchars, hc⟩ := natChars_eq_cons n
    simp only [intText, natText, String.toList_ofList]
    rw [hchars, List.cons_append] at hread ⊢
    rw [scalar_of_sign (Or.inr hc), hread, ← hchars]
    simp only [Option.bind_some, Token.number?_natChars (show n < 18446744073709551616 by omega)]
    rfl
  | negSucc n =>
    simp only [intText, natText, String.toList_append, String.toList_ofList]
    have hsign : "-".toList = ['-'] := by decide
    rw [hsign, List.cons_append, List.nil_append, List.cons_append, scalar_of_sign (Or.inl rfl),
      Token.read_minus (n + 1) hrest]
    simp only [Option.bind_some,
      Token.number?_minus (Nat.succ_pos n) (show n + 1 ≤ 9223372036854775808 by omega)]
    rfl

end Json

end ResidencePortal
