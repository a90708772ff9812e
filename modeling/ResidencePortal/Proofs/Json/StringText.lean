import ResidencePortal.Json.Printer
import ResidencePortal.Json.Reader

/-!
# Quoted texts read back

A text is written between quotes with some characters escaped. Every text, whatever its characters, is
read back from its quoted form, and the reader stops right behind the closing quote.

**Results.**
* `escapeChar_cases`: how a character is written, and what the reader of escapes makes of it.
* `string_quoteChars`: a whole text is read back, with any characters behind it.
-/

namespace ResidencePortal.Json

open ResidencePortal.Text

/-- A control character is read back from its numbered escape. -/
theorem numberedEscape_control {c : Char} (h : c.toNat < 32) (rest : List Char) :
    numberedEscape ('0' :: '0' :: hexDigit (c.toNat / 16) :: hexDigit (c.toNat % 16) :: rest) =
      some (c, rest) := by
  have hzero : hexValue? '0' = some 0 := by decide
  have hhigh := hexValue?_hexDigit (c.toNat / 16) (by omega)
  have hlow := hexValue?_hexDigit (c.toNat % 16) (by omega)
  have hvalue : ((0 * 16 + 0) * 16 + c.toNat / 16) * 16 + c.toNat % 16 = c.toNat := by omega
  have hlead : isLeadSurrogate c.toNat = false := by simp [isLeadSurrogate]; omega
  have htrail : isTrailSurrogate c.toNat = false := by simp [isTrailSurrogate]; omega
  simp only [numberedEscape, hex4, hzero, hhigh, hlow, hvalue, hlead, htrail, Option.bind_eq_bind,
    Option.bind_some, Bool.false_eq_true, if_false, Char.ofNat_toNat]

/-- A character is written behind a backslash such that the reader of escapes gives it back, or it
stands for itself and is none of those that may not. -/
theorem escapeChar_cases (c : Char) :
    (∃ cs, escapeChar c = '\\' :: cs ∧ ∀ tail, escape (cs ++ tail) = some (c, tail)) ∨
    (escapeChar c = [c] ∧ c ≠ '"' ∧ c ≠ '\\' ∧ ¬c.toNat < 32) := by
  by_cases hquote : c = '"'
  · subst hquote; exact .inl ⟨['"'], rfl, fun _ => rfl⟩
  by_cases hback : c = '\\'
  · subst hback; exact .inl ⟨['\\'], rfl, fun _ => rfl⟩
  by_cases hline : c = '\n'
  · subst hline; exact .inl ⟨['n'], rfl, fun _ => rfl⟩
  by_cases hreturn : c = '\r'
  · subst hreturn; exact .inl ⟨['r'], rfl, fun _ => rfl⟩
  by_cases htab : c = '\t'
  · subst htab; exact .inl ⟨['t'], rfl, fun _ => rfl⟩
  by_cases hback8 : c.toNat = 8
  · obtain rfl : Char.ofNat 8 = c := by rw [← hback8, Char.ofNat_toNat]
    exact .inl ⟨['b'], rfl, fun _ => rfl⟩
  by_cases hfeed : c.toNat = 12
  · obtain rfl : Char.ofNat 12 = c := by rw [← hfeed, Char.ofNat_toNat]
    exact .inl ⟨['f'], rfl, fun _ => rfl⟩
  rw [escapeChar, if_neg hquote, if_neg hback, if_neg hline, if_neg hreturn, if_neg htab,
    if_neg hback8, if_neg hfeed]
  by_cases hcontrol : c.toNat < 32
  · rw [if_pos hcontrol]
    exact .inl ⟨_, rfl, fun tail => numberedEscape_control hcontrol tail⟩
  · rw [if_neg hcontrol]
    exact .inr ⟨rfl, hquote, hback, hcontrol⟩

/-- One round of the reader takes one escaped character. -/
theorem stringBody_escapeChar (c : Char) (fuel : Nat) (tail : List Char) :
    stringBody (fuel + 1) (escapeChar c ++ tail) =
      (stringBody fuel tail).map fun r => (c :: r.1, r.2) := by
  rcases escapeChar_cases c with ⟨cs, hcs, hescape⟩ | ⟨hcs, hquote, hback, hplain⟩
  · rw [hcs, List.cons_append, stringBody, if_neg (by decide), if_pos rfl]
    simp only [hescape, Option.bind_eq_bind, Option.bind_some]
    cases stringBody fuel tail <;> rfl
  · rw [hcs, List.cons_append, List.nil_append, stringBody, if_neg hquote, if_neg hback,
      if_neg hplain]
    cases stringBody fuel tail <;> rfl

theorem stringBody_flatMap (cs : List Char) (fuel : Nat) (hfuel : cs.length < fuel)
    (rest : List Char) :
    stringBody fuel (cs.flatMap escapeChar ++ '"' :: rest) = some (cs, rest) := by
  induction cs generalizing fuel with
  | nil =>
    obtain ⟨fuel, rfl⟩ := Nat.exists_eq_succ_of_ne_zero (Nat.ne_of_gt hfuel)
    rfl
  | cons c cs ih =>
    obtain ⟨fuel, rfl⟩ := Nat.exists_eq_succ_of_ne_zero (Nat.ne_of_gt (Nat.zero_lt_of_lt hfuel))
    rw [List.length_cons] at hfuel
    rw [List.flatMap_cons, List.append_assoc, stringBody_escapeChar, ih fuel (by omega)]
    rfl

theorem length_le_flatMap_escapeChar (cs : List Char) :
    cs.length ≤ (cs.flatMap escapeChar).length := by
  induction cs with
  | nil => exact Nat.le_refl 0
  | cons c cs ih =>
    have hc : 1 ≤ (escapeChar c).length := by
      rcases escapeChar_cases c with ⟨cs, hcs, -⟩ | ⟨hcs, -⟩
      · rw [hcs]; exact Nat.le_add_left 1 cs.length
      · rw [hcs]; exact Nat.le_refl 1
    rw [List.flatMap_cons, List.length_append, List.length_cons]
    omega

/-- **Texts read back.** The reader gives back the text and what follows its closing quote. -/
theorem string_quoteChars (s : String) (rest : List Char) :
    string (quoteChars s ++ rest) = some (s, rest) := by
  have hlength := length_le_flatMap_escapeChar s.toList
  rw [quoteChars, List.cons_append, List.append_assoc, List.cons_append, List.nil_append, string,
    stringBody_flatMap]
  · simp only [Option.map_some, String.ofList_toList]
  · rw [List.length_append, List.length_cons]
    omega

end ResidencePortal.Json
