import ResidencePortal.Proofs.Text.CaseImages

/-!
# Roles and their names

A text is recognized by its lower-case form, and a text that is not recognized becomes a token in upper
case. The two forms do not always belong together: some characters have an upper-case form whose
lower-case form is another character, so a token may look like the name of a known role.

**Results.**
* `normalize?_eq_admin_iff`: only the word itself makes an administrator, and only ASCII letters may
  differ in case; no character of another script stands in for one of them.
* `normalize?_name_iff`: when the name of a role denotes that role, and what it denotes otherwise.
* `normalize?_dotless_admin`: a token that is written like the administrator's name.
-/

namespace ResidencePortal.Role

open Text

/-! ## Recognition -/

/-- The known role that a lower-case text denotes. -/
def known? (lowered : String) : Option Role :=
  if lowered = "admin" then some admin
  else if matchesAny lowered managementPhrases managementWords then some management
  else if matchesAny lowered accountantPhrases accountantWords then some accountant
  else none

/-- A text is judged by its lower-case form, and kept in upper case if that says nothing. -/
theorem classify_eq_getD (trimmed : String) :
    classify trimmed = (known? (lower trimmed)).getD (other (upper trimmed)) := by
  simp only [classify, known?]
  repeat' split
  all_goals rfl

theorem isRecognized_of_known? {lowered : String} {role : Role} (h : known? lowered = some role) :
    role.isRecognized = true := by
  unfold known? at h
  split at h
  · cases h; rfl
  split at h
  · cases h; rfl
  split at h
  · cases h; rfl
  · cases h

theorem known?_eq_admin_iff (lowered : String) : known? lowered = some admin ↔ lowered = "admin" := by
  unfold known?
  by_cases h : lowered = "admin"
  · simp [h]
  · rw [if_neg h]
    refine ⟨fun hknown => ?_, fun hadmin => absurd hadmin h⟩
    split at hknown
    · cases hknown
    split at hknown
    · cases hknown
    · cases hknown

theorem classify_eq_admin_iff (trimmed : String) :
    classify trimmed = admin ↔ lower trimmed = "admin" := by
  rw [classify_eq_getD, ← known?_eq_admin_iff]
  cases known? (lower trimmed) with
  | none => simp
  | some role => simp

/-- **Who is an administrator.** A text makes an administrator exactly if, without the blanks at its
ends, it is the word `admin` but for the case of its ASCII letters. -/
theorem normalize?_eq_admin_iff (raw : String) :
    normalize? raw = some admin ↔ lowerAscii (trim raw) = "admin" := by
  have hplain : ∀ d ∈ "admin".toList, IsPlain d := by simp [IsPlain]
  rw [normalize?_eq_ite, ← lower_eq_iff_lowerAscii_eq hplain]
  cases hblank : allBlank raw with
  | true =>
    have htrim : trim raw = "" := by simpa [hblank] using trim_isEmpty raw
    rw [htrim]
    decide
  | false =>
    rw [if_neg Bool.false_ne_true, Option.some_inj]
    exact classify_eq_admin_iff (trim raw)

/-! ## Reading names -/

theorem normalize?_name_of_isRecognized {role : Role} (h : role.isRecognized = true) :
    normalize? role.name = some role := by
  cases role with
  | admin => decide +kernel
  | management => decide +kernel
  | accountant => decide +kernel
  | other token => cases h

/-- A text denotes a known role, or the token that is its upper-case form. -/
theorem normalize?_cases {raw : String} {role : Role} (h : normalize? raw = some role) :
    role.isRecognized = true ∨
      (allBlank raw = false ∧ known? (lower (trim raw)) = none ∧ role = other (upper (trim raw))) := by
  rw [normalize?_eq_ite, classify_eq_getD] at h
  cases hblank : allBlank raw with
  | true => simp [hblank] at h
  | false =>
    rw [hblank, if_neg Bool.false_ne_true, Option.some_inj] at h
    cases hknown : known? (lower (trim raw)) with
    | some known => exact Or.inl (by rw [← h, hknown]; exact isRecognized_of_known? hknown)
    | none => exact Or.inr ⟨rfl, rfl, by rw [← h, hknown]; rfl⟩

/-- A token is in upper case and without blanks at its ends already, so only its lower-case form can
make another role of it. -/
theorem normalize?_upper_trim {raw : String} (h : allBlank raw = false) :
    normalize? (upper (trim raw)) =
      some ((known? (lower (upper (trim raw)))).getD (other (upper (trim raw)))) := by
  rw [normalize?_eq_ite, allBlank_upper, allBlank_trim, h, if_neg Bool.false_ne_true, trim_upper,
    trim_trim, classify_eq_getD, upper_upper]

/-- **What the name of a role denotes.** It denotes the role, unless the role is a token that is written
like a known role; then it denotes that known role. In either case the name of what it denotes is read
faithfully. A text of ASCII characters never denotes a token that is misread. -/
theorem normalize?_name_iff {raw : String} {role : Role} (h : normalize? raw = some role) :
    (normalize? role.name = some role ↔
      role.isRecognized = true ∨ known? (lower role.name) = none) ∧
    (∃ back, normalize? role.name = some back ∧ (back = role ∨ known? (lower role.name) = some back) ∧
      normalize? back.name = some back) ∧
    ((∀ c ∈ raw.toList, c.toNat < 0x80) → normalize? role.name = some role) := by
  rcases normalize?_cases h with hrecognized | ⟨hblank, hunknown, rfl⟩
  · have hname := normalize?_name_of_isRecognized hrecognized
    exact ⟨⟨fun _ => Or.inl hrecognized, fun _ => hname⟩, ⟨role, hname, Or.inl rfl, hname⟩,
      fun _ => hname⟩
  · have hname : normalize? (other (upper (trim raw))).name =
        some ((known? (lower (upper (trim raw)))).getD (other (upper (trim raw)))) :=
      normalize?_upper_trim hblank
    cases hknown : known? (lower (upper (trim raw))) with
    | none =>
      rw [hknown, Option.getD_none] at hname
      exact ⟨⟨fun _ => Or.inr hknown, fun _ => hname⟩, ⟨_, hname, Or.inl rfl, hname⟩, fun _ => hname⟩
    | some known =>
      rw [hknown, Option.getD_some] at hname
      have hrecognized := isRecognized_of_known? hknown
      refine ⟨⟨fun hsame => ?_, fun hfaithful => ?_⟩,
        ⟨known, hname, Or.inr hknown, normalize?_name_of_isRecognized hrecognized⟩, fun hascii => ?_⟩
      · rw [hname, Option.some_inj] at hsame
        rw [hsame] at hrecognized
        cases hrecognized
      · rcases hfaithful with htoken | hnone
        · cases htoken
        · cases hknown.symm.trans hnone
      · have htrimmed : ∀ c ∈ (trim raw).toList, c.toNat < 0x80 := by
          intro c hc
          rw [toList_trim] at hc
          exact hascii c ((trimChars_sublist raw.toList).mem hc)
        rw [lower_upper_of_ascii htrimmed, hunknown] at hknown
        cases hknown

/-- A token of which the name is read faithfully. -/
theorem normalize?_name_resident :
    normalize? " Resident " = some (other "RESIDENT") ∧
      normalize? (other "RESIDENT").name = some (other "RESIDENT") := by
  have hraw : normalize? " Resident " = some (other "RESIDENT") := by decide +kernel
  exact ⟨hraw, (normalize?_name_iff hraw).1.2 (Or.inr (by decide +kernel))⟩

/-- A token that is written like the administrator's name: without its dot the small `i` is a letter of
its own, but it has the same capital. -/
theorem normalize?_dotless_admin :
    normalize? "adm\u0131n" = some (other "ADMIN") ∧
      normalize? (other "ADMIN").name = some admin := by
  decide +kernel

end ResidencePortal.Role
