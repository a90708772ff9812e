import ResidencePortal.Proofs.RoleNames
import ResidencePortal.Proofs.Text.CaseContext

/-!
# Roles in any spelling

A role is read from what is left of a text without the blanks at its ends, in lower case, so neither those blanks
nor the case of letters count. A phrase for a role counts wherever it stands, and what stands around it cannot
hide it: it has no blanks at its ends that trimming could drop, and no sigma that its neighbours could change.

**Results.**
* `normalize?_congr`: texts whose letters differ in case only denote one role, token included.
* `normalize?_of_phrase`: what a text denotes that holds a phrase.
* `role_ignores_case_and_padding`, `phrases_decide_role`: the two rules.
-/

namespace ResidencePortal.Role

open Text

/-! ## Letters in either case -/

/-- Letters, each small and as a capital: those of ASCII, and those that the phrases have besides. -/
def letterPairs : List (Char × Char) :=
  "abcdefghijklmnopqrstuvwxyzảýếá".toList.zip "ABCDEFGHIJKLMNOPQRSTUVWXYZẢÝẾÁ".toList

/-- The characters are the same, or one letter in the two cases. -/
inductive SameLetter : Char → Char → Prop
  | refl (c : Char) : SameLetter c c
  | raised {small capital : Char} (h : (small, capital) ∈ letterPairs) : SameLetter small capital
  | lowered {small capital : Char} (h : (small, capital) ∈ letterPairs) : SameLetter capital small

/-- The texts differ in the case of letters only. -/
def SameLetters (s t : String) : Prop := List.Forall₂ SameLetter s.toList t.toList

theorem letterPairs_alike :
    ∀ p ∈ letterPairs, lowerChar p.1 = lowerChar p.2 ∧ upperChar p.1 = upperChar p.2 ∧
      isCased p.1 = isCased p.2 ∧ isCaseIgnorable p.1 = isCaseIgnorable p.2 ∧
      (p.1 = capitalSigma ↔ p.2 = capitalSigma) ∧ isBlank p.1 = isBlank p.2 := by decide +kernel

theorem caseAlike_of_mem {small capital : Char} (h : (small, capital) ∈ letterPairs) :
    CaseAlike small capital := by
  obtain ⟨hlower, hupper, hcased, hignorable, hsigma, hblank⟩ := letterPairs_alike _ h
  exact ⟨hlower, hupper, hcased, hignorable, hsigma, hblank⟩

theorem SameLetter.caseAlike {c d : Char} (h : SameLetter c d) : CaseAlike c d := by
  cases h with
  | refl => exact .refl c
  | raised hmem => exact caseAlike_of_mem hmem
  | lowered hmem => exact (caseAlike_of_mem hmem).symm

theorem SameLetters.caseAlike {s t : String} (h : SameLetters s t) :
    List.Forall₂ CaseAlike s.toList t.toList :=
  h.imp fun _ _ => SameLetter.caseAlike

theorem SameLetters.lower_eq {s t : String} (h : SameLetters s t) : lower s = lower t := by
  rw [lower, lower, lowerChars, lowerChars, lowerFrom_congr .nil h.caseAlike]

/-- **One role.** Texts whose characters are alike but for their case denote one role. -/
theorem normalize?_congr {s t : String} (h : List.Forall₂ CaseAlike s.toList t.toList) :
    normalize? s = normalize? t := by
  have htrim := trimChars_congr h
  have hlower : lower (trim s) = lower (trim t) := by
    rw [lower, lower, toList_trim, toList_trim, lowerChars, lowerChars, lowerFrom_congr .nil htrim]
  have hupper : upper (trim s) = upper (trim t) := by
    rw [upper, upper, toList_trim, toList_trim, upperChars_congr htrim]
  have hblank : allBlank s = allBlank t := by
    rw [← trim_isEmpty, ← trim_isEmpty, Bool.eq_iff_iff, String.isEmpty_iff, String.isEmpty_iff,
      ← String.toList_eq_nil_iff, ← String.toList_eq_nil_iff, toList_trim, toList_trim,
      ← List.length_eq_zero_iff, ← List.length_eq_zero_iff, htrim.length_eq]
  rw [normalize?_eq_ite, normalize?_eq_ite, classify, classify, hblank, hlower, hupper]

/-- Blanks put around a text do not change the role. -/
theorem normalize?_padded {front back : String} (hfront : allBlank front = true)
    (hback : allBlank back = true) (s : String) : normalize? (front ++ s ++ back) = normalize? s := by
  rw [allBlank, List.all_eq_true] at hfront hback
  have htrim : trim (front ++ s ++ back) = trim s := by
    rw [trim, String.toList_append, String.toList_append, trimChars_padded hfront hback, trim]
  rw [← normalize?_trim, htrim, normalize?_trim]

/-- **Case and padding.** A text with blanks put around it denotes the role of every text that differs from it
in the case of letters only. -/
theorem role_ignores_case_and_padding {s t : String} (h : SameLetters s t) {front back : String}
    (hfront : allBlank front = true) (hback : allBlank back = true) :
    normalize? (front ++ s ++ back) = normalize? t := by
  rw [normalize?_padded hfront hback]
  exact normalize?_congr h.caseAlike

/-- A word whose last sigma is looked at from both sides, and a letter that has its case changed there. -/
theorem sigma_word_ignores_case :
    normalize? ("\u3000" ++ "aΣ BAN" ++ "\t") = normalize? "AΣ ban" ∧
      normalize? "AΣ ban" = some (other "AΣ BAN") := by
  have hletters : SameLetters "aΣ BAN" "AΣ ban" :=
    .cons (.raised (by decide)) (.cons (.refl _) (.cons (.refl _)
      (.cons (.lowered (by decide)) (.cons (.lowered (by decide)) (.cons (.lowered (by decide)) .nil)))))
  exact ⟨role_ignores_case_and_padding hletters (by decide) (by decide), by decide +kernel⟩

/-! ## Phrases -/

/-- The phrases that make a role wherever they stand. -/
def phrases : List String := managementPhrases ++ accountantPhrases

theorem phrases_solid : ∀ phrase ∈ phrases, SolidEnds phrase.toList := by decide

theorem phrases_without_sigma : ∀ phrase ∈ phrases, 'σ' ∉ phrase.toList ∧ 'ς' ∉ phrase.toList := by decide

/-- Whether phrases are found does not depend on the blanks around a text. -/
theorem any_contains_lower_trim {kept : List String} (hkept : ∀ phrase ∈ kept, phrase ∈ phrases)
    (raw : String) : kept.any (contains (lower (trim raw))) = kept.any (contains (lower raw)) := by
  rw [Bool.eq_iff_iff, List.any_eq_true, List.any_eq_true]
  refine exists_congr fun phrase => and_congr_right fun hmem => ?_
  rw [contains_lower_trim (phrases_solid phrase (hkept phrase hmem))]

/-- **A phrase decides.** A text that holds a phrase in lower case is management if one of the phrases is for
management, else the accountant. -/
theorem normalize?_of_phrase {raw : String} (h : phrases.any (contains (lower raw)) = true) :
    normalize? raw = some (if managementPhrases.any (contains (lower raw)) then management else accountant) := by
  rw [← any_contains_lower_trim fun _ => id] at h
  rw [← any_contains_lower_trim fun _ => List.mem_append_left _]
  have hblank : allBlank raw = false := by
    rw [Bool.eq_false_iff]
    intro hblank
    have hempty : trim raw = "" := by rwa [← trim_isEmpty, String.isEmpty_iff] at hblank
    rw [hempty] at h
    exact absurd h (by decide)
  have hadmin : lower (trim raw) ≠ "admin" := by
    intro heq
    rw [heq] at h
    exact absurd h (by decide)
  have hwords : managementWords.contains (lower (trim raw)) = false := by
    rw [Bool.eq_false_iff, ne_eq, List.contains_iff_mem]
    intro hmem
    have hall : ∀ word ∈ managementWords, phrases.any (contains word) = false := by decide
    rw [hall _ hmem] at h
    cases h
  rw [normalize?_eq_ite, hblank, if_neg Bool.false_ne_true, classify, if_neg hadmin]
  rw [phrases, List.any_append] at h
  simp only [matchesAny, hwords, Bool.or_false]
  cases hmanagement : managementPhrases.any (contains (lower (trim raw))) with
  | true => rw [if_pos rfl, if_pos rfl]
  | false =>
    rw [hmanagement, Bool.false_or] at h
    simp only [h, Bool.true_or, Bool.false_eq_true, if_false, if_true]

/-- What surrounds a phrase does not hide it. -/
theorem contains_phrase {phrase part : String} (hphrase : phrase ∈ phrases) (h : lower part = phrase)
    (front back : String) : contains (lower (front ++ part ++ back)) phrase = true := by
  have hsigma : capitalSigma ∉ part.toList := by
    intro hmem
    obtain ⟨hinner, hfinal⟩ := phrases_without_sigma phrase hphrase
    rw [← h, toList_lower] at hinner hfinal
    exact (sigma_mem_lowerFrom hmem []).elim hinner hfinal
  rw [← h]
  exact contains_lower_between hsigma front back

/-- **Phrases** decide wherever they stand. A text with a phrase for management in it, in whatever case, is
management; a text with a phrase for the accountant in it is the accountant unless there is a phrase for
management too. The phrases in whatever case are the texts with that lower-case form; all that differ from a
phrase in the case of letters only are among them. -/
theorem phrases_decide_role (front part back : String) :
    (∀ phrase ∈ ["quản lý", "quan ly"], lower part = phrase →
      normalize? (front ++ part ++ back) = some management) ∧
    (∀ phrase ∈ ["kế toán", "ke toan"], lower part = phrase →
      normalize? (front ++ part ++ back) =
        some (if ["quản lý", "quan ly"].any (contains (lower (front ++ part ++ back))) then management
          else accountant)) ∧
    ∀ phrase ∈ ["quản lý", "quan ly", "kế toán", "ke toan"], SameLetters part phrase →
      lower part = phrase := by
  refine ⟨fun phrase hmem h => ?_, fun phrase hmem h => ?_, fun phrase hmem h => ?_⟩
  · have hmem : phrase ∈ managementPhrases := hmem
    have hfound := contains_phrase (List.mem_append_left _ hmem) h front back
    have hmanagement : managementPhrases.any (contains (lower (front ++ part ++ back))) = true :=
      List.any_eq_true.2 ⟨phrase, hmem, hfound⟩
    rw [normalize?_of_phrase (by rw [phrases, List.any_append, hmanagement, Bool.true_or]), hmanagement]
    rfl
  · have hmem : phrase ∈ phrases := List.mem_append_right managementPhrases hmem
    exact normalize?_of_phrase (List.any_eq_true.2 ⟨phrase, hmem, contains_phrase hmem h front back⟩)
  · have hsmall : ∀ phrase ∈ ["quản lý", "quan ly", "kế toán", "ke toan"], lower phrase = phrase := by
      decide +kernel
    rw [h.lower_eq, hsmall phrase hmem]

/-- Neither the administrator's word nor sigmas and blanks around a phrase change what it decides. -/
theorem phrases_between_sigmas :
    normalize? ("admin KẾ TOÁNΣ" ++ "QuẢn LÝ" ++ "Σ\u3000") = some management ∧
      normalize? ("\tadmin Σ" ++ "KẾ toÁN" ++ "Σ") = some accountant := by
  obtain ⟨hmanagement, -⟩ := phrases_decide_role "admin KẾ TOÁNΣ" "QuẢn LÝ" "Σ\u3000"
  obtain ⟨-, haccountant, -⟩ := phrases_decide_role "\tadmin Σ" "KẾ toÁN" "Σ"
  refine ⟨hmanagement "quản lý" (by decide) (by decide +kernel), ?_⟩
  rw [haccountant "kế toán" (by decide) (by decide +kernel)]
  have hnone : ["quản lý", "quan ly"].any (contains (lower ("\tadmin Σ" ++ "KẾ toÁN" ++ "Σ"))) = false := by
    decide +kernel
  rw [hnone]
  rfl

end ResidencePortal.Role
