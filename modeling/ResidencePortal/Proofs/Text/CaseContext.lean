import Mathlib.Data.List.Forall2
import ResidencePortal.Proofs.Text.CaseImages

/-!
# Lower case in its context

Only the capital sigma is lowered by its neighbours; every other character is lowered on its own. What a sigma
looks for are letters with case, and it stops at the first character that it does not look past. A blank is no
letter and is not looked past, so blanks at the ends of a text change nothing inside. Nor does the case of a
letter that a sigma finds.

**Results.**
* `lowerFrom_append_of_not_mem`: a part without capital sigma is lowered as if it stood alone.
* `contains_lower_between`: the lower-case form of such a part is found in that of the whole.
* `lowerChars_padded`, `contains_lower_trim`: blanks around a text stay as they are and hide no phrase.
* `lowerFrom_congr`, `upperChars_congr`, `trimChars_congr`: characters that differ in case only may be exchanged.
-/

namespace ResidencePortal.Text

/-! ## Parts without sigma -/

theorem lowerFrom_append_of_not_mem {cs : List Char} (h : capitalSigma ∉ cs) (before rest : List Char) :
    lowerFrom before (cs ++ rest) = cs.flatMap lowerChar ++ lowerFrom (cs.reverse ++ before) rest := by
  induction cs generalizing before with
  | nil => rfl
  | cons c cs ih =>
    rw [List.mem_cons, not_or] at h
    rw [List.cons_append, lowerFrom, if_neg (Ne.symm h.1), ih h.2, List.flatMap_cons, List.append_assoc,
      List.reverse_cons, List.append_assoc]
    rfl

/-- What follows some characters is lowered knowing them. -/
theorem lowerFrom_suffix (before cs rest : List Char) :
    lowerFrom (cs.reverse ++ before) rest <:+ lowerFrom before (cs ++ rest) := by
  induction cs generalizing before with
  | nil => exact List.suffix_refl _
  | cons c cs ih =>
    have hrest := ih (c :: before)
    rw [List.cons_append, lowerFrom, List.reverse_cons, List.append_assoc]
    exact hrest.trans (List.suffix_append _ _)

/-- A capital sigma leaves a small one. -/
theorem sigma_mem_lowerFrom {cs : List Char} (h : capitalSigma ∈ cs) (before : List Char) :
    'σ' ∈ lowerFrom before cs ∨ 'ς' ∈ lowerFrom before cs := by
  induction cs generalizing before with
  | nil => cases h
  | cons c cs ih =>
    rw [lowerFrom, List.mem_append, List.mem_append]
    rcases List.mem_cons.1 h with rfl | hrest
    · rw [if_pos rfl, List.mem_singleton, List.mem_singleton]
      unfold lowerSigma
      split
      · exact Or.inr (Or.inl rfl)
      · exact Or.inl (Or.inl rfl)
    · exact (ih hrest (c :: before)).imp Or.inr Or.inr

/-- **A part of a text.** The lower-case form of a part without capital sigma is found in the lower-case form of
the whole. -/
theorem contains_lower_between {part : String} (h : capitalSigma ∉ part.toList) (front back : String) :
    contains (lower (front ++ part ++ back)) (lower part) = true := by
  have hpart : lowerChars part.toList = part.toList.flatMap lowerChar := by
    have happend := lowerFrom_append_of_not_mem h [] []
    rwa [List.append_nil, lowerFrom, List.append_nil] at happend
  rw [contains_iff, toList_lower, toList_lower, hpart, String.toList_append, String.toList_append,
    List.append_assoc, lowerChars]
  refine List.IsInfix.trans ?_ (lowerFrom_suffix [] front.toList (part.toList ++ back.toList)).isInfix
  rw [lowerFrom_append_of_not_mem h]
  exact (List.prefix_append _ _).isInfix

/-! ## Blanks around a text -/

theorem blankCodes_uncased :
    ∀ n ∈ blankCodes, lowerChar (Char.ofNat n) = [Char.ofNat n] ∧ isCased (Char.ofNat n) = false ∧
      isCaseIgnorable (Char.ofNat n) = false ∧ Char.ofNat n ≠ capitalSigma := by decide +kernel

/-- A blank has no case, and a sigma does not look past it. -/
theorem uncased_of_isBlank {c : Char} (h : isBlank c = true) :
    lowerChar c = [c] ∧ isCased c = false ∧ isCaseIgnorable c = false ∧ c ≠ capitalSigma := by
  have hcode := blankCodes_uncased c.toNat (mem_blankCodes h)
  rwa [Char.ofNat_toNat] at hcode

theorem not_mem_of_isBlank {blanks : List Char} (h : ∀ c ∈ blanks, isBlank c = true) :
    capitalSigma ∉ blanks :=
  fun hmem => (uncased_of_isBlank (h _ hmem)).2.2.2 rfl

theorem flatMap_lowerChar_of_isBlank {blanks : List Char} (h : ∀ c ∈ blanks, isBlank c = true) :
    blanks.flatMap lowerChar = blanks := by
  induction blanks with
  | nil => rfl
  | cons c blanks ih =>
    rw [List.forall_mem_cons] at h
    rw [List.flatMap_cons, (uncased_of_isBlank h.1).1, ih h.2, List.singleton_append]

theorem meetsCased_append {cs blanks : List Char} (h : ∀ c ∈ blanks, isBlank c = true) :
    meetsCased (cs ++ blanks) = meetsCased cs := by
  have hblanks : meetsCased blanks = false := by
    cases blanks with
    | nil => rfl
    | cons c blanks =>
      obtain ⟨-, hcased, hignorable, -⟩ := uncased_of_isBlank (h c List.mem_cons_self)
      rw [meetsCased, List.dropWhile_cons, if_neg (by rw [hignorable]; exact Bool.false_ne_true)]
      exact hcased
  unfold meetsCased at hblanks ⊢
  rw [List.dropWhile_append]
  cases hcs : cs.dropWhile isCaseIgnorable with
  | nil => exact hblanks
  | cons c rest => rfl

/-- Blanks far off do not count for a sigma. -/
theorem lowerSigma_append {front back : List Char} (hfront : ∀ c ∈ front, isBlank c = true)
    (hback : ∀ c ∈ back, isBlank c = true) (before after : List Char) :
    lowerSigma (before ++ front) (after ++ back) = lowerSigma before after := by
  rw [lowerSigma, meetsCased_append hfront, meetsCased_append hback, lowerSigma]

theorem lowerFrom_between {front back : List Char} (hfront : ∀ c ∈ front, isBlank c = true)
    (hback : ∀ c ∈ back, isBlank c = true) (before cs : List Char) :
    lowerFrom (before ++ front) (cs ++ back) = lowerFrom before cs ++ back := by
  induction cs generalizing before with
  | nil =>
    have hend := lowerFrom_append_of_not_mem (not_mem_of_isBlank hback) (before ++ front) []
    rwa [List.append_nil, lowerFrom, List.append_nil, flatMap_lowerChar_of_isBlank hback] at hend
  | cons c cs ih =>
    rw [List.cons_append, lowerFrom, lowerSigma_append hfront hback, ← List.cons_append, ih, lowerFrom,
      List.append_assoc]

/-- **Blanks around characters** stay as they are, and what is between them is lowered as if they were not
there. -/
theorem lowerChars_padded {front back : List Char} (hfront : ∀ c ∈ front, isBlank c = true)
    (hback : ∀ c ∈ back, isBlank c = true) (cs : List Char) :
    lowerChars (front ++ cs ++ back) = front ++ lowerChars cs ++ back := by
  have hreverse : ∀ c ∈ front.reverse, isBlank c = true := fun c hc => hfront c (List.mem_reverse.1 hc)
  have hbetween := lowerFrom_between hreverse hback [] cs
  rw [List.nil_append] at hbetween
  rw [lowerChars, List.append_assoc, lowerFrom_append_of_not_mem (not_mem_of_isBlank hfront),
    flatMap_lowerChar_of_isBlank hfront, List.append_nil, hbetween, ← List.append_assoc, lowerChars]

/-- The characters are some, and neither end is blank. -/
def SolidEnds (cs : List Char) : Prop :=
  (∃ c ∈ cs.head?, isBlank c = false) ∧ ∃ c ∈ cs.getLast?, isBlank c = false

instance (cs : List Char) : Decidable (SolidEnds cs) :=
  decidable_of_iff (cs.head?.any (fun c => !isBlank c) = true ∧ cs.getLast?.any (fun c => !isBlank c) = true)
    (by simp [SolidEnds, Option.any_eq_true])

theorem infix_of_blank_front {pattern front cs : List Char} (hsolid : ∃ c ∈ pattern.head?, isBlank c = false)
    (hfront : ∀ c ∈ front, isBlank c = true) (h : pattern <:+: front ++ cs) : pattern <:+: cs := by
  induction front with
  | nil => exact h
  | cons b front ih =>
    rw [List.forall_mem_cons] at hfront
    rw [List.cons_append, List.infix_cons_iff] at h
    refine ih hfront.2 (h.resolve_left fun hprefix => ?_)
    obtain ⟨c, hc, hblank⟩ := hsolid
    obtain ⟨rest, rfl⟩ := List.head?_eq_some_iff.1 hc
    obtain rfl : c = b := (List.cons_prefix_cons.1 hprefix).1
    rw [hfront.1] at hblank
    cases hblank

/-- A pattern with solid ends that is found between blanks is found without them. -/
theorem infix_of_padded {pattern front cs back : List Char} (hsolid : SolidEnds pattern)
    (hfront : ∀ c ∈ front, isBlank c = true) (hback : ∀ c ∈ back, isBlank c = true)
    (h : pattern <:+: front ++ cs ++ back) : pattern <:+: cs := by
  rw [List.append_assoc] at h
  have hfound := infix_of_blank_front hsolid.1 hfront h
  rw [← List.reverse_infix, List.reverse_append] at hfound
  refine List.reverse_infix.1 (infix_of_blank_front ?_ ?_ hfound)
  · rw [List.head?_reverse]
    exact hsolid.2
  · exact fun c hc => hback c (List.mem_reverse.1 hc)

/-- **Phrases in a padded text.** Trimming hides no phrase and uncovers none. -/
theorem contains_lower_trim {pattern : String} (hsolid : SolidEnds pattern.toList) (s : String) :
    contains (lower (trim s)) pattern = contains (lower s) pattern := by
  obtain ⟨front, back, hfront, hback, hs⟩ := exists_padding s.toList
  have hlower : lowerChars s.toList = front ++ lowerChars (trimChars s.toList) ++ back := by
    rw [hs, lowerChars_padded hfront hback, trimChars_padded hfront hback, trimChars_trimChars]
  rw [Bool.eq_iff_iff, contains_iff, contains_iff, toList_lower, toList_lower, toList_trim, hlower]
  exact ⟨fun h => h.trans (List.infix_append _ _ _), infix_of_padded hsolid hfront hback⟩

/-! ## Letters in either case -/

/-- Characters that the case mappings, the rule for sigma and trimming do not tell apart. -/
structure CaseAlike (c d : Char) : Prop where
  lower : lowerChar c = lowerChar d
  upper : upperChar c = upperChar d
  cased : isCased c = isCased d
  ignorable : isCaseIgnorable c = isCaseIgnorable d
  sigma : c = capitalSigma ↔ d = capitalSigma
  blank : isBlank c = isBlank d

theorem CaseAlike.refl (c : Char) : CaseAlike c c := ⟨rfl, rfl, rfl, rfl, Iff.rfl, rfl⟩

theorem CaseAlike.symm {c d : Char} (h : CaseAlike c d) : CaseAlike d c :=
  ⟨h.lower.symm, h.upper.symm, h.cased.symm, h.ignorable.symm, h.sigma.symm, h.blank.symm⟩

variable {cs ds : List Char}

theorem forall₂_dropWhile {p : Char → Bool} (hp : ∀ c d, CaseAlike c d → p c = p d)
    (h : List.Forall₂ CaseAlike cs ds) : List.Forall₂ CaseAlike (cs.dropWhile p) (ds.dropWhile p) := by
  induction h with
  | nil => exact .nil
  | @cons c d cs ds hcd hrest ih =>
    rw [List.dropWhile_cons, List.dropWhile_cons, hp c d hcd]
    split
    · exact ih
    · exact .cons hcd hrest

theorem meetsCased_congr (h : List.Forall₂ CaseAlike cs ds) : meetsCased cs = meetsCased ds := by
  have hdrop := forall₂_dropWhile (fun _ _ hcd => hcd.ignorable) h
  unfold meetsCased
  generalize cs.dropWhile isCaseIgnorable = left at hdrop ⊢
  generalize ds.dropWhile isCaseIgnorable = right at hdrop ⊢
  cases hdrop with
  | nil => rfl
  | cons hcd _ => exact hcd.cased

theorem lowerFrom_congr {before before' : List Char} (hbefore : List.Forall₂ CaseAlike before before')
    (h : List.Forall₂ CaseAlike cs ds) : lowerFrom before cs = lowerFrom before' ds := by
  induction h generalizing before before' with
  | nil => rfl
  | @cons c d cs ds hcd hrest ih =>
    rw [lowerFrom, lowerFrom, lowerSigma, lowerSigma, meetsCased_congr hbefore, meetsCased_congr hrest,
      hcd.lower, ih (.cons hcd hbefore)]
    simp only [hcd.sigma]

theorem upperChars_congr (h : List.Forall₂ CaseAlike cs ds) : upperChars cs = upperChars ds := by
  induction h with
  | nil => rfl
  | cons hcd _ ih =>
    rw [upperChars] at ih ⊢
    rw [List.flatMap_cons, hcd.upper, ih, upperChars, upperChars, List.flatMap_cons]

theorem trimChars_congr (h : List.Forall₂ CaseAlike cs ds) :
    List.Forall₂ CaseAlike (trimChars cs) (trimChars ds) := by
  have hblank : ∀ c d, CaseAlike c d → isBlank c = isBlank d := fun _ _ hcd => hcd.blank
  have hstart := forall₂_dropWhile hblank h
  have hend := forall₂_dropWhile hblank (List.forall₂_reverse_iff.2 hstart)
  exact List.forall₂_reverse_iff.2 hend

end ResidencePortal.Text
