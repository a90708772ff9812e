import ResidencePortal.Proofs.Html.Markup

/-!
# Texts that do not name a region

Markup names a region by an attribute with the identifier of the region as its value. Such an attribute can
come together from pieces: its name from one, its value from another. So it is not enough that no piece of
a document contains it.

A text is clear of regions if, wherever the attribute opens in it, what follows the opening quote goes on in
another way than the identifier and the closing quote. Then it does not name the region, and what is
written behind it cannot make it do so by going on. A text that keeps every clear text clear, when it is
written behind it, is harmless; harmless texts in a row are harmless.

**Results.**
* `Clear.contains_mark`: a clear text does not name the regions.
* `harmless_append`: harmless texts in a row are harmless.
* `harmless_of_markup_eq_nil`: a text without markup is harmless, whatever stands in it.
* `harmless_of_opensOnly`: a text whose quotes open the attribute for other regions only is harmless. This
  is a test that can be computed; `harmless_literal` is its form for the literals of the templates.
-/

namespace ResidencePortal

open Text

/-- The attribute that names a region. -/
def Region.mark (r : Region) : String := "data-region=\"" ++ r.id ++ "\""

namespace Html

/-! ## The attribute in characters -/

/-- The name of the attribute and the sign before its value. -/
def markName : List Char := ['d', 'a', 't', 'a', '-', 'r', 'e', 'g', 'i', 'o', 'n', '=']

/-- What follows the opening quote if the region is named. -/
def markValue (r : Region) : List Char := r.id.toList ++ ['"']

theorem toList_mark (r : Region) : r.mark.toList = markName ++ '"' :: markValue r := by
  have hopening : "data-region=\"".toList = markName ++ ['"'] := String.toList_ofList
  rw [Region.mark, String.toList_append, String.toList_append, hopening, markValue]
  simp

/-- The one text begins with the other, so that they may go on as the same text. -/
def agrees (a b : List Char) : Bool := a.isPrefixOf b || b.isPrefixOf a

theorem agrees_iff {a b : List Char} : agrees a b = true ↔ a <+: b ∨ b <+: a := by
  rw [agrees, Bool.or_eq_true, List.isPrefixOf_iff_prefix, List.isPrefixOf_iff_prefix]

/-- Beginnings of one text agree. -/
theorem agrees_of_prefix {a b c : List Char} (ha : a <+: c) (hb : b <+: c) : agrees a b = true :=
  agrees_iff.2 (List.prefix_or_prefix_of_prefix ha hb)

/-- What agrees, agrees from the beginning. -/
theorem agrees_of_agrees_append {a more b : List Char} (h : agrees (a ++ more) b = true) :
    agrees a b = true := by
  rcases agrees_iff.1 h with hprefix | hprefix
  · exact agrees_iff.2 (Or.inl ((List.prefix_append a more).trans hprefix))
  · exact agrees_of_prefix (List.prefix_append a more) hprefix

/-! ## Clear and harmless texts -/

/-- Wherever the attribute opens, what follows goes on in another way than for one of the regions. -/
def Clear (regions : List Region) (cs : List Char) : Prop :=
  ∀ front back, cs = front ++ markName ++ '"' :: back → ∀ r ∈ regions, agrees back (markValue r) = false

/-- Written behind a clear text, the text leaves it clear. -/
def Harmless (regions : List Region) (s : String) : Prop :=
  ∀ written, Clear regions written → Clear regions (written ++ s.toList)

variable {regions : List Region}

theorem clear_nil : Clear regions [] := by
  intro front back h
  simp at h

/-- A clear text does not name the regions. -/
theorem Clear.contains_mark {s : String} (h : Clear regions s.toList) {r : Region} (hr : r ∈ regions) :
    contains s r.mark = false := by
  by_contra hcontains
  rw [Bool.not_eq_false, contains_iff, toList_mark] at hcontains
  obtain ⟨front, back, hs⟩ := hcontains
  have hother : agrees (markValue r ++ back) (markValue r) = false :=
    h front (markValue r ++ back) (by rw [← hs]; simp) r hr
  rw [agrees_iff.2 (Or.inr (List.prefix_append _ _))] at hother
  cases hother

theorem Harmless.contains_mark {s : String} (h : Harmless regions s) {r : Region} (hr : r ∈ regions) :
    contains s r.mark = false :=
  (h [] clear_nil).contains_mark hr

theorem harmless_empty : Harmless regions "" := fun written h => by simpa using h

theorem harmless_append {s t : String} (hs : Harmless regions s) (ht : Harmless regions t) :
    Harmless regions (s ++ t) := by
  intro written h
  rw [String.toList_append, ← List.append_assoc]
  exact ht _ (hs written h)

/-- A text is harmless if at each of its quotes the attribute does not open, whatever stood before, or goes
on in another way than for one of the regions. -/
theorem harmless_of_quotes {s : String}
    (h : ∀ before after, s.toList = before ++ '"' :: after → ∀ front written,
      written ++ before = front ++ markName → ∀ r ∈ regions, agrees after (markValue r) = false) :
    Harmless regions s := by
  intro written hwritten front back hall r hr
  rw [List.append_eq_append_iff] at hall
  rcases hall with ⟨before, hbefore, hs⟩ | ⟨more, hmore, hback⟩
  · -- The quote stands in the new text.
    exact h before back hs front written hbefore.symm r hr
  · cases more with
    | nil => exact h [] back (by simpa using hback.symm) front written (by simpa using hmore) r hr
    | cons c more =>
      -- The quote was there before, and what follows it went another way already.
      obtain ⟨rfl, rfl⟩ := List.cons.inj hback
      have hother := hwritten front more (by simpa using hmore) r hr
      by_contra hagrees
      rw [agrees_of_agrees_append (by simpa using hagrees)] at hother
      cases hother

/-- A text without markup is harmless. -/
theorem harmless_of_markup_eq_nil {s : String} (h : markup s = []) : Harmless regions s := by
  refine harmless_of_quotes fun before after hs => ?_
  have hquote := markup_eq_nil.1 h '"' (by rw [hs]; simp)
  cases hquote

/-! ## A test for texts -/

/-- At each quote the attribute does not open, or it opens for one of the shown regions or for none. The
characters before the first are given from the last to the first, and there may be others in front. -/
def opensOnly (shown : List Region) (before : List Char) : List Char → Bool
  | [] => true
  | c :: cs =>
    (c != '"' || !agrees before markName.reverse ||
      Region.all.all fun r => r ∈ shown || !agrees cs (markValue r)) &&
    opensOnly shown (c :: before) cs

theorem opensOnly_append {shown : List Region} {cs before after : List Char}
    (h : opensOnly shown cs (before ++ '"' :: after) = true)
    (hname : agrees (before.reverse ++ cs) markName.reverse = true) {r : Region} (hr : r ∉ shown) :
    agrees after (markValue r) = false := by
  induction before generalizing cs with
  | nil =>
    rw [List.reverse_nil, List.nil_append] at hname
    rw [List.nil_append, opensOnly, hname, Bool.and_eq_true] at h
    have hall : ∀ r ∈ Region.all, r ∈ shown ∨ agrees after (markValue r) = false := by simpa using h.1
    exact (hall r (Region.mem_all r)).resolve_left hr
  | cons c before ih =>
    rw [List.cons_append, opensOnly, Bool.and_eq_true] at h
    exact ih h.2 (by simpa using hname)

/-- A text that opens the attribute for other regions only is harmless. -/
theorem harmless_of_opensOnly (shown : List Region) (hshown : ∀ r ∈ shown, r ∉ regions) {s : String}
    (h : opensOnly shown [] s.toList = true) : Harmless regions s := by
  refine harmless_of_quotes fun before after hs front written hbefore r hr => ?_
  rw [hs] at h
  refine opensOnly_append h ?_ fun hmem => hshown r hmem hr
  have hends := congrArg List.reverse hbefore
  rw [List.reverse_append, List.reverse_append] at hends
  rw [List.append_nil]
  exact agrees_of_prefix (List.prefix_append _ _) (hends.symm ▸ List.prefix_append _ _)

/-- A literal that does not open the attribute is harmless. It is read as the list of its characters, which
is quicker than to take it apart. -/
theorem harmless_literal {cs : List Char} (h : opensOnly [] [] cs = true) :
    Harmless regions (String.ofList cs) :=
  harmless_of_opensOnly [] (by simp) (by rwa [String.toList_ofList])

/-- A literal that opens the attribute for one other region is harmless. -/
theorem harmless_literal_of_region {r : Region} (hr : r ∉ regions) {cs : List Char}
    (h : opensOnly [r] [] cs = true) : Harmless regions (String.ofList cs) :=
  harmless_of_opensOnly [r] (by simpa using hr) (by rwa [String.toList_ofList])

end Html

end ResidencePortal
