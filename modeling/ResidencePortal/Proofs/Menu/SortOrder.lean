import ResidencePortal.Menu
import ResidencePortal.Proofs.Text.ByteOrder

/-!
# Sorting menus

Menu items are sorted by their numbers, those without a number last, and then by the bytes of their
titles. Items that tie keep their places. These properties determine the sorted list: two lists that are
in order and agree on the items of each tie are equal.

**Results.**
* `precedes_iff_inOrder`: the comparison of entries is the order by number and by the bytes of the title.
* `sortedFrom_sort`: the sorted items are a stable sort of the items.
* `SortedFrom.unique`: there is only one stable sort.
-/

namespace ResidencePortal.Menu

open Text

/-! ## The order of entries -/

/-- The first entry may stand before the second: it has the smaller number, or it alone has a number, or
they have the same number or none and its title is not greater byte by byte. -/
def InOrder (a b : MenuEntry) : Prop :=
  (∃ x y, a.order = some x ∧ b.order = some y ∧ x < y) ∨
  (a.order ≠ none ∧ b.order = none) ∨
  (a.order = b.order ∧ utf8Bytes a.title ≤ utf8Bytes b.title)

/-- The entries have the same number, or none, and the same title. -/
def Tied (a b : MenuEntry) : Prop := a.order = b.order ∧ a.title = b.title

instance (a b : MenuEntry) : Decidable (Tied a b) := inferInstanceAs (Decidable (_ ∧ _))

theorem Tied.refl (a : MenuEntry) : Tied a a := ⟨rfl, rfl⟩

theorem Tied.symm {a b : MenuEntry} (h : Tied a b) : Tied b a := ⟨h.1.symm, h.2.symm⟩

theorem Tied.trans {a b c : MenuEntry} (hab : Tied a b) (hbc : Tied b c) : Tied a c :=
  ⟨hab.1.trans hbc.1, hab.2.trans hbc.2⟩

/-- The comparison is the order by number and by the bytes of the title. -/
theorem precedes_iff_inOrder {a b : MenuEntry} : precedes a b = true ↔ InOrder a b := by
  unfold precedes InOrder
  rw [utf8Bytes_le_iff]
  cases a.order <;> cases b.order <;> simp

theorem InOrder.trans {a b c : MenuEntry} (hab : InOrder a b) (hbc : InOrder b c) : InOrder a c := by
  unfold InOrder at *
  rw [utf8Bytes_le_iff] at *
  rcases hab with ⟨x, y, ha, hb, hxy⟩ | ⟨ha, hb⟩ | ⟨hab, htitle⟩
  · rcases hbc with ⟨y', z, hb', hc, hyz⟩ | ⟨-, hc⟩ | ⟨hbc, -⟩
    · rw [hb, Option.some.injEq] at hb'
      exact Or.inl ⟨x, z, ha, hc, by omega⟩
    · exact Or.inr (Or.inl ⟨by simp [ha], hc⟩)
    · exact Or.inl ⟨x, y, ha, hbc ▸ hb, hxy⟩
  · rcases hbc with ⟨y, z, hb', -, -⟩ | ⟨hb', -⟩ | ⟨hbc, -⟩
    · rw [hb] at hb'
      cases hb'
    · exact absurd hb hb'
    · exact Or.inr (Or.inl ⟨ha, hbc ▸ hb⟩)
  · rw [hab]
    exact hbc.imp_right (Or.imp_right fun h => ⟨h.1, String.le_trans htitle h.2⟩)

theorem inOrder_total (a b : MenuEntry) : InOrder a b ∨ InOrder b a := by
  unfold InOrder
  rw [utf8Bytes_le_iff, utf8Bytes_le_iff]
  have htitles := String.le_total a.title b.title
  cases a.order with
  | none =>
    cases b.order with
    | none => simpa using htitles
    | some y => simp
  | some x =>
    cases b.order with
    | none => simp
    | some y =>
      rcases Nat.lt_trichotomy x y with hlt | rfl | hgt
      · exact Or.inl (Or.inl ⟨x, y, rfl, rfl, hlt⟩)
      · simpa using htitles
      · exact Or.inr (Or.inl ⟨y, x, rfl, rfl, hgt⟩)

theorem inOrder_of_tied {a b : MenuEntry} (h : Tied a b) : InOrder a b :=
  Or.inr (Or.inr ⟨h.1, utf8Bytes_le_iff.2 (h.2 ▸ String.le_refl _)⟩)

/-- Entries that may stand either way tie. -/
theorem InOrder.antisymm {a b : MenuEntry} (hab : InOrder a b) (hba : InOrder b a) : Tied a b := by
  rcases hab with ⟨x, y, ha, hb, hxy⟩ | ⟨ha, hb⟩ | ⟨horder, htitle⟩
  · rcases hba with ⟨y', x', hb', ha', hyx⟩ | ⟨-, ha'⟩ | ⟨horder, -⟩
    · rw [ha, Option.some.injEq] at ha'
      rw [hb, Option.some.injEq] at hb'
      omega
    · rw [ha] at ha'
      cases ha'
    · rw [ha, hb, Option.some.injEq] at horder
      omega
  · rcases hba with ⟨y, x, hb', -, -⟩ | ⟨hb', -⟩ | ⟨horder, -⟩
    · rw [hb] at hb'
      cases hb'
    · exact absurd hb hb'
    · exact absurd (horder.symm.trans hb) ha
  · rcases hba with ⟨y, x, hb, ha, hyx⟩ | ⟨hb, ha⟩ | ⟨-, htitle'⟩
    · rw [ha, hb, Option.some.injEq] at horder
      omega
    · exact absurd (horder.symm.trans ha) hb
    · exact ⟨horder, String.le_antisymm (utf8Bytes_le_iff.1 htitle) (utf8Bytes_le_iff.1 htitle')⟩

/-! ## Stable sorts -/

/-- A list is the stable sort of the items: it has the same items, in order, and those that tie with an
entry stand in it as they stand in the items. -/
structure SortedFrom (items sorted : List MenuItem) : Prop where
  perm : sorted.Perm items
  inOrder : sorted.Pairwise fun a b => InOrder a.entry b.entry
  ties : ∀ e, sorted.filter (fun i => Tied i.entry e) = items.filter fun i => Tied i.entry e

theorem sort_perm (items : List MenuItem) : (sort items).Perm items := List.mergeSort_perm items _

theorem precedes_trans (a b c : MenuItem) (hab : precedes a.entry b.entry = true)
    (hbc : precedes b.entry c.entry = true) : precedes a.entry c.entry = true :=
  precedes_iff_inOrder.2 ((precedes_iff_inOrder.1 hab).trans (precedes_iff_inOrder.1 hbc))

theorem precedes_total (a b : MenuItem) :
    (precedes a.entry b.entry || precedes b.entry a.entry) = true := by
  rw [Bool.or_eq_true, precedes_iff_inOrder, precedes_iff_inOrder]
  exact inOrder_total a.entry b.entry

/-- Sorting keeps the items of a tie as they stand. -/
theorem filter_tied_sort (items : List MenuItem) (e : MenuEntry) :
    (sort items).filter (fun i => Tied i.entry e) = items.filter fun i => Tied i.entry e := by
  -- The items of the tie are in order already, so a stable sort keeps them as a sublist; they are all of
  -- the tie because sorting loses nothing.
  have hordered : (items.filter fun i => Tied i.entry e).Pairwise fun a b =>
      precedes a.entry b.entry = true := by
    rw [List.pairwise_iff_forall_sublist]
    intro a b hab
    have ha : Tied a.entry e := by simpa using (List.mem_filter.1 (hab.mem List.mem_cons_self)).2
    have hb : Tied b.entry e := by simpa using (List.mem_filter.1 (hab.mem (by simp))).2
    exact precedes_iff_inOrder.2 (inOrder_of_tied (ha.trans hb.symm))
  have hkept : (items.filter fun i => Tied i.entry e).Sublist (sort items) :=
    List.sublist_mergeSort precedes_trans precedes_total hordered List.filter_sublist
  have hsub := hkept.filter fun i => Tied i.entry e
  rw [List.filter_filter] at hsub
  simp only [Bool.and_self] at hsub
  exact (hsub.eq_of_length ((sort_perm items).filter _).length_eq.symm).symm

/-- **Sorting** is a stable sort. -/
theorem sortedFrom_sort (items : List MenuItem) : SortedFrom items (sort items) where
  perm := sort_perm items
  inOrder := (List.pairwise_mergeSort precedes_trans precedes_total items).imp precedes_iff_inOrder.1
  ties := filter_tied_sort items

theorem mem_iff_of_filter_tied_eq {xs ys : List MenuItem}
    (h : ∀ e, xs.filter (fun i => Tied i.entry e) = ys.filter fun i => Tied i.entry e)
    (item : MenuItem) : item ∈ xs ↔ item ∈ ys := by
  have hitem : item ∈ xs.filter (fun i => Tied i.entry item.entry) ↔
      item ∈ ys.filter fun i => Tied i.entry item.entry := by rw [h]
  simpa [Tied.refl] using hitem

/-- Lists in order that agree on the items of each tie are equal. -/
theorem eq_of_filter_tied_eq {xs ys : List MenuItem}
    (hx : xs.Pairwise fun a b => InOrder a.entry b.entry)
    (hy : ys.Pairwise fun a b => InOrder a.entry b.entry)
    (h : ∀ e, xs.filter (fun i => Tied i.entry e) = ys.filter fun i => Tied i.entry e) : xs = ys := by
  induction xs generalizing ys with
  | nil =>
    cases ys with
    | nil => rfl
    | cons b ys => exact absurd ((mem_iff_of_filter_tied_eq h b).2 List.mem_cons_self) List.not_mem_nil
  | cons a xs ih =>
    have hmem := mem_iff_of_filter_tied_eq h
    cases ys with
    | nil => exact absurd ((hmem a).1 List.mem_cons_self) List.not_mem_nil
    | cons b ys =>
      obtain ⟨ha, hxs⟩ := List.pairwise_cons.1 hx
      obtain ⟨hb, hys⟩ := List.pairwise_cons.1 hy
      -- Each head stands in the other list, so neither has to stand before the other.
      have hab : InOrder a.entry b.entry := by
        rcases List.mem_cons.1 ((hmem b).2 List.mem_cons_self) with rfl | hmem
        · exact inOrder_of_tied (Tied.refl _)
        · exact ha b hmem
      have hba : InOrder b.entry a.entry := by
        rcases List.mem_cons.1 ((hmem a).1 List.mem_cons_self) with rfl | hmem
        · exact inOrder_of_tied (Tied.refl _)
        · exact hb a hmem
      have hhead := h b.entry
      simp only [List.filter_cons, hab.antisymm hba, Tied.refl, decide_true, if_true,
        List.cons.injEq] at hhead
      obtain ⟨rfl, -⟩ := hhead
      have htail : ∀ e, xs.filter (fun i => Tied i.entry e) = ys.filter fun i => Tied i.entry e := by
        intro e
        have he := h e
        by_cases hae : Tied a.entry e <;> simpa [List.filter_cons, hae] using he
      rw [ih hxs hys htail]

/-- **Uniqueness.** There is only one stable sort. -/
theorem SortedFrom.unique {items xs ys : List MenuItem} (hx : SortedFrom items xs)
    (hy : SortedFrom items ys) : xs = ys :=
  eq_of_filter_tied_eq hx.inOrder hy.inOrder fun e => (hx.ties e).trans (hy.ties e).symm

end ResidencePortal.Menu
