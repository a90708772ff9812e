import ResidencePortal.Proofs.Json.RoundTrip

/-!
# Values that nest too deep

A reader that allows some depth gives back the canonical values of at most this depth, and refuses the
text of any other: it comes to the opening bracket of a container that is one too many, and the refusal of
one part is the refusal of the whole.

**Results.**
* `value_writeChars_eq_none`: the text of a value that nests too deep is refused, whatever follows.
* `parse?_compact_eq`: which documents are read back.
-/

namespace ResidencePortal.Json

open ResidencePortal.Text

/-- A fold stops at an element that its step refuses. -/
theorem foldlM_eq_none {σ α : Type} {f : σ → α → Option σ} {xs : List α} {x : α} (hx : x ∈ xs)
    (h : ∀ s, f s x = none) (s : σ) : xs.foldlM f s = none := by
  induction xs generalizing s with
  | nil => cases hx
  | cons y ys ih =>
    rw [List.foldlM_cons]
    rcases List.mem_cons.1 hx with rfl | hmem
    · rw [h s]
      rfl
    · cases f s y with
      | none => rfl
      | some next => exact ih hmem next

theorem lt_depthItems_iff {items : List Json} {d : Nat} :
    d < depthItems items ↔ ∃ v ∈ items, d < depth v := by
  rw [← Nat.not_le, depthItems_le_iff]
  simp

theorem lt_depthMembers_iff {ms : List (String × Json)} {d : Nat} :
    d < depthMembers ms ↔ ∃ m ∈ ms, d < depth m.2 := by
  rw [← Nat.not_le, depthMembers_le_iff]
  simp

/-- **Too deep.** The text of a canonical value is refused by every reader that allows less than its
depth. -/
theorem value_writeChars_eq_none {v : Json} (h : Canonical v) :
    ∀ (d : Nat), d < depth v → ∀ (rest : List Char), value d (writeChars v ++ rest) = none := by
  induction h with
  | null => intro d hd; cases hd
  | bool b => intro d hd; cases hd
  | int low high => intro d hd; cases hd
  | str s => intro d hd; cases hd
  | @arr items each ih =>
    intro d hd rest
    obtain ⟨tail, htail⟩ : ∃ tail, writeChars (.arr items) ++ rest = '[' :: tail := by
      cases items <;> exact ⟨_, rfl⟩
    rw [htail]
    cases d with
    | zero => rfl
    | succ d =>
      have hreads : ReadsItems (itemStep d)
          (fun acc v => if depth v ≤ d then some (v :: acc) else none) items := by
        intro v hv
        refine ⟨each v hv, fun s rest hrest => ?_⟩
        by_cases hdepth : depth v ≤ d
        · simp only [itemStep, value_writeChars (each v hv) d hdepth rest hrest, hdepth, if_true,
            Option.map_some]
        · simp only [itemStep, ih v hv d (Nat.lt_of_not_le hdepth), hdepth, if_false, Option.map_none]
      rw [depth] at hd
      obtain ⟨v, hv, hdepth⟩ := lt_depthItems_iff.1 (Nat.lt_of_succ_lt_succ hd)
      rw [value_list, elements_write hreads [] rest tail htail,
        foldlM_eq_none hv fun s => if_neg (Nat.not_le_of_lt hdepth)]
      rfl
  | @obj ms increasing each ih =>
    intro d hd rest
    obtain ⟨tail, htail⟩ : ∃ tail, writeChars (.obj ms) ++ rest = '\x7b' :: tail := by
      cases ms <;> exact ⟨_, rfl⟩
    rw [htail]
    cases d with
    | zero => rfl
    | succ d =>
      have hreads : ReadsMembers (memberStep d)
          (fun acc m => if depth m.2 ≤ d then some (Entries.insert m.1 m.2 acc) else none) ms := by
        intro m hm
        refine ⟨each m hm, fun s rest hrest => ?_⟩
        by_cases hdepth : depth m.2 ≤ d
        · simp only [memberStep, value_writeChars (each m hm) d hdepth rest hrest, hdepth, if_true,
            Option.map_some]
        · simp only [memberStep, ih m hm d (Nat.lt_of_not_le hdepth), hdepth, if_false,
            Option.map_none]
      rw [depth] at hd
      obtain ⟨m, hm, hdepth⟩ := lt_depthMembers_iff.1 (Nat.lt_of_succ_lt_succ hd)
      rw [value_object, members_write hreads [] rest tail htail,
        foldlM_eq_none hm fun s => if_neg (Nat.not_le_of_lt hdepth)]
      rfl

/-- **Documents.** A canonical value is read back from its compact text exactly if it nests at most
`maxDepth` containers. -/
theorem parse?_compact_eq {v : Json} (h : Canonical v) :
    parse? (compact v) = if depth v ≤ maxDepth then some v else none := by
  split
  · rename_i hdepth
    exact parse?_compact h hdepth
  · rename_i hdepth
    have hgap := skipGap_writeChars h []
    have hvalue := value_writeChars_eq_none h maxDepth (Nat.lt_of_not_le hdepth) []
    rw [List.append_nil] at hgap hvalue
    simp only [parse?, parseNested?, whole, compact, String.toList_ofList, hgap, hvalue,
      Option.bind_eq_bind, Option.bind_none]

end ResidencePortal.Json
