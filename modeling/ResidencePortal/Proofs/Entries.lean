import ResidencePortal.Json.Basic

/-!
# Look-ups in many entries

What a look-up finds after several entries were put into a list or a map one after the other. As long as
no key is given twice the order does not matter: an entry that was put in is found, any other key is
looked up in what was there before. For the look-up of one key it is enough that this key is not given twice.

**Results.**
* `Entries.find?_eq_some_iff`: with distinct keys, a look-up finds exactly the entries.
* `Entries.find?_foldl_insert_of_count`: the look-up of one key after several insertions.
* `Entries.find?_foldl_insert`, `KeyMap.find?_foldl_insert`: look-ups after several insertions.
* `Json.get?_object`: an object holds the members that it was made of.
-/

namespace ResidencePortal

namespace Entries

variable {α β : Type}

/-- No key is given twice. -/
def Distinct (entries : List (String × α)) : Prop := (entries.map Prod.fst).Nodup

instance (entries : List (String × α)) : Decidable (Distinct entries) :=
  inferInstanceAs (Decidable (List.Nodup _))

theorem distinct_nil : Distinct ([] : List (String × α)) := List.nodup_nil

theorem distinct_cons {e : String × α} {rest : List (String × α)} :
    Distinct (e :: rest) ↔ e.1 ∉ rest.map Prod.fst ∧ Distinct rest := List.nodup_cons

theorem distinct_append_comm {xs ys : List (String × α)} : Distinct (xs ++ ys) ↔ Distinct (ys ++ xs) := by
  rw [Distinct, Distinct, List.map_append, List.map_append]
  exact List.perm_append_comm.nodup_iff

theorem Distinct.sublist {xs ys : List (String × α)} (h : Distinct ys) (hsub : xs.Sublist ys) :
    Distinct xs := List.Nodup.sublist (hsub.map Prod.fst) h

theorem Increasing.distinct {entries : List (String × α)} (h : Increasing entries) :
    Distinct entries := by
  rw [Distinct, List.Nodup, List.pairwise_map]
  refine List.Pairwise.imp ?_ h
  intro a b hlt heq
  exact String.lt_irrefl b.1 (heq ▸ hlt)

theorem find?_append (key : String) (xs ys : List (String × α)) :
    find? key (xs ++ ys) = (find? key xs).or (find? key ys) := by
  induction xs with
  | nil => rfl
  | cons e rest ih =>
    obtain ⟨k, v⟩ := e
    simp only [List.cons_append, find?, ih]
    split <;> rfl

theorem find?_eq_none_iff {key : String} {entries : List (String × α)} :
    find? key entries = none ↔ key ∉ entries.map Prod.fst := by
  induction entries with
  | nil => simp [find?]
  | cons e rest ih =>
    obtain ⟨k, v⟩ := e
    by_cases h : k = key
    · simp [find?, h]
    · simp only [find?, h, if_false, ih, List.map_cons, List.mem_cons, not_or]
      exact ⟨fun hrest => ⟨Ne.symm h, hrest⟩, fun hboth => hboth.2⟩

theorem Distinct.count_le_one {entries : List (String × α)} (h : Distinct entries) (key : String) :
    (entries.map Prod.fst).count key ≤ 1 := List.nodup_iff_count.1 h key

/-- A key that is given once at most is not given behind its entry. -/
theorem not_mem_of_count_cons {k : String} {v : α} {rest : List (String × α)}
    (h : (((k, v) :: rest).map Prod.fst).count k ≤ 1) : k ∉ rest.map Prod.fst := by
  rw [List.map_cons, List.count_cons_self] at h
  exact List.count_eq_zero.1 (by omega)

theorem count_le_one_of_cons {key : String} {e : String × α} {rest : List (String × α)}
    (h : ((e :: rest).map Prod.fst).count key ≤ 1) : (rest.map Prod.fst).count key ≤ 1 :=
  Nat.le_trans (List.count_le_count_cons) h

/-- A look-up of a key that is given once at most finds exactly the entry under it. -/
theorem find?_eq_some_iff_of_count {key : String} {value : α} {entries : List (String × α)}
    (h : (entries.map Prod.fst).count key ≤ 1) :
    find? key entries = some value ↔ (key, value) ∈ entries := by
  induction entries with
  | nil => simp [find?]
  | cons e rest ih =>
    obtain ⟨k, v⟩ := e
    by_cases hkey : k = key
    · subst hkey
      have hk := not_mem_of_count_cons h
      have hnot : (k, value) ∉ rest := fun hmem => hk (List.mem_map.2 ⟨_, hmem, rfl⟩)
      simp [find?, hnot, eq_comm]
    · simp [find?, hkey, ih (count_le_one_of_cons h), Ne.symm hkey]

/-- With distinct keys, a look-up finds exactly the entries. -/
theorem find?_eq_some_iff {key : String} {value : α} {entries : List (String × α)}
    (h : Distinct entries) : find? key entries = some value ↔ (key, value) ∈ entries :=
  find?_eq_some_iff_of_count (h.count_le_one key)

/-- What is found among some of the entries is found among all. -/
theorem find?_sublist {xs ys : List (String × α)} (h : Distinct ys) (hsub : xs.Sublist ys)
    (key : String) : find? key xs = none ∨ find? key xs = find? key ys := by
  cases hx : find? key xs with
  | none => exact Or.inl rfl
  | some v =>
    have hmem := (find?_eq_some_iff (h.sublist hsub)).1 hx
    exact Or.inr ((find?_eq_some_iff h).2 (hsub.mem hmem)).symm

theorem find?_map (key : String) (f : α → β) (entries : List (String × α)) :
    find? key (entries.map fun e => (e.1, f e.2)) = (find? key entries).map f := by
  induction entries with
  | nil => rfl
  | cons e rest ih =>
    obtain ⟨k, v⟩ := e
    simp only [List.map_cons, find?, ih]
    split <;> rfl

theorem find?_filter {key : String} {p : String → Bool} (hkey : p key) (entries : List (String × α)) :
    find? key (entries.filter fun e => p e.1) = find? key entries := by
  induction entries with
  | nil => rfl
  | cons e rest ih =>
    obtain ⟨k, v⟩ := e
    by_cases hk : k = key
    · subst hk
      simp [hkey, find?]
    · rw [List.filter_cons]
      split <;> simp [find?, hk, ih]

/-- Look-ups of a key that is given once at most, after entries were put into a list. -/
theorem find?_foldl_insert_of_count {key : String} {entries : List (String × α)}
    (h : (entries.map Prod.fst).count key ≤ 1) (acc : List (String × α)) :
    find? key (entries.foldl (fun acc e => insert e.1 e.2 acc) acc) =
      (find? key entries).or (find? key acc) := by
  induction entries generalizing acc with
  | nil => rfl
  | cons e rest ih =>
    obtain ⟨k, v⟩ := e
    rw [List.foldl_cons, ih (count_le_one_of_cons h), find?_insert]
    by_cases hkey : key = k
    · subst hkey
      rw [find?_eq_none_iff.2 (not_mem_of_count_cons h)]
      simp [find?]
    · simp [find?, hkey, Ne.symm hkey]

/-- Look-ups after entries with distinct keys were put into a list. -/
theorem find?_foldl_insert (key : String) {entries : List (String × α)} (h : Distinct entries)
    (acc : List (String × α)) :
    find? key (entries.foldl (fun acc e => insert e.1 e.2 acc) acc) =
      (find? key entries).or (find? key acc) :=
  find?_foldl_insert_of_count (h.count_le_one key) acc

theorem increasing_foldl_insert (entries : List (String × α)) {acc : List (String × α)}
    (h : Increasing acc) : Increasing (entries.foldl (fun acc e => insert e.1 e.2 acc) acc) := by
  induction entries generalizing acc with
  | nil => exact h
  | cons e rest ih => exact ih (increasing_insert h e.1 e.2)

theorem mem_foldl_insert {entries acc : List (String × α)} {e : String × α}
    (h : e ∈ entries.foldl (fun acc e => insert e.1 e.2 acc) acc) : e ∈ entries ∨ e ∈ acc := by
  induction entries generalizing acc with
  | nil => exact Or.inr h
  | cons d rest ih =>
    rcases ih h with hrest | hacc
    · exact Or.inl (List.mem_cons_of_mem d hrest)
    · rcases mem_insert hacc with rfl | hacc
      · exact Or.inl List.mem_cons_self
      · exact Or.inr hacc

end Entries

namespace KeyMap

variable {α : Type}

theorem entries_foldl_insert (entries : List (String × α)) (m : KeyMap α) :
    (entries.foldl (fun m e => m.insert e.1 e.2) m).entries =
      entries.foldl (fun acc e => Entries.insert e.1 e.2 acc) m.entries := by
  induction entries generalizing m with
  | nil => rfl
  | cons e rest ih => exact ih (m.insert e.1 e.2)

theorem find?_foldl_insert (key : String) {entries : List (String × α)}
    (h : Entries.Distinct entries) (m : KeyMap α) :
    (entries.foldl (fun m e => m.insert e.1 e.2) m).find? key =
      (Entries.find? key entries).or (m.find? key) := by
  rw [find?, entries_foldl_insert, Entries.find?_foldl_insert key h, find?]

theorem find?_ofList (key : String) {entries : List (String × α)} (h : Entries.Distinct entries) :
    (ofList entries).find? key = Entries.find? key entries := by
  rw [ofList, find?_foldl_insert key h, find?_empty, Option.or_none]

end KeyMap

namespace Json

/-- An object holds the members that it was made of. -/
theorem get?_object (key : String) {members : List (String × Json)}
    (h : Entries.Distinct members) : (object members).get? key = Entries.find? key members := by
  simp only [object, get?, Entries.find?_foldl_insert key h, Entries.find?, Option.or_none]

end Json

end ResidencePortal
