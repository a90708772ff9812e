/-!
# Keyed entries

Lists of entries under text keys, and the finite maps made of them. A `KeyMap` holds its entries with
strictly increasing keys, so two maps with the same look-ups are the same map (`KeyMap.ext_find?`).

* `KeyMap.find?_insert`, `KeyMap.find?_erase`: what each operation does to look-ups.
-/

namespace ResidencePortal

namespace Entries

variable {α : Type}

/-- The value of the first entry under a key. -/
def find? (key : String) : List (String × α) → Option α
  | [] => none
  | (k, v) :: rest => if k = key then some v else find? key rest

/-- The entry under a key set to a value, in increasing order of keys. -/
def insert (key : String) (value : α) : List (String × α) → List (String × α)
  | [] => [(key, value)]
  | (k, v) :: rest =>
    if key < k then (key, value) :: (k, v) :: rest
    else if key = k then (key, value) :: rest
    else (k, v) :: insert key value rest

/-- The entries not under a key. -/
def erase (key : String) (entries : List (String × α)) : List (String × α) :=
  entries.filter fun e => e.1 ≠ key

/-- Keys strictly increase. -/
def Increasing (entries : List (String × α)) : Prop := entries.Pairwise fun a b => a.1 < b.1

theorem find?_insert (key other : String) (value : α) (entries : List (String × α)) :
    find? other (insert key value entries) = if other = key then some value else find? other entries := by
  induction entries with
  | nil => simp [insert, find?, eq_comm]
  | cons e rest ih =>
    obtain ⟨k, v⟩ := e
    simp only [insert]
    split
    · simp [find?, eq_comm]
    · split
      · rename_i hk; subst hk; simp only [find?]; split <;> simp_all [eq_comm]
      · rename_i hk
        simp only [find?, ih]
        by_cases h : k = other
        · subst h; simp [Ne.symm hk]
        · simp [h]

theorem find?_erase (key other : String) (entries : List (String × α)) :
    find? other (erase key entries) = if other = key then none else find? other entries := by
  induction entries with
  | nil => simp [erase, find?]
  | cons e rest ih =>
    obtain ⟨k, v⟩ := e
    simp only [erase] at ih
    by_cases hk : k = key
    · subst hk
      simp only [erase, ne_eq, not_true, decide_false, List.filter_cons_of_neg, Bool.false_eq_true,
        not_false_eq_true, ih, find?]
      by_cases h : k = other <;> simp [h]
    · simp only [erase, ne_eq, hk, not_false_eq_true, decide_true, List.filter_cons_of_pos, find?, ih]
      by_cases h : k = other
      · subst h; simp [hk]
      · simp [h]

theorem mem_insert {key : String} {value : α} {entries : List (String × α)} {e : String × α}
    (h : e ∈ insert key value entries) : e = (key, value) ∨ e ∈ entries := by
  induction entries with
  | nil => simpa [insert] using h
  | cons d rest ih =>
    obtain ⟨k, v⟩ := d
    simp only [insert] at h
    split at h
    · simpa using h
    · split at h
      · simp only [List.mem_cons] at h ⊢
        exact h.imp id Or.inr
      · simp only [List.mem_cons] at h ⊢
        rcases h with h | h
        · exact Or.inr (Or.inl h)
        · exact (ih h).imp id Or.inr

theorem increasing_insert {entries : List (String × α)} (h : Increasing entries) (key : String)
    (value : α) : Increasing (insert key value entries) := by
  induction entries with
  | nil => simp [insert, Increasing]
  | cons e rest ih =>
    obtain ⟨k, v⟩ := e
    rw [Increasing, List.pairwise_cons] at h
    simp only [insert]
    split
    · rename_i hlt
      refine List.pairwise_cons.2 ⟨?_, List.pairwise_cons.2 h⟩
      intro b hb
      rcases List.mem_cons.1 hb with rfl | hb
      · exact hlt
      · exact String.lt_trans hlt (h.1 b hb)
    · split
      · rename_i hk; subst hk; exact List.pairwise_cons.2 h
      · rename_i hlt hne
        refine List.pairwise_cons.2 ⟨?_, ih h.2⟩
        intro b hb
        rcases mem_insert hb with rfl | hb
        · exact Std.lt_of_le_of_ne (String.not_lt.1 hlt) (Ne.symm hne)
        · exact h.1 b hb

theorem increasing_erase {entries : List (String × α)} (h : Increasing entries) (key : String) :
    Increasing (erase key entries) := List.Pairwise.filter _ h

theorem find?_eq_none_of_lt {key : String} {entries : List (String × α)}
    (h : ∀ e ∈ entries, key < e.1) : find? key entries = none := by
  induction entries with
  | nil => rfl
  | cons e rest ih =>
    obtain ⟨k, v⟩ := e
    have hk : k ≠ key := fun heq => String.lt_irrefl key (by simpa [heq] using h (k, v) (by simp))
    simp only [find?, if_neg hk]
    exact ih fun e he => h e (by simp [he])

/-- Increasing entries are determined by their look-ups. -/
theorem eq_of_find?_eq {xs ys : List (String × α)} (hx : Increasing xs) (hy : Increasing ys)
    (h : ∀ key, find? key xs = find? key ys) : xs = ys := by
  induction xs generalizing ys with
  | nil =>
    cases ys with
    | nil => rfl
    | cons e rest => have := h e.1; simp [find?] at this
  | cons e xs ih =>
    obtain ⟨k, v⟩ := e
    rw [Increasing, List.pairwise_cons] at hx
    cases ys with
    | nil => have := h k; simp [find?] at this
    | cons d ys =>
      obtain ⟨k', v'⟩ := d
      rw [Increasing, List.pairwise_cons] at hy
      have hkk : k = k' := by
        rcases Std.lt_trichotomy k k' with hlt | heq | hgt
        · have hnone : find? k ((k', v') :: ys) = none := find?_eq_none_of_lt fun e he => by
            rcases List.mem_cons.1 he with rfl | he
            · exact hlt
            · exact String.lt_trans hlt (hy.1 e he)
          have := h k
          rw [hnone] at this
          simp [find?] at this
        · exact heq
        · have hnone : find? k' ((k, v) :: xs) = none := find?_eq_none_of_lt fun e he => by
            rcases List.mem_cons.1 he with rfl | he
            · exact hgt
            · exact String.lt_trans hgt (hx.1 e he)
          have := h k'
          rw [hnone] at this
          simp [find?] at this
      subst hkk
      have hv : v = v' := by simpa [find?] using h k
      subst hv
      congr 1
      refine ih hx.2 hy.2 fun key => ?_
      by_cases hkey : k = key
      · subst hkey
        rw [find?_eq_none_of_lt hx.1, find?_eq_none_of_lt hy.1]
      · have := h key
        simpa [find?, hkey] using this

end Entries

/-- A finite map from texts, its entries in increasing order of keys. -/
structure KeyMap (α : Type) where
  entries : List (String × α)
  increasing : Entries.Increasing entries

namespace KeyMap

variable {α β : Type}

/-- The map without entries. -/
def empty : KeyMap α := ⟨[], List.Pairwise.nil⟩

/-- The value under a key. -/
def find? (m : KeyMap α) (key : String) : Option α := Entries.find? key m.entries

/-- The map with a value under a key. -/
def insert (m : KeyMap α) (key : String) (value : α) : KeyMap α :=
  ⟨Entries.insert key value m.entries, Entries.increasing_insert m.increasing key value⟩

/-- The map without a key. -/
def erase (m : KeyMap α) (key : String) : KeyMap α :=
  ⟨Entries.erase key m.entries, Entries.increasing_erase m.increasing key⟩

/-- The map of a list of entries; of two under one key the later counts. -/
def ofList (entries : List (String × α)) : KeyMap α :=
  entries.foldl (fun m e => m.insert e.1 e.2) empty

/-- The map holds nothing. -/
def isEmpty (m : KeyMap α) : Bool := m.entries.isEmpty

@[simp] theorem find?_empty (key : String) : (empty : KeyMap α).find? key = none := rfl

@[simp] theorem find?_insert (m : KeyMap α) (key other : String) (value : α) :
    (m.insert key value).find? other = if other = key then some value else m.find? other :=
  Entries.find?_insert key other value m.entries

@[simp] theorem find?_erase (m : KeyMap α) (key other : String) :
    (m.erase key).find? other = if other = key then none else m.find? other :=
  Entries.find?_erase key other m.entries

/-- Maps with the same look-ups are equal. -/
theorem ext_find? {m n : KeyMap α} (h : ∀ key, m.find? key = n.find? key) : m = n := by
  obtain ⟨xs, hx⟩ := m
  obtain ⟨ys, hy⟩ := n
  have := Entries.eq_of_find?_eq hx hy h
  subst this
  rfl

end KeyMap

end ResidencePortal
