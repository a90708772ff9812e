import ResidencePortal.Role

/-!
# Allow lists

The roles a page is opened to, each once, in the order of `Role.Before`. Administrators may open every
page, so the empty list means "administrators only".

* `AllowList.mem_ofList`: a list made of roles holds exactly those roles.
-/

namespace ResidencePortal

/-- Roles, each once and in order (`AllowList`). -/
structure AllowList where
  roles : List Role
  increasing : roles.Pairwise Role.Before
deriving DecidableEq

namespace AllowList

/-- Puts a role in its place, unless it is there. -/
def place (r : Role) : List Role → List Role
  | [] => [r]
  | q :: rest =>
    if r = q then q :: rest
    else if r.Before q then r :: q :: rest
    else q :: place r rest

theorem mem_place {r q : Role} {roles : List Role} : q ∈ place r roles ↔ q = r ∨ q ∈ roles := by
  induction roles with
  | nil => simp [place]
  | cons p rest ih =>
    simp only [place]
    split
    · rename_i h; subst h; simp
    · split
      · simp
      · simp only [List.mem_cons, ih]
        constructor
        · rintro (h | h | h)
          · exact Or.inr (Or.inl h)
          · exact Or.inl h
          · exact Or.inr (Or.inr h)
        · rintro (h | h | h)
          · exact Or.inr (Or.inl h)
          · exact Or.inl h
          · exact Or.inr (Or.inr h)

theorem pairwise_place {roles : List Role} (h : roles.Pairwise Role.Before) (r : Role) :
    (place r roles).Pairwise Role.Before := by
  induction roles with
  | nil => simp [place]
  | cons q rest ih =>
    have ⟨hq, hrest⟩ := List.pairwise_cons.1 h
    simp only [place]
    split
    · exact h
    · split
      · rename_i hb
        refine List.pairwise_cons.2 ⟨fun p hp => ?_, h⟩
        rcases List.mem_cons.1 hp with rfl | hp
        · exact hb
        · exact hb.trans (hq p hp)
      · rename_i hne hb
        refine List.pairwise_cons.2 ⟨fun p hp => ?_, ih hrest⟩
        rcases mem_place.1 hp with rfl | hp
        · exact Role.before_of_not_before hb hne
        · exact hq p hp

/-- The list without roles. -/
def empty : AllowList := ⟨[], List.Pairwise.nil⟩

/-- The list with one more role. -/
def insert (r : Role) (a : AllowList) : AllowList := ⟨place r a.roles, pairwise_place a.increasing r⟩

/-- The list of the given roles (`allow_list`). -/
def ofList : List Role → AllowList
  | [] => empty
  | r :: rest => (ofList rest).insert r

instance : Membership Role AllowList := ⟨fun a r => r ∈ a.roles⟩

instance (r : Role) (a : AllowList) : Decidable (r ∈ a) := inferInstanceAs (Decidable (r ∈ a.roles))

@[simp] theorem mem_ofList {r : Role} {roles : List Role} : r ∈ ofList roles ↔ r ∈ roles := by
  induction roles with
  | nil => exact Iff.rfl
  | cons q rest ih =>
    rw [List.mem_cons, ← ih]
    exact mem_place

/-- The names of the roles, in order. -/
def names (a : AllowList) : List String := a.roles.map Role.name

/-- The list opens a page to a role: the role is an administrator or is listed (`is_page_allowed`). -/
def admits (a : AllowList) (r : Role) : Bool := r = .admin || r ∈ a

end AllowList

end ResidencePortal
