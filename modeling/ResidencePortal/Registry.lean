import ResidencePortal.Page

/-!
# The registry of pages

The pages of the portal in the order of their registration. Registering an identifier again replaces
the page and moves it to the end.
-/

namespace ResidencePortal

/-- The registered pages (`PAGE_REGISTRY`). -/
structure Registry where
  pages : List Page

namespace Registry

/-- The registry without pages (`clear_registry`). -/
def empty : Registry := ⟨[]⟩

/-- Registers a page in place of any with the same identifier (`register_page`). -/
def register (r : Registry) (page : Page) : Registry :=
  ⟨r.pages.filter (fun p => p.id ≠ page.id) ++ [page]⟩

/-- Registers pages one after the other. -/
def registerAll (r : Registry) (pages : List Page) : Registry := pages.foldl register r

/-- Registers the built-in pages (`register_default_pages`). -/
def registerStandard (r : Registry) : Registry := r.registerAll Page.standard

/-- The number of pages (`page_count`). -/
def count (r : Registry) : Nat := r.pages.length

/-- The page with an identifier (`find_page`). -/
def find? (r : Registry) (id : String) : Option Page := r.pages.find? fun p => p.id = id

/-- The menu of all pages (`get_registered_menus`). -/
def menu (r : Registry) : List MenuItem := Menu.build r.pages

/-- The menu of the pages that are open to a role (`get_menus_for_role`). -/
def menuFor (r : Registry) (role : Role) : List MenuItem :=
  Menu.build (r.pages.filter fun p => p.allowed.admits role)

/-- The menu that a role sees. -/
def visibleMenu (r : Registry) (role : Role) : List MenuItem :=
  Menu.visible (Policy.hiddenRegions role) (r.menuFor role)

/-- The latest page under an identifier is found. -/
theorem find?_register (r : Registry) (page : Page) (id : String) :
    (r.register page).find? id = if id = page.id then some page else r.find? id := by
  unfold find? register
  rw [List.find?_append, List.find?_filter]
  by_cases h : id = page.id
  · rw [List.find?_eq_none.2 fun p _ hp => by simp_all]
    simp [h]
  · have hsame : ∀ p : Page, (p.id ≠ page.id ∧ p.id = id) = (p.id = id) := fun p =>
      propext ⟨And.right, fun hp => ⟨fun e => h (hp.symm.trans e), hp⟩⟩
    have hne : ¬ page.id = id := fun e => h e.symm
    simp only [decide_eq_true_eq, hsame]
    simp [h, hne]

end Registry

end ResidencePortal
