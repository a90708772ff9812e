import ResidencePortal.Html.View
import ResidencePortal.Proofs.Menu.Arrangement
import ResidencePortal.Session.TextStore

/-!
# What the menu offers

The menu of a role is made of the pages that are open to it, and the regions hidden from the role are
taken out of it. The guard decides by itself whether a visitor may open a page. Both agree: the menu
offers exactly the pages that the guard opens to visitors of the role and that are not hidden, each in its
place.

**Results.**
* `flatMap_itemsIn_perm`: the pages of all groups together are the pages that have a group.
* `offers_visible_build`: the menu of pages without some regions offers the other pages.
* `visibleMenu_offers_open_pages`: the menu of a role offers the pages that the guard opens to it.
-/

namespace ResidencePortal

namespace Menu

mutual

/-- The item, or what stands below it, without the groups. -/
def leavesOf : MenuItem → List MenuItem
  | .leaf entry => [.leaf entry]
  | .node _ children => leaves children

/-- The items of a menu without the groups. -/
def leaves : List MenuItem → List MenuItem
  | [] => []
  | item :: rest => leavesOf item ++ leaves rest

end

/-- The menu offers the pages: each once, below the group that it names or at the top if it names none,
and no group without a page. -/
structure Offers (pages : List Page) (menu : List MenuItem) : Prop where
  leaves : (leaves menu).Perm (pages.map Page.menuItem)
  singles : (menu.filter MenuItem.isLeaf).Perm (itemsIn none pages)
  groups : ∀ entry children, .node entry children ∈ menu →
    children ≠ [] ∧ children.Perm (itemsIn (some entry.title) pages)
  named : ∀ name, name ∈ menu.filterMap MenuItem.groupTitle? ↔ ∃ p ∈ pages, p.group = some name
  distinct : (menu.filterMap MenuItem.groupTitle?).Nodup

/-! ## Leaves and hidden items -/

theorem leaves_eq_flatMap (items : List MenuItem) : leaves items = items.flatMap leavesOf := by
  induction items with
  | nil => rfl
  | cons item rest ih => rw [leaves, List.flatMap_cons, ih]

theorem leaves_of_isLeaf {items : List MenuItem} (h : ∀ i ∈ items, i.isLeaf = true) :
    leaves items = items := by
  induction items with
  | nil => rfl
  | cons item rest ih =>
    have hitem := h item List.mem_cons_self
    have hrest := ih fun i hi => h i (List.mem_cons_of_mem _ hi)
    cases item with
    | leaf entry => rw [leaves, leavesOf, hrest, List.singleton_append]
    | node entry children => cases hitem

theorem visible_eq_filterMap (hidden : List Region) (items : List MenuItem) :
    visible hidden items = items.filterMap (prune hidden) := by
  induction items with
  | nil => rfl
  | cons item rest ih =>
    rw [visible, ih]
    cases h : prune hidden item <;> simp [h]

theorem visible_perm {hidden : List Region} {xs ys : List MenuItem} (h : xs.Perm ys) :
    (visible hidden xs).Perm (visible hidden ys) := by
  rw [visible_eq_filterMap, visible_eq_filterMap]
  exact h.filterMap _

/-- The pages that are not in a hidden region. -/
def shown (hidden : List Region) (pages : List Page) : List Page :=
  pages.filter fun p => !p.entry.isHidden hidden

theorem visible_itemsIn (hidden : List Region) (group : Option String) (pages : List Page) :
    visible hidden (itemsIn group pages) = itemsIn group (shown hidden pages) := by
  induction pages with
  | nil => rfl
  | cons page rest ih =>
    have hprune : prune hidden (pageLeaf page) =
        if page.entry.isHidden hidden then none else some (pageLeaf page) := by
      rw [pageLeaf, prune]
      rfl
    unfold shown at ih ⊢
    by_cases hgroup : page.group = group <;> cases hhidden : page.entry.isHidden hidden <;>
      simp [itemsIn_cons, hgroup, hhidden, visible, hprune, ih]

/-- What is left of the pages of a group. -/
theorem visible_sort_itemsIn_perm (hidden : List Region) (group : Option String) (pages : List Page) :
    (visible hidden (sort (itemsIn group pages))).Perm (itemsIn group (shown hidden pages)) := by
  rw [← visible_itemsIn]
  exact visible_perm (sort_perm _)

/-- A group goes when nothing of it is left. -/
theorem prune_groupItem (hidden : List Region) (pages : List Page) (name : String) :
    prune hidden (groupItem pages name) =
      if visible hidden (sort (itemsIn (some name) pages)) = [] then none
      else some (.node (groupItem pages name).entry
        (visible hidden (sort (itemsIn (some name) pages)))) := by
  have hprune : prune hidden (groupItem pages name) =
      if (visible hidden (sort (itemsIn (some name) pages))).isEmpty && true then none
      else some (.node (groupItem pages name).entry
        (visible hidden (sort (itemsIn (some name) pages)))) := by
    rw [groupItem, prune]
    rfl
  by_cases h : visible hidden (sort (itemsIn (some name) pages)) = [] <;> simp [hprune, h]

/-! ## Pages by groups -/

/-- The pages of distinct groups together are the pages that have one of them. -/
theorem flatMap_itemsIn_perm {names : List String} (h : names.Nodup) (pages : List Page) :
    (names.flatMap fun name => itemsIn (some name) pages).Perm
      ((pages.filter fun p => ∃ name ∈ names, p.group = some name).map pageLeaf) := by
  induction names with
  | nil => simp
  | cons name rest ih =>
    obtain ⟨hname, hrest⟩ := List.nodup_cons.1 h
    have hall := List.filter_append_perm (fun p : Page => p.group = some name)
      (pages.filter fun p => ∃ other ∈ name :: rest, p.group = some other)
    have hfirst : (pages.filter fun p => ∃ other ∈ name :: rest, p.group = some other).filter
        (fun p => p.group = some name) = pages.filter fun p => p.group = some name := by
      rw [List.filter_filter]
      refine List.filter_congr fun p _ => ?_
      by_cases hp : p.group = some name <;> simp [hp]
    have hothers : (pages.filter fun p => ∃ other ∈ name :: rest, p.group = some other).filter
        (fun p => !decide (p.group = some name)) =
          pages.filter fun p => ∃ other ∈ rest, p.group = some other := by
      rw [List.filter_filter]
      refine List.filter_congr fun p _ => ?_
      cases hgroup : p.group with
      | none => simp
      | some other =>
        by_cases hother : other = name
        · subst hother
          simp [hname]
        · simp [hother]
    rw [hfirst, hothers] at hall
    rw [List.flatMap_cons]
    refine ((ih hrest).append_left _).trans ?_
    rw [itemsIn, ← List.map_append]
    exact hall.map _

/-! ## The menu without hidden regions -/

/-- The groups that are left when regions are hidden. -/
def groupsLeft (hidden : List Region) (pages : List Page) : List MenuItem :=
  (groupNames pages).filterMap fun name => prune hidden (groupItem pages name)

theorem visible_build_perm (hidden : List Region) (pages : List Page) :
    (visible hidden (build pages)).Perm
      (groupsLeft hidden pages ++ itemsIn none (shown hidden pages)) := by
  have hperm : (visible hidden (build pages)).Perm
      (visible hidden ((groupNames pages).map (groupItem pages) ++ itemsIn none pages)) :=
    visible_perm (sort_perm _)
  have hparts : visible hidden ((groupNames pages).map (groupItem pages) ++ itemsIn none pages) =
      groupsLeft hidden pages ++ itemsIn none (shown hidden pages) := by
    rw [← visible_itemsIn, visible_eq_filterMap, visible_eq_filterMap, List.filterMap_append,
      List.filterMap_map]
    rfl
  exact hparts ▸ hperm

/-- A group that is left has the pages that are left of it, and at least one. -/
theorem node_of_mem_groupsLeft {hidden : List Region} {pages : List Page} {item : MenuItem}
    (h : item ∈ groupsLeft hidden pages) :
    ∃ name ∈ groupNames pages, ∃ children, item = .node (groupItem pages name).entry children ∧
      children ≠ [] ∧ children.Perm (itemsIn (some name) (shown hidden pages)) := by
  obtain ⟨name, hname, hprune⟩ := List.mem_filterMap.1 h
  rw [prune_groupItem] at hprune
  split at hprune
  · cases hprune
  · rename_i hkept
    cases hprune
    exact ⟨name, hname, _, rfl, hkept, visible_sort_itemsIn_perm hidden (some name) pages⟩

theorem leaves_filterMap_prune_perm (hidden : List Region) (pages : List Page) (names : List String) :
    (leaves (names.filterMap fun name => prune hidden (groupItem pages name))).Perm
      (names.flatMap fun name => itemsIn (some name) (shown hidden pages)) := by
  induction names with
  | nil => exact List.Perm.refl _
  | cons name rest ih =>
    have hkept := visible_sort_itemsIn_perm hidden (some name) pages
    rw [List.flatMap_cons, List.filterMap_cons, prune_groupItem]
    by_cases hnil : visible hidden (sort (itemsIn (some name) pages)) = []
    · rw [hnil] at hkept
      rw [if_pos hnil, hkept.nil_eq.symm]
      exact ih
    · have hleaf : ∀ i ∈ visible hidden (sort (itemsIn (some name) pages)), i.isLeaf = true :=
        fun i hi => isLeaf_of_mem_itemsIn (hkept.mem_iff.1 hi)
      rw [if_neg hnil, leaves, leavesOf, leaves_of_isLeaf hleaf]
      exact hkept.append ih

/-- The leaves below the groups are the pages that have a group. -/
theorem leaves_groupsLeft_perm (hidden : List Region) (pages : List Page) :
    (leaves (groupsLeft hidden pages)).Perm
      (((shown hidden pages).filter fun p => !decide (p.group = none)).map pageLeaf) := by
  have hgrouped : (shown hidden pages).filter
      (fun p => ∃ name ∈ groupNames pages, p.group = some name) =
        (shown hidden pages).filter fun p => !decide (p.group = none) := by
    refine List.filter_congr fun p hp => ?_
    have hmem : p ∈ pages := (List.mem_filter.1 hp).1
    cases hgroup : p.group with
    | none => simp
    | some name => simpa using mem_groupNames.2 ⟨p, hmem, hgroup⟩
  rw [← hgrouped]
  exact (leaves_filterMap_prune_perm hidden pages (groupNames pages)).trans
    (flatMap_itemsIn_perm (nodup_groupNames pages) _)

theorem leaves_visible_build_perm (hidden : List Region) (pages : List Page) :
    (leaves (visible hidden (build pages))).Perm ((shown hidden pages).map pageLeaf) := by
  have hparts : (leaves (visible hidden (build pages))).Perm
      (leaves (groupsLeft hidden pages) ++ leaves (itemsIn none (shown hidden pages))) := by
    rw [leaves_eq_flatMap, leaves_eq_flatMap, leaves_eq_flatMap, ← List.flatMap_append]
    exact (visible_build_perm hidden pages).flatMap_right _
  rw [leaves_of_isLeaf fun i hi => isLeaf_of_mem_itemsIn hi] at hparts
  refine hparts.trans (((leaves_groupsLeft_perm hidden pages).append_right _).trans ?_)
  rw [itemsIn, ← List.map_append]
  exact (List.perm_append_comm.trans (List.filter_append_perm _ _)).map _

/-- A group is left exactly if a page of it is left. -/
theorem groupTitles_groupsLeft (hidden : List Region) (pages : List Page) :
    (groupsLeft hidden pages).filterMap MenuItem.groupTitle? =
      (groupNames pages).filter fun name => ∃ p ∈ shown hidden pages, p.group = some name := by
  have htitle : (fun name => (prune hidden (groupItem pages name)).bind MenuItem.groupTitle?) =
      Option.guard fun name => ∃ p ∈ shown hidden pages, p.group = some name := by
    funext name
    have hkept := visible_sort_itemsIn_perm hidden (some name) pages
    rw [prune_groupItem, Option.guard]
    by_cases h : ∃ p ∈ shown hidden pages, p.group = some name
    · have hne : visible hidden (sort (itemsIn (some name) pages)) ≠ [] := fun hnil =>
        itemsIn_ne_nil_iff.2 h (hnil ▸ hkept).nil_eq.symm
      rw [if_neg hne, if_pos (decide_eq_true h)]
      rfl
    · have hnil : itemsIn (some name) (shown hidden pages) = [] :=
        Classical.byContradiction fun hne => h (itemsIn_ne_nil_iff.1 hne)
      rw [if_pos (hnil ▸ hkept).eq_nil, if_neg (by simpa using h)]
      rfl
  rw [groupsLeft, List.filterMap_filterMap, htitle, List.filterMap_eq_filter]

/-- **Hidden regions.** The menu of pages without some regions offers the pages that are in none of
them. -/
theorem offers_visible_build (hidden : List Region) (pages : List Page) :
    Offers (shown hidden pages) (visible hidden (build pages)) := by
  have hmenu := visible_build_perm hidden pages
  have htitles := hmenu.filterMap MenuItem.groupTitle?
  rw [List.filterMap_append, groupTitles_groupsLeft, filterMap_groupTitle?_itemsIn,
    List.append_nil] at htitles
  refine ⟨leaves_visible_build_perm hidden pages, ?_, ?_, ?_, ?_⟩
  · have hleaves := hmenu.filter MenuItem.isLeaf
    have hgroups : (groupsLeft hidden pages).filter MenuItem.isLeaf = [] := by
      rw [List.filter_eq_nil_iff]
      intro item hitem
      obtain ⟨name, -, children, rfl, -⟩ := node_of_mem_groupsLeft hitem
      simp
    have hpages : (itemsIn none (shown hidden pages)).filter MenuItem.isLeaf =
        itemsIn none (shown hidden pages) := List.filter_eq_self.2 fun i => isLeaf_of_mem_itemsIn
    rw [List.filter_append, hgroups, hpages, List.nil_append] at hleaves
    exact hleaves
  · intro entry children hnode
    rcases List.mem_append.1 (hmenu.mem_iff.1 hnode) with hgroup | hpage
    · obtain ⟨name, -, kept, heq, hkept, hperm⟩ := node_of_mem_groupsLeft hgroup
      cases heq
      exact ⟨hkept, hperm⟩
    · cases isLeaf_of_mem_itemsIn hpage
  · intro name
    rw [htitles.mem_iff, List.mem_filter, mem_groupNames]
    simp only [decide_eq_true_eq]
    constructor
    · exact fun h => h.2
    · rintro ⟨p, hp, hgroup⟩
      exact ⟨⟨p, (List.mem_filter.1 hp).1, hgroup⟩, p, hp, hgroup⟩
  · exact htitles.nodup_iff.2 ((nodup_groupNames pages).filter _)

end Menu

/-! ## The menu of a role -/

namespace Page

/-- The guard of the page opens it to visitors of a role. -/
def OpensTo (page : Page) (role : Role) (places : Destinations) : Prop :=
  ∃ access, Guard.judge (some role) page.allowed places = .allowed access

/-- The page is in no region that is hidden from a role. -/
def ShownTo (page : Page) (role : Role) : Prop :=
  ∀ region, page.region = some region → region ∉ Policy.hiddenRegions role

theorem opensTo_iff {page : Page} {role : Role} {places : Destinations} :
    page.OpensTo role places ↔ page.allowed.admits role = true := by
  by_cases h : page.allowed.admits role = true <;> simp [OpensTo, Guard.judge, h]

theorem shownTo_iff {page : Page} {role : Role} :
    page.ShownTo role ↔ page.entry.isHidden (Policy.hiddenRegions role) = false := by
  unfold ShownTo entry MenuEntry.isHidden
  cases page.region <;> simp

instance (page : Page) (role : Role) (places : Destinations) : Decidable (page.OpensTo role places) :=
  decidable_of_iff _ opensTo_iff.symm

instance (page : Page) (role : Role) : Decidable (page.ShownTo role) :=
  decidable_of_iff _ shownTo_iff.symm

end Page

namespace Registry

/-- The guard opens a page to a visitor exactly if it opens it to the visitor's role. -/
theorem opensTo_iff_decide {visitor : Session.Visitor} {role : Role} (h : visitor.role? = some role)
    (page : Page) (places : Destinations) :
    page.OpensTo role places ↔ ∃ access, Guard.decide visitor page.allowed places = .allowed access := by
  rw [Guard.decide, h]
  exact Iff.rfl

/-- The menu that is shown to a visitor whom the guard admits anywhere is the menu of the role. -/
theorem menus_accessContext {visitor : Session.Visitor} {role : Role} (h : visitor.role? = some role)
    {allow : AllowList} {places : Destinations} {access : Access}
    (hadmits : Guard.decide visitor allow places = .allowed access) (r : Registry) (year : Nat)
    (user : Option User) (pageTitle homePath : String) :
    (Html.accessContext year r access user pageTitle homePath).find? ["menus"] =
      some (.arr (MenuItem.listToJson (r.visibleMenu role))) := by
  rw [Guard.decide, h, Guard.judge] at hadmits
  split at hadmits
  · cases hadmits
    rfl
  · cases hadmits

/-- **The menu and the guard.** The menu that a role sees offers the pages that the guard opens to the
role and that are in no region hidden from it: each once, in its group or at the top, and no group without
a page. A visitor of the role is admitted to exactly the pages that open to the role, and on every page
to which the visitor is admitted this menu is the one that is shown. -/
theorem visibleMenu_offers_open_pages (r : Registry) (role : Role) (places : Destinations) :
    Menu.Offers (r.pages.filter fun p => p.OpensTo role places ∧ p.ShownTo role)
      (r.visibleMenu role) ∧
    ∀ visitor : Session.Visitor, visitor.role? = some role →
      (∀ page : Page, page.OpensTo role places ↔
        ∃ access, Guard.decide visitor page.allowed places = .allowed access) ∧
      ∀ allow access, Guard.decide visitor allow places = .allowed access →
        ∀ year user pageTitle homePath,
          (Html.accessContext year r access user pageTitle homePath).find? ["menus"] =
            some (.arr (MenuItem.listToJson (r.visibleMenu role))) := by
  refine ⟨?_, fun visitor hrole => ⟨fun page => opensTo_iff_decide hrole page places,
    fun allow access hadmits => menus_accessContext hrole hadmits r⟩⟩
  have hpages : (r.pages.filter fun p => p.OpensTo role places ∧ p.ShownTo role) =
      Menu.shown (Policy.hiddenRegions role) (r.pages.filter fun p => p.allowed.admits role) := by
    rw [Menu.shown, List.filter_filter]
    refine List.filter_congr fun p _ => ?_
    simp [Page.opensTo_iff, Page.shownTo_iff, Bool.and_comm]
  rw [hpages]
  exact Menu.offers_visible_build _ _

/-- The session of a manager. -/
def managerSession : Session.TextStore := ⟨.ofList [("role", "BanQuanLy")], .none⟩

/-- A manager is offered the built-in pages about residents and the statistics, and no other, also on the
page of statistics. -/
theorem standardMenu_of_manager :
    let visitor := Session.Store.visitor managerSession none
    let menu := empty.registerStandard.visibleMenu .management
    let offered := empty.registerStandard.pages.filter fun p =>
      p.OpensTo .management .standard ∧ p.ShownTo .management
    visitor.role? = some .management ∧
    offered.map Page.id = ["can-ho", "danh-sach-dan-cu", "phuong-tien", "thong-ke"] ∧
    Menu.Offers offered menu ∧
    (∀ page : Page, page.OpensTo .management .standard ↔
      ∃ access, Guard.decide visitor page.allowed .standard = .allowed access) ∧
    Guard.decide visitor (Policy.allowListFor "thong-ke") .standard = .allowed (.ofRole .management) ∧
    (Html.accessContext 2025 empty.registerStandard (.ofRole .management) none "Thống kê" "/").find?
      ["menus"] = some (.arr (MenuItem.listToJson menu)) := by
  have hrole : (Session.Store.visitor managerSession none).role? = some .management := by decide +kernel
  have hadmits : Guard.decide (Session.Store.visitor managerSession none)
      (Policy.allowListFor "thong-ke") .standard = .allowed (.ofRole .management) := by decide +kernel
  obtain ⟨hoffers, hvisitors⟩ :=
    visibleMenu_offers_open_pages empty.registerStandard .management .standard
  obtain ⟨hopens, hmenus⟩ := hvisitors _ hrole
  exact ⟨hrole, by decide +kernel, hoffers, hopens, hadmits,
    hmenus _ _ hadmits 2025 none "Thống kê" "/"⟩

end Registry

end ResidencePortal
