import ResidencePortal.Page
import ResidencePortal.Proofs.Entries
import ResidencePortal.Proofs.Menu.SortOrder

/-!
# How the menu of pages is arranged

The menu of pages is made in three steps: the pages are put under their groups in a map, the groups are
taken from the map one after the other, and everything is sorted. A map may give its groups in any order.
The menu does not depend on it: groups have distinct names, so no two of them tie, and whatever else ties
stands in the order of the pages.

`Arranged` says what the menu of pages looks like without saying how it is made.

**Results.**
* `find?_groupMap`: what the map holds under a name.
* `assembleFrom_eq_assemble`, `assemble_eq_of_perm`: in whatever order the map gives its groups.
* `arranged_assemble`: the menu is arranged as it should be.
* `Arranged.eq_build`: there is only one such menu.
* `build_ignores_group_order`: both for the menu that is built.
-/

namespace ResidencePortal

namespace MenuItem

/-- Nothing can stand below the item. -/
def isLeaf : MenuItem → Bool
  | leaf _ => true
  | node _ _ => false

/-- The title of an item that groups others. -/
def groupTitle? : MenuItem → Option String
  | leaf _ => none
  | node entry _ => some entry.title

@[simp] theorem isLeaf_leaf (entry : MenuEntry) : (leaf entry).isLeaf = true := rfl

@[simp] theorem isLeaf_node (entry : MenuEntry) (children : List MenuItem) :
    (node entry children).isLeaf = false := rfl

@[simp] theorem groupTitle?_leaf (entry : MenuEntry) : (leaf entry).groupTitle? = none := rfl

@[simp] theorem groupTitle?_node (entry : MenuEntry) (children : List MenuItem) :
    (node entry children).groupTitle? = some entry.title := rfl

end MenuItem

namespace Menu

/-! ## Groups in a map -/

/-- A page in the menu: a leaf that shows what the page has. -/
def pageLeaf (p : Page) : MenuItem := .leaf ⟨p.title, p.path, p.icon, p.order, p.region⟩

/-- The pages of a group, or of none, as menu items in the order of the pages. -/
def itemsIn (group : Option String) (pages : List Page) : List MenuItem :=
  (pages.filter fun p => p.group = group).map pageLeaf

/-- Puts a page behind those of its group. -/
def collect (groups : KeyMap (List MenuItem)) (page : Page) : KeyMap (List MenuItem) :=
  match page.group with
  | some name => groups.insert name ((groups.find? name).getD [] ++ [pageLeaf page])
  | none => groups

/-- The groups of pages, each with its items. -/
def groupMap (pages : List Page) : KeyMap (List MenuItem) := pages.foldl collect .empty

/-- The item of a group that was taken from the map. -/
def ofGroup (group : String × List MenuItem) : MenuItem :=
  .node ⟨group.1, "", some "folder", leastOrder (sort group.2), none⟩ (sort group.2)

/-- The menu when the map gives its groups in a given order. -/
def assembleFrom (groups : List (String × List MenuItem)) (pages : List Page) : List MenuItem :=
  sort (groups.map ofGroup ++ itemsIn none pages)

theorem itemsIn_cons (group : Option String) (page : Page) (pages : List Page) :
    itemsIn group (page :: pages) =
      (if page.group = group then [pageLeaf page] else []) ++ itemsIn group pages := by
  unfold itemsIn
  by_cases h : page.group = group <;> simp [h]

theorem find?_foldl_collect (name : String) (pages : List Page) (groups : KeyMap (List MenuItem)) :
    (pages.foldl collect groups).find? name =
      if itemsIn (some name) pages = [] then groups.find? name
      else some ((groups.find? name).getD [] ++ itemsIn (some name) pages) := by
  induction pages generalizing groups with
  | nil => simp [itemsIn]
  | cons page rest ih =>
    rw [List.foldl_cons, ih, itemsIn_cons]
    cases hgroup : page.group with
    | none => simp [collect, hgroup]
    | some other =>
      by_cases hname : name = other
      · subst hname
        by_cases hrest : itemsIn (some name) rest = [] <;> simp [collect, hgroup, hrest]
      · have hother : ¬ other = name := fun e => hname e.symm
        simp [collect, hgroup, hname, hother]

/-- Under a name the map holds the pages of the group, and nothing if there are none. -/
theorem find?_groupMap (name : String) (pages : List Page) :
    (groupMap pages).find? name =
      if itemsIn (some name) pages = [] then none else some (itemsIn (some name) pages) := by
  rw [groupMap, find?_foldl_collect]
  simp

theorem mem_groupMap {pages : List Page} {group : String × List MenuItem} :
    group ∈ (groupMap pages).entries ↔
      itemsIn (some group.1) pages ≠ [] ∧ group.2 = itemsIn (some group.1) pages := by
  have hfind := find?_groupMap group.1 pages
  rw [KeyMap.find?] at hfind
  rw [← Entries.find?_eq_some_iff (groupMap pages).increasing.distinct, hfind]
  by_cases h : itemsIn (some group.1) pages = [] <;> simp [h, eq_comm]

/-! ## Names of groups -/

theorem nodup_eraseDups (names : List String) : names.eraseDups.Nodup := by
  cases names with
  | nil => exact List.nodup_nil
  | cons name rest =>
    rw [List.eraseDups_cons, List.nodup_cons, List.mem_eraseDups]
    exact ⟨by simp, nodup_eraseDups (rest.filter fun b => !b == name)⟩
termination_by names.length
decreasing_by exact Nat.lt_succ_of_le (List.length_filter_le _ _)

theorem nodup_groupNames (pages : List Page) : (groupNames pages).Nodup := nodup_eraseDups _

theorem mem_groupNames {pages : List Page} {name : String} :
    name ∈ groupNames pages ↔ ∃ p ∈ pages, p.group = some name := by
  rw [groupNames, List.mem_eraseDups, List.mem_filterMap]

theorem itemsIn_ne_nil_iff {group : Option String} {pages : List Page} :
    itemsIn group pages ≠ [] ↔ ∃ p ∈ pages, p.group = group := by
  simp [itemsIn]

theorem groups_perm_groupNames {pages : List Page} {groups : List (String × List MenuItem)}
    (h : groups.Perm (groupMap pages).entries) : (groups.map Prod.fst).Perm (groupNames pages) := by
  have hkeys : ((groupMap pages).entries.map Prod.fst).Perm (groupNames pages) := by
    rw [List.perm_ext_iff_of_nodup (groupMap pages).increasing.distinct (nodup_groupNames pages)]
    intro name
    rw [mem_groupNames, List.mem_map]
    constructor
    · rintro ⟨group, hgroup, rfl⟩
      exact itemsIn_ne_nil_iff.1 (mem_groupMap.1 hgroup).1
    · intro hname
      exact ⟨(name, itemsIn (some name) pages), mem_groupMap.2 ⟨itemsIn_ne_nil_iff.2 hname, rfl⟩, rfl⟩
  exact (h.map Prod.fst).trans hkeys

/-- The groups of the map make the items of the groups by name. -/
theorem assembleFrom_eq_assemble {pages : List Page} {groups : List (String × List MenuItem)}
    (h : groups.Perm (groupMap pages).entries) :
    assembleFrom groups pages = assemble (groups.map Prod.fst) pages := by
  have hitems : groups.map ofGroup = (groups.map Prod.fst).map (groupItem pages) := by
    rw [List.map_map]
    refine List.map_congr_left fun group hgroup => ?_
    have hchildren := (mem_groupMap.1 (h.mem_iff.1 hgroup)).2
    rw [ofGroup, hchildren]
    rfl
  rw [assembleFrom, hitems]
  rfl

/-! ## Independence of the order -/

/-- At most one group ties with an entry: the one that has its title. -/
theorem filter_tied_groups {names : List String} (h : names.Nodup) (pages : List Page) (e : MenuEntry) :
    (names.map (groupItem pages)).filter (fun i => Tied i.entry e) =
      if e.title ∈ names ∧ (groupItem pages e.title).entry.order = e.order then
        [groupItem pages e.title] else [] := by
  induction names with
  | nil => simp
  | cons name rest ih =>
    obtain ⟨hname, hrest⟩ := List.nodup_cons.1 h
    have htied : Tied (groupItem pages name).entry e ↔
        (groupItem pages name).entry.order = e.order ∧ name = e.title := Iff.rfl
    rw [List.map_cons, List.filter_cons, ih hrest]
    by_cases htitle : name = e.title
    · subst htitle
      simp [htied, hname]
    · have hne : ¬ e.title = name := fun he => htitle he.symm
      simp [htied, htitle, hne]

/-- **Independence.** The menu is the same for every order of the groups. -/
theorem assemble_eq_of_perm {names others : List String} (hnames : names.Nodup)
    (h : names.Perm others) (pages : List Page) : assemble names pages = assemble others pages := by
  have hothers : others.Nodup := h.nodup_iff.1 hnames
  refine eq_of_filter_tied_eq (sortedFrom_sort _).inOrder (sortedFrom_sort _).inOrder fun e => ?_
  rw [assemble, assemble, filter_tied_sort, filter_tied_sort, List.filter_append, List.filter_append,
    filter_tied_groups hnames, filter_tied_groups hothers]
  simp only [h.mem_iff]

/-! ## The arrangement -/

/-- The least of the numbers that the items have, none if they have none. -/
def LeastOrder (items : List MenuItem) : Option Nat → Prop
  | none => ∀ i ∈ items, i.entry.order = none
  | some least => (∃ i ∈ items, i.entry.order = some least) ∧
      ∀ i ∈ items, ∀ x, i.entry.order = some x → least ≤ x

/-- What the menu of pages looks like. -/
structure Arranged (pages : List Page) (menu : List MenuItem) : Prop where
  /-- Entries stand in the order of numbers and titles. -/
  inOrder : menu.Pairwise fun a b => InOrder a.entry b.entry
  /-- Of two entries that tie, the later one is no group. -/
  groupsFirst : menu.Pairwise fun a b => Tied a.entry b.entry → b.isLeaf = true
  /-- The entries that are no groups are the pages without a group; ties stand in the order of pages. -/
  singles : ∀ e, menu.filter (fun i => i.isLeaf && Tied i.entry e) =
    (itemsIn none pages).filter fun i => Tied i.entry e
  /-- No two groups have the same title. -/
  distinct : (menu.filterMap MenuItem.groupTitle?).Nodup
  /-- The groups are those of the pages. -/
  named : ∀ name, name ∈ menu.filterMap MenuItem.groupTitle? ↔ ∃ p ∈ pages, p.group = some name
  /-- A group cannot be opened itself. Its pages stand below it, sorted stably, and it has the least of
  their numbers. -/
  groups : ∀ entry children, .node entry children ∈ menu →
    entry.path = "" ∧ entry.icon = some "folder" ∧ entry.region = none ∧
    SortedFrom (itemsIn (some entry.title) pages) children ∧ LeastOrder children entry.order

theorem leastOrder_eq_iff {items : List MenuItem} {order : Option Nat} :
    leastOrder items = order ↔ LeastOrder items order := by
  unfold leastOrder
  cases order with
  | none =>
    rw [List.min?_eq_none_iff, List.filterMap_eq_nil_iff]
    exact Iff.rfl
  | some least =>
    rw [List.min?_eq_some_iff]
    simp only [List.mem_filterMap, forall_exists_index, and_imp]
    constructor
    · rintro ⟨hmem, hleast⟩
      exact ⟨hmem, fun i hi x hx => hleast x i hi hx⟩
    · rintro ⟨hmem, hleast⟩
      exact ⟨hmem, fun x i hi hx => hleast i hi x hx⟩

theorem isLeaf_of_mem_itemsIn {group : Option String} {pages : List Page} {item : MenuItem}
    (h : item ∈ itemsIn group pages) : item.isLeaf = true := by
  obtain ⟨page, -, rfl⟩ := List.mem_map.1 h
  rfl

/-- The entries that tie with one another: at most one group, and the pages behind it. -/
theorem filter_tied_assemble {names : List String} (h : names.Nodup) (pages : List Page)
    (e : MenuEntry) :
    (assemble names pages).filter (fun i => Tied i.entry e) =
      (if e.title ∈ names ∧ (groupItem pages e.title).entry.order = e.order then
        [groupItem pages e.title] else []) ++
      (itemsIn none pages).filter fun i => Tied i.entry e := by
  rw [assemble, filter_tied_sort, List.filter_append, filter_tied_groups h]
  rfl

theorem filterMap_groupTitle?_groups (names : List String) (pages : List Page) :
    (names.map (groupItem pages)).filterMap MenuItem.groupTitle? = names := by
  rw [List.filterMap_map]
  exact List.filterMap_some

theorem filterMap_groupTitle?_itemsIn (group : Option String) (pages : List Page) :
    (itemsIn group pages).filterMap MenuItem.groupTitle? = [] := by
  rw [List.filterMap_eq_nil_iff]
  intro item hitem
  obtain ⟨page, -, rfl⟩ := List.mem_map.1 hitem
  rfl

theorem groupTitles_assemble (names : List String) (pages : List Page) :
    ((assemble names pages).filterMap MenuItem.groupTitle?).Perm names := by
  have hperm := (sort_perm (names.map (groupItem pages) ++ itemsIn none pages)).filterMap
    MenuItem.groupTitle?
  rw [List.filterMap_append, filterMap_groupTitle?_groups, filterMap_groupTitle?_itemsIn,
    List.append_nil] at hperm
  exact hperm

/-- Every group in the menu is the item of a name. -/
theorem node_of_mem_assemble {names : List String} {pages : List Page} {entry : MenuEntry}
    {children : List MenuItem} (h : .node entry children ∈ assemble names pages) :
    .node entry children = groupItem pages entry.title := by
  rcases List.mem_append.1 ((sort_perm _).mem_iff.1 h) with hgroup | hpage
  · obtain ⟨name, -, hname⟩ := List.mem_map.1 hgroup
    cases hname
    rfl
  · cases isLeaf_of_mem_itemsIn hpage

/-- **The arrangement.** In whatever order the groups are taken, the menu is arranged as it should be. -/
theorem arranged_assemble {names : List String} {pages : List Page}
    (h : names.Perm (groupNames pages)) : Arranged pages (assemble names pages) := by
  have hnames : names.Nodup := h.nodup_iff.2 (nodup_groupNames pages)
  have htitles := groupTitles_assemble names pages
  refine ⟨(sortedFrom_sort _).inOrder, ?_, ?_, htitles.nodup_iff.2 hnames, ?_, ?_⟩
  · rw [List.pairwise_iff_forall_sublist]
    intro a b hab htied
    -- Both stand in the tie of the second, behind at most one group.
    have hties := hab.filter fun i => Tied i.entry b.entry
    rw [filter_tied_assemble hnames] at hties
    simp only [List.filter_cons, htied, Tied.refl, decide_true, if_true, List.filter_nil] at hties
    have hb : b ∈ (itemsIn none pages).filter fun i => Tied i.entry b.entry := by
      split at hties
      · exact hties.tail.mem List.mem_cons_self
      · exact hties.mem (by simp)
    exact isLeaf_of_mem_itemsIn (List.mem_filter.1 hb).1
  · intro e
    have hgroups : ∀ (c : Prop) [Decidable c], (if c then [groupItem pages e.title] else []).filter
        MenuItem.isLeaf = [] := by
      intro c _
      split <;> rfl
    have hpages : ((itemsIn none pages).filter fun i => Tied i.entry e).filter MenuItem.isLeaf =
        (itemsIn none pages).filter fun i => Tied i.entry e :=
      List.filter_eq_self.2 fun i hi => isLeaf_of_mem_itemsIn (List.mem_filter.1 hi).1
    rw [← List.filter_filter, filter_tied_assemble hnames, List.filter_append, hgroups, hpages,
      List.nil_append]
  · intro name
    rw [htitles.mem_iff, h.mem_iff, mem_groupNames]
  · intro entry children hnode
    obtain ⟨hentry, hchildren⟩ := MenuItem.node.inj (node_of_mem_assemble hnode)
    refine ⟨congrArg MenuEntry.path hentry, congrArg MenuEntry.icon hentry,
      congrArg MenuEntry.region hentry, hchildren ▸ sortedFrom_sort _, ?_⟩
    rw [← leastOrder_eq_iff, hchildren]
    exact (congrArg MenuEntry.order hentry).symm

/-! ## Uniqueness -/

/-- A group that is arranged is the item of its name. -/
theorem Arranged.node_eq {pages : List Page} {menu : List MenuItem} (h : Arranged pages menu)
    {entry : MenuEntry} {children : List MenuItem} (hnode : .node entry children ∈ menu) :
    .node entry children = groupItem pages entry.title := by
  obtain ⟨hpath, hicon, hregion, hsorted, hleast⟩ := h.groups entry children hnode
  have hchildren : children = sort (itemsIn (some entry.title) pages) :=
    hsorted.unique (sortedFrom_sort _)
  have horder : entry.order = leastOrder children := (leastOrder_eq_iff.2 hleast).symm
  have hentry : entry = ⟨entry.title, "", some "folder", leastOrder children, none⟩ := by
    rw [← hpath, ← hicon, ← horder, ← hregion]
  rw [hentry, hchildren]
  rfl

theorem Arranged.filter_groups {pages : List Page} {menu : List MenuItem} (h : Arranged pages menu) :
    menu.filter (fun i => !i.isLeaf) =
      (menu.filterMap MenuItem.groupTitle?).map (groupItem pages) := by
  have hnodes : ∀ entry children, .node entry children ∈ menu →
      .node entry children = groupItem pages entry.title := fun _ _ => h.node_eq
  clear h
  induction menu with
  | nil => rfl
  | cons item rest ih =>
    have hrest := ih fun entry children hnode => hnodes entry children (List.mem_cons_of_mem _ hnode)
    cases item with
    | leaf entry => simpa [List.filterMap_cons] using hrest
    | node entry children =>
      have hnode := hnodes entry children List.mem_cons_self
      simpa [hrest] using hnode

/-- If only leaves come behind other items, the groups come first. -/
theorem filter_groups_append_filter_leaves {items : List MenuItem}
    (h : items.Pairwise fun _ b => b.isLeaf = true) :
    items.filter (fun i => !i.isLeaf) ++ items.filter MenuItem.isLeaf = items := by
  cases items with
  | nil => rfl
  | cons item rest =>
    have hrest : ∀ i ∈ rest, i.isLeaf = true := (List.pairwise_cons.1 h).1
    have hgroups : rest.filter (fun i => !i.isLeaf) = [] := by
      rw [List.filter_eq_nil_iff]
      intro i hi
      simp [hrest i hi]
    have hleaves : rest.filter MenuItem.isLeaf = rest := List.filter_eq_self.2 hrest
    cases hitem : item.isLeaf <;> simp [hitem, hgroups, hleaves]

/-- **Uniqueness.** Only one menu is arranged as the menu of the pages should be. -/
theorem Arranged.eq_build {pages : List Page} {menu : List MenuItem} (h : Arranged pages menu) :
    menu = build pages := by
  have hnames : (menu.filterMap MenuItem.groupTitle?).Perm (groupNames pages) := by
    rw [List.perm_ext_iff_of_nodup h.distinct (nodup_groupNames pages)]
    intro name
    rw [h.named, mem_groupNames]
  rw [build, ← assemble_eq_of_perm h.distinct hnames]
  refine eq_of_filter_tied_eq h.inOrder (sortedFrom_sort _).inOrder fun e => ?_
  have hleaves : (menu.filter fun i => Tied i.entry e).Pairwise fun _ b => b.isLeaf = true := by
    rw [List.pairwise_filter]
    refine h.groupsFirst.imp fun {a b} hab ha hb => hab ?_
    exact Tied.trans (of_decide_eq_true ha) (of_decide_eq_true hb).symm
  rw [filter_tied_assemble h.distinct, ← filter_tied_groups h.distinct, ← h.filter_groups, ← h.singles,
    ← filter_groups_append_filter_leaves hleaves, List.filter_filter, List.filter_filter,
    List.filter_filter]
  simp only [Bool.and_comm]

/-- **The menu of pages.** In whatever order the map gives its groups, the same menu is built. It is
arranged as `Arranged` says, and no other menu is. -/
theorem build_ignores_group_order (pages : List Page) :
    (∀ groups : List (String × List MenuItem), groups.Perm (groupMap pages).entries →
      assembleFrom groups pages = build pages) ∧
    Arranged pages (build pages) ∧ ∀ menu, Arranged pages menu → menu = build pages := by
  refine ⟨fun groups hgroups => ?_, arranged_assemble (List.Perm.refl _), fun menu h => h.eq_build⟩
  have hnames := groups_perm_groupNames hgroups
  rw [assembleFrom_eq_assemble hgroups]
  exact assemble_eq_of_perm (hnames.nodup_iff.2 (nodup_groupNames pages)) hnames pages

/-- Pages of two groups, one of them without a number, and a page without a group that ties with a group. -/
def tyingPages : List Page :=
  [{ Page.ofId "a" "An" with group := some "B" },
    { Page.ofId "b" "Thu" with group := some "B", order := some 1, icon := some "coin" },
    { Page.ofId "c" "Chi" with group := some "A", order := some 1, region := some .feeMenu },
    { Page.ofId "d" "A" with order := some 1 }]

/-- The menu of these pages, also with the groups taken the other way round. -/
theorem build_tyingPages :
    (groupMap tyingPages).entries.reverse.map Prod.fst = ["B", "A"] ∧
    (groupMap tyingPages).entries.map Prod.fst = ["A", "B"] ∧
    assembleFrom (groupMap tyingPages).entries.reverse tyingPages = build tyingPages ∧
    build tyingPages =
      [.node ⟨"A", "", some "folder", some 1, none⟩ [.leaf ⟨"Chi", "/c", none, some 1, some .feeMenu⟩],
        .leaf ⟨"A", "/d", none, some 1, none⟩,
        .node ⟨"B", "", some "folder", some 1, none⟩
          [.leaf ⟨"Thu", "/b", some "coin", some 1, none⟩, .leaf ⟨"An", "/a", none, none, none⟩]] := by
  refine ⟨by decide +kernel, by decide +kernel,
    (build_ignores_group_order tyingPages).1 _ (List.reverse_perm _), ?_⟩
  simp [build, assemble, groupNames, groupItem, tyingPages, sort, List.mergeSort, List.eraseDups_cons,
    List.MergeSort.Internal.splitInTwo, Page.menuItem, Page.entry, Page.ofId, MenuItem.entry, precedes,
    leastOrder]

end Menu

end ResidencePortal
