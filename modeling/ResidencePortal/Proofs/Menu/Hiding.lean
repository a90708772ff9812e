import ResidencePortal.Proofs.Menu.Arrangement

/-!
# Hiding regions of a menu

Hiding regions takes items out of a menu with all that stands below them, at any depth, and then every
group that has nothing left. Nothing else happens to the menu: hiding is a filter of its places, and what
it leaves is settled, so that hiding the same regions again finds nothing to do.

An item is anchored if it leads somewhere or is a leaf. An item that is not anchored only groups: it stays
for what is left below it.

**Results.**
* `hiding_adds_up`: hiding two sets of regions, one after the other, is hiding both at once.
* `visible_eq_nil_iff`: when nothing of a menu is left.
* `places_visible`: the places that are left, and what stands there.
* `anchors_left_by_hiding`: the anchored items that are left.
* `hiding_settles_menu`: hiding changes nothing exactly if the menu is settled, and leaves a settled menu.
-/

namespace ResidencePortal

/-- **Induction over menus.** What holds of the empty menu, and of a menu with a leaf or a node in front if
it holds of the other items and of those below the node, holds of every menu. -/
@[elab_as_elim]
theorem MenuItem.menuInduction {motive : List MenuItem → Prop} (nil : motive [])
    (leaf : ∀ entry rest, motive rest → motive (.leaf entry :: rest))
    (node : ∀ entry children rest, motive children → motive rest →
      motive (.node entry children :: rest)) : ∀ items, motive items
  | [] => nil
  | .leaf entry :: rest => leaf entry rest (menuInduction nil leaf node rest)
  | .node entry children :: rest =>
    node entry children rest (menuInduction nil leaf node children) (menuInduction nil leaf node rest)

/-! ## Sets of regions -/

namespace Region

/-- The regions of two sets together. -/
def union (first second : List Region) : List Region := inOrder (first ++ second)

@[simp] theorem mem_union {r : Region} {first second : List Region} :
    r ∈ union first second ↔ r ∈ first ∨ r ∈ second := by
  simp [union]

theorem union_self (regions : List Region) : union regions regions = inOrder regions := by
  simp [union, inOrder]

theorem union_comm (first second : List Region) : union first second = union second first := by
  simp [union, inOrder, or_comm]

end Region

theorem MenuEntry.isHidden_eq_false {hidden : List Region} {e : MenuEntry} :
    e.isHidden hidden = false ↔ ∀ r, e.region = some r → r ∉ hidden := by
  unfold isHidden
  cases e.region <;> simp

/-- The region of an entry, if it has one, is none of the hidden ones exactly if the entry is not hidden. -/
@[simp] theorem MenuEntry.all_region_eq (hidden : List Region) (e : MenuEntry) :
    (e.region.all fun r => !decide (r ∈ hidden)) = !e.isHidden hidden := by
  unfold isHidden
  cases e.region <;> simp

theorem MenuEntry.isHidden_congr {first second : List Region} (h : ∀ r, r ∈ first ↔ r ∈ second)
    (e : MenuEntry) : e.isHidden first = e.isHidden second := by
  unfold isHidden
  cases e.region <;> simp [h]

@[simp] theorem MenuEntry.isHidden_union (first second : List Region) (e : MenuEntry) :
    e.isHidden (Region.union first second) = (e.isHidden first || e.isHidden second) := by
  unfold isHidden
  cases e.region <;> simp

namespace Menu

variable {hidden : List Region} {entry : MenuEntry} {children rest : List MenuItem}

/-! ## What is left of an item -/

@[simp] theorem visible_nil (hidden : List Region) : visible hidden [] = [] := rfl

theorem visible_leaf : visible hidden (.leaf entry :: rest) =
    if entry.isHidden hidden then visible hidden rest else .leaf entry :: visible hidden rest := by
  rw [visible, prune]
  split <;> rfl

theorem visible_node : visible hidden (.node entry children :: rest) =
    if entry.isHidden hidden = true ∨ (visible hidden children = [] ∧ entry.path = "")
    then visible hidden rest
    else .node entry (visible hidden children) :: visible hidden rest := by
  rw [visible, prune]
  by_cases hentry : entry.isHidden hidden = true <;>
    by_cases hkept : visible hidden children = [] <;>
    by_cases hpath : entry.path = "" <;> simp [hentry, hkept, hpath]

/-! ## Hiding several sets -/

theorem visible_congr {first second : List Region} (h : ∀ r, r ∈ first ↔ r ∈ second)
    (menu : List MenuItem) : visible first menu = visible second menu := by
  induction menu using MenuItem.menuInduction with
  | nil => rfl
  | leaf entry rest ih => rw [visible_leaf, visible_leaf, ih, entry.isHidden_congr h]
  | node entry children rest ihBelow ih =>
    rw [visible_node, visible_node, ihBelow, ih, entry.isHidden_congr h]

theorem visible_visible (first second : List Region) (menu : List MenuItem) :
    visible second (visible first menu) = visible (Region.union first second) menu := by
  induction menu using MenuItem.menuInduction with
  | nil => rfl
  | leaf entry rest ih =>
    rw [visible_leaf, visible_leaf, ← ih, MenuEntry.isHidden_union]
    cases hfirst : entry.isHidden first <;> simp [visible_leaf]
  | node entry children rest ihBelow ih =>
    rw [visible_node, visible_node, ← ih, ← ihBelow, MenuEntry.isHidden_union]
    -- A group that the first pass takes out has nothing left for the second pass.
    by_cases hempty : visible first children = [] ∧ entry.path = ""
    · simp [hempty]
    · cases hfirst : entry.isHidden first <;> simp [hempty, visible_node]

/-- What is left of a menu after several sets of regions are hidden, one after the other. -/
def visibleAfter (sets : List (List Region)) (menu : List MenuItem) : List MenuItem :=
  sets.foldl (fun left hidden => visible hidden left) menu

/-- **Hiding adds up.** Hiding one set of regions and then another is hiding both at once. So hiding a set
again changes nothing, and several sets leave the same menu in whatever order they are hidden. -/
theorem hiding_adds_up (menu : List MenuItem) :
    (∀ first second, visible second (visible first menu) = visible (Region.union first second) menu) ∧
    (∀ hidden, visible hidden (visible hidden menu) = visible hidden menu) ∧
    (∀ sets others : List (List Region), sets.Perm others →
      visibleAfter sets menu = visibleAfter others menu) := by
  refine ⟨fun first second => visible_visible first second menu, fun hidden => ?_, ?_⟩
  · rw [visible_visible, Region.union_self]
    exact visible_congr (fun _ => Region.mem_inOrder) menu
  · intro sets others hperm
    refine hperm.foldl_eq' (fun first _ second _ left => ?_) menu
    rw [visible_visible, visible_visible, Region.union_comm]

/-- A menu with a group inside a group. -/
def nestedMenu : List MenuItem :=
  [.leaf ⟨"Dashboard", "/", none, none, none⟩,
    .node ⟨"Quản lý", "", none, some 1, none⟩
      [.node ⟨"Thu phí", "", some "folder", none, none⟩
        [.leaf ⟨"Khoản thu", "/khoan-thu", none, none, some .feeMenu⟩],
      .leaf ⟨"Dân cư", "/danh-sach-dan-cu", none, none, some .residentMenu⟩]]

/-- Fees first or residents first: the inner group is empty after one step, the outer group after both. -/
theorem nestedMenu_hidden_in_any_order :
    List.Perm [[Region.feeMenu], [.residentMenu]] [[.residentMenu], [.feeMenu]] ∧
    visibleAfter [[.feeMenu], [.residentMenu]] nestedMenu =
      visibleAfter [[.residentMenu], [.feeMenu]] nestedMenu ∧
    visibleAfter [[.feeMenu], [.residentMenu]] nestedMenu =
      [.leaf ⟨"Dashboard", "/", none, none, none⟩] :=
  ⟨.swap _ _ _, (hiding_adds_up nestedMenu).2.2 _ _ (.swap _ _ _), rfl⟩

end Menu

namespace MenuItem

@[simp] theorem entry_leaf (entry : MenuEntry) : (leaf entry).entry = entry := rfl

@[simp] theorem entry_node (entry : MenuEntry) (children : List MenuItem) :
    (node entry children).entry = entry := rfl

/-- The item leads somewhere, or it is a leaf; otherwise it only groups. -/
def isAnchored (item : MenuItem) : Bool := item.isLeaf || !item.entry.path.isEmpty

@[simp] theorem isAnchored_leaf (entry : MenuEntry) : (leaf entry).isAnchored = true := rfl

@[simp] theorem isAnchored_node (entry : MenuEntry) (children : List MenuItem) :
    (node entry children).isAnchored = !entry.path.isEmpty := rfl

end MenuItem

namespace Menu

variable {hidden : List Region} {entry : MenuEntry} {children rest : List MenuItem}

/-! ## Places in a menu -/

/-- An item of a menu with the entries above it, from the top. -/
structure Place where
  above : List MenuEntry
  item : MenuItem

mutual

/-- The place of an item, and the places below it. -/
def placesOf (above : List MenuEntry) : MenuItem → List Place
  | .leaf entry => [⟨above, .leaf entry⟩]
  | .node entry children => ⟨above, .node entry children⟩ :: places (above ++ [entry]) children

/-- The places of items that stand below some entries: each item comes before those below it. -/
def places (above : List MenuEntry) : List MenuItem → List Place
  | [] => []
  | item :: rest => placesOf above item ++ places above rest

end

namespace Place

/-- Neither the item nor any entry above it is in a hidden region. -/
def isVisible (hidden : List Region) (p : Place) : Bool :=
  (p.above ++ [p.item.entry]).all fun e => e.region.all fun r => r ∉ hidden

/-- The places below. -/
def below : Place → List Place
  | ⟨_, .leaf _⟩ => []
  | ⟨above, .node entry children⟩ => places (above ++ [entry]) children

/-- The place is visible, and it is anchored or there is an anchored visible place below it. -/
def stays (hidden : List Region) (p : Place) : Bool :=
  p.isVisible hidden &&
    (p.item.isAnchored || p.below.any fun q => q.item.isAnchored && q.isVisible hidden)

/-- The place with what is left below it. -/
def left (hidden : List Region) : Place → Place
  | ⟨above, .leaf entry⟩ => ⟨above, .leaf entry⟩
  | ⟨above, .node entry children⟩ => ⟨above, .node entry (visible hidden children)⟩

end Place

section Places

variable {above : List MenuEntry}

@[simp] theorem places_nil (above : List MenuEntry) : places above [] = [] := rfl

@[simp] theorem places_leaf :
    places above (.leaf entry :: rest) = ⟨above, .leaf entry⟩ :: places above rest := rfl

@[simp] theorem places_node : places above (.node entry children :: rest) =
    ⟨above, .node entry children⟩ :: (places (above ++ [entry]) children ++ places above rest) := rfl

theorem above_begins_with {menu : List MenuItem} {p : Place} (h : p ∈ places above menu) :
    above <+: p.above := by
  induction menu using MenuItem.menuInduction generalizing above with
  | nil => cases h
  | leaf entry rest ih =>
    rcases List.mem_cons.1 h with rfl | hrest
    · exact List.prefix_refl _
    · exact ih hrest
  | node entry children rest ihBelow ih =>
    rcases List.mem_cons.1 h with rfl | hmore
    · exact List.prefix_refl _
    · rcases List.mem_append.1 hmore with hbelow | hrest
      · exact (List.prefix_append _ _).trans (ihBelow hbelow)
      · exact ih hrest

/-- Nothing is visible below an entry that is hidden. -/
theorem isVisible_of_isHidden {menu : List MenuItem} {p : Place} (h : p ∈ places above menu)
    (hentry : entry ∈ above) (hhidden : entry.isHidden hidden = true) :
    p.isVisible hidden = false := by
  have hmem : entry ∈ p.above := (above_begins_with h).subset hentry
  rw [Place.isVisible, List.all_eq_false]
  exact ⟨entry, List.mem_append_left _ hmem, by simp [hhidden]⟩

/-- Below entries that are not hidden, an item is visible exactly if it is not hidden itself. -/
theorem isVisible_mk (habove : ∀ e ∈ above, e.isHidden hidden = false) (item : MenuItem) :
    Place.isVisible hidden ⟨above, item⟩ = !item.entry.isHidden hidden := by
  have hall : (above.all fun e => !e.isHidden hidden) = true := by simpa using habove
  simp [Place.isVisible, hall]

theorem not_isHidden_snoc (habove : ∀ e ∈ above, e.isHidden hidden = false)
    (hentry : entry.isHidden hidden = false) : ∀ e ∈ above ++ [entry], e.isHidden hidden = false := by
  simpa [or_imp, forall_and, hentry] using habove

/-- Nothing of a menu is left exactly if no anchored place is visible. -/
theorem visible_eq_nil_iff (habove : ∀ e ∈ above, e.isHidden hidden = false) (menu : List MenuItem) :
    visible hidden menu = [] ↔
      ∀ p ∈ places above menu, p.item.isAnchored = true → p.isVisible hidden = false := by
  induction menu using MenuItem.menuInduction generalizing above with
  | nil => simp
  | leaf entry rest ih =>
    rw [visible_leaf]
    cases hentry : entry.isHidden hidden <;>
      simp [isVisible_mk habove, hentry, ih habove]
  | node entry children rest ihBelow ih =>
    rw [visible_node]
    cases hentry : entry.isHidden hidden with
    | true =>
      have hbelow : ∀ p ∈ places (above ++ [entry]) children, p.isVisible hidden = false :=
        fun p hp => isVisible_of_isHidden hp (by simp) hentry
      simp +contextual [isVisible_mk habove, hentry, ih habove, or_imp, hbelow]
    | false =>
      have habove' := not_isHidden_snoc habove hentry
      -- The node itself is visible: it must not be anchored, and nothing may be left below it.
      by_cases hempty : visible hidden children = [] ∧ entry.path = ""
      · have hbelow := (ihBelow habove').1 hempty.1
        simp [hempty, ih habove, or_imp, forall_and, ← ihBelow habove']
      · have hstays : entry.path = "" → visible hidden children ≠ [] := fun hpath hkept =>
          hempty ⟨hkept, hpath⟩
        simp +contextual [isVisible_mk habove, hentry, or_imp, forall_and, hempty,
          ← ihBelow habove', hstays]

theorem stays_leaf (habove : ∀ e ∈ above, e.isHidden hidden = false) (entry : MenuEntry) :
    Place.stays hidden ⟨above, .leaf entry⟩ = !entry.isHidden hidden := by
  simp [Place.stays, isVisible_mk habove]

/-- A node below entries that are not hidden stays unless it is hidden or an empty group. -/
theorem stays_node (habove : ∀ e ∈ above, e.isHidden hidden = false) :
    Place.stays hidden ⟨above, .node entry children⟩ =
      !decide (entry.isHidden hidden = true ∨ (visible hidden children = [] ∧ entry.path = "")) := by
  rw [Place.stays, isVisible_mk habove, MenuItem.entry_node]
  cases hentry : entry.isHidden hidden with
  | true => simp
  | false =>
    have habove' := not_isHidden_snoc habove hentry
    have hbelow : ((places (above ++ [entry]) children).any fun q =>
        q.item.isAnchored && q.isVisible hidden) = !decide (visible hidden children = []) := by
      rw [Bool.eq_iff_iff]
      simp [visible_eq_nil_iff habove']
    by_cases hpath : entry.path = "" <;> by_cases hkept : visible hidden children = [] <;>
      simp [Place.below, hbelow, hpath, hkept]

/-- **The places that are left** are those that stay, in the same order, with what is left below them. -/
theorem places_visible (habove : ∀ e ∈ above, e.isHidden hidden = false) (menu : List MenuItem) :
    places above (visible hidden menu) =
      ((places above menu).filter (Place.stays hidden)).map (Place.left hidden) := by
  induction menu using MenuItem.menuInduction generalizing above with
  | nil => rfl
  | leaf entry rest ih =>
    rw [visible_leaf]
    cases hentry : entry.isHidden hidden <;> simp [stays_leaf habove, hentry, ih habove, Place.left]
  | node entry children rest ihBelow ih =>
    rw [visible_node]
    cases hentry : entry.isHidden hidden with
    | true =>
      have hbelow : ∀ p ∈ places (above ++ [entry]) children, p.stays hidden = false := by
        intro p hp
        rw [Place.stays, isVisible_of_isHidden hp (by simp) hentry, Bool.false_and]
      simp +contextual [stays_node habove, hentry, hbelow, ih habove]
    | false =>
      have habove' := not_isHidden_snoc habove hentry
      have hbelow := ihBelow habove'
      by_cases hempty : visible hidden children = [] ∧ entry.path = ""
      · rw [hempty.1, places_nil, eq_comm, List.map_eq_nil_iff] at hbelow
        simp [hempty, stays_node habove, hbelow, ih habove]
      · simp [hempty, hentry, stays_node habove, hbelow, ih habove, Place.left]

end Places

/-! ## Anchored items -/

/-- What an anchored item shows, and the entries above it. -/
structure Anchor where
  above : List MenuEntry
  entry : MenuEntry
  isLeaf : Bool
deriving Repr, DecidableEq

/-- Neither the item nor any entry above it is in a hidden region. -/
def Anchor.isVisible (hidden : List Region) (a : Anchor) : Bool :=
  (a.above ++ [a.entry]).all fun e => e.region.all fun r => r ∉ hidden

/-- What stands at a place, as an anchored item. -/
def Place.anchor (p : Place) : Anchor := ⟨p.above, p.item.entry, p.item.isLeaf⟩

/-- The anchored items of a menu, each in front of those below it. -/
def anchors (menu : List MenuItem) : List Anchor :=
  ((places [] menu).filter fun p => p.item.isAnchored).map Place.anchor

@[simp] theorem Place.anchor_left (hidden : List Region) (p : Place) :
    (p.left hidden).anchor = p.anchor := by
  rcases p with ⟨above, entry | ⟨entry, children⟩⟩ <;> rfl

@[simp] theorem Place.isAnchored_left (hidden : List Region) (p : Place) :
    (p.left hidden).item.isAnchored = p.item.isAnchored := by
  rcases p with ⟨above, entry | ⟨entry, children⟩⟩ <;> rfl

/-- **Anchored items.** The anchored items that are left are those that are not hidden and stand below no
hidden item: in the same order, with the same entries above them, and unchanged. Of the other items, which
only group, exactly those are left that have such an item below them; and below each item stands what is
left there. -/
theorem anchors_left_by_hiding (hidden : List Region) (menu : List MenuItem) :
    anchors (visible hidden menu) = (anchors menu).filter (Anchor.isVisible hidden) ∧
    places [] (visible hidden menu) =
      ((places [] menu).filter (Place.stays hidden)).map (Place.left hidden) := by
  have hplaces : places [] (visible hidden menu) =
      ((places [] menu).filter (Place.stays hidden)).map (Place.left hidden) :=
    places_visible (by simp) menu
  refine ⟨?_, hplaces⟩
  have hfilter : ∀ p : Place, (p.item.isAnchored && p.stays hidden) =
      (p.anchor.isVisible hidden && p.item.isAnchored) := by
    intro p
    cases hanchored : p.item.isAnchored
    · simp
    · simp [Place.stays, hanchored, Place.isVisible, Anchor.isVisible, Place.anchor]
  simp only [anchors, hplaces, List.filter_map, List.map_map, List.filter_filter, Function.comp_def,
    Place.anchor_left, Place.isAnchored_left, hfilter]

/-! ## Settled menus -/

/-- The items of a menu at any depth. -/
def everyItem (menu : List MenuItem) : List MenuItem := (places [] menu).map Place.item

/-- No item at any depth is in a hidden region, and none is a group with nothing below it. -/
@[mk_iff]
structure Settled (hidden : List Region) (menu : List MenuItem) : Prop where
  shown : ∀ item ∈ everyItem menu, ∀ r, item.entry.region = some r → r ∉ hidden
  filled : ∀ entry, .node entry [] ∈ everyItem menu → entry.path ≠ ""

theorem map_item_places (above : List MenuEntry) (menu : List MenuItem) :
    (places above menu).map Place.item = everyItem menu := by
  unfold everyItem
  induction menu using MenuItem.menuInduction generalizing above with
  | nil => rfl
  | leaf entry rest ih => simp [ih above]
  | node entry children rest ihBelow ih =>
    simp [ihBelow (above ++ [entry]), ihBelow [entry], ih above]

@[simp] theorem everyItem_leaf :
    everyItem (.leaf entry :: rest) = .leaf entry :: everyItem rest := rfl

@[simp] theorem everyItem_node : everyItem (.node entry children :: rest) =
    .node entry children :: (everyItem children ++ everyItem rest) := by
  simp [everyItem, map_item_places [entry]]

theorem mem_everyItem {menu : List MenuItem} {item : MenuItem} (h : item ∈ menu) :
    item ∈ everyItem menu := by
  induction menu with
  | nil => cases h
  | cons first rest ih =>
    cases first <;> rcases List.mem_cons.1 h with rfl | hrest
    · simp
    · simp [ih hrest]
    · simp
    · simp [ih hrest]

theorem mem_everyItem_of_node {menu : List MenuItem} {item : MenuItem} (h : .node entry children ∈ menu)
    (hitem : item ∈ children) : item ∈ everyItem menu := by
  induction menu with
  | nil => cases h
  | cons first rest ih =>
    cases first <;> rcases List.mem_cons.1 h with hfirst | hrest
    · cases hfirst
    · simp [ih hrest]
    · cases hfirst
      simp [mem_everyItem hitem]
    · simp [ih hrest]

theorem settled_nil : Settled hidden [] := ⟨by simp [everyItem], by simp [everyItem]⟩

theorem settled_leaf :
    Settled hidden (.leaf entry :: rest) ↔ entry.isHidden hidden = false ∧ Settled hidden rest := by
  simp [settled_iff, MenuEntry.isHidden_eq_false, and_assoc]

theorem settled_node : Settled hidden (.node entry children :: rest) ↔
    ¬(entry.isHidden hidden = true ∨ (children = [] ∧ entry.path = "")) ∧
      Settled hidden children ∧ Settled hidden rest := by
  rw [not_or, Bool.not_eq_true, MenuEntry.isHidden_eq_false, not_and]
  simp only [settled_iff, everyItem_node, List.mem_cons, List.mem_append, or_imp, forall_and, forall_eq,
    MenuItem.entry_node, MenuItem.node.injEq, and_imp, @eq_comm _ []]
  -- The conditions are the same, by items on the left and by kinds on the right.
  constructor
  · rintro ⟨⟨hentry, hbelow, hrest⟩, hgroup, hgroupsBelow, hgroupsRest⟩
    exact ⟨⟨hentry, hgroup⟩, ⟨hbelow, hgroupsBelow⟩, hrest, hgroupsRest⟩
  · rintro ⟨⟨hentry, hgroup⟩, ⟨hbelow, hgroupsBelow⟩, hrest, hgroupsRest⟩
    exact ⟨⟨hentry, hbelow, hrest⟩, hgroup, hgroupsBelow, hgroupsRest⟩

theorem settled_visible (hidden : List Region) (menu : List MenuItem) :
    Settled hidden (visible hidden menu) := by
  induction menu using MenuItem.menuInduction with
  | nil => exact settled_nil
  | leaf entry rest ih =>
    rw [visible_leaf]
    split
    · exact ih
    · rename_i hentry
      exact settled_leaf.2 ⟨by simpa using hentry, ih⟩
  | node entry children rest ihBelow ih =>
    rw [visible_node]
    split
    · exact ih
    · rename_i hstays
      exact settled_node.2 ⟨hstays, ihBelow, ih⟩

/-- Hiding changes nothing in a settled menu. -/
theorem Settled.visible_eq {menu : List MenuItem} (h : Settled hidden menu) :
    visible hidden menu = menu := by
  induction menu using MenuItem.menuInduction with
  | nil => rfl
  | leaf entry rest ih =>
    obtain ⟨hentry, hrest⟩ := settled_leaf.1 h
    simp [visible_leaf, hentry, ih hrest]
  | node entry children rest ihBelow ih =>
    obtain ⟨hstays, hbelow, hrest⟩ := settled_node.1 h
    rw [visible_node, ihBelow hbelow, ih hrest, if_neg hstays]

/-- **Settled menus.** Hiding regions changes nothing exactly if no item at any depth is in one of them and
no group is empty; and in what it leaves this is so. -/
theorem hiding_settles_menu (hidden : List Region) (menu : List MenuItem) :
    (visible hidden menu = menu ↔ Settled hidden menu) ∧ Settled hidden (visible hidden menu) :=
  ⟨⟨fun h => h ▸ settled_visible hidden menu, Settled.visible_eq⟩, settled_visible hidden menu⟩

end Menu

end ResidencePortal
