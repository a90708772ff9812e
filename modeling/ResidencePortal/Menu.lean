import ResidencePortal.Json.Basic
import ResidencePortal.Region

/-!
# Menus

A menu is a forest. A leaf is an entry; a node is an entry with items below it. A node without a path
cannot be opened itself: it only groups, and goes when nothing is left below it.

* `Menu.visible` drops the items whose region is hidden, with all below them, and the groups that
  become empty.
* `Menu.sort` orders items by their number, those without one last, and then by title; items that tie
  keep their places.
-/

namespace ResidencePortal

/-- What a menu item shows (the fields of `MenuItem` but its children). -/
structure MenuEntry where
  title : String
  /-- Where it leads; empty if it only groups. -/
  path : String
  icon : Option String
  order : Option Nat
  /-- The region it belongs to; without one it is always shown. -/
  region : Option Region
deriving Repr, DecidableEq

/-- An entry, with items below it or not (`MenuItem`). -/
inductive MenuItem where
  | leaf (entry : MenuEntry)
  | node (entry : MenuEntry) (children : List MenuItem)
deriving Repr, BEq

namespace MenuItem

/-- What the item shows. -/
def entry : MenuItem → MenuEntry
  | leaf entry => entry
  | node entry _ => entry

end MenuItem

/-- The entry's region is among the hidden ones. -/
def MenuEntry.isHidden (hidden : List Region) (e : MenuEntry) : Bool :=
  match e.region with
  | some r => r ∈ hidden
  | none => false

/-- An entry as a value, with the value of the items below it. -/
def MenuEntry.toJsonWith (e : MenuEntry) (children : Json) : Json :=
  Json.object
    [("title", .str e.title), ("path", .str e.path), ("children", children),
      ("icon", Json.ofText? e.icon), ("order", (e.order.map Json.ofNat).getD .null),
      ("region", Json.ofText? (e.region.map Region.id))]

mutual

/-- A menu item as a value. -/
def MenuItem.toJson : MenuItem → Json
  | .leaf e => e.toJsonWith .null
  | .node e children => e.toJsonWith (.arr (MenuItem.listToJson children))

/-- Menu items as values. -/
def MenuItem.listToJson : List MenuItem → List Json
  | [] => []
  | item :: rest => item.toJson :: MenuItem.listToJson rest

end

namespace Menu

mutual

/-- What is left of an item when regions are hidden (`visible_menus`). -/
def prune (hidden : List Region) : MenuItem → Option MenuItem
  | .leaf e => if e.isHidden hidden then none else some (.leaf e)
  | .node e children =>
    if e.isHidden hidden then none
    else
      let kept := visible hidden children
      if kept.isEmpty && e.path.isEmpty then none else some (.node e kept)

/-- What is left of a menu when regions are hidden (`visible_menus`). -/
def visible (hidden : List Region) : List MenuItem → List MenuItem
  | [] => []
  | item :: rest => (prune hidden item).toList ++ visible hidden rest

end

/-- The first entry does not have to stand behind the second (`by_order_then_title`). -/
def precedes (a b : MenuEntry) : Bool :=
  match a.order, b.order with
  | some x, some y => x < y || (x == y && a.title ≤ b.title)
  | some _, none => true
  | none, some _ => false
  | none, none => a.title ≤ b.title

/-- The items in the order of their entries. -/
def sort (items : List MenuItem) : List MenuItem :=
  items.mergeSort fun a b => precedes a.entry b.entry

end Menu

end ResidencePortal
