import ResidencePortal.Menu
import ResidencePortal.Policy

/-!
# Pages

A page of the portal: where it is, how it stands in the menu, and to whom it is open. `Page.standard`
lists the built-in pages.
-/

namespace ResidencePortal

/-- A page (`PageSpec`). -/
structure Page where
  id : String
  title : String
  path : String
  icon : Option String
  /-- The menu group it stands in. -/
  group : Option String
  order : Option Nat
  region : Option Region
  allowed : AllowList
deriving DecidableEq

namespace Page

/-- A page at `/id`, open as the policy has it for its identifier (`PageSpec.new`). -/
def ofId (id title : String) : Page :=
  ⟨id, title, "/" ++ id, none, none, none, none, Policy.allowListFor id⟩

/-- What the page shows in a menu. -/
def entry (p : Page) : MenuEntry := ⟨p.title, p.path, p.icon, p.order, p.region⟩

/-- The page as a menu item (`PageSpec.menu_item`). -/
def menuItem (p : Page) : MenuItem := .leaf p.entry

/-- A page as a value, its members in the order of listings. -/
def toJson (p : Page) : Json :=
  .obj
    [("id", .str p.id), ("title", .str p.title), ("path", .str p.path), ("icon", Json.ofText? p.icon),
      ("group", Json.ofText? p.group), ("order", (p.order.map Json.ofNat).getD .null),
      ("region", Json.ofText? (p.region.map Region.id)),
      ("allowed_roles", .arr (p.allowed.names.map .str))]

/-- A built-in page in a menu group. -/
def grouped (id title group : String) (region : Region) (icon : String) (order : Nat) : Page :=
  { ofId id title with group := some group, region := some region, icon := some icon, order := some order }

/-- A built-in page of its own in the menu. -/
def single (id title icon : String) (order : Nat) : Page :=
  { ofId id title with icon := some icon, order := some order }

/-- The built-in pages (`default_pages`). -/
def standard : List Page :=
  [grouped "can-ho" "Hộ gia đình" "Dân cư" .roomMenu "home" 10,
    grouped "danh-sach-dan-cu" "Cư dân" "Dân cư" .residentMenu "users" 11,
    grouped "phuong-tien" "Phương tiện" "Dân cư" .vehicleMenu "car" 12,
    grouped "khoan-thu" "Khoản thu" "Thu phí" .feeMenu "money-bill" 20,
    grouped "dot-thu" "Đợt thu" "Thu phí" .collectionPeriodMenu "calendar" 21,
    grouped "phieu-thu" "Phiếu thu" "Thu phí" .receiptMenu "receipt" 22,
    grouped "bao-cao" "Báo cáo" "Báo cáo" .reportMenu "file" 30,
    grouped "bao-cao-thu" "Báo cáo thu" "Báo cáo" .reportMenu "file" 31,
    grouped "bao-cao-cong-no" "Báo cáo công nợ" "Báo cáo" .reportMenu "file" 32,
    single "thong-ke" "Thống kê" "chart-bar" 40,
    single "tai-khoan" "Tài khoản" "user-cog" 50]

end Page

namespace Menu

/-- The names of the groups of pages, each once. -/
def groupNames (pages : List Page) : List String := (pages.filterMap Page.group).eraseDups

/-- The least number among the items that have one. -/
def leastOrder (items : List MenuItem) : Option Nat := (items.filterMap fun i => i.entry.order).min?

/-- The item of a group: its pages below it, sorted, and the least of their numbers (`build_menus`). -/
def groupItem (pages : List Page) (name : String) : MenuItem :=
  let children := sort ((pages.filter fun p => p.group = some name).map Page.menuItem)
  .node ⟨name, "", some "folder", leastOrder children, none⟩ children

/-- The menu of pages when the groups are taken in a given order (`build_menus`). -/
def assemble (names : List String) (pages : List Page) : List MenuItem :=
  sort (names.map (groupItem pages) ++ (pages.filter fun p => p.group = none).map Page.menuItem)

/-- The menu of pages (`build_menus`). -/
def build (pages : List Page) : List MenuItem := assemble (groupNames pages) pages

end Menu

end ResidencePortal
