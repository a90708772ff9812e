/-!
# Regions

A region is a named part of the pages that can be hidden: a menu entry, a panel, a chart. Sets of
regions are lists in the order of `Region.all`.
-/

namespace ResidencePortal

/-- A part of the pages that can be hidden (`RegionId`). -/
inductive Region where
  | feeMenu
  | collectionPeriodMenu
  | receiptMenu
  | reportMenu
  | financialDashboardWidgets
  | financialCharts
  | residentMenu
  | roomMenu
  | vehicleMenu
  | demographicCharts
deriving Repr, DecidableEq

namespace Region

/-- Every region, in order (`RegionId.ALL`). -/
def all : List Region :=
  [feeMenu, collectionPeriodMenu, receiptMenu, reportMenu, financialDashboardWidgets, financialCharts,
    residentMenu, roomMenu, vehicleMenu, demographicCharts]

/-- The identifier of a region in documents and pages (`RegionId.as_str`). -/
def id : Region → String
  | feeMenu => "fee-menu"
  | collectionPeriodMenu => "collection-period-menu"
  | receiptMenu => "receipt-menu"
  | reportMenu => "report-menu"
  | financialDashboardWidgets => "financial-dashboard-widgets"
  | financialCharts => "financial-charts"
  | residentMenu => "resident-menu"
  | roomMenu => "room-menu"
  | vehicleMenu => "vehicle-menu"
  | demographicCharts => "demographic-charts"

/-- The selectors of the static markup that a region covers (`RegionId.selectors`). -/
def selectors : Region → List String
  | feeMenu => ["a[href*=\"khoan-thu.html\"]"]
  | collectionPeriodMenu => ["a[href*=\"dot-thu.html\"]"]
  | receiptMenu => ["a[href*=\"phieu-thu.html\"]"]
  | reportMenu =>
    ["a[href*=\"bao-cao.html\"]", "a[href*=\"bao-cao-thu.html\"]", "a[href*=\"bao-cao-cong-no.html\"]"]
  | financialDashboardWidgets => ["#btnQuickCreateFee"]
  | financialCharts => ["[id*=\"revenue\"]", "[id*=\"debt\"]"]
  | residentMenu => ["a[href*=\"danh-sach-dan-cu.html\"]"]
  | roomMenu => ["a[href*=\"can-ho.html\"]", "a[href*=\"phong.html\"]"]
  | vehicleMenu => ["a[href*=\"phuong-tien.html\"]"]
  | demographicCharts => ["[id*=\"demographics\"]", "[id*=\"resident\"]"]

/-- The region with an identifier (`RegionId.parse`). -/
def ofId? (id : String) : Option Region := all.find? fun r => r.id = id

/-- The place of a region in `all`. -/
def index (r : Region) : Nat := all.idxOf r

/-- The given regions as a set: each once, in order. -/
def inOrder (regions : List Region) : List Region := all.filter fun r => r ∈ regions

/-- The regions that are not hidden (`visible_regions`). -/
def visible (hidden : List Region) : List Region := all.filter fun r => r ∉ hidden

theorem mem_all (r : Region) : r ∈ all := by cases r <;> decide

@[simp] theorem mem_inOrder {r : Region} {regions : List Region} : r ∈ inOrder regions ↔ r ∈ regions := by
  simp [inOrder, mem_all]

@[simp] theorem mem_visible {r : Region} {hidden : List Region} : r ∈ visible hidden ↔ r ∉ hidden := by
  simp [visible, mem_all]

theorem ofId?_id (r : Region) : ofId? r.id = some r := by cases r <;> decide

end Region

end ResidencePortal
