import ResidencePortal.AllowList
import ResidencePortal.Region

/-!
# Access policy

Which built-in pages are open to which roles, and which regions a role does not see. Management keeps
the residents, the accountant keeps the money: each has the other's regions hidden. Administrators and
unknown roles have nothing hidden.
-/

namespace ResidencePortal

namespace Policy

/-- The pages about residents, rooms and vehicles (`RESIDENT_PAGES`). -/
def residentPages : List String := ["can-ho", "danh-sach-dan-cu", "phuong-tien"]

/-- The pages about fees, receipts and reports (`FINANCIAL_PAGES`). -/
def financialPages : List String :=
  ["khoan-thu", "dot-thu", "phieu-thu", "bao-cao", "bao-cao-thu", "bao-cao-cong-no"]

/-- The page of statistics (`STATISTICS_PAGE`). -/
def statisticsPage : String := "thong-ke"

/-- The page of user accounts (`ACCOUNTS_PAGE`). -/
def accountsPage : String := "tai-khoan"

/-- The allow list of a built-in page (`standard_allow_list`). -/
def standardAllowList? (page : String) : Option AllowList :=
  if page ∈ residentPages then some (.ofList [.management])
  else if page ∈ financialPages then some (.ofList [.accountant])
  else if page = statisticsPage then some (.ofList [.management, .accountant])
  else if page = accountsPage then some .empty
  else none

/-- The allow list of a page by its identifier; a page that is not built in is for administrators
(`PageGuard.for_page`). -/
def allowListFor (page : String) : AllowList := (standardAllowList? page).getD .empty

/-- The regions that a role does not see (`regions_to_hide`). -/
def hiddenRegions : Role → List Region
  | .management =>
    [.feeMenu, .collectionPeriodMenu, .receiptMenu, .reportMenu, .financialDashboardWidgets,
      .financialCharts]
  | .accountant => [.residentMenu, .roomMenu, .vehicleMenu, .demographicCharts]
  | .admin => []
  | .other _ => []

/-- The role may open the pages about residents (`can_access_resident`). -/
def opensResidentPages (role : Role) : Bool := role = .admin || role = .management

/-- The role may open the pages about money (`can_access_financial`). -/
def opensFinancialPages (role : Role) : Bool := role = .admin || role = .accountant

end Policy

/-- What an admitted visitor works under: a role and the regions hidden from it (`AccessContext`). -/
structure Access where
  role : Role
  hidden : List Region
deriving Repr, DecidableEq

/-- The access that a role gives (`AccessContext.for_role`). -/
def Access.ofRole (role : Role) : Access := ⟨role, Policy.hiddenRegions role⟩

end ResidencePortal
