import ResidencePortal.Notice
import ResidencePortal.Policy
import ResidencePortal.Session.Visitor

/-!
# The guard

Decides whether a visitor may open a page. A visitor without a role is sent to the login page; one
whose role is not admitted is sent home with a notice; any other gets the access of the role.
-/

namespace ResidencePortal

/-- Where visitors are sent (`GuardDestinations`). -/
structure Destinations where
  login : String
  home : String
deriving Repr, DecidableEq

/-- The destinations unless configured (`GuardDestinations.default`). -/
def Destinations.standard : Destinations := ⟨"/login", "/"⟩

namespace Guard

/-- Why a visitor is turned away (`DenialReason`). -/
inductive Reason where
  | noSession
  | insufficientPrivilege
deriving Repr, DecidableEq

/-- How a visitor is turned away (`Denial`). -/
structure Denial where
  reason : Reason
  destination : String
  notice : Option Notice
deriving Repr, DecidableEq

/-- What the guard decides (`GuardOutcome`). -/
inductive Verdict where
  | allowed (access : Access)
  | denied (denial : Denial)
deriving Repr, DecidableEq

/-- What a visitor is told who may not open a page (`NO_PERMISSION_NOTICE`). -/
def noPermission : String := "Bạn không có quyền truy cập trang này!"

/-- The decision for a role, if there is one (`guard`). -/
def judge (role : Option Role) (allow : AllowList) (places : Destinations) : Verdict :=
  match role with
  | none => .denied ⟨.noSession, places.login, none⟩
  | some role =>
    if allow.admits role then .allowed (.ofRole role)
    else .denied ⟨.insufficientPrivilege, places.home, some (.warning noPermission)⟩

/-- The decision for a visitor (`guard`). -/
def decide (visitor : Session.Visitor) (allow : AllowList) (places : Destinations) : Verdict :=
  judge visitor.role? allow places

end Guard

end ResidencePortal
