import ResidencePortal.Text.Chars

/-!
# Backend failures

Why a call to the backend gave no result.
-/

namespace ResidencePortal.Backend

/-- Why a call gave no result (`ApiError`). -/
inductive Failure where
  /-- The status is not one of success. -/
  | http (status : Nat) (reason : String)
  /-- The answer says that the request failed. -/
  | rejected (status : Nat) (reason : String)
  /-- The answer cannot be read. -/
  | invalidJson (detail : String)
  /-- No answer came. -/
  | transport (detail : String)
deriving Repr, DecidableEq

namespace Failure

/-- The status of the answer, if the failure has one (`ApiError.status`). -/
def status? : Failure → Option Nat
  | http status _ => some status
  | rejected status _ => some status
  | invalidJson _ => none
  | transport _ => none

/-- The sentence for a failure. -/
def message : Failure → String
  | http _ reason => reason
  | rejected _ reason => reason
  | invalidJson detail => "Invalid JSON response from server: " ++ detail
  | transport detail => detail

end Failure

end ResidencePortal.Backend
