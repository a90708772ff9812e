import ResidencePortal.Json.Basic

/-!
# Faults

What can go wrong inside the portal, with the sentence and the status that a visitor gets for it.
-/

namespace ResidencePortal

/-- What went wrong (`BluemoonError`). -/
inductive Fault where
  | notFound
  | badRequest (detail : String)
  | unauthorized
  | forbidden (detail : String)
  | malformedSession (detail : String)
  | sessionStore (detail : String)
  | backend (detail : String)
  | internal
deriving Repr, DecidableEq

namespace Fault

/-- The sentence for a fault. -/
def message : Fault → String
  | notFound => "Not Found"
  | badRequest detail => "Bad Request: " ++ detail
  | unauthorized => "Authentication required"
  | forbidden detail => "Forbidden: " ++ detail
  | malformedSession detail => "Malformed session data: " ++ detail
  | sessionStore detail => "Session store error: " ++ detail
  | backend detail => "Upstream API error: " ++ detail
  | internal => "Internal Server Error"

/-- The status of the answer to a request that ran into a fault (`error_response`). -/
def status : Fault → Nat
  | notFound => 404
  | badRequest _ => 400
  | unauthorized => 401
  | forbidden _ => 403
  | malformedSession _ => 401
  | sessionStore _ => 500
  | backend _ => 502
  | internal => 500

/-- The body of that answer (`error_response`). -/
def toJson (f : Fault) : Json := Json.object [("error", .str f.message)]

end Fault

end ResidencePortal
