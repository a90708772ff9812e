import ResidencePortal.Backend.Failure
import ResidencePortal.Json.Printer
import ResidencePortal.Json.Reader

/-!
# Backend replies

A reply as it comes over the wire, and the value that callers get from it:

* a status outside 200 … 299 is a failure, with the reason from the body if it has one;
* a JSON body that cannot be read is a failure;
* a body that says `success: false` is a failure whatever the status;
* a body that is no JSON, or empty, is wrapped as `data` of a successful answer.
-/

namespace ResidencePortal.Backend

open Text

/-- A reply of the backend (`RawResponse`). -/
structure Reply where
  status : Nat
  contentType : Option String
  body : String
deriving Repr, DecidableEq

namespace Reply

/-- A reply with a JSON body (`RawResponse.json`). -/
def ofJson (status : Nat) (value : Json) : Reply := ⟨status, some "application/json", value.compact⟩

/-- The status is one of success (`RawResponse.is_success`). -/
def isSuccess (r : Reply) : Bool := 200 ≤ r.status && r.status < 300

/-- The body is meant as JSON and not empty (`RawResponse.is_json`). -/
def hasJsonBody (r : Reply) : Bool :=
  r.contentType.any (fun ct => contains ct "application/json") && !r.body.isEmpty

/-- How much of a body is shown in messages (`SNIPPET_LEN`). -/
def snippetLength : Nat := 100

/-- The part of the body that is shown in messages (`snippet`). -/
def snippet (r : Reply) : String := firstChars snippetLength r.body

/-- The first member among the keys that is a text and not empty (`first_text`). -/
def firstText? (v : Json) (keys : List String) : Option String :=
  keys.findSome? fun key => ((v.get? key).bind Json.str?).filter fun s => !s.isEmpty

/-- The reason of a reply that is no success (`normalize_response`). -/
def errorReason (r : Reply) : String :=
  match if r.hasJsonBody then Json.parse? r.body else none with
  | some v => (firstText? v ["message", "details", "errorCode"]).getD ("HTTP " ++ natText r.status)
  | none =>
    let text := r.snippet
    "Server error (" ++ natText r.status ++ "): " ++ (if text.isEmpty then "Unknown error" else text)

/-- The value in a body that is no JSON: wrapped as data. -/
def wrapped (r : Reply) : Json :=
  Json.object [("success", .bool true), ("data", if r.body.isEmpty then .null else .str r.body)]

/-- The value in the body (`normalize_response`). -/
def content (r : Reply) : Except Failure Json :=
  if r.hasJsonBody then
    match Json.parse? r.body with
    | some v => .ok v
    | none => .error (.invalidJson r.snippet)
  else .ok r.wrapped

/-- The value says that the request failed (`normalize_response`). -/
def saysFailed (v : Json) : Bool :=
  match v.get? "success" with
  | some (.bool false) => true
  | _ => false

/-- The value that callers get (`normalize_response`). -/
def normalize (r : Reply) : Except Failure Json :=
  if r.isSuccess then
    match r.content with
    | .error failure => .error failure
    | .ok v =>
      if saysFailed v then
        .error (.rejected r.status ((firstText? v ["message", "details"]).getD "Request failed"))
      else .ok v
  else .error (.http r.status r.errorReason)

end Reply

/-- The items of a list answer: a bare list, or the list under `data` (`extract_list`). -/
def listItems : Json → List Json
  | .arr items => items
  | v =>
    match v.get? "data" with
    | some (.arr items) => items
    | _ => []

/-- What an answer wraps under `data`, the whole answer if that is missing or null (`extract_data`). -/
def dataOf (v : Json) : Json :=
  match v.get? "data" with
  | some data => if data.isNull then v else data
  | none => v

end ResidencePortal.Backend
