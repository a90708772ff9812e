import ResidencePortal.Backend.Call
import ResidencePortal.Html.View
import ResidencePortal.Session.CookieStore
import ResidencePortal.Web.Path

/-!
# Requests and responses
-/

namespace ResidencePortal.Web

open Text

/-- A request of a visitor. -/
structure Request where
  method : String
  /-- Path and query. -/
  target : String
  contentType : Option String
  body : String
  /-- The user record that was attached to the request, if any. -/
  loaded : Option User
deriving Repr, DecidableEq

/-- The path of a request as it was sent. -/
def Request.path (r : Request) : String := Path.ofTarget r.target

/-- The body of a response. -/
inductive Body where
  | empty
  | html (text : String)
  | json (value : Json)
  /-- A sentence about a request that could not be handled. -/
  | plain

/-- The media type of a body. -/
def Body.contentType? : Body → Option String
  | .empty => none
  | .html _ => some "text/html; charset=utf-8"
  | .json _ => some "application/json"
  | .plain => some "text/plain; charset=utf-8"

/-- A response to a visitor. -/
structure Response where
  status : Nat
  location : Option String
  body : Body

namespace Response

/-- A response without a body. -/
def empty (status : Nat) : Response := ⟨status, none, .empty⟩

/-- A request could not be handled. -/
def plain (status : Nat) : Response := ⟨status, none, .plain⟩

/-- A response with a JSON body. -/
def json (status : Nat) (value : Json) : Response := ⟨status, none, .json value⟩

/-- A response with a document. -/
def document (answer : Html.Answer) : Response := ⟨answer.status, none, .html answer.body⟩

/-- Sends the visitor elsewhere; a place that cannot be written into a header is an error (`redirect_to`). -/
def redirect (location : String) : Response :=
  if location.toList.any breaksHeader then plain 500 else ⟨302, some location, .empty⟩

/-- The answer to a fault (`error_response`). -/
def fault (f : Fault) : Response := json f.status f.toJson

end Response

/-- The envelope of JSON answers (`ApiResponse`). -/
def envelope (success : Bool) (data message : Json) : Json :=
  Json.object [("success", .bool success), ("data", data), ("message", message)]

/-- The envelope of a result (`ApiResponse.success`). -/
def envelopeOk (data : Json) : Json := envelope true data .null

/-- The envelope of an error (`ApiResponse.error`). -/
def envelopeError (message : String) : Json := envelope false .null (.str message)

/-- What a handler leaves: the response, the session, whether the session was written to, and the
line to the backend. -/
structure Served where
  response : Response
  session : Session.CookieStore
  touched : Bool
  line : Backend.Line

end ResidencePortal.Web
