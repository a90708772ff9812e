import ResidencePortal.Backend.Call
import ResidencePortal.Credentials
import ResidencePortal.Text.Percent
import ResidencePortal.User

/-!
# Endpoints of the backend

The calls that the portal makes: logging in, checking a login name, changing a password, and the
records of collections. Login names and search words are percent-coded as one path segment; the
identifiers of records stand in the path as they are.
-/

namespace ResidencePortal.Backend

open Text

/-- Who logged in, and the token for later calls (`LoginOutcome`). -/
structure Login where
  user : User
  token : Option String
deriving Repr, DecidableEq

/-- The login in an answer (`AuthApi.login`). -/
def Login.ofJson (v : Json) : Except Failure Login :=
  let token := ["accessToken", "token"].findSome? fun key => (v.get? key).bind Json.str?
  match User.ofJson (dataOf v) with
  | .ok user => .ok ⟨user, token⟩
  | .error mismatch => .error (.invalidJson mismatch.message)

namespace Client

/-- Logs in (`AuthApi.login`). -/
def login (c : Client) (credentials : Credentials) : Call Login :=
  (c.call "/login" .post (some credentials.toJson)).andThen Login.ofJson

/-- Asks whether a login name is taken (`AuthApi.check_username`). -/
def checkUsername (c : Client) (username : String) : Call Json :=
  c.call ("/check-username/" ++ Percent.encode username) .get none

/-- Changes a password (`AuthApi.change_password`). -/
def changePassword (c : Client) (payload : Json) : Call Json :=
  c.call "/change-password" .post (some payload)

end Client

/-- A collection of records, by its path (`EntityApi`). -/
structure Collection where
  path : String
deriving Repr, DecidableEq

namespace Collection

/-- The collection that a page shows (`entity_for_page`). -/
def forPage? (page : String) : Option Collection :=
  if page ∈ ["tai-khoan", "khoan-thu", "dot-thu", "phieu-thu", "phuong-tien"] then some ⟨"/" ++ page⟩
  else if page = "can-ho" then some ⟨"/ho-gia-dinh"⟩
  else if page = "danh-sach-dan-cu" then some ⟨"/nhan-khau"⟩
  else none

/-- The endpoint of one record. -/
def recordPath (k : Collection) (id : String) : String := k.path ++ "/" ++ id

/-- All records (`EntityApi.list`). -/
def list (k : Collection) (c : Client) : Call (List Json) :=
  (c.call k.path .get none).andThen fun v => .ok (listItems v)

/-- One record (`EntityApi.get`). -/
def get (k : Collection) (c : Client) (id : String) : Call Json := c.call (k.recordPath id) .get none

/-- Makes a record (`EntityApi.create`). -/
def create (k : Collection) (c : Client) (payload : Json) : Call Json := c.call k.path .post (some payload)

/-- Changes a record (`EntityApi.update`). -/
def update (k : Collection) (c : Client) (id : String) (payload : Json) : Call Json :=
  c.call (k.recordPath id) .put (some payload)

/-- Deletes a record (`EntityApi.delete`). -/
def delete (k : Collection) (c : Client) (id : String) : Call Json := c.call (k.recordPath id) .delete none

/-- The records that match a word (`EntityApi.search`). -/
def search (k : Collection) (c : Client) (keyword : String) : Call Json :=
  c.call (k.path ++ "/search/" ++ Percent.encode keyword) .get none

end Collection

end ResidencePortal.Backend
