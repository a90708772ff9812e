/-!
# Session keys

The keys under which a session keeps a login. `Session.keys` lists every key that a login may leave
behind, in the order in which they are removed.
-/

namespace ResidencePortal.Session

namespace Key

/-- The JSON text of the user record (`CURRENT_USER_KEY`). -/
def currentUser : String := "currentUser"

/-- The mark of a complete login (`IS_LOGGED_IN_KEY`). -/
def isLoggedIn : String := "isLoggedIn"

/-- A record kept by older logins (`USER_INFO_KEY`). -/
def userInfo : String := "userInfo"

/-- The token for the backend (`ACCESS_TOKEN_KEY`). -/
def accessToken : String := "accessToken"

/-- The token for the backend, under its other name (`TOKEN_KEY`). -/
def token : String := "token"

/-- The role text (`ROLE_KEY`). -/
def role : String := "role"

end Key

/-- The keys that belong to a login (`SESSION_KEYS`). -/
def keys : List String :=
  [Key.currentUser, Key.isLoggedIn, Key.userInfo, Key.accessToken, Key.token, Key.role]

end ResidencePortal.Session
