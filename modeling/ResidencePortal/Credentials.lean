import ResidencePortal.Json.Record

/-!
# Credentials

A login name and a password, as the login endpoints take them. Both are required.
-/

namespace ResidencePortal

/-- A login name and a password (`LoginForm`). -/
structure Credentials where
  username : String
  password : String
deriving Repr, DecidableEq

namespace Credentials

/-- The credentials in entries that hold both as texts. -/
def ofEntries? (entries : List (String × Json)) : Option Credentials := do
  let username ← (← Entries.find? "username" entries).str?
  let password ← (← Entries.find? "password" entries).str?
  some ⟨username, password⟩

/-- The credentials of a JSON text. -/
def ofText? (text : String) : Option Credentials := do
  let fields := [Json.Field.plain "username", Json.Field.plain "password"]
  ofEntries? (← Json.whole (Json.record fields) text)

/-- The credentials as the backend takes them. -/
def toJson (c : Credentials) : Json :=
  Json.object [("username", .str c.username), ("password", .str c.password)]

end Credentials

end ResidencePortal
