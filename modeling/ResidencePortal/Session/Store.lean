import ResidencePortal.Fault
import ResidencePortal.Session.Key
import ResidencePortal.User

/-!
# Session stores

A store keeps texts under keys for one visitor; each operation may fail. A failing write or removal
changes nothing. `storeLogin` clears the store and then writes the image of a login, entry by entry; it
goes on clearing after a failure but stops at the first write that fails.
-/

namespace ResidencePortal.Session

/-- A store after an operation, and what went wrong if it failed. -/
structure Outcome (σ : Type) where
  store : σ
  fault : Option Fault

/-- What a session store can do (`SessionProvider`). -/
class Store (σ : Type) where
  read : σ → String → Except Fault (Option String)
  write : σ → String → String → Except Fault σ
  remove : σ → String → Except Fault σ
  clear : σ → Outcome σ

variable {σ : Type}

/-- Tries to remove every key; the first failure is reported at the end (`clear_session`). -/
def removeEach (remove : σ → String → Except Fault σ) : List String → σ → Outcome σ
  | [], s => ⟨s, none⟩
  | key :: rest, s =>
    match remove s key with
    | .ok s => removeEach remove rest s
    | .error fault => { removeEach remove rest s with fault := some fault }

/-- Writes the entries up to the first failure (`store_login`). -/
def writeEach (write : σ → String → String → Except Fault σ) : List (String × String) → σ → Outcome σ
  | [], s => ⟨s, none⟩
  | (key, value) :: rest, s =>
    match write s key value with
    | .ok s => writeEach write rest s
    | .error fault => ⟨s, some fault⟩

/-- The entry under a key for a value that may be missing. -/
def entry? (key : String) (value : Option String) : List (String × String) :=
  (value.map fun v => (key, v)).toList

/-- What a login leaves in the session (`store_login`). -/
def loginEntries (user : User) (token : Option String) : List (String × String) :=
  [(Key.currentUser, user.encode), (Key.isLoggedIn, "true")] ++
    entry? Key.role user.rawRole? ++ entry? Key.accessToken token

/-- Replaces what earlier logins left by the image of a login (`store_login`). -/
def storeLogin [Store σ] (s : σ) (user : User) (token : Option String) : Outcome σ :=
  let cleared := Store.clear s
  match cleared.fault with
  | some _ => cleared
  | none => writeEach Store.write (loginEntries user token) cleared.store

end ResidencePortal.Session
