import ResidencePortal.Session.Store

/-!
# Visitors

What the portal knows about a visitor: how to read the session, and the user record that was attached
to the request, if any. Everything here only reads.

* `Visitor.rawRole?` takes the first text that can be read and is not blank: the `role` key, the role
  of the attached record, the role of the record in the session. A value that cannot be read counts as
  missing.
-/

namespace ResidencePortal.Session

open Text

/-- A session to read and the user attached to the request. -/
structure Visitor where
  read : String → Except Fault (Option String)
  loaded : Option User

/-- The visitor of a store. -/
def Store.visitor {σ : Type} [Store σ] (s : σ) (loaded : Option User) : Visitor := ⟨Store.read s, loaded⟩

/-- The text, unless it is blank; it is not trimmed (`non_blank`). -/
def unlessBlank (text : Option String) : Option String := text.filter fun t => !allBlank t

namespace Visitor

/-- The text under a key, nothing if it cannot be read. -/
def text? (v : Visitor) (key : String) : Option String :=
  match v.read key with
  | .ok text => text
  | .error _ => none

/-- The user record in the session (`current_user`). -/
def currentUser (v : Visitor) : Except Fault (Option User) :=
  match v.read Key.currentUser with
  | .error fault => .error fault
  | .ok text =>
    match unlessBlank text with
    | none => .ok none
    | some text =>
      match User.ofText? text with
      | some user => .ok (some user)
      | none => .error (.malformedSession Key.currentUser)

/-- The user record in the session, nothing if it cannot be read. -/
def currentUser? (v : Visitor) : Option User :=
  match v.currentUser with
  | .ok user => user
  | .error _ => none

/-- The role text of the visitor (`resolve_raw_role`). -/
def rawRole? (v : Visitor) : Option String :=
  (unlessBlank (v.text? Key.role)).orElse fun _ =>
    (unlessBlank (v.loaded.bind User.role)).orElse fun _ => v.currentUser?.bind User.rawRole?

/-- The role of the visitor; without one nobody is logged in (`resolve_role`). -/
def role? (v : Visitor) : Option Role := v.rawRole?.bind Role.normalize?

/-- The login is complete: it is marked so and has a user record (`is_logged_in`). -/
def isLoggedIn (v : Visitor) : Bool := v.text? Key.isLoggedIn == some "true" && v.currentUser?.isSome

/-- The token for the backend: the first that can be read, unless it is blank (`authorized_client`). -/
def bearer? (v : Visitor) : Option String :=
  unlessBlank ((v.text? Key.accessToken).orElse fun _ => v.text? Key.token)

end Visitor

end ResidencePortal.Session
