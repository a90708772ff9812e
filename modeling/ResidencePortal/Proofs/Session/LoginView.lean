import ResidencePortal.Proofs.RoleResolution
import ResidencePortal.Proofs.Session.LoginImage
import ResidencePortal.Proofs.UserRecord

/-!
# Visitors after a login

What a visitor is known as whose session holds the image of a login. The record comes back from its text
with every field, and the role comes from the record, whichever of its two role fields names it. Nothing
here depends on the kind of store: a visitor sees a login if the session keys read as its image.

**Results.**
* `Sees.currentUser`, `Sees.isLoggedIn`: the record is given back, and the login is complete.
* `Sees.rawRole?`, `Sees.role?`: the role is that of the record; only for a record that names none the
  user attached to the request counts.
-/

namespace ResidencePortal

open Text

namespace User

/-- A record of any fields is written as a text that is not blank. -/
theorem allBlank_encode (u : User) : allBlank u.encode = false := by
  cases h : allBlank u.encode with
  | false => rfl
  | true =>
    have hnone := ofText?_eq_none_of_allBlank h
    rw [ofText?_encode] at hnone
    cases hnone

/-- The role text of a record is not blank. -/
theorem allBlank_of_rawRole? {u : User} {token : String} (h : u.rawRole? = some token) :
    allBlank token = false := by
  have hfield : ∀ field : Option String, field.bind nonBlank = some token →
      allBlank token = false := by
    intro field hfield
    obtain ⟨raw, -, hraw⟩ := Option.bind_eq_some_iff.1 hfield
    rw [nonBlank_eq_ite] at hraw
    cases hblank : allBlank raw with
    | true => simp [hblank] at hraw
    | false =>
      simp only [hblank, Bool.false_eq_true, if_false, Option.some.injEq] at hraw
      rw [← hraw, allBlank_trim, hblank]
  unfold rawRole? at h
  cases hrole : u.role.bind nonBlank with
  | some raw =>
    rw [hrole] at h
    exact hfield u.role (hrole.trans h)
  | none =>
    rw [hrole] at h
    exact hfield u.duty h

end User

namespace Session.Visitor

/-- The session keys read as the image of a login. -/
def Sees (v : Visitor) (user : User) (token : Option String) : Prop :=
  ∀ key ∈ keys, v.read key = .ok (loginText? user token key)

theorem sees_loginSession (user : User) (token : Option String) (loaded : Option User) :
    (Store.visitor (loginSession user token) loaded).Sees user token :=
  fun key _ => read_loginSession user token key

variable {v : Visitor} {user : User} {token : Option String}

theorem Sees.text? (h : v.Sees user token) {key : String} (hkey : key ∈ keys) :
    v.text? key = loginText? user token key := by
  rw [Visitor.text?, h key hkey]

/-- The record comes back from the session with every field. -/
theorem Sees.currentUser (h : v.Sees user token) : v.currentUser = .ok (some user) := by
  have hread : v.read Key.currentUser = .ok (some user.encode) := h Key.currentUser (by decide)
  rw [Visitor.currentUser, hread]
  simp [user.allBlank_encode, user.ofText?_encode]

theorem Sees.currentUser? (h : v.Sees user token) : v.currentUser? = some user := by
  rw [Visitor.currentUser?, h.currentUser]

theorem Sees.isLoggedIn (h : v.Sees user token) : v.isLoggedIn = true := by
  have hmark : v.text? Key.isLoggedIn = some "true" := h.text? (by decide)
  rw [Visitor.isLoggedIn, hmark, h.currentUser?]
  rfl

/-- The role text is that of the record, else that of the attached user. -/
theorem Sees.rawRole? (h : v.Sees user token) :
    v.rawRole? = user.rawRole?.or (unlessBlank (v.loaded.bind User.role)) := by
  have hrole : v.text? Key.role = user.rawRole? := h.text? (by decide)
  rw [Visitor.rawRole?, hrole, h.currentUser?, Option.bind_some]
  cases hraw : user.rawRole? with
  | some raw => simp [User.allBlank_of_rawRole? hraw]
  | none =>
    rw [unlessBlank_none, Option.none_or]
    cases unlessBlank (v.loaded.bind User.role) <;> rfl

theorem Sees.role? (h : v.Sees user token) (hloaded : v.loaded = none) :
    v.role? = user.rawRole?.bind Role.normalize? := by
  rw [Visitor.role?, h.rawRole?, hloaded, Option.bind_none, unlessBlank_none, Option.or_none]

end Session.Visitor

end ResidencePortal
