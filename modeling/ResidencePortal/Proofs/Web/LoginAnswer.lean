import ResidencePortal.Proofs.Backend.ReplyText
import ResidencePortal.Proofs.Session.LoginView
import ResidencePortal.Proofs.Web.SessionEvent

/-!
# From the answer to the session

The backend answers a login in one of two shapes: the record under `data` beside a mark of success, or
the record alone; the token stands beside either. On its way to the session the record is written as
text, read as a value, taken out of the answer, decoded, written again with the fields that it has, and
read again. It comes through unchanged in both shapes.

**Results.**
* `Login.ofJson_answer`, `Login.normalize_answer`: the login is read from the value of its answer, and
  from a reply with that value.
* `granted?_answer`: an answer in either shape grants the login.
* `login_round_trip`: the session then shows the record, the token and the role.
-/

namespace ResidencePortal

namespace Backend

open Text

/-- The shapes of an answer to a login. -/
inductive Shape where
  | wrapped
  | bare
deriving Repr, DecidableEq

/-- The members of an answer that hold the record. -/
def Shape.members (user : User) : Shape → List (String × Json)
  | .wrapped => [("success", .bool true), ("data", user.toJson)]
  | .bare => user.entries

/-- The member of an answer that holds the token. -/
def tokenMember (token : Option String) : List (String × Json) :=
  (token.map fun t => ("accessToken", .str t)).toList

namespace Login

/-- The answer that grants a login. -/
def answer (login : Login) (shape : Shape) : Json :=
  Json.object (shape.members login.user ++ tokenMember login.token)

/-! ## Members of an answer -/

theorem find?_tokenMember (token : Option String) (key : String) :
    Entries.find? key (tokenMember token) = if key = "accessToken" then token.map .str else none := by
  cases token <;> simp [tokenMember, Entries.find?, eq_comm]

/-- Beside the two members of the wrapper an answer holds the fields of the record alone. -/
theorem find?_members_eq_none (user : User) (shape : Shape) {key : String}
    (hfield : User.Field.ofKey? key = none) (hwrapper : key ∉ ["success", "data"]) :
    Entries.find? key (shape.members user) = none := by
  cases shape with
  | wrapped => exact Entries.find?_eq_none_iff.2 hwrapper
  | bare => exact user.find?_entries_of_not_field hfield

theorem distinct_members (login : Login) (shape : Shape) :
    Entries.Distinct (shape.members login.user ++ tokenMember login.token) := by
  have hmembers : Entries.Distinct (shape.members login.user) := by
    cases shape with
    | wrapped => exact (by decide : ["success", "data"].Nodup)
    | bare => exact login.user.distinct_entries
  cases htoken : login.token with
  | none => simpa [tokenMember] using hmembers
  | some token =>
    have hfresh : "accessToken" ∉ (shape.members login.user).map Prod.fst :=
      Entries.find?_eq_none_iff.1 (find?_members_eq_none login.user shape (by decide) (by decide))
    rw [Entries.Distinct, List.map_append, List.nodup_append]
    refine ⟨hmembers, by simp [tokenMember], ?_⟩
    rintro key hkey _ hother rfl
    obtain rfl : key = "accessToken" := by simpa [tokenMember] using hother
    exact hfresh hkey

theorem get?_answer (login : Login) (shape : Shape) (key : String) :
    (login.answer shape).get? key =
      (Entries.find? key (shape.members login.user)).or
        (if key = "accessToken" then login.token.map .str else none) := by
  rw [answer, Json.get?_object key (distinct_members login shape), Entries.find?_append,
    find?_tokenMember]

/-! ## Writing an answer -/

theorem mem_members {login : Login} {shape : Shape} {m : String × Json}
    (h : m ∈ shape.members login.user ++ tokenMember login.token) :
    Json.Canonical m.2 ∧ m.2.depth ≤ 1 := by
  have hentry : ∀ e ∈ login.user.entries, Json.Canonical e.2 ∧ e.2.depth = 0 :=
    fun e => User.canonical_of_mem_entries
  rcases List.mem_append.1 h with h | h
  · cases shape with
    | wrapped =>
      simp only [Shape.members, List.mem_cons, List.not_mem_nil, or_false] at h
      rcases h with rfl | rfl
      · exact ⟨.bool true, Nat.zero_le 1⟩
      · refine ⟨Json.canonical_object fun e he => (hentry e he).1, ?_⟩
        exact Json.depth_object_le fun e he => Nat.le_of_eq (hentry e he).2
    | bare =>
      obtain ⟨hcanonical, hdepth⟩ := hentry m h
      exact ⟨hcanonical, by omega⟩
  · obtain ⟨token, -, rfl⟩ := Option.map_eq_some_iff.1 (Option.mem_toList.1 h)
    exact ⟨.str token, Nat.zero_le 1⟩

theorem canonical_answer (login : Login) (shape : Shape) : Json.Canonical (login.answer shape) :=
  Json.canonical_object fun _ hm => (mem_members hm).1

theorem depth_answer_le (login : Login) (shape : Shape) : (login.answer shape).depth ≤ 2 :=
  Json.depth_object_le fun _ hm => (mem_members hm).2

/-! ## Reading an answer -/

theorem saysFailed_answer (login : Login) (shape : Shape) :
    Reply.saysFailed (login.answer shape) = false := by
  rw [Reply.saysFailed, get?_answer, if_neg (by decide), Option.or_none]
  cases shape with
  | wrapped => rfl
  | bare =>
    have hmissing : Entries.find? "success" (Shape.bare.members login.user) = none :=
      login.user.find?_entries_of_not_field (by decide)
    rw [hmissing]

/-- The record is found in both shapes. -/
theorem ofJson_dataOf_answer (login : Login) (shape : Shape) :
    User.ofJson (dataOf (login.answer shape)) = .ok login.user := by
  rw [dataOf, get?_answer, if_neg (by decide), Option.or_none]
  cases shape with
  | wrapped => exact User.ofJson_object login.user.distinct_entries login.user.find?_entries
  | bare =>
    have hmissing : Entries.find? "data" (Shape.bare.members login.user) = none :=
      login.user.find?_entries_of_not_field (by decide)
    rw [hmissing]
    refine User.ofJson_object (distinct_members login .bare) fun f => ?_
    have hother : f.key ≠ "accessToken" := by cases f <;> decide
    rw [Entries.find?_append, find?_tokenMember, if_neg hother, Option.or_none]
    exact login.user.find?_entries f

theorem token_answer (login : Login) (shape : Shape) :
    (["accessToken", "token"].findSome? fun key => ((login.answer shape).get? key).bind Json.str?) =
      login.token := by
  have hmember : Entries.find? "accessToken" (shape.members login.user) = none :=
    find?_members_eq_none login.user shape (by decide) (by decide)
  have hother : Entries.find? "token" (shape.members login.user) = none :=
    find?_members_eq_none login.user shape (by decide) (by decide)
  simp only [List.findSome?_cons, List.findSome?_nil, get?_answer, hmember, hother, Option.none_or,
    if_true]
  cases login.token <;> rfl

/-- A login is read from the value of its answer. -/
theorem ofJson_answer (login : Login) (shape : Shape) :
    Login.ofJson (login.answer shape) = .ok login := by
  rw [Login.ofJson, token_answer, ofJson_dataOf_answer]

/-- A login is read from the reply with its answer. -/
theorem normalize_answer (login : Login) (shape : Shape) {status : Nat} (hlow : 200 ≤ status)
    (hhigh : status < 300) :
    ((Reply.ofJson status (login.answer shape)).normalize >>= Login.ofJson) = .ok login := by
  have hdepth : (login.answer shape).depth ≤ Json.maxDepth :=
    Nat.le_trans (depth_answer_le login shape) (by decide)
  rw [Reply.normalize_ofJson (canonical_answer login shape) hdepth hlow hhigh, saysFailed_answer]
  exact ofJson_answer login shape

end Login

end Backend

namespace Web

open Text Session

/-- An answer in either shape grants the login to whoever gave credentials. -/
theorem granted?_answer {credentials : Credentials} (login : Backend.Login) (shape : Backend.Shape)
    {status : Nat} (pending : List Backend.Delivery) (sent : List Backend.Request)
    (husername : trim credentials.username ≠ "") (hpassword : trim credentials.password ≠ "")
    (hlow : 200 ≤ status) (hhigh : status < 300) :
    granted? ⟨.ok (.ofJson status (login.answer shape)) :: pending, sent⟩ credentials =
      some login := by
  have hsays : ∀ {text : String}, trim text ≠ "" → allBlank text = false := by
    intro text htext
    rw [← trim_isEmpty, Bool.eq_false_iff, ne_eq, String.isEmpty_iff]
    exact htext
  rw [granted?, hsays husername, hsays hpassword]
  simp only [login.normalize_answer shape hlow hhigh]
  rfl

/-- **The login comes through.** Whatever the record, the token, the shape of the answer, its status of
success, and what the session held before: with credentials that are not blank, an answered attempt
succeeds, and the session then shows the record with all its fields, a complete login, the token, and
the role that the record names. -/
theorem login_round_trip (client : Backend.Client) (credentials : Credentials) (session : CookieStore)
    (user : User) (token : Option String) (shape : Backend.Shape) (status : Nat)
    (pending : List Backend.Delivery) (sent : List Backend.Request)
    (husername : trim credentials.username ≠ "") (hpassword : trim credentials.password ≠ "")
    (hlow : 200 ≤ status) (hhigh : status < 300) :
    let attempt := authenticate client credentials session
      ⟨.ok (.ofJson status (Backend.Login.answer ⟨user, token⟩ shape)) :: pending, sent⟩
    let visitor := Store.visitor attempt.session none
    attempt.result = .ok user ∧ visitor.currentUser = .ok (some user) ∧ visitor.isLoggedIn = true ∧
      attempt.session.read Key.accessToken = .ok token ∧
      visitor.role? = user.rawRole?.bind Role.normalize? := by
  intro attempt
  obtain ⟨message, left, -, hattempt⟩ := authenticate_eq client credentials session
    ⟨.ok (.ofJson status (Backend.Login.answer ⟨user, token⟩ shape)) :: pending, sent⟩
  rw [granted?_answer ⟨user, token⟩ shape pending sent husername hpassword hlow hhigh] at hattempt
  rw [show attempt = _ from hattempt]
  have hsees := Visitor.sees_loginSession user token none
  refine ⟨rfl, hsees.currentUser, hsees.isLoggedIn, ?_, hsees.role? rfl⟩
  exact read_loginSession user token Key.accessToken

/-- A manager whose texts need escapes and whose number is the least of all. -/
def escapedManager : User :=
  ⟨some Int64.minValue, some "a\"b\\c", some "Nguyễn\nÁnh\t", none, some " quản lý ", none⟩

theorem login_round_trip_escapedManager :
    (trim " an " ≠ "" ∧ trim "mật khẩu" ≠ "" ∧ 200 ≤ 204 ∧ 204 < 300) ∧
    let attempt := authenticate ⟨"/api", none⟩ ⟨" an ", "mật khẩu"⟩
      (.ofList [(Key.token, .null)])
      ⟨[.ok (.ofJson 204 (Backend.Login.answer ⟨escapedManager, some ""⟩ .wrapped))], []⟩
    let visitor := Store.visitor attempt.session none
    attempt.result = .ok escapedManager ∧ visitor.currentUser = .ok (some escapedManager) ∧
      visitor.isLoggedIn = true ∧ attempt.session.read Key.accessToken = .ok (some "") ∧
      visitor.role? = escapedManager.rawRole?.bind Role.normalize? :=
  ⟨by decide, login_round_trip ⟨"/api", none⟩ ⟨" an ", "mật khẩu"⟩
    (.ofList [(Key.token, .null)]) escapedManager (some "") .wrapped 204 [] [] (by decide)
    (by decide) (by decide) (by decide)⟩

end Web

end ResidencePortal
