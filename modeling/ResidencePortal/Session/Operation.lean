import ResidencePortal.Guard
import ResidencePortal.Session.CookieStore
import ResidencePortal.Session.TextStore

/-!
# Session operations

Everything that is done with a session, as a type of operations, and one function that performs an
operation on any store. Runs of operations on different stores can be compared through it.
-/

namespace ResidencePortal.Session

/-- Something to do with a session. -/
inductive Operation where
  | read (key : String)
  | write (key value : String)
  | remove (key : String)
  | clear
  | storeLogin (user : User) (token : Option String)
  | loadedUser
  | currentUser
  | isLoggedIn
  | resolve
  | guard (allow : AllowList) (places : Destinations)

/-- What an operation answers. -/
inductive Answer where
  | done
  | fault (fault : Fault)
  | text (text : Option String)
  | user (user : Option User)
  | flag (flag : Bool)
  | role (raw : Option String) (role : Option Role)
  | verdict (verdict : Guard.Verdict)

/-- The answer of an operation that only changes the store. -/
def Outcome.answer {σ : Type} (o : Outcome σ) : σ × Answer :=
  (o.store, match o.fault with
    | some e => .fault e
    | none => .done)

/-- The outcome of a change that may fail. -/
def Outcome.ofChange {σ : Type} (s : σ) : Except Fault σ → Outcome σ
  | .ok s => ⟨s, none⟩
  | .error e => ⟨s, some e⟩

/-- The answer of an operation that only reads. -/
def Answer.ofRead {α : Type} (wrap : α → Answer) : Except Fault α → Answer
  | .ok a => wrap a
  | .error e => .fault e

/-- Performs an operation on a store for a request with a user attached or not. -/
def perform {σ : Type} [Store σ] (loaded : Option User) (s : σ) : Operation → σ × Answer
  | .read key => (s, .ofRead .text (Store.read s key))
  | .write key value => (Outcome.ofChange s (Store.write s key value)).answer
  | .remove key => (Outcome.ofChange s (Store.remove s key)).answer
  | .clear => (Store.clear s).answer
  | .storeLogin user token => (Session.storeLogin s user token).answer
  | .loadedUser => (s, .user loaded)
  | .currentUser => (s, .ofRead .user (Store.visitor s loaded).currentUser)
  | .isLoggedIn => (s, .flag (Store.visitor s loaded).isLoggedIn)
  | .resolve =>
    let visitor := Store.visitor s loaded
    (s, .role visitor.rawRole? visitor.role?)
  | .guard allow places => (s, .verdict (Guard.decide (Store.visitor s loaded) allow places))

end ResidencePortal.Session
