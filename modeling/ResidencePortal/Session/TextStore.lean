import ResidencePortal.Entries
import ResidencePortal.Session.Store

/-!
# Stores of texts

Texts under keys, with lists of the keys on which reading, writing or removing fails. Without such
keys no operation fails. Clearing removes the session keys one by one and leaves other keys alone.
-/

namespace ResidencePortal.Session

/-- The keys on which operations fail. -/
structure FailingKeys where
  read : List String
  write : List String
  remove : List String
deriving Repr, DecidableEq

/-- No operation fails. -/
def FailingKeys.none : FailingKeys := ⟨[], [], []⟩

/-- Texts under keys (`MemorySession`). -/
structure TextStore where
  values : KeyMap String
  failing : FailingKeys

namespace TextStore

/-- The fault of an operation on a failing key. -/
def unavailable (key : String) : Fault := .sessionStore ("unavailable " ++ key)

/-- The text under a key. -/
def read (s : TextStore) (key : String) : Except Fault (Option String) :=
  if key ∈ s.failing.read then .error (unavailable key) else .ok (s.values.find? key)

/-- Puts a text under a key. -/
def write (s : TextStore) (key value : String) : Except Fault TextStore :=
  if key ∈ s.failing.write then .error (unavailable key)
  else .ok { s with values := s.values.insert key value }

/-- Removes what is under a key. -/
def remove (s : TextStore) (key : String) : Except Fault TextStore :=
  if key ∈ s.failing.remove then .error (unavailable key)
  else .ok { s with values := s.values.erase key }

instance : Store TextStore := ⟨read, write, remove, removeEach remove keys⟩

end TextStore

end ResidencePortal.Session
