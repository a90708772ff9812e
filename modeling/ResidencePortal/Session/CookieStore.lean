import ResidencePortal.Entries
import ResidencePortal.Session.Store

/-!
# Stores in a cookie

JSON values under keys, as the session cookie carries them. The portal writes texts only; any other
value that it finds there cannot be read. Clearing empties the store.
-/

namespace ResidencePortal.Session

/-- JSON values under keys, behind a request (`RequestSession`). -/
structure CookieStore where
  values : KeyMap Json

namespace CookieStore

/-- The store without values. -/
def empty : CookieStore := ⟨.empty⟩

/-- Puts any value under a key. -/
def put (s : CookieStore) (key : String) (value : Json) : CookieStore := ⟨s.values.insert key value⟩

/-- The store of the given values. -/
def ofList (values : List (String × Json)) : CookieStore := ⟨.ofList values⟩

/-- The text under a key; a value that is no text is a fault. -/
def read (s : CookieStore) (key : String) : Except Fault (Option String) :=
  match s.values.find? key with
  | none => .ok none
  | some (.str text) => .ok (some text)
  | some _ => .error (.sessionStore ("no text under " ++ key))

/-- Puts a text under a key. -/
def write (s : CookieStore) (key value : String) : CookieStore := s.put key (.str value)

/-- Removes what is under a key. -/
def remove (s : CookieStore) (key : String) : CookieStore := ⟨s.values.erase key⟩

/-- A text that was written is read back, and nothing else changes. -/
theorem read_write (s : CookieStore) (key value other : String) :
    (s.write key value).read other = if other = key then .ok (some value) else s.read other := by
  by_cases h : other = key <;> simp [read, write, put, h]

/-- A key that was removed reads as missing, and nothing else changes. -/
theorem read_remove (s : CookieStore) (key other : String) :
    (s.remove key).read other = if other = key then .ok none else s.read other := by
  by_cases h : other = key <;> simp [read, remove, h]

instance : Store CookieStore :=
  ⟨read, fun s key value => .ok (s.write key value), fun s key => .ok (s.remove key),
    fun _ => ⟨empty, none⟩⟩

end CookieStore

end ResidencePortal.Session
