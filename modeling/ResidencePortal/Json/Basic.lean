import ResidencePortal.Entries
import ResidencePortal.Numeric.Binary64

/-!
# JSON values

A value is null, a truth value, a number, a text, a list or an object. Numbers are integers in the
64-bit ranges or doubles. The members of an object are a list; the objects that readers and
`Json.object` build have their keys in increasing order, each once.
-/

namespace ResidencePortal

/-- A number: an integer between `-2^63` and `2^64 - 1`, or a double. -/
inductive Json.Number where
  | int (n : Int)
  | real (x : Numeric.Binary64)
deriving Repr, DecidableEq

/-- A JSON value. -/
inductive Json where
  | null
  | bool (b : Bool)
  | num (n : Json.Number)
  | str (s : String)
  | arr (items : List Json)
  | obj (members : List (String × Json))
deriving Repr

namespace Json

/-- The object with the given members, keys in order; of two members under one key the later counts. -/
def object (members : List (String × Json)) : Json :=
  .obj (members.foldl (fun acc m => Entries.insert m.1 m.2 acc) [])

/-- The member of an object under a key; other values have none. -/
def get? (v : Json) (key : String) : Option Json :=
  match v with
  | .obj members => Entries.find? key members
  | _ => none

/-- The text of a text value. -/
def str? : Json → Option String
  | .str s => some s
  | _ => none

/-- The value is null. -/
def isNull : Json → Bool
  | .null => true
  | _ => false

/-- A text, or null for none. -/
def ofText? : Option String → Json
  | some s => .str s
  | none => .null

/-- A natural number as a value. -/
def ofNat (n : Nat) : Json := .num (.int n)

mutual

/-- How many containers a value nests. -/
def depth : Json → Nat
  | .arr items => depthItems items + 1
  | .obj members => depthMembers members + 1
  | _ => 0

/-- The greatest depth among the items. -/
def depthItems : List Json → Nat
  | [] => 0
  | v :: rest => max (depth v) (depthItems rest)

/-- The greatest depth among the members' values. -/
def depthMembers : List (String × Json) → Nat
  | [] => 0
  | (_, v) :: rest => max (depth v) (depthMembers rest)

end

end Json

end ResidencePortal
