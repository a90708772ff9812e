import ResidencePortal.Credentials
import ResidencePortal.Text.Percent

/-!
# Forms

The pairs of a submitted form: they stand between ampersands, name and value are divided by the first
equals sign, a plus sign is a space, and the rest is percent-coded.
-/

namespace ResidencePortal.Web

open Text

namespace Form

/-- The text of a name or value. -/
def decode (cs : List Char) : String :=
  Percent.decode (String.ofList (cs.map fun c => if c = '+' then ' ' else c))

/-- One pair; without an equals sign the value is empty. -/
def pair (cs : List Char) : String × String :=
  let (name, value) := cut '=' cs
  (decode name, decode (value.getD []))

/-- The pairs of a form; empty pieces are passed over. -/
def pairs (body : String) : List (String × String) :=
  ((splitOn '&' body.toList).filter fun piece => !piece.isEmpty).map pair

/-- The value of a field that is given exactly once. -/
def field? (name : String) (pairs : List (String × String)) : Option String :=
  match pairs.filter fun p => p.1 = name with
  | [p] => some p.2
  | _ => none

/-- The credentials in a form. -/
def credentials? (body : String) : Option Credentials := do
  let pairs := pairs body
  let username ← field? "username" pairs
  let password ← field? "password" pairs
  some ⟨username, password⟩

end Form

end ResidencePortal.Web
