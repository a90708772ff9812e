import ResidencePortal.Json.Number
import ResidencePortal.Text.Quoted

/-!
# Values of the wrong shape

Why a value is not what a record expects, and the sentence that says so.
-/

namespace ResidencePortal.Json

open ResidencePortal.Text

/-- Why a value does not fit. -/
inductive Mismatch where
  /-- The value is of another kind. -/
  | kind (found : Json) (expected : String)
  /-- The integer is out of range. -/
  | range (found : Int) (expected : String)
  /-- A list has more items than the record has fields. -/
  | length (count : Nat)
deriving Repr

/-- An integer in a sentence. -/
def integerPhrase (n : Int) : String := "integer `" ++ intText n ++ "`"

/-- A value in a sentence: its kind, and its content if it is no container. -/
def phrase : Json → String
  | .null => "null"
  | .bool true => "boolean `true`"
  | .bool false => "boolean `false`"
  | .num (.int n) => integerPhrase n
  | .num (.real x) => "floating point `" ++ x.scientific ++ "`"
  | .str s => "string " ++ quoted s
  | .arr _ => "sequence"
  | .obj _ => "map"

/-- The sentence for a mismatch. -/
def Mismatch.message : Mismatch → String
  | .kind found expected => "invalid type: " ++ phrase found ++ ", expected " ++ expected
  | .range found expected => "invalid value: " ++ integerPhrase found ++ ", expected " ++ expected
  | .length count =>
    "invalid length " ++ natText count ++ ", expected fewer elements in array"

end ResidencePortal.Json
