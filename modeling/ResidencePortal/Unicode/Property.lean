import ResidencePortal.Text.Blank
import ResidencePortal.Unicode.Category
import ResidencePortal.Unicode.LetterTable
import ResidencePortal.Unicode.ScriptTable

/-!
# Properties of characters

What can be asked of a character by name: its category, its script, and a few properties that hold or
do not. Names are compared without case, blanks, underscores and hyphens.
-/

namespace ResidencePortal.Unicode

open Text

/-- A property of characters. -/
inductive Property where
  | categories (members : List Category)
  /-- The script with a number. -/
  | script (number : Nat)
  /-- A character of a word. -/
  | word
  | alphabetic
  | uppercase
  | lowercase
  | blank
  | ascii
  | assigned
  | any
deriving Repr, DecidableEq

namespace Property

/-- The character has the property. -/
def holds : Property → Char → Bool
  | .categories members, c => members.contains (Category.ofChar c)
  | .script number, c => Packed.valueAt scriptRuns c.toNat == number
  | .word, c => Packed.valueAt wordRuns c.toNat == 1
  | .alphabetic, c => Packed.valueAt alphabeticRuns c.toNat == 1
  | .uppercase, c => Packed.valueAt uppercaseRuns c.toNat == 1
  | .lowercase, c => Packed.valueAt lowercaseRuns c.toNat == 1
  | .blank, c => isBlank c
  | .ascii, c => c.toNat < 128
  | .assigned, c => Category.ofChar c != .unassigned
  | .any, _ => true

/-- A decimal digit of any script. -/
def digit : Property := .categories [.decimalNumber]

/-- A name in the form in which names are compared; a leading `is` does not count. -/
def comparedName (name : List Char) : String :=
  let plain := (name.filter fun c => c != ' ' && c != '_' && c != '-' && c.toNat < 128).map Char.toLower
  match plain with
  | 'i' :: 's' :: rest => String.ofList rest
  | cs => String.ofList cs

/-- The properties that are not categories or scripts. -/
def plainNames : List (String × Property) :=
  [("alphabetic", .alphabetic), ("alpha", .alphabetic), ("uppercase", .uppercase), ("upper", .uppercase),
    ("lowercase", .lowercase), ("lower", .lowercase), ("whitespace", .blank), ("wspace", .blank),
    ("space", .blank)]

/-- The categories of a compared name. -/
def categories? (name : String) : Option Property :=
  if name = "any" then some .any
  else if name = "ascii" then some .ascii
  else if name = "assigned" then some .assigned
  else (Category.ofName? name).map .categories

/-- The script of a compared name. -/
def script? (name : String) : Option Property :=
  (scriptNames.findIdx? fun s => s.1 = name || s.2 = name).map fun i => .script (i + 1)

/-- The property of a bare name. -/
def ofName? (name : List Char) : Option Property :=
  let name := comparedName name
  (((plainNames.find? fun p => p.1 = name).map Prod.snd).orElse fun _ => categories? name).orElse
    fun _ => script? name

/-- The property of a kind of names and a value of that kind. -/
def ofPair? (kind value : List Char) : Option Property :=
  let kind := comparedName kind
  if kind = "gc" || kind = "generalcategory" then categories? (comparedName value)
  else if kind = "sc" || kind = "script" then script? (comparedName value)
  else none

end Property

end ResidencePortal.Unicode
