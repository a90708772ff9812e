import ResidencePortal.Domain.Label
import ResidencePortal.Text.Chars
import ResidencePortal.Text.Utf8

/-!
# Domain names in ASCII

The name that is asked for on the network: mapped, every label checked and written in ASCII. A name
that cannot be written so is not a domain name.
-/

namespace ResidencePortal.Domain

open Text

/-- A character of ASCII that no name in an address holds. -/
def isDenied (n : Nat) : Bool :=
  n ≤ 32 || n == 127 || ("#%/:<>?@[\\]^|".toList.map Char.toNat).contains n

/-- The labels of a name: the parts between dots. -/
def labels (name : List Nat) : List (List Nat) :=
  (splitOn '.' (name.map Char.ofNat)).map fun label => label.map Char.toNat

/-- The name in ASCII; it may be empty. -/
def toAscii? (name : List Char) : Option (List Char) := do
  let mapped ← map? (name.map Char.toNat)
  guard !mapped.any isDenied
  let plain ← (labels mapped).mapM plainLabel?
  guard (!runsBothWays plain.flatten || plain.all directionFits)
  let ascii ← plain.mapM asciiLabel?
  some (List.intercalate ['.'] ascii)

end ResidencePortal.Domain
