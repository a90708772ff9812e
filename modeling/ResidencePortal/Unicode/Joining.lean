import ResidencePortal.Unicode.JoiningTable

/-!
# Joining types

How a letter joins its neighbours in a cursive script.
-/

namespace ResidencePortal.Unicode

/-- A joining type. -/
inductive Joining where
  | none
  | causing
  | dual
  | left
  | right
  /-- Passed over when neighbours are looked for. -/
  | transparent
deriving Repr, DecidableEq

namespace Joining

/-- The types, in the order of their numbers. -/
def all : List Joining := [.none, .causing, .dual, .left, .right, .transparent]

/-- The type of a code point. -/
def ofPoint (n : Nat) : Joining := all.getD (Text.Packed.valueAt joiningRuns n) .none

end Joining

end ResidencePortal.Unicode
