import ResidencePortal.Unicode.BidiTable

/-!
# Directions of characters

The classes that the rule for names in two directions tells apart. All others are one class here,
because no name may hold them beside letters from right to left.
-/

namespace ResidencePortal.Unicode

/-- A class of direction. -/
inductive Direction where
  | leftToRight
  | rightToLeft
  | arabicLetter
  | arabicNumber
  | europeanNumber
  | europeanSeparator
  | commonSeparator
  | europeanTerminator
  | otherNeutral
  | boundaryNeutral
  | nonspacingMark
  | other
deriving Repr, DecidableEq

namespace Direction

/-- The classes, in the order of their numbers. -/
def all : List Direction :=
  [.leftToRight, .rightToLeft, .arabicLetter, .arabicNumber, .europeanNumber, .europeanSeparator,
    .commonSeparator, .europeanTerminator, .otherNeutral, .boundaryNeutral, .nonspacingMark, .other]

/-- The class of a code point. -/
def ofPoint (n : Nat) : Direction := all.getD (Text.Packed.valueAt directionRuns n) .other

end Direction

end ResidencePortal.Unicode
