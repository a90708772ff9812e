import ResidencePortal.Unicode.CategoryTable

/-!
# General categories

Every code point has one of thirty general categories, each with a name of two letters and a long name.
The first letter names a group of categories.
-/

namespace ResidencePortal.Unicode

/-- A general category. -/
inductive Category where
  | unassigned
  | uppercaseLetter
  | lowercaseLetter
  | titlecaseLetter
  | modifierLetter
  | otherLetter
  | nonspacingMark
  | spacingMark
  | enclosingMark
  | decimalNumber
  | letterNumber
  | otherNumber
  | connectorPunctuation
  | dashPunctuation
  | openPunctuation
  | closePunctuation
  | initialPunctuation
  | finalPunctuation
  | otherPunctuation
  | mathSymbol
  | currencySymbol
  | modifierSymbol
  | otherSymbol
  | spaceSeparator
  | lineSeparator
  | paragraphSeparator
  | control
  | format
  | surrogate
  | privateUse
deriving Repr, DecidableEq

namespace Category

/-- The categories with their names in lower case: of two letters, then the long ones. -/
def named : List (Category × String × List String) :=
  [(.unassigned, "cn", ["unassigned"]),
    (.uppercaseLetter, "lu", ["uppercaseletter"]),
    (.lowercaseLetter, "ll", ["lowercaseletter"]),
    (.titlecaseLetter, "lt", ["titlecaseletter"]),
    (.modifierLetter, "lm", ["modifierletter"]),
    (.otherLetter, "lo", ["otherletter"]),
    (.nonspacingMark, "mn", ["nonspacingmark"]),
    (.spacingMark, "mc", ["spacingmark"]),
    (.enclosingMark, "me", ["enclosingmark"]),
    (.decimalNumber, "nd", ["decimalnumber", "digit"]),
    (.letterNumber, "nl", ["letternumber"]),
    (.otherNumber, "no", ["othernumber"]),
    (.connectorPunctuation, "pc", ["connectorpunctuation"]),
    (.dashPunctuation, "pd", ["dashpunctuation"]),
    (.openPunctuation, "ps", ["openpunctuation"]),
    (.closePunctuation, "pe", ["closepunctuation"]),
    (.initialPunctuation, "pi", ["initialpunctuation"]),
    (.finalPunctuation, "pf", ["finalpunctuation"]),
    (.otherPunctuation, "po", ["otherpunctuation"]),
    (.mathSymbol, "sm", ["mathsymbol"]),
    (.currencySymbol, "sc", ["currencysymbol"]),
    (.modifierSymbol, "sk", ["modifiersymbol"]),
    (.otherSymbol, "so", ["othersymbol"]),
    (.spaceSeparator, "zs", ["spaceseparator"]),
    (.lineSeparator, "zl", ["lineseparator"]),
    (.paragraphSeparator, "zp", ["paragraphseparator"]),
    (.control, "cc", ["control", "cntrl"]),
    (.format, "cf", ["format"]),
    (.surrogate, "cs", ["surrogate"]),
    (.privateUse, "co", ["privateuse"])]

/-- The categories, in the order of their numbers. -/
def all : List Category := named.map Prod.fst

/-- The long names of the groups, with the letter that starts the names of their members. -/
def groupNames : List (String × Char) :=
  [("letter", 'l'), ("mark", 'm'), ("combiningmark", 'm'), ("number", 'n'), ("punctuation", 'p'),
    ("punct", 'p'), ("symbol", 's'), ("separator", 'z'), ("other", 'c')]

/-- The categories whose two-letter name starts with a letter. -/
def group (letter : Char) : List Category :=
  (named.filter fun e => e.2.1.toList.head? = some letter).map Prod.fst

/-- The categories that a name in lower case means: one category, the letters with case, or a group. -/
def ofName? (name : String) : Option (List Category) :=
  match named.find? fun e => e.2.1 = name || e.2.2.contains name with
  | some e => some [e.1]
  | none =>
    if name = "lc" || name = "casedletter" then
      some [.uppercaseLetter, .lowercaseLetter, .titlecaseLetter]
    else
      match groupNames.find? fun g => g.1 = name || name.toList = [g.2] with
      | some g => some (group g.2)
      | none => none

/-- The category of a character. -/
def ofChar (c : Char) : Category := all.getD (Text.Packed.valueAt categoryRuns c.toNat) .unassigned

end Category

end ResidencePortal.Unicode
