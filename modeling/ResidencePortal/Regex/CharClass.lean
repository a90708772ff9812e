import ResidencePortal.Unicode.Fold
import ResidencePortal.Unicode.Property

/-!
# Classes of characters

What one place of a regular expression may hold. Classes are built from ranges and properties by the
operations of sets; `folded` adds the characters that differ by case only.
-/

namespace ResidencePortal

/-- A class of characters. -/
inductive CharClass where
  | range (low high : Char)
  | property (p : Unicode.Property)
  | union (a b : CharClass)
  | inter (a b : CharClass)
  | complement (a : CharClass)
  /-- The class with all variants by case of its characters. -/
  | folded (a : CharClass)
  /-- The class with the variants by case of its ASCII letters. -/
  | foldedAscii (a : CharClass)
deriving Repr, DecidableEq

namespace CharClass

/-- The other case of an ASCII letter. -/
def otherAsciiCase (c : Char) : Char := if c.isUpper then c.toLower else c.toUpper

/-- The character belongs to the class. -/
def contains : CharClass → Char → Bool
  | .range low high, c => low ≤ c && c ≤ high
  | .property p, c => p.holds c
  | .union a b, c => a.contains c || b.contains c
  | .inter a b, c => a.contains c && b.contains c
  | .complement a, c => !a.contains c
  | .folded a, c => (Unicode.variants c).any fun d => a.contains d
  | .foldedAscii a, c => a.contains c || a.contains (otherAsciiCase c)

/-- The class of one character. -/
def single (c : Char) : CharClass := .range c c

/-- The class without characters. -/
def empty : CharClass := .complement (.property .any)

/-- The characters of the first class that are not in the second. -/
def difference (a b : CharClass) : CharClass := .inter a (.complement b)

/-- The characters of exactly one of the classes. -/
def symmetricDifference (a b : CharClass) : CharClass := .union (difference a b) (difference b a)

/-- The class of some ranges. -/
def ofRanges (ranges : List (Char × Char)) : CharClass :=
  ranges.foldl (fun a r => .union a (.range r.1 r.2)) empty

/-- The decimal digits of ASCII. -/
def asciiDigit : CharClass := .range '0' '9'

/-- The characters of words in ASCII. -/
def asciiWord : CharClass := ofRanges [('0', '9'), ('A', 'Z'), ('a', 'z'), ('_', '_')]

/-- The blanks of ASCII. -/
def asciiBlank : CharClass := ofRanges [('\t', '\r'), (' ', ' ')]

/-- The classes of ASCII characters that have a name. -/
def asciiNamed : List (String × CharClass) :=
  [("alnum", ofRanges [('0', '9'), ('A', 'Z'), ('a', 'z')]),
    ("alpha", ofRanges [('A', 'Z'), ('a', 'z')]),
    ("ascii", .range '\x00' '\x7f'),
    ("blank", ofRanges [('\t', '\t'), (' ', ' ')]),
    ("cntrl", ofRanges [('\x00', '\x1f'), ('\x7f', '\x7f')]),
    ("digit", asciiDigit),
    ("graph", .range '!' '~'),
    ("lower", .range 'a' 'z'),
    ("print", .range ' ' '~'),
    ("punct", ofRanges [('!', '/'), (':', '@'), ('[', '\x60'), ('\x7b', '~')]),
    ("space", asciiBlank),
    ("upper", .range 'A' 'Z'),
    ("word", asciiWord),
    ("xdigit", ofRanges [('0', '9'), ('A', 'F'), ('a', 'f')])]

@[simp] theorem contains_complement (a : CharClass) (c : Char) :
    (complement a).contains c = !a.contains c := rfl

@[simp] theorem contains_empty (c : Char) : empty.contains c = false := rfl

/-- A character is in the difference if it is in the first class and not in the second. -/
theorem contains_difference (a b : CharClass) (c : Char) :
    (difference a b).contains c = (a.contains c && !b.contains c) := rfl

end CharClass

end ResidencePortal
