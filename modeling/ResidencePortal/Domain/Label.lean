import ResidencePortal.Domain.Mapping
import ResidencePortal.Domain.Punycode
import ResidencePortal.Unicode.Category
import ResidencePortal.Unicode.Direction
import ResidencePortal.Unicode.Joining

/-!
# Labels of domain names

A label is one part of a domain name. It may be given in its ASCII form, with the mark `xn--` in front;
that form must denote what it would be written for. A label does not start with a mark, and the two
joiners stand only where they change how letters join.
-/

namespace ResidencePortal.Domain

open Unicode

/-- A mark: spacing or not, or enclosing. -/
def isMark (n : Nat) : Bool := (Category.group 'm').contains (Category.ofChar (Char.ofNat n))

/-! ## Joiners -/

/-- The joiner that keeps letters apart. -/
def nonJoiner : Nat := 0x200C

/-- The joiner that makes letters join. -/
def joiner : Nat := 0x200D

/-- Letters that join to what follows stand last among those passed, behind them only transparent ones. -/
def joinsForward (passed : List Nat) : Bool :=
  match passed.dropWhile fun n => Joining.ofPoint n = .transparent with
  | [] => false
  | n :: _ => Joining.ofPoint n = .left || Joining.ofPoint n = .dual

/-- The first letter that is not transparent joins to what stands before. -/
def joinsBackward (rest : List Nat) : Bool :=
  match rest.dropWhile fun n => Joining.ofPoint n = .transparent with
  | [] => false
  | n :: _ => Joining.ofPoint n = .right || Joining.ofPoint n = .dual

/-- Every joiner stands behind a sign that suppresses a vowel, or, if it keeps letters apart, between
letters that would join. The code points already passed are given last first. -/
def joinersFit (passed : List Nat) : List Nat → Bool
  | [] => true
  | n :: rest =>
    let behindSign := passed.head?.any fun p => combiningClass p == 9
    (if n = joiner then behindSign
      else if n = nonJoiner then behindSign || (joinsForward passed && joinsBackward rest)
      else true) && joinersFit (n :: passed) rest

/-! ## Directions -/

/-- The name holds letters or numbers that run from right to left. -/
def runsBothWays (name : List Nat) : Bool :=
  name.any fun n => [Direction.rightToLeft, .arabicLetter, .arabicNumber].contains (.ofPoint n)

/-- The last class that is not a mark is one of the given. -/
def endsIn (classes : List Direction) (directions : List Direction) : Bool :=
  match directions.reverse.dropWhile (· = .nonspacingMark) with
  | [] => false
  | d :: _ => classes.contains d

/-- A label of a name in two directions runs in one: it starts with a letter of its direction, holds no
letters of the other, and ends in a letter or number. From right to left it has numbers of one kind. -/
def directionFits (label : List Nat) : Bool :=
  let directions := label.map Direction.ofPoint
  let neutral : List Direction := [.europeanNumber, .europeanSeparator, .commonSeparator,
    .europeanTerminator, .otherNeutral, .boundaryNeutral, .nonspacingMark]
  match directions with
  | [] => true
  | .leftToRight :: _ =>
    (directions.all fun d => (.leftToRight :: neutral).contains d) &&
      endsIn [.leftToRight, .europeanNumber] directions
  | d :: _ =>
    (d = .rightToLeft || d = .arabicLetter) &&
      (directions.all fun d =>
        (.rightToLeft :: .arabicLetter :: .arabicNumber :: neutral).contains d) &&
      endsIn [.rightToLeft, .arabicLetter, .europeanNumber, .arabicNumber] directions &&
      !(directions.contains .europeanNumber && directions.contains .arabicNumber)

/-! ## Labels -/

/-- The mark of a label in its ASCII form. -/
def asciiMark : List Nat := "xn--".toList.map Char.toNat

/-- The longest text behind the mark that is read. -/
def longestCoded : Nat := 2000

/-- The longest label that is written in its ASCII form. -/
def longestEncoded : Nat := 1000

/-- A label may stand in a name: no mark is first, and joiners are in their places. -/
def isWellFormed (label : List Nat) : Bool := !label.head?.any isMark && joinersFit [] label

/-- The label that a mapped label means: itself, or what it denotes behind the mark. What is denoted has
a character outside ASCII, is already mapped, and does not itself start with the mark. -/
def plainLabel? (label : List Nat) : Option (List Nat) :=
  if asciiMark.isPrefixOf label then do
    let coded := (label.drop asciiMark.length).map Char.ofNat
    guard (coded.all fun c => c.toNat < 128)
    guard (!coded.isEmpty && coded.getLast? != some '-' && coded.length ≤ longestCoded)
    let points ← Punycode.decode? coded
    guard (points.any (128 ≤ ·))
    guard (map? points = some points && !asciiMark.isPrefixOf points)
    guard (isWellFormed points)
    some points
  else if isWellFormed label then some label
  else none

/-- The label in ASCII. -/
def asciiLabel? (label : List Nat) : Option (List Char) :=
  if label.all (· < 128) then some (label.map Char.ofNat)
  else if label.length ≤ longestEncoded then some ("xn--".toList ++ Punycode.encode label)
  else none

end ResidencePortal.Domain
