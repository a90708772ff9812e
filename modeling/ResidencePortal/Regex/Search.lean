import ResidencePortal.Regex.Basic

/-!
# Searching with regular expressions

`reach` leads a set of places through an expression: the places of the result are those at which a text
of the expression ends that starts at a place of the set. A repetition goes on from the places that
are new, so it ends when a round brings none.
-/

namespace ResidencePortal.Regex

/-- A place between the characters of a text, and the names of the groups passed on the way to it. -/
structure Place where
  index : Nat
  passed : List String
deriving Repr, DecidableEq

/-- A character of a word. -/
def isWordChar (unicode : Bool) (c : Char) : Bool :=
  if unicode then Unicode.Property.word.holds c else CharClass.asciiWord.contains c

/-- The condition holds between two characters, each absent at an end of the text. -/
def Condition.holds (before after : Option Char) : Condition → Bool
  | .textStart => before.isNone
  | .textEnd => after.isNone
  | .lineStart crlf =>
    match before with
    | none => true
    | some b => b == '\n' || (crlf && b == '\r' && after != some '\n')
  | .lineEnd crlf =>
    match after with
    | none => true
    | some a => (a == '\n' && !(crlf && before == some '\r')) || (crlf && a == '\r')
  | .wordBoundary u => before.any (isWordChar u) != after.any (isWordChar u)
  | .noWordBoundary u => before.any (isWordChar u) == after.any (isWordChar u)
  | .wordStart u => !before.any (isWordChar u) && after.any (isWordChar u)
  | .wordEnd u => before.any (isWordChar u) && !after.any (isWordChar u)
  | .wordStartHalf u => !before.any (isWordChar u)
  | .wordEndHalf u => !after.any (isWordChar u)

/-- The places, each once. -/
def distinct (places : List Place) : List Place :=
  places.foldl (fun seen p => if seen.contains p then seen else seen ++ [p]) []

/-- The places reached by at most `rounds` steps from the last of those already seen. -/
def spread (step : List Place → List Place) : Nat → (seen last : List Place) → List Place
  | 0, seen, _ => seen
  | rounds + 1, seen, last =>
    match (step last).filter fun p => !seen.contains p with
    | [] => seen
    | new => spread step rounds (seen ++ new) new

/-- The places after exactly `count` steps. -/
def stepTimes (step : List Place → List Place) : Nat → List Place → List Place
  | 0, places => places
  | count + 1, places => stepTimes step count (step places)

/-- The places at which a text of the expression ends that starts at one of the given places. -/
def reach (text : Array Char) : Regex → List Place → List Place
  | .nothing, places => places
  | .one chars, places =>
    places.filterMap fun p =>
      match text[p.index]? with
      | some c => if chars.contains c then some { p with index := p.index + 1 } else none
      | none => none
  | .look condition, places =>
    places.filter fun p =>
      condition.holds (if p.index = 0 then none else text[p.index - 1]?) text[p.index]?
  | .seq a b, places => reach text b (reach text a places)
  | .either a b, places => distinct (reach text a places ++ reach text b places)
  | .times least most a, places =>
    let first := stepTimes (reach text a) least places
    let rounds := match most with
      | some most => most - least
      | none => (text.size + 1) * (a.groupNames.length + 1)
    spread (reach text a) rounds first first
  | .named name a, places =>
    distinct ((reach text a places).map fun p =>
      if p.passed.contains name then p else { p with passed := name :: p.passed })

/-- A text of the expression stands somewhere in the text, and all groups with a name are passed in
it. -/
def foundIn (r : Regex) (text : List Char) : Bool :=
  let starts := (List.range (text.length + 1)).map fun i => Place.mk i []
  (reach text.toArray r starts).any fun p => r.groupNames.all p.passed.contains

@[simp] theorem reach_nothing (text : Array Char) (places : List Place) :
    reach text .nothing places = places := rfl

/-- A sequence leads the places through its parts in turn. -/
theorem reach_seq (text : Array Char) (a b : Regex) (places : List Place) :
    reach text (.seq a b) places = reach text b (reach text a places) := rfl

end ResidencePortal.Regex
