import ResidencePortal.Regex.CharClass

/-!
# Regular expressions

The expressions and the texts that they cover. Two places are told apart by whether a group with a
name was passed on the way, because a reader of the groups may insist on all of them.
-/

namespace ResidencePortal

/-- A condition on a place between characters. -/
inductive Regex.Condition where
  | textStart
  | textEnd
  /-- At the start, or behind a line break. -/
  | lineStart (crlf : Bool)
  /-- At the end, or in front of a line break. -/
  | lineEnd (crlf : Bool)
  /-- A character of a word stands on exactly one side; `unicode` says what a word is. -/
  | wordBoundary (unicode : Bool)
  | noWordBoundary (unicode : Bool)
  | wordStart (unicode : Bool)
  | wordEnd (unicode : Bool)
  /-- No character of a word stands before. -/
  | wordStartHalf (unicode : Bool)
  /-- No character of a word stands behind. -/
  | wordEndHalf (unicode : Bool)
deriving Repr, DecidableEq

/-- A regular expression. -/
inductive Regex where
  /-- The empty text. -/
  | nothing
  | one (chars : CharClass)
  | look (condition : Regex.Condition)
  | seq (first second : Regex)
  | either (first second : Regex)
  /-- At least `least` and at most `most` texts of the body, any number without `most`. -/
  | times (least : Nat) (most : Option Nat) (body : Regex)
  | named (name : String) (body : Regex)
deriving Repr, DecidableEq

namespace Regex

/-- The names of the groups. -/
def groupNames : Regex → List String
  | .nothing => []
  | .one _ => []
  | .look _ => []
  | .seq a b => a.groupNames ++ b.groupNames
  | .either a b => a.groupNames ++ b.groupNames
  | .times _ _ a => a.groupNames
  | .named name a => name :: a.groupNames

end Regex

end ResidencePortal
