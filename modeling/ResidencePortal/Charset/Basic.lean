import ResidencePortal.Charset.CodePage

/-!
# Character sets

The ways in which the bytes of a form may stand for characters.
-/

namespace ResidencePortal

/-- The order of the two bytes of a unit. -/
inductive Charset.ByteOrder where
  | highFirst
  | lowFirst
deriving Repr, DecidableEq

/-- A character set. -/
inductive Charset where
  | utf8
  | utf16 (order : Charset.ByteOrder)
  | codePage (page : Charset.CodePage)
  /-- The bytes from 128 on stand for code points of private use. -/
  | userDefined
  | gb18030
  | big5
  | eucKorean
  | eucJapanese
  | shiftJis
  /-- The Japanese set that is switched by escape sequences. -/
  | iso2022Japanese
deriving Repr, DecidableEq

end ResidencePortal
