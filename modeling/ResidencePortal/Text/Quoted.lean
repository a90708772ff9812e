import ResidencePortal.Text.Case
import ResidencePortal.Text.Chars
import ResidencePortal.Text.PlainTable

/-!
# Quoted text

A text between double quotes as messages show it: a quote or backslash gets a backslash, tab, return,
newline and NUL have short forms, and every other character that would not be seen on its own is given
by its code point.
-/

namespace ResidencePortal.Text

/-- The character is shown as it is. -/
def isPlain (c : Char) : Bool := inRanges plainRanges c.toNat

/-- The quoted form of one character. -/
def quoteChar (c : Char) : List Char :=
  if c = '"' then ['\\', '"']
  else if c = '\\' then ['\\', '\\']
  else if c = '\t' then ['\\', 't']
  else if c = '\r' then ['\\', 'r']
  else if c = '\n' then ['\\', 'n']
  else if c.toNat = 0 then ['\\', '0']
  else if isPlain c then [c]
  else ['\\', 'u', '\x7b'] ++ (digitsIn 16 c.toNat).map hexDigit ++ ['\x7d']

/-- The text between double quotes. -/
def quoted (s : String) : String :=
  String.ofList ('"' :: s.toList.flatMap quoteChar ++ ['"'])

end ResidencePortal.Text
