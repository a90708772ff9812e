import ResidencePortal.Json.Number

/-!
# JSON text

`compact` writes a value without blanks: members in the order they are held, characters outside ASCII
as they are, and escapes for the quote, the backslash and the control characters. `pretty` puts every
item and member on a line of its own, indented by two spaces a level; empty containers stay closed.
-/

namespace ResidencePortal.Json

open ResidencePortal.Text

/-- One character inside a quoted text. -/
def escapeChar (c : Char) : List Char :=
  if c = '"' then ['\\', '"']
  else if c = '\\' then ['\\', '\\']
  else if c = '\n' then ['\\', 'n']
  else if c = '\r' then ['\\', 'r']
  else if c = '\t' then ['\\', 't']
  else if c.toNat = 8 then ['\\', 'b']
  else if c.toNat = 12 then ['\\', 'f']
  else if c.toNat < 32 then ['\\', 'u', '0', '0', hexDigit (c.toNat / 16), hexDigit (c.toNat % 16)]
  else [c]

/-- A quoted text. -/
def quoteChars (s : String) : List Char := '"' :: (s.toList.flatMap escapeChar ++ ['"'])

mutual

/-- The value without blanks. -/
def writeChars : Json → List Char
  | .null => ['n', 'u', 'l', 'l']
  | .bool true => ['t', 'r', 'u', 'e']
  | .bool false => ['f', 'a', 'l', 's', 'e']
  | .num n => n.text.toList
  | .str s => quoteChars s
  | .arr [] => ['[', ']']
  | .arr (v :: rest) => '[' :: (writeChars v ++ writeItems rest)
  | .obj [] => ['\x7b', '\x7d']
  | .obj ((k, v) :: rest) => '\x7b' :: (quoteChars k ++ ':' :: (writeChars v ++ writeMembers rest))

/-- The items after the first, and the closing bracket. -/
def writeItems : List Json → List Char
  | [] => [']']
  | v :: rest => ',' :: (writeChars v ++ writeItems rest)

/-- The members after the first, and the closing brace. -/
def writeMembers : List (String × Json) → List Char
  | [] => ['\x7d']
  | (k, v) :: rest => ',' :: (quoteChars k ++ ':' :: (writeChars v ++ writeMembers rest))

end

/-- The text of a value without blanks. -/
def compact (v : Json) : String := String.ofList (writeChars v)

/-- A line break and the indentation of a level. -/
def newLine (level : Nat) : List Char := '\n' :: List.replicate (2 * level) ' '

mutual

/-- The value over several lines, at a level of indentation. -/
def prettyChars (level : Nat) : Json → List Char
  | .arr [] => ['[', ']']
  | .arr (v :: rest) =>
    '[' :: (newLine (level + 1) ++ (prettyChars (level + 1) v ++ prettyItems level rest))
  | .obj [] => ['\x7b', '\x7d']
  | .obj ((k, v) :: rest) =>
    '\x7b' :: (newLine (level + 1) ++ (quoteChars k ++ ':' :: ' ' ::
      (prettyChars (level + 1) v ++ prettyMembers level rest)))
  | .null => ['n', 'u', 'l', 'l']
  | .bool true => ['t', 'r', 'u', 'e']
  | .bool false => ['f', 'a', 'l', 's', 'e']
  | .num n => n.text.toList
  | .str s => quoteChars s

/-- The items after the first on lines of their own, and the closing bracket. -/
def prettyItems (level : Nat) : List Json → List Char
  | [] => newLine level ++ [']']
  | v :: rest => ',' :: (newLine (level + 1) ++ (prettyChars (level + 1) v ++ prettyItems level rest))

/-- The members after the first on lines of their own, and the closing brace. -/
def prettyMembers (level : Nat) : List (String × Json) → List Char
  | [] => newLine level ++ ['\x7d']
  | (k, v) :: rest =>
    ',' :: (newLine (level + 1) ++ (quoteChars k ++ ':' :: ' ' ::
      (prettyChars (level + 1) v ++ prettyMembers level rest)))

end

/-- The text of a value over several lines. -/
def pretty (v : Json) : String := String.ofList (prettyChars 0 v)

end ResidencePortal.Json
