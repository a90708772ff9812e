/-!
# Searching and cutting lists of characters

The small vocabulary in which the rest of the library speaks about text: is one text inside another,
cut at a separator, drop a character from an end, fill a column.
-/

namespace ResidencePortal.Text

/-- The pattern stands somewhere in the characters. -/
def containsChars (pattern : List Char) : List Char → Bool
  | [] => pattern.isEmpty
  | c :: cs => pattern.isPrefixOf (c :: cs) || containsChars pattern cs

/-- The pattern stands somewhere in the text. -/
def contains (s pattern : String) : Bool := containsChars pattern.toList s.toList

/-- The pieces between the separators; a text without separators is one piece. -/
def splitOn (sep : Char) : List Char → List (List Char)
  | [] => [[]]
  | c :: cs =>
    if c = sep then [] :: splitOn sep cs
    else
      match splitOn sep cs with
      | [] => [[c]]
      | piece :: pieces => (c :: piece) :: pieces

/-- What stands before the first separator, and what stands after it if there is one. -/
def cut (sep : Char) (cs : List Char) : List Char × Option (List Char) :=
  match cs.dropWhile (· != sep) with
  | [] => (cs, none)
  | _ :: rest => (cs.takeWhile (· != sep), some rest)

/-- The text without the given character at its front. -/
def dropLeading (x : Char) (s : String) : String := String.ofList (s.toList.dropWhile (· == x))

/-- The text without the given character at its back. -/
def dropTrailing (x : Char) (s : String) : String :=
  String.ofList (s.toList.reverse.dropWhile (· == x)).reverse

/-- The piece after the last separator, the whole text if there is none. -/
def afterLast (sep : Char) (s : String) : String :=
  String.ofList (s.toList.reverse.takeWhile (· != sep)).reverse

/-- The first characters, at most `n` of them. -/
def firstChars (n : Nat) (s : String) : String := String.ofList (s.toList.take n)

/-- The text filled with spaces on the right up to `width` characters. -/
def padRight (width : Nat) (s : String) : String :=
  s ++ String.ofList (List.replicate (width - s.length) ' ')

/-- The texts with the separator between them. -/
def joinWith (sep : String) : List String → String
  | [] => ""
  | [s] => s
  | s :: rest => s ++ sep ++ joinWith sep rest

/-- A character that cannot stand in the value of a message header: a control character but the tab. -/
def breaksHeader (c : Char) : Bool := (c.toNat < 32 && c != '\t') || c.toNat == 127

/-- A decimal digit. -/
def isDigit (c : Char) : Bool := '0' ≤ c && c ≤ '9'

/-- The value of a decimal digit. -/
def digitValue (c : Char) : Nat := c.toNat - 48

/-- The value of a hexadecimal digit of either case. -/
def hexValue? (c : Char) : Option Nat :=
  if '0' ≤ c ∧ c ≤ '9' then some (c.toNat - 48)
  else if 'a' ≤ c ∧ c ≤ 'f' then some (c.toNat - 87)
  else if 'A' ≤ c ∧ c ≤ 'F' then some (c.toNat - 55)
  else none

/-- The digit below 16 as a lower-case hexadecimal digit. -/
def hexDigit (n : Nat) : Char := Char.ofNat (if n < 10 then n + 48 else n + 87)

/-- The digit below 16 as an upper-case hexadecimal digit. -/
def upperHexDigit (n : Nat) : Char := Char.ofNat (if n < 10 then n + 48 else n + 55)

/-- The digits of a number in a base of at least two, highest first; zero has one digit. -/
def digitsIn (base : Nat) (n : Nat) : List Nat :=
  if _h : n < base ∨ base < 2 then [n] else digitsIn base (n / base) ++ [n % base]
termination_by n
decreasing_by
  have : 0 < n := by omega
  exact Nat.div_lt_self this (by omega)

/-- The decimal digits of a number. -/
def natChars (n : Nat) : List Char := (digitsIn 10 n).map hexDigit

/-- The number in decimal. -/
def natText (n : Nat) : String := String.ofList (natChars n)

/-- The number in decimal with a sign if it is negative. -/
def intText : Int → String
  | .ofNat n => natText n
  | .negSucc n => "-" ++ natText (n + 1)

/-- The number that decimal digits denote. -/
def ofDigits (cs : List Char) : Nat := cs.foldl (fun n c => n * 10 + digitValue c) 0

theorem containsChars_iff {pattern cs : List Char} :
    containsChars pattern cs = true ↔ pattern <:+: cs := by
  induction cs with
  | nil => simp [containsChars]
  | cons c cs ih => rw [containsChars, Bool.or_eq_true, List.isPrefixOf_iff_prefix, ih, List.infix_cons_iff]

theorem contains_iff {s pattern : String} :
    contains s pattern = true ↔ pattern.toList <:+: s.toList := containsChars_iff

/-- What stands in a text is still there with other text around it. -/
theorem contains_between {s pattern : String} (h : contains s pattern = true) (front back : String) :
    contains (front ++ s ++ back) pattern = true := by
  rw [contains_iff] at h ⊢
  rw [String.toList_append, String.toList_append]
  exact h.trans (List.infix_append _ _ _)

theorem hexValue?_hexDigit : ∀ n < 16, hexValue? (hexDigit n) = some n := by decide

theorem hexValue?_upperHexDigit : ∀ n < 16, hexValue? (upperHexDigit n) = some n := by decide

end ResidencePortal.Text
