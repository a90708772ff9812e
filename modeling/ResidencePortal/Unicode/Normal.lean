import ResidencePortal.Unicode.CombiningTable
import ResidencePortal.Unicode.CompositionTable

/-!
# Composed form

A letter with accents can be written as one character or as a letter and marks. `compose` writes a text
in the composed form: every character is taken apart, the marks behind a letter are put in the order
of their classes, and a letter takes up the marks that it can be composed with.
-/

namespace ResidencePortal.Unicode

open Text

/-- The combining class of a code point, zero if it combines with nothing. -/
def combiningClass (n : Nat) : Nat := Packed.valueAt combiningRuns n

/-! ## Taking apart -/

/-- The letters of a Hangul syllable. -/
def hangulLetters? (n : Nat) : Option (List Nat) :=
  if 0xAC00 ≤ n ∧ n ≤ 0xD7A3 then
    let s := n - 0xAC00
    let last := s % 28
    some ([0x1100 + s / 588, 0x1161 + s % 588 / 28] ++ if last = 0 then [] else [0x11A7 + last])
  else none

/-- The parts of a code point, itself if it has none. -/
def decompose (n : Nat) : List Nat :=
  match hangulLetters? n with
  | some letters => letters
  | none => (Packed.sliceOf? decompositionEntries decompositionPoints n).getD [n]

/-! ## Ordering marks -/

/-- A code point in front of others that are in order: it moves behind marks of lower classes. -/
def insertByClass (n : Nat) : List Nat → List Nat
  | [] => [n]
  | m :: rest =>
    if combiningClass m ≠ 0 ∧ combiningClass m < combiningClass n then m :: insertByClass n rest
    else n :: m :: rest

/-- The code points with the marks behind each letter in the order of their classes. -/
def order : List Nat → List Nat
  | [] => []
  | n :: rest => insertByClass n (order rest)

/-! ## Composing -/

/-- What two letters of a Hangul syllable become. -/
def hangulSyllable? (a b : Nat) : Option Nat :=
  if 0x1100 ≤ a ∧ a ≤ 0x1112 ∧ 0x1161 ≤ b ∧ b ≤ 0x1175 then
    some (0xAC00 + ((a - 0x1100) * 21 + (b - 0x1161)) * 28)
  else if 0xAC00 ≤ a ∧ a ≤ 0xD7A3 ∧ (a - 0xAC00) % 28 = 0 ∧ 0x11A8 ≤ b ∧ b ≤ 0x11C2 then
    some (a + (b - 0x11A7))
  else none

/-- What two code points become. -/
def composed? (a b : Nat) : Option Nat :=
  (hangulSyllable? a b).orElse fun _ => Packed.valueOf? compositionEntries (a * 262144 + b)

/-- Composes from a letter on. `marks` are those passed that it did not take up, last first, and `last` is
the class of the last of them; a code point is within reach of the letter if it stands right behind
it or its class is higher than that of the last mark. -/
def composeFrom (letter : Nat) (marks : List Nat) (last : Nat) : List Nat → List Nat
  | [] => letter :: marks.reverse
  | n :: rest =>
    let class' := combiningClass n
    let taken := if marks.isEmpty || last < class' then composed? letter n else none
    match taken with
    | some whole => composeFrom whole marks last rest
    | none =>
      if class' = 0 then letter :: marks.reverse ++ composeFrom n [] 0 rest
      else composeFrom letter (n :: marks) class' rest

/-- Composes ordered code points; marks in front of the first letter stay. -/
def composeOrdered : List Nat → List Nat
  | [] => []
  | n :: rest => if combiningClass n = 0 then composeFrom n [] 0 rest else n :: composeOrdered rest

/-- The composed form of code points. -/
def compose (points : List Nat) : List Nat := composeOrdered (order (points.flatMap decompose))

end ResidencePortal.Unicode
