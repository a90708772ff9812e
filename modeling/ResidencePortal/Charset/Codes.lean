import ResidencePortal.Text.Packed

/-!
# Codes of several bytes

A character set of codes is given by one function: for the first byte of a code and the bytes behind
it, the characters of the code and the number of further bytes that belong to it. A code without
characters, or one that is cut off, makes the whole text unreadable.
-/

namespace ResidencePortal.Charset

/-- How a set reads the code that starts with a byte: its characters, and how many further bytes it
takes. -/
abbrev CodeReader : Type := UInt8 → List UInt8 → Option (List Char × Nat)

/-- The characters of bytes, of which the first `skip` belong to a code already read. -/
def CodeReader.decodeFrom (read : CodeReader) : Nat → List UInt8 → Option (List Char)
  | 0, [] => some []
  | _ + 1, [] => none
  | skip + 1, _ :: rest => read.decodeFrom skip rest
  | 0, b :: rest => do
    let (cs, further) ← read b rest
    let more ← read.decodeFrom further rest
    some (cs ++ more)

/-- The characters of bytes, if all codes can be read. -/
def CodeReader.decode? (read : CodeReader) (bytes : List UInt8) : Option (List Char) :=
  read.decodeFrom 0 bytes

/-- A code of one byte. -/
def oneByte (n : Nat) : Option (List Char × Nat) := some ([Char.ofNat n], 0)

/-- A code of two bytes, by its cell in a table. -/
def twoBytes (cells : Array Nat) (cell : Option Nat) : Option (List Char × Nat) := do
  let c ← Text.Packed.char? cells (← cell)
  some ([c], 1)

/-- The number is one of a closed range. -/
def within (low high n : Nat) : Bool := low ≤ n && n ≤ high

end ResidencePortal.Charset
