import ResidencePortal.Numeric.Power
import ResidencePortal.Text.Chars

/-!
# Addresses of four bytes

A host whose last part is a number is an address: up to four numbers between dots, each decimal, octal
behind a `0` or hexadecimal behind `0x`. All but the last are bytes, and the last fills what is left.
-/

namespace ResidencePortal.Url.Ipv4

open Text

/-- The number that digits below a base denote. -/
def ofBase? (base : Nat) (digits : List Char) : Option Nat :=
  digits.foldlM (fun n c => do
    let d ← hexValue? c
    if d < base then some (n * base + d) else none) 0

/-- The number that a part denotes; a prefix alone is zero. -/
def number? : List Char → Option Nat
  | [] => none
  | '0' :: 'x' :: rest => ofBase? 16 rest
  | '0' :: 'X' :: rest => ofBase? 16 rest
  | '0' :: c :: rest => ofBase? 8 (c :: rest)
  | cs => ofBase? 10 cs

/-- The parts between dots; a dot at the end does not count. -/
def parts (host : List Char) : List (List Char) :=
  let parts := splitOn '.' host
  if 1 < parts.length && parts.getLast? = some [] then parts.dropLast else parts

/-- The last part is a number, or digits only. -/
def isNumeric (host : List Char) : Bool :=
  match (parts host).getLast? with
  | some last => (!last.isEmpty && last.all isDigit) || (number? last).isSome
  | none => false

/-- The address that numbers give: `index` of them stand before. -/
def join? : (index : Nat) → List Nat → Option Nat
  | _, [] => none
  | index, [n] => if n < Numeric.twoPow (8 * (4 - index)) then some n else none
  | index, n :: rest => do
    guard (n ≤ 255)
    let low ← join? (index + 1) rest
    some (n * Numeric.twoPow (8 * (3 - index)) + low)

/-- The address that a host denotes. -/
def parse? (host : List Char) : Option Nat := do
  let parts := parts host
  guard (parts.length ≤ 4)
  join? 0 (← parts.mapM number?)

/-- The address in decimal bytes. -/
def chars (address : Nat) : List Char :=
  natChars (address / 16777216 % 256) ++ '.' :: natChars (address / 65536 % 256) ++
    '.' :: natChars (address / 256 % 256) ++ '.' :: natChars (address % 256)

end ResidencePortal.Url.Ipv4
