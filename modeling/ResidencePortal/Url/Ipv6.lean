import ResidencePortal.Text.Chars

/-!
# Addresses of eight pieces

Eight hexadecimal pieces between colons, of which two colons leave out a run of zeros once. The last two
pieces may be written as four decimal bytes. Written out, the first longest run of at least two zeros
is left out.
-/

namespace ResidencePortal.Url.Ipv6

open Text

/-- A decimal byte without a leading zero, and what follows. -/
def byte? (cs : List Char) : Option (Nat × List Char) :=
  let digits := cs.takeWhile isDigit
  if digits.isEmpty || (1 < digits.length && digits.head? = some '0') || 255 < ofDigits digits then none
  else some (ofDigits digits, cs.dropWhile isDigit)

/-- Four decimal bytes as two pieces; nothing may follow. -/
def bytes? (cs : List Char) : Option (List Nat) := do
  let (a, rest) ← byte? cs
  let (b, rest) ← afterDot rest >>= byte?
  let (c, rest) ← afterDot rest >>= byte?
  let (d, rest) ← afterDot rest >>= byte?
  guard rest.isEmpty
  some [a * 256 + b, c * 256 + d]
where
  /-- What follows a dot. -/
  afterDot : List Char → Option (List Char)
    | '.' :: rest => some rest
    | _ => none

/-- The pieces of an address as they are read. -/
structure Pieces where
  /-- The pieces, in order. -/
  read : List Nat
  /-- How many stand before the gap, if there is one. -/
  gap : Option Nat

/-- How many of the eight pieces are used up; a gap counts as one. -/
def Pieces.used (p : Pieces) : Nat := p.read.length + if p.gap.isSome then 1 else 0

/-- The pieces of a text, behind those already read. -/
def pieces? : Nat → Pieces → List Char → Option Pieces
  | 0, _, _ => none
  | _ + 1, p, [] => some p
  | fuel + 1, p, cs => do
    guard (p.used < 8)
    if cs.head? = some ':' then
      guard p.gap.isNone
      pieces? fuel { p with gap := some p.read.length } (cs.drop 1)
    else
      let digits := (cs.take 4).takeWhile fun c => (hexValue? c).isSome
      let rest := cs.drop digits.length
      let value := digits.foldl (fun n c => n * 16 + (hexValue? c).getD 0) 0
      match rest with
      | [] => pieces? fuel { p with read := p.read ++ [value] } []
      | '.' :: _ =>
        guard (!digits.isEmpty && p.used ≤ 6)
        let low ← bytes? cs
        some { p with read := p.read ++ low }
      | ':' :: rest =>
        guard !rest.isEmpty
        pieces? fuel { p with read := p.read ++ [value] } rest
      | _ => none

/-- The eight pieces of an address. -/
def parse? (cs : List Char) : Option (List Nat) := do
  guard (2 ≤ cs.length)
  let start ←
    match cs with
    | ':' :: ':' :: rest => some (Pieces.mk [] (some 0), rest)
    | ':' :: _ => none
    | cs => some (Pieces.mk [] none, cs)
  let p ← pieces? (cs.length + 1) start.1 start.2
  match p.gap with
  | some before => some (p.read.take before ++ List.replicate (8 - p.read.length) 0 ++ p.read.drop before)
  | none => if p.read.length = 8 then some p.read else none

/-- A piece in hexadecimal. -/
def pieceChars (n : Nat) : List Char := (digitsIn 16 n).map hexDigit

/-- The length of the run of zeros at the front. -/
def zerosAtFront (pieces : List Nat) : Nat := (pieces.takeWhile (· == 0)).length

/-- Where the first longest run of zeros starts, and its length. -/
def longestZeros : (index : Nat) → List Nat → Nat × Nat
  | _, [] => (0, 0)
  | index, n :: rest =>
    let here := zerosAtFront (n :: rest)
    let later := longestZeros (index + 1) rest
    if later.2 ≤ here then (index, here) else later

/-- The address in brackets. -/
def chars (pieces : List Nat) : List Char :=
  let join (pieces : List Nat) : List Char := List.intercalate [':'] (pieces.map pieceChars)
  let (start, length) := longestZeros 0 pieces
  let inner := if length < 2 then join pieces
    else join (pieces.take start) ++ [':', ':'] ++ join (pieces.drop (start + length))
  '[' :: inner ++ [']']

end ResidencePortal.Url.Ipv6
