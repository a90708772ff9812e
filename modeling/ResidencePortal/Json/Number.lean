import ResidencePortal.Json.Basic
import ResidencePortal.Numeric.Shortest

/-!
# JSON numbers as text

`Token` is the written form of a number: sign, whole digits, fraction, exponent. `Token.read` follows
the grammar and `Token.number?` gives the value:

* without fraction and exponent the number is an integer if it fits 64 bits (unsigned above zero,
  signed below); `-0` and anything larger is a double;
* a double is made from the leading digits that fit 64 bits, scaled by a power of ten in one step, or
  in steps of `10^308` when the power is smaller than any double. Digits beyond the 64 bits only count
  as places. A number too large for a double has no value.
-/

namespace ResidencePortal.Json

open ResidencePortal.Numeric ResidencePortal.Text

/-- The written form of a number. -/
structure Token where
  negative : Bool
  whole : List Char
  fraction : Option (List Char)
  /-- Sign and digits; `true` marks a negative exponent. -/
  exponent : Option (Bool × List Char)
deriving Repr, DecidableEq

namespace Token

/-- At least one digit, as many as there are. -/
def digits (cs : List Char) : Option (List Char × List Char) :=
  match cs.takeWhile isDigit with
  | [] => none
  | ds => some (ds, cs.dropWhile isDigit)

/-- The whole part: a zero alone, or digits that do not start with a zero. -/
def readWhole (cs : List Char) : Option (List Char × List Char) := do
  let (ds, rest) ← digits cs
  if ds.head? = some '0' ∧ ds.length ≠ 1 then none else some (ds, rest)

/-- The fraction, if a point follows. -/
def readFraction : List Char → Option (Option (List Char) × List Char)
  | '.' :: rest => (digits rest).map fun (ds, more) => (some ds, more)
  | cs => some (none, cs)

/-- The exponent's sign; none means plus. -/
def readSign : List Char → Bool × List Char
  | '+' :: rest => (false, rest)
  | '-' :: rest => (true, rest)
  | cs => (false, cs)

/-- The exponent behind its mark. -/
def readExponentDigits (cs : List Char) : Option (Option (Bool × List Char) × List Char) :=
  let signed := readSign cs
  (digits signed.2).map fun (ds, more) => (some (signed.1, ds), more)

/-- The exponent, if its mark follows. -/
def readExponent : List Char → Option (Option (Bool × List Char) × List Char)
  | 'e' :: rest => readExponentDigits rest
  | 'E' :: rest => readExponentDigits rest
  | cs => some (none, cs)

/-- The number in front of the characters. -/
def read (cs : List Char) : Option (Token × List Char) := do
  let (negative, cs) := match cs with
    | '-' :: rest => (true, rest)
    | cs => (false, cs)
  let (whole, cs) ← readWhole cs
  let (fraction, cs) ← readFraction cs
  let (exponent, cs) ← readExponent cs
  some (⟨negative, whole, fraction, exponent⟩, cs)

/-- The largest significand that is collected. -/
def significandLimit : Nat := twoPow 64 - 1

/-- The largest exponent that is collected. -/
def exponentLimit : Nat := twoPow 31 - 1

/-- Appends digits to a number while it stays within the limit; also how many digits were left over. -/
def gather (limit : Nat) : Nat → List Char → Nat × Nat
  | n, [] => (n, 0)
  | n, c :: rest =>
    let next := n * 10 + digitValue c
    if limit < next then (n, rest.length + 1) else gather limit next rest

/-- The magnitude times a power of ten. The magnitude is below `2^64`, so three divisions by `10^308`
leave zero and four rounds are enough. -/
def scale : Nat → Binary64 → Int → Option Binary64
  | 0, x, _ => some x
  | fuel + 1, x, e =>
    if e.natAbs ≤ 308 then do
      let p ← Binary64.powerOfTen? e.natAbs
      if 0 ≤ e then x.mul? p else x.div? p
    else if x.isZero then some x
    else if 0 ≤ e then none
    else do
      let p ← Binary64.powerOfTen? 308
      scale fuel (← x.div? p) (e + 308)

/-- The double of sign, significand and power of ten. -/
def real? (negative : Bool) (significand : Nat) (e : Int) : Option Number := do
  let x ← scale 4 (← Binary64.ofNat? significand) e
  some (.real (if negative then x.negate else x))

/-- The value of a number without fraction and exponent. -/
def integer? (negative : Bool) (significand dropped : Nat) : Option Number :=
  if dropped ≠ 0 then real? negative significand dropped
  else if ¬ negative then some (.int significand)
  else if significand ≠ 0 ∧ significand ≤ twoPow 63 then some (.int (-(significand : Int)))
  else real? true significand 0

/-- The value of a number with a fraction or an exponent. -/
def scaled? (negative : Bool) (significand : Nat) (e : Int) : Option (Bool × List Char) → Option Number
  | none => real? negative significand e
  | some (down, ds) =>
    let (x, extra) := gather exponentLimit 0 ds
    if extra = 0 then real? negative significand (if down then e - x else e + x)
    else if significand ≠ 0 ∧ ¬ down then none
    else some (.real (Binary64.zero negative))

/-- The value of a written number. -/
def number? (t : Token) : Option Number :=
  let (significand, dropped) := gather significandLimit 0 t.whole
  match t.fraction, t.exponent with
  | none, none => integer? t.negative significand dropped
  | none, e => scaled? t.negative significand dropped e
  | some ds, e =>
    let (significand, unused) := gather significandLimit significand ds
    scaled? t.negative significand ((dropped : Int) - (ds.length - unused : Nat)) e

end Token

/-- The number in the text of a JSON document. -/
def Number.text : Number → String
  | .int n => intText n
  | .real x => x.scientific

/-- The number written out positionally, whole doubles without a point. -/
def Number.plain : Number → String
  | .int n => intText n
  | .real x => x.plain

/-- The number is zero. -/
def Number.isZero : Number → Bool
  | .int n => n == 0
  | .real x => x.isZero

end ResidencePortal.Json
