import ResidencePortal.Numeric.Binary64
import ResidencePortal.Text.Chars

/-!
# Shortest decimal text of a double

`shortest` gives the decimal with the fewest digits that reads back as the double, and of those the
one nearest to it; which of two equally near ones is for the layout to say (`Tie`). Two layouts use it:
`plain` writes every digit positionally, and `scientific` switches to an exponent outside
`10^-5 … 10^15`.
-/

namespace ResidencePortal.Numeric

open ResidencePortal.Text

/-- The decimal number `digits · 10 ^ exponent`. -/
structure Decimal where
  digits : Nat
  exponent : Int
deriving Repr, DecidableEq

/-- Which of two equally near decimals is taken. -/
inductive Tie where
  /-- The one with the even last digit. -/
  | toEven
  /-- The one farther from zero. -/
  | away
deriving Repr, DecidableEq

/-- The reals that read as a double: between `low` and `high`, all over the denominator `den`, the ends
included if `closed`. -/
structure Interval where
  low : Nat
  value : Nat
  high : Nat
  den : Nat
  closed : Bool

/-- The reals that read as the magnitude of the double. -/
def Binary64.interval (x : Binary64) : Interval :=
  let m := 4 * x.significand
  let below := if x.significand = twoPow 52 ∧ Binary64.minExponent < x.exponent then m - 1 else m - 2
  let closed := x.significand % 2 == 0
  if 0 ≤ x.exponent then
    let p := twoPow x.exponent.toNat
    ⟨below * p, m * p, (m + 2) * p, 4, closed⟩
  else
    ⟨below, m, m + 2, 4 * twoPow (-x.exponent).toNat, closed⟩

/-- The numerator of `c · 10 ^ k` and what the interval has to be multiplied by to compare with it. -/
def onGrid (den c : Nat) (k : Int) : Nat × Nat :=
  if 0 ≤ k then (c * tenPow k.toNat * den, 1) else (c * den, tenPow (-k).toNat)

/-- The grid point `c · 10 ^ k` lies in the interval. -/
def Interval.holds (i : Interval) (c : Nat) (k : Int) : Bool :=
  let g := onGrid i.den c k
  if i.closed then i.low * g.2 ≤ g.1 && g.1 ≤ i.high * g.2
  else i.low * g.2 < g.1 && g.1 < i.high * g.2

/-- The largest grid point of `10 ^ k` not above the value. -/
def Interval.floorOn (i : Interval) (k : Int) : Nat :=
  if 0 ≤ k then i.value / (i.den * tenPow k.toNat) else i.value * tenPow (-k).toNat / i.den

/-- The tie between `c` and `c + 1` goes to `c + 1`. -/
def Tie.prefersNext (tie : Tie) (c : Nat) : Bool :=
  match tie with
  | .toEven => c % 2 == 1
  | .away => true

/-- The value is nearer to `c + 1` than to `c` on the grid of `10 ^ k`, or as near and the tie goes
there. -/
def Interval.prefersNext (i : Interval) (tie : Tie) (c : Nat) (k : Int) : Bool :=
  let twice := onGrid i.den (2 * c + 1) k
  let v := 2 * i.value * twice.2
  twice.1 < v || (twice.1 == v && tie.prefersNext c)

/-- The grid point of `10 ^ k` in the interval that is nearest to the value. -/
def Interval.pick? (i : Interval) (tie : Tie) (k : Int) : Option Nat :=
  let c := i.floorOn k
  match i.holds c k && c != 0, i.holds (c + 1) k with
  | true, true => some (if i.prefersNext tie c k then c + 1 else c)
  | true, false => some c
  | false, true => some (c + 1)
  | false, false => none

/-- The first grid, from coarse to fine, with a point in the interval. -/
def Interval.search (i : Interval) (tie : Tie) : Nat → Int → Decimal
  | 0, k => ⟨i.floorOn k, k⟩
  | fuel + 1, k =>
    match i.pick? tie k with
    | some c => ⟨c, k⟩
    | none => i.search tie fuel (k - 1)

/-- The number of decimal digits of a natural number. -/
def digitCount (n : Nat) : Nat := (digitsIn 10 n).length

/-- A power of ten above the value, by digit counts. -/
def Interval.topExponent (i : Interval) : Int :=
  (digitCount i.value : Int) - digitCount i.den + 1

/-- Moves zeros at the end of the digits into the exponent. -/
def Decimal.stripZeros : Nat → Decimal → Decimal
  | 0, d => d
  | fuel + 1, d =>
    if d.digits % 10 = 0 ∧ d.digits ≠ 0 then stripZeros fuel ⟨d.digits / 10, d.exponent + 1⟩ else d

/-- The fewest digits that read back as the magnitude, nearest to it. -/
def Binary64.shortest (x : Binary64) (tie : Tie) : Decimal :=
  if x.isZero then ⟨0, 0⟩
  else
    let i := x.interval
    (i.search tie 21 i.topExponent).stripZeros 20

/-- The sign as text. -/
def Binary64.signChars (x : Binary64) : List Char := if x.negative then ['-'] else []

/-- The decimal written positionally; `pointZero` asks for `.0` behind a whole number. -/
def Decimal.positional (d : Decimal) (pointZero : Bool) : List Char :=
  let ds := natChars d.digits
  let whole (cs : List Char) := if pointZero then cs ++ ['.', '0'] else cs
  if 0 ≤ d.exponent then
    whole (if d.digits = 0 then ds else ds ++ List.replicate d.exponent.toNat '0')
  else
    let places := (-d.exponent).toNat
    if places < ds.length then
      ds.take (ds.length - places) ++ '.' :: ds.drop (ds.length - places)
    else
      '0' :: '.' :: (List.replicate (places - ds.length) '0' ++ ds)

/-- An exponent behind its mark, always with a sign. -/
def exponentChars (e : Int) : List Char := 'e' :: (if 0 ≤ e then ['+'] else []) ++ (intText e).toList

/-- The decimal with one digit before the point and an exponent. -/
def Decimal.withExponent (d : Decimal) : List Char :=
  match natChars d.digits with
  | [] => []
  | lead :: rest =>
    lead :: (if rest.isEmpty then [] else '.' :: rest) ++ exponentChars (d.exponent + rest.length)

/-- Every digit positionally, whole numbers without a point; ties go away from zero. -/
def Binary64.plain (x : Binary64) : String :=
  String.ofList (x.signChars ++ (x.shortest .away).positional false)

/-- Positional with a point if the leading digit stands between `10^-5` and `10^15`, else with an
exponent; ties go to the even digit. -/
def Binary64.scientific (x : Binary64) : String :=
  let d := x.shortest .toEven
  let lead := d.exponent + (natChars d.digits).length - 1
  String.ofList (x.signChars ++
    (if x.isZero ∨ (-5 ≤ lead ∧ lead ≤ 15) then d.positional true else d.withExponent))

end ResidencePortal.Numeric
