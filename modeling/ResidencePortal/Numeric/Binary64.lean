import ResidencePortal.Numeric.Power

/-!
# Double-precision numbers, exactly

A finite double is a sign, a significand and an exponent: `± significand · 2 ^ exponent`. The form is
unique: the significand has 53 bits unless the exponent is the least one, and zero has the least
exponent. All arithmetic is on natural numbers; a result is the double nearest to the exact value, and
of two equally near ones the even one. Results too large for a double are `none`.
-/

namespace ResidencePortal.Numeric

/-- A finite double-precision number. -/
structure Binary64 where
  negative : Bool
  significand : Nat
  exponent : Int
deriving Repr, DecidableEq

namespace Binary64

/-- The least exponent, that of the subnormal numbers and of zero. -/
def minExponent : Int := -1074

/-- The greatest exponent of a finite number. -/
def maxExponent : Int := 971

/-- Zero with the given sign. -/
def zero (negative : Bool) : Binary64 := ⟨negative, 0, minExponent⟩

/-- The number is zero, of either sign. -/
def isZero (x : Binary64) : Bool := x.significand == 0

/-- The same magnitude with the other sign. -/
def negate (x : Binary64) : Binary64 := { x with negative := !x.negative }

/-- The quotient rounded to the nearest integer, a half to the even one. -/
def roundDiv (num den : Nat) : Nat :=
  let q := num / den
  let r := num % den
  if 2 * r < den then q
  else if den < 2 * r then q + 1
  else if q % 2 = 0 then q else q + 1

/-- The quotient `num / (den · 2 ^ e)` as numerator and denominator. -/
def scaled (num den : Nat) (e : Int) : Nat × Nat :=
  if 0 ≤ e then (num, den * twoPow e.toNat) else (num * twoPow (-e).toNat, den)

/-- The non-negative double nearest to `num / den`. -/
def ofRatio? (num den : Nat) : Option Binary64 :=
  if num = 0 then some (zero false)
  else
    let guess : Int := (Nat.log2 num : Int) - Nat.log2 den - 52
    let atGuess := scaled num den guess
    let e := max minExponent (if atGuess.1 / atGuess.2 < twoPow 52 then guess - 1 else guess)
    let s := scaled num den e
    let m := roundDiv s.1 s.2
    let result : Binary64 := if m = twoPow 53 then ⟨false, twoPow 52, e + 1⟩ else ⟨false, m, e⟩
    if result.exponent ≤ maxExponent then some result else none

/-- The magnitude as numerator and denominator. -/
def ratio (x : Binary64) : Nat × Nat :=
  if 0 ≤ x.exponent then (x.significand * twoPow x.exponent.toNat, 1)
  else (x.significand, twoPow (-x.exponent).toNat)

/-- The product of two magnitudes. -/
def mul? (x y : Binary64) : Option Binary64 :=
  ofRatio? (x.ratio.1 * y.ratio.1) (x.ratio.2 * y.ratio.2)

/-- The quotient of two magnitudes, the second not zero. -/
def div? (x y : Binary64) : Option Binary64 :=
  ofRatio? (x.ratio.1 * y.ratio.2) (x.ratio.2 * y.ratio.1)

/-- The double nearest to a natural number. -/
def ofNat? (n : Nat) : Option Binary64 := ofRatio? n 1

/-- The double nearest to a power of ten. -/
def powerOfTen? (k : Nat) : Option Binary64 := ofNat? (tenPow k)

end Binary64

end ResidencePortal.Numeric
