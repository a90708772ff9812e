/-!
# Punycode

A label with other characters than ASCII is written in ASCII: its ASCII characters in front, and behind
the last hyphen the places and values of the others. The others are inserted in ascending order; each
insertion is written as one number, the distance from the one before, in digits of base 36 whose
weights adapt to the numbers already seen.

* `digit?_digitChar`: a digit reads back.
* `threshold_pos`, `threshold_le`: the threshold of a digit lies between 1 and 26, so that every number
  has an end.
-/

namespace ResidencePortal.Domain.Punycode

/-- The character of a digit below 36. -/
def digitChar (d : Nat) : Char := Char.ofNat (if d < 26 then 0x61 + d else 0x30 + (d - 26))

/-- The value of a digit. -/
def digit? (c : Char) : Option Nat :=
  if 'a' ≤ c ∧ c ≤ 'z' then some (c.toNat - 0x61)
  else if 'A' ≤ c ∧ c ≤ 'Z' then some (c.toNat - 0x41)
  else if '0' ≤ c ∧ c ≤ '9' then some (c.toNat - 0x30 + 26)
  else none

/-- The threshold below which a digit at a position ends its number. -/
def threshold (position bias : Nat) : Nat :=
  if position ≤ bias then 1 else if bias + 26 ≤ position then 26 else position - bias

theorem threshold_pos (position bias : Nat) : 1 ≤ threshold position bias := by
  unfold threshold; split
  · omega
  · split <;> omega

theorem threshold_le (position bias : Nat) : threshold position bias ≤ 26 := by
  unfold threshold; split
  · omega
  · split <;> omega

/-- A digit reads back. -/
theorem digit?_digitChar : ∀ d < 36, digit? (digitChar d) = some d := by decide

/-- A distance brought below 456, with the positions that this takes. -/
def scaleDown (distance positions : Nat) : Nat × Nat :=
  if 455 < distance then scaleDown (distance / 35) (positions + 36) else (distance, positions)
termination_by distance
decreasing_by exact Nat.div_lt_self (by omega) (by omega)

/-- The bias after a distance: the first is damped more, and `count` characters are in place then. -/
def adapt (distance count : Nat) (isFirst : Bool) : Nat :=
  let distance := if isFirst then distance / 700 else distance / 2
  let (rest, positions) := scaleDown (distance + distance / count) 0
  positions + 36 * rest / (rest + 38)

/-! ## Reading -/

/-- The greatest number that may be read. -/
def limit : Nat := 4294967295

/-- A number in digits, added to `sum`, and the characters behind it. -/
def number? (bias : Nat) : (position weight sum : Nat) → List Char → Option (Nat × List Char)
  | _, _, _, [] => none
  | position, weight, sum, c :: rest => do
    let d ← digit? c
    let sum := sum + d * weight
    guard (sum ≤ limit)
    let t := threshold position bias
    if d < t then some (sum, rest)
    else
      guard (weight * (36 - t) ≤ limit)
      number? bias (position + 36) (weight * (36 - t)) sum rest

/-- The code points with one inserted at a place. -/
def insertAt (points : List Nat) (place point : Nat) : List Nat :=
  points.take place ++ point :: points.drop place

/-- Reads insertions: `point` is the last inserted, `place` the place from which the next is counted, and
`isFirst` tells that none was read yet. -/
def insertions? : Nat → (points : List Nat) → (point place bias : Nat) → (isFirst : Bool) → List Char →
    Option (List Nat)
  | _, points, _, _, _, _, [] => some points
  | 0, _, _, _, _, _, _ :: _ => none
  | fuel + 1, points, point, place, bias, isFirst, c :: cs => do
    let (sum, rest) ← number? bias 36 1 place (c :: cs)
    let count := points.length + 1
    let point := point + sum / count
    guard point.isValidChar
    insertions? fuel (insertAt points (sum % count) point) point (sum % count + 1)
      (adapt (sum - place) count isFirst) false rest

/-- The code points that a text denotes: the characters in front of the last hyphen, if there are any, and
the insertions behind it. -/
def decode? (cs : List Char) : Option (List Nat) :=
  let behind := (cs.reverse.takeWhile (· != '-')).reverse
  let front := cs.take (cs.length - behind.length - 1)
  let (ascii, coded) := if front.isEmpty then ([], cs) else (front, behind)
  insertions? coded.length (ascii.map Char.toNat) 128 0 72 true coded

/-! ## Writing -/

/-- A number in digits from a position on. -/
def digits (bias position n : Nat) : List Char :=
  let t := threshold position bias
  if n < t then [digitChar n]
  else digitChar (t + (n - t) % (36 - t)) :: digits bias (position + 36) ((n - t) / (36 - t))
termination_by n
decreasing_by
  have h := threshold_pos position bias
  have : (n - threshold position bias) / (36 - threshold position bias) ≤ n - threshold position bias :=
    Nat.div_le_self _ _
  omega

/-- The state of writing. -/
structure Writing where
  written : List Char
  /-- The steps since the last insertion. -/
  distance : Nat
  bias : Nat
  /-- The code points in place. -/
  count : Nat

/-- Passes a code point while those of value `m` are inserted; `basics` were in place at the start. -/
def Writing.pass (basics m : Nat) (w : Writing) (n : Nat) : Writing :=
  if n < m then { w with distance := w.distance + 1 }
  else if n = m then
    ⟨w.written ++ digits w.bias 36 w.distance, 0, adapt w.distance (w.count + 1) (w.count == basics),
      w.count + 1⟩
  else w

/-- Inserts the values in ascending order, the first counted from `least`. -/
def Writing.insertAll (points : List Nat) (basics : Nat) : (least : Nat) → List Nat → Writing → Writing
  | _, [], w => w
  | least, m :: rest, w =>
    let w := { w with distance := w.distance + (m - least) * (w.count + 1) }
    let w := points.foldl (Writing.pass basics m) w
    Writing.insertAll points basics (m + 1) rest { w with distance := w.distance + 1 }

/-- The text that denotes code points. -/
def encode (points : List Nat) : List Char :=
  let ascii := (points.filter (· < 128)).map Char.ofNat
  let others := ((points.filter (128 ≤ ·)).mergeSort (· ≤ ·)).eraseDups
  let start : Writing := ⟨[], 0, 72, ascii.length⟩
  let w := Writing.insertAll points ascii.length 128 others start
  ascii ++ (if ascii.isEmpty then [] else ['-']) ++ w.written

end ResidencePortal.Domain.Punycode
