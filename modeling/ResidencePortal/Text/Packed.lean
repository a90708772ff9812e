/-!
# Packed tables

A table of numbers written as lines of text: each number takes a fixed count of characters, highest
digit first, in base 64 with the digits `0-9 A-Z a-z . _`. Large tables of character codes are kept in
this form.

Three kinds of tables are read: cells, where a zero marks a cell without a character (`char?`); runs in
ascending order, each `first * 256 + value`, where a run gives its value to all numbers from its first
up to the next run (`valueAt`); and ascending entries of keys and values (`valueOf?`, `sliceOf?`).
-/

namespace ResidencePortal.Text.Packed

/-- The value of a digit. -/
def digit (c : Char) : Nat :=
  let n := c.toNat
  if n = 46 then 62
  else if n ≤ 57 then n - 48
  else if n ≤ 90 then n - 55
  else if n = 95 then 63
  else n - 61

/-- The numbers of characters, behind those already read: `value` is what the digits of an open number
give so far, and `missing` the count of its digits to come after the next one. -/
def readNumbers (width : Nat) (done : Array Nat) (value missing : Nat) : List Char → Array Nat
  | [] => done
  | c :: rest =>
    let value := value * 64 + digit c
    match missing with
    | 0 => readNumbers width (done.push value) 0 (width - 1) rest
    | missing + 1 => readNumbers width done value missing rest

/-- The numbers of the lines of a table. A number does not run over the end of a line. -/
def unpack (width : Nat) (lines : List String) : Array Nat :=
  lines.foldl (fun done line => readNumbers width done 0 (width - 1) line.toList) #[]

/-- The character in a cell, if it has one. -/
def char? (cells : Array Nat) (i : Nat) : Option Char :=
  match cells[i]? with
  | some 0 => none
  | some n => some (Char.ofNat n)
  | none => none

/-- How many of the first `high` entries of an ascending array are below `x`, given that the first
`low` are. -/
def countBelow (entries : Array Nat) (x low high : Nat) : Nat :=
  if low < high then
    let middle := (low + high) / 2
    if entries.getD middle 0 < x then countBelow entries x (middle + 1) high
    else countBelow entries x low middle
  else low
termination_by high - low

/-- The value of the last run that starts at or before `n`, zero if there is none. -/
def valueAt (runs : Array Nat) (n : Nat) : Nat :=
  match countBelow runs ((n + 1) * 256) 0 runs.size with
  | 0 => 0
  | k + 1 => runs.getD k 0 % 256

/-- The value of a key in ascending entries `key * 2^18 + value`. -/
def valueOf? (entries : Array Nat) (key : Nat) : Option Nat :=
  match countBelow entries ((key + 1) * 262144) 0 entries.size with
  | 0 => none
  | k + 1 =>
    let entry := entries.getD k 0
    if entry / 262144 = key then some (entry % 262144) else none

/-- The numbers of a key in ascending entries `key * 2^18 + place * 32 + count`: the `count` numbers from
`place` on. -/
def sliceOf? (entries points : Array Nat) (key : Nat) : Option (List Nat) :=
  (valueOf? entries key).map fun v => (points.extract (v / 32) (v / 32 + v % 32)).toList

end ResidencePortal.Text.Packed
