import ResidencePortal.Text.CaseTable

/-!
# Upper and lower case

Full case mapping: a character may become several (`ß` becomes `SS`), and `Σ` becomes `ς` at the end
of a word and `σ` elsewhere. Nothing is composed or decomposed.

* `upperChars` maps character by character, so it distributes over `++` (`upperChars_append`).
* `lowerFrom` carries the characters already passed, because the sigma rule looks both ways.
-/

namespace ResidencePortal.Text

/-- The code point lies in one of the closed ranges. -/
def inRanges (ranges : List (Nat × Nat)) (n : Nat) : Bool :=
  ranges.any fun r => r.1 ≤ n && n ≤ r.2

/-- The partner that the runs give a code point, itself if no run covers it. -/
def simplePartner (runs : List CaseRun) (n : Nat) : Nat :=
  match runs.find? (·.covers n) with
  | some r => r.partner n
  | none => n

/-- The full partner of a code point: an expansion if it has one, else its simple partner. -/
def fullPartner (expansions : List (Nat × List Nat)) (runs : List CaseRun) (n : Nat) : List Nat :=
  match expansions.find? (·.1 == n) with
  | some e => e.2
  | none => [simplePartner runs n]

/-- The lower-case form of one character, without regard to its neighbours. -/
def lowerChar (c : Char) : List Char :=
  let n := c.toNat
  if n < 0x80 then
    [if 0x41 ≤ n ∧ n ≤ 0x5A then Char.ofNat (n + 32) else c]
  else
    (fullPartner lowerExpansions lowerRuns n).map Char.ofNat

/-- The upper-case form of one character. -/
def upperChar (c : Char) : List Char :=
  let n := c.toNat
  if n < 0x80 then
    [if 0x61 ≤ n ∧ n ≤ 0x7A then Char.ofNat (n - 32) else c]
  else
    (fullPartner upperExpansions upperRuns n).map Char.ofNat

/-- Characters that the sigma rule looks past. -/
def isCaseIgnorable (c : Char) : Bool := inRanges ignorableRanges c.toNat

/-- Letters with case. -/
def isCased (c : Char) : Bool := inRanges casedRanges c.toNat

/-- The first character that is not looked past is a letter with case. -/
def meetsCased (cs : List Char) : Bool :=
  match cs.dropWhile isCaseIgnorable with
  | [] => false
  | c :: _ => isCased c

/-- The capital letter sigma. -/
def capitalSigma : Char := 'Σ'

/-- A capital sigma ends a word if a letter comes before it and none after it. -/
def lowerSigma (before after : List Char) : Char :=
  if meetsCased before && !meetsCased after then 'ς' else 'σ'

/-- The lower-case form of the characters, `before` being those already passed, nearest first. -/
def lowerFrom (before : List Char) : List Char → List Char
  | [] => []
  | c :: rest =>
    (if c = capitalSigma then [lowerSigma before rest] else lowerChar c) ++
      lowerFrom (c :: before) rest

/-- The lower-case form of the characters. -/
def lowerChars (cs : List Char) : List Char := lowerFrom [] cs

/-- The upper-case form of the characters. -/
def upperChars (cs : List Char) : List Char := cs.flatMap upperChar

/-- The lower-case form of a text. -/
def lower (s : String) : String := String.ofList (lowerChars s.toList)

/-- The upper-case form of a text. -/
def upper (s : String) : String := String.ofList (upperChars s.toList)

/-- The lower-case form of the ASCII letters alone. -/
def lowerAscii (s : String) : String :=
  String.ofList (s.toList.map fun c =>
    if 0x41 ≤ c.toNat ∧ c.toNat ≤ 0x5A then Char.ofNat (c.toNat + 32) else c)

@[simp] theorem upperChars_append (a b : List Char) :
    upperChars (a ++ b) = upperChars a ++ upperChars b := by
  simp [upperChars]

@[simp] theorem toList_lower (s : String) : (lower s).toList = lowerChars s.toList := by
  simp [lower]

@[simp] theorem toList_upper (s : String) : (upper s).toList = upperChars s.toList := by
  simp [upper]

end ResidencePortal.Text
