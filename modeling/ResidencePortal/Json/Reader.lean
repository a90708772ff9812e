import ResidencePortal.Json.Number

/-!
# Reading JSON

Strict reading: no blanks but space, tab, return and newline, no trailing comma, no raw control
character in a text, no lone surrogate escape. A reader takes characters and gives a result and the
characters left. Containers are read by two loops, `elements` and `members`, which are told what to do
with each part, so that the same grammar serves full values, skipped values and records.

* `value depth` reads a value that nests at most `depth` containers; a key given twice counts once,
  with its last value.
* `skip depth` follows the grammar without building a value: the size of numbers and the pairing of
  surrogates are not looked at.
* `parse?` reads a whole text; `maxDepth` is the nesting it allows.
-/

namespace ResidencePortal.Json

open ResidencePortal.Text

/-- A result and the characters left. -/
abbrev Reader (α : Type) : Type := List Char → Option (α × List Char)

/-- The blanks between the parts of a document. -/
def isGap (c : Char) : Bool := c == ' ' || c == '\n' || c == '\t' || c == '\r'

/-- Passes the blanks. -/
def skipGap (cs : List Char) : List Char := cs.dropWhile isGap

/-! ## Text -/

/-- The number of four hexadecimal digits. -/
def hex4 : Reader Nat
  | a :: b :: c :: d :: rest => do
    let a ← hexValue? a
    let b ← hexValue? b
    let c ← hexValue? c
    let d ← hexValue? d
    some (((a * 16 + b) * 16 + c) * 16 + d, rest)
  | _ => none

/-- The first half of a surrogate pair. -/
def isLeadSurrogate (n : Nat) : Bool := 0xD800 ≤ n && n ≤ 0xDBFF

/-- The second half of a surrogate pair. -/
def isTrailSurrogate (n : Nat) : Bool := 0xDC00 ≤ n && n ≤ 0xDFFF

/-- The character of a numbered escape, which takes two escapes beyond U+FFFF. -/
def numberedEscape (cs : List Char) : Option (Char × List Char) := do
  let (n, rest) ← hex4 cs
  if isLeadSurrogate n then
    match rest with
    | '\\' :: 'u' :: more =>
      let (m, rest) ← hex4 more
      if isTrailSurrogate m then
        some (Char.ofNat (0x10000 + (n - 0xD800) * 0x400 + (m - 0xDC00)), rest)
      else none
    | _ => none
  else if isTrailSurrogate n then none
  else some (Char.ofNat n, rest)

/-- The character of a one-letter escape. -/
def shortEscape? (c : Char) : Option Char :=
  if c = '"' then some '"'
  else if c = '\\' then some '\\'
  else if c = '/' then some '/'
  else if c = 'b' then some (Char.ofNat 8)
  else if c = 'f' then some (Char.ofNat 12)
  else if c = 'n' then some '\n'
  else if c = 'r' then some '\r'
  else if c = 't' then some '\t'
  else none

/-- The character of an escape, behind its backslash. -/
def escape : Reader Char
  | 'u' :: rest => numberedEscape rest
  | c :: rest => (shortEscape? c).map fun x => (x, rest)
  | [] => none

/-- The characters up to the closing quote. Every round takes a character, so the fuel may be the
number of characters. -/
def stringBody : Nat → Reader (List Char)
  | 0, _ => none
  | _ + 1, [] => none
  | fuel + 1, c :: rest =>
    if c = '"' then some ([], rest)
    else if c = '\\' then do
      let (x, rest) ← escape rest
      let (xs, rest) ← stringBody fuel rest
      some (x :: xs, rest)
    else if c.toNat < 32 then none
    else do
      let (xs, rest) ← stringBody fuel rest
      some (c :: xs, rest)

/-- A text, its opening quote included. -/
def string : Reader String
  | '"' :: rest => (stringBody rest.length rest).map fun (cs, rest) => (String.ofList cs, rest)
  | _ => none

/-! ## Containers -/

/-- The elements after the first, up to the closing bracket. -/
def moreElements {σ : Type} (step : σ → Reader σ) : Nat → σ → Reader σ
  | 0, _, _ => none
  | fuel + 1, s, cs =>
    match skipGap cs with
    | ']' :: rest => some (s, rest)
    | ',' :: rest => do
      let (s, rest) ← step s (skipGap rest)
      moreElements step fuel s rest
    | _ => none

/-- The elements of a list, behind its opening bracket; `step` reads one. -/
def elements {σ : Type} (step : σ → Reader σ) (s : σ) : Reader σ := fun cs =>
  match skipGap cs with
  | ']' :: rest => some (s, rest)
  | cs => do
    let (s, rest) ← step s cs
    moreElements step rest.length s rest

/-- A key, its colon, and the value that `step` reads. -/
def member {σ : Type} (step : String → σ → Reader σ) (s : σ) : Reader σ := fun cs => do
  let (key, rest) ← string cs
  match skipGap rest with
  | ':' :: rest => step key s (skipGap rest)
  | _ => none

/-- The members after the first, up to the closing brace. -/
def moreMembers {σ : Type} (step : String → σ → Reader σ) : Nat → σ → Reader σ
  | 0, _, _ => none
  | fuel + 1, s, cs =>
    match skipGap cs with
    | '\x7d' :: rest => some (s, rest)
    | ',' :: rest => do
      let (s, rest) ← member step s (skipGap rest)
      moreMembers step fuel s rest
    | _ => none

/-- The members of an object, behind its opening brace; `step` reads the value of a key. -/
def members {σ : Type} (step : String → σ → Reader σ) (s : σ) : Reader σ := fun cs =>
  match skipGap cs with
  | '\x7d' :: rest => some (s, rest)
  | cs => do
    let (s, rest) ← member step s cs
    moreMembers step rest.length s rest

/-! ## Values -/

/-- A word in front of the characters stands for a result. -/
def word {α : Type} (letters : List Char) (result : α) : Reader α := fun cs =>
  if letters.isPrefixOf cs then some (result, cs.drop letters.length) else none

/-- A value that is no container. -/
def scalar : Reader Json
  | 'n' :: rest => word ['u', 'l', 'l'] .null rest
  | 't' :: rest => word ['r', 'u', 'e'] (.bool true) rest
  | 'f' :: rest => word ['a', 'l', 's', 'e'] (.bool false) rest
  | '"' :: rest => (string ('"' :: rest)).map fun (s, rest) => (.str s, rest)
  | cs => do
    let (t, rest) ← Token.read cs
    let n ← t.number?
    some (.num n, rest)

/-- A value that nests at most so many containers. -/
def value : Nat → Reader Json
  | 0, '[' :: _ => none
  | 0, '\x7b' :: _ => none
  | depth + 1, '[' :: rest => do
    let step (items : List Json) : Reader (List Json) := fun cs => do
      let (v, rest) ← value depth cs
      some (v :: items, rest)
    let (items, rest) ← elements step [] rest
    some (.arr items.reverse, rest)
  | depth + 1, '\x7b' :: rest => do
    let step (key : String) (ms : List (String × Json)) : Reader (List (String × Json)) := fun cs => do
      let (v, rest) ← value depth cs
      some (Entries.insert key v ms, rest)
    let (ms, rest) ← members step [] rest
    some (.obj ms, rest)
  | _, cs => scalar cs

/-- The characters up to the closing quote, escapes checked for form only. -/
def skipString : Nat → Reader Unit
  | 0, _ => none
  | _ + 1, [] => none
  | fuel + 1, c :: rest =>
    if c = '"' then some ((), rest)
    else if c = '\\' then
      match rest with
      | 'u' :: rest => do
        let (_, rest) ← hex4 rest
        skipString fuel rest
      | e :: rest => if (shortEscape? e).isSome then skipString fuel rest else none
      | [] => none
    else if c.toNat < 32 then none
    else skipString fuel rest

/-- A value that is no container, checked for form only. -/
def skipScalar : Reader Unit
  | 'n' :: rest => word ['u', 'l', 'l'] () rest
  | 't' :: rest => word ['r', 'u', 'e'] () rest
  | 'f' :: rest => word ['a', 'l', 's', 'e'] () rest
  | '"' :: rest => skipString rest.length rest
  | cs => (Token.read cs).map fun (_, rest) => ((), rest)

/-- A key in skipped text, checked for form only, its colon, and the value that `step` passes. -/
def skipMember (step : Reader Unit) : Reader Unit
  | '"' :: cs => do
    let (_, rest) ← skipString cs.length cs
    match skipGap rest with
    | ':' :: rest => step (skipGap rest)
    | _ => none
  | _ => none

/-- The members after the first in skipped text. -/
def skipMoreMembers (step : Reader Unit) : Nat → Reader Unit
  | 0, _ => none
  | fuel + 1, cs =>
    match skipGap cs with
    | '\x7d' :: rest => some ((), rest)
    | ',' :: rest => do
      let (_, rest) ← skipMember step (skipGap rest)
      skipMoreMembers step fuel rest
    | _ => none

/-- Passes a value that nests at most so many containers, without building it. -/
def skip : Nat → Reader Unit
  | 0, '[' :: _ => none
  | 0, '\x7b' :: _ => none
  | depth + 1, '[' :: rest => elements (fun _ => skip depth) () rest
  | depth + 1, '\x7b' :: rest =>
    match skipGap rest with
    | '\x7d' :: rest => some ((), rest)
    | cs => do
      let (_, rest) ← skipMember (skip depth) cs
      skipMoreMembers (skip depth) rest.length rest
  | _, cs => skipScalar cs

/-! ## Documents -/

/-- The containers that a document may nest. -/
def maxDepth : Nat := 127

/-- A whole text read by a reader: blanks around it, nothing else left. -/
def whole {α : Type} (read : Reader α) (s : String) : Option α := do
  let (a, rest) ← read (skipGap s.toList)
  if (skipGap rest).isEmpty then some a else none

/-- The value of a text that nests at most so many containers. -/
def parseNested? (depth : Nat) (s : String) : Option Json := whole (value depth) s

/-- The value of a text. -/
def parse? (s : String) : Option Json := parseNested? maxDepth s

end ResidencePortal.Json
