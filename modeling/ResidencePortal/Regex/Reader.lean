import ResidencePortal.Regex.Basic
import ResidencePortal.Text.Chars

/-!
# Reading regular expressions

The written form: alternatives divided by bars, groups in parentheses, classes in brackets, escapes
behind a backslash, repetitions behind what they repeat. Flags switch between readings from the place
where they stand to the end of their group.

A reader takes the characters and gives what it read with the characters that are left; `none` means
that the text is not a regular expression. Recursion is bounded by a count that the length of the text
exceeds in no run.
-/

namespace ResidencePortal.Regex

open Text

/-- How a part of an expression is to be read. -/
structure Flags where
  /-- Case does not count. -/
  foldCase : Bool
  /-- The anchors are for lines. -/
  lines : Bool
  /-- A dot stands for line breaks too. -/
  dotAll : Bool
  /-- Blanks and comments do not count. -/
  spaced : Bool
  /-- A carriage return ends a line too. -/
  crlf : Bool
  /-- Classes and case go beyond ASCII. -/
  unicode : Bool
deriving Repr, DecidableEq

/-- The flags at the start. -/
def Flags.standard : Flags := ⟨false, false, false, false, false, true⟩

/-- The flags with the one of a letter switched; greed changes the text found, not whether one is. -/
def Flags.switch? (flags : Flags) (on : Bool) : Char → Option Flags
  | 'i' => some { flags with foldCase := on }
  | 'm' => some { flags with lines := on }
  | 's' => some { flags with dotAll := on }
  | 'x' => some { flags with spaced := on }
  | 'R' => some { flags with crlf := on }
  | 'u' => some { flags with unicode := on }
  | 'U' => some flags
  | _ => none

/-- The class with the variants that the flags ask for. -/
def Flags.fold (flags : Flags) (chars : CharClass) : CharClass :=
  if !flags.foldCase then chars else if flags.unicode then .folded chars else .foldedAscii chars

/-- The characters behind blanks and comments, if these do not count. -/
def skipBlanks (flags : Flags) (cs : List Char) : List Char :=
  if flags.spaced then go false cs else cs
where
  /-- Drops blanks, and everything up to the end of a line inside a comment. -/
  go : Bool → List Char → List Char
    | _, [] => []
    | true, c :: rest => go (c != '\n') rest
    | false, c :: rest => if isBlank c then go false rest else if c = '#' then go true rest else c :: rest

/-! ## Escapes -/

/-- What an escape stands for. -/
inductive Escaped where
  | char (c : Char)
  | chars (members : CharClass)
  | condition (condition : Condition)

/-- The character with a code in hexadecimal digits. -/
def hexChar? (digits : List Char) : Option Char := do
  guard !digits.isEmpty
  let n ← digits.foldlM (fun n c => (hexValue? c).map fun d => n * 16 + d) 0
  guard (n.isValidChar)
  some (Char.ofNat n)

/-- A code of a fixed count of digits, or of any count in braces. -/
def codeChar? (count : Nat) : List Char → Option (Char × List Char)
  | '\x7b' :: rest =>
    match cut '\x7d' rest with
    | (digits, some rest) => (hexChar? digits).map fun c => (c, rest)
    | (_, none) => none
  | cs => if cs.length < count then none else (hexChar? (cs.take count)).map fun c => (c, cs.drop count)

/-- The property that a name in an escape means, with its complement if asked for: one letter, or a
name or a pair in braces. -/
def property? : List Char → Option (CharClass × List Char)
  | '\x7b' :: rest =>
    match cut '\x7d' rest with
    | (name, some rest) =>
      let pair (sep : Char) : Option CharClass :=
        match cut sep name with
        | (kind, some value) =>
          if sep = '=' && kind.getLast? = some '!' then
            (Unicode.Property.ofPair? kind.dropLast value).map fun p => .complement (.property p)
          else (Unicode.Property.ofPair? kind value).map .property
        | (_, none) => none
      let found := if name.contains ':' then pair ':' else if name.contains '=' then pair '='
        else (Unicode.Property.ofName? name).map .property
      found.map fun chars => (chars, rest)
    | (_, none) => none
  | c :: rest => (Unicode.Property.ofName? [c]).map fun p => (.property p, rest)
  | [] => none

/-- The condition that a word in braces behind a boundary narrows it to. -/
def boundary (unicode : Bool) (cs : List Char) : Condition × List Char :=
  let plain : Condition × List Char := (.wordBoundary unicode, cs)
  match cs with
  | '\x7b' :: rest =>
    match cut '\x7d' rest with
    | (name, some rest) =>
      if name = "start".toList then (.wordStart unicode, rest)
      else if name = "end".toList then (.wordEnd unicode, rest)
      else if name = "start-half".toList then (.wordStartHalf unicode, rest)
      else if name = "end-half".toList then (.wordEndHalf unicode, rest)
      else plain
    | (_, none) => plain
  | _ => plain

/-- A character that a backslash makes stand for itself: any of ASCII but letters and digits. -/
def standsForItself (c : Char) : Bool := c.toNat < 128 && !c.isAlphanum

/-- What an escape stands for, read behind its backslash. -/
def escape? (flags : Flags) : List Char → Option (Escaped × List Char)
  | [] => none
  | c :: rest =>
    let u := flags.unicode
    let chars (members : CharClass) : Option (Escaped × List Char) := some (.chars members, rest)
    let char (c : Char) : Option (Escaped × List Char) := some (.char c, rest)
    let check (condition : Condition) : Option (Escaped × List Char) := some (.condition condition, rest)
    let digit : CharClass := if u then .property .digit else .asciiDigit
    let word : CharClass := if u then .property .word else .asciiWord
    let blank : CharClass := if u then .property .blank else .asciiBlank
    match c with
    | 'd' => chars digit
    | 'D' => chars (.complement digit)
    | 'w' => chars word
    | 'W' => chars (.complement word)
    | 's' => chars blank
    | 'S' => chars (.complement blank)
    | 'p' => (property? rest).map fun (members, rest) => (.chars (flags.fold members), rest)
    | 'P' => (property? rest).map fun (members, rest) => (.chars (.complement (flags.fold members)), rest)
    | 'a' => char '\x07'
    | 'f' => char '\x0c'
    | 't' => char '\t'
    | 'n' => char '\n'
    | 'r' => char '\r'
    | 'v' => char '\x0b'
    | 'x' => (codeChar? 2 rest).map fun (c, rest) => (.char c, rest)
    | 'u' => (codeChar? 4 rest).map fun (c, rest) => (.char c, rest)
    | 'U' => (codeChar? 8 rest).map fun (c, rest) => (.char c, rest)
    | 'A' => check .textStart
    | 'z' => check .textEnd
    | 'B' => check (.noWordBoundary u)
    | 'b' => let (condition, rest) := boundary u rest; some (.condition condition, rest)
    | '<' => check (.wordStart u)
    | '>' => check (.wordEnd u)
    | _ => if standsForItself c then char c else none

/-! ## Classes in brackets -/

/-- The class of ASCII characters whose name stands between `[:` and `:]`. -/
def namedClass? (flags : Flags) : List Char → Option (CharClass × List Char)
  | '[' :: ':' :: rest =>
    let negated := rest.head? = some '^'
    match cut ':' (if negated then rest.drop 1 else rest) with
    | (name, some (']' :: rest)) =>
      (CharClass.asciiNamed.find? fun e => e.1.toList = name).map fun e =>
        let members := flags.fold e.2
        (if negated then .complement members else members, rest)
    | _ => none
  | _ => none

/-- One character or class of characters inside brackets. -/
def member? (flags : Flags) : List Char → Option (Escaped × List Char)
  | [] => none
  | '\\' :: rest => escape? flags rest
  | c :: rest => some (.char c, rest)

/-- A member inside brackets, or a range from one to another. A hyphen in front of the closing bracket
or of another hyphen makes no range. -/
def memberOrRange? (flags : Flags) (cs : List Char) : Option (CharClass × List Char) := do
  let (first, rest) ← member? flags cs
  let rest := skipBlanks flags rest
  let next := rest.head?
  let afterNext := (skipBlanks flags (rest.drop 1)).head?
  if next = some '-' && afterNext != some ']' && afterNext != some '-' then
    let (last, rest) ← member? flags (skipBlanks flags (rest.drop 1))
    match first, last with
    | .char a, .char b => if a ≤ b then some (.range a b, rest) else none
    | _, _ => none
  else
    match first with
    | .char c => some (.single c, rest)
    | .chars members => some (members, rest)
    | .condition _ => none

/-- An operation on classes, written between them. -/
def classOperation? : List Char → Option ((CharClass → CharClass → CharClass) × List Char)
  | '&' :: '&' :: rest => some (.inter, rest)
  | '-' :: '-' :: rest => some (.difference, rest)
  | '~' :: '~' :: rest => some (.symmetricDifference, rest)
  | _ => none

mutual

/-- A class, read behind its opening bracket. -/
def bracket? (flags : Flags) : Nat → List Char → Option (CharClass × List Char)
  | 0, _ => none
  | fuel + 1, cs => do
    let cs := skipBlanks flags cs
    let negated := cs.head? = some '^'
    let cs := if negated then skipBlanks flags (cs.drop 1) else cs
    let hyphens := cs.takeWhile (· == '-')
    let cs := skipBlanks flags (cs.dropWhile (· == '-'))
    let start : CharClass := if hyphens.isEmpty then .empty else .single '-'
    let (members, rest) ←
      match hyphens, cs with
      | [], ']' :: rest => bracketBody? flags fuel id (.single ']') rest
      | _, cs => bracketBody? flags fuel id start cs
    some (if negated then .complement members else members, rest)

/-- The rest of a class: `combine` joins what stands before the last operation to what stands behind it,
and `members` is read behind it so far. -/
def bracketBody? (flags : Flags) : Nat → (combine : CharClass → CharClass) → (members : CharClass) →
    List Char → Option (CharClass × List Char)
  | 0, _, _, _ => none
  | fuel + 1, combine, members, cs =>
    match skipBlanks flags cs with
    | [] => none
    | ']' :: rest => some (flags.fold (combine (flags.fold members)), rest)
    | cs =>
      match classOperation? cs with
      | some (operation, rest) =>
        let left := combine (flags.fold members)
        bracketBody? flags fuel (operation left) .empty rest
      | none =>
        match cs, namedClass? flags cs with
        | '[' :: _, some (ascii, rest) => bracketBody? flags fuel combine (.union members ascii) rest
        | '[' :: rest, none => do
          let (nested, rest) ← bracket? flags fuel rest
          bracketBody? flags fuel combine (.union members nested) rest
        | cs, _ => do
          let (member, rest) ← memberOrRange? flags cs
          bracketBody? flags fuel combine (.union members member) rest

end

/-! ## Repetitions -/

/-- A number with blanks around it. -/
def countIn? (cs : List Char) : Option Nat :=
  let digits := ((cs.dropWhile isBlank).reverse.dropWhile isBlank).reverse
  if digits.isEmpty || !digits.all isDigit then none else some (ofDigits digits)

/-- The bounds between braces. -/
def bounds? (cs : List Char) : Option (Nat × Option Nat) :=
  match cut ',' cs with
  | (least, none) => (countIn? least).map fun n => (n, some n)
  | (least, some most) => do
    let least ← countIn? least
    if most.all isBlank then some (least, none)
    else
      let most ← countIn? most
      if least ≤ most then some (least, some most) else none

/-- The expression with the repetitions that follow it. A question mark behind a repetition asks for
little, which does not change what can be found. -/
def repeated? (flags : Flags) : Nat → Regex → List Char → Option (Regex × List Char)
  | 0, _, _ => none
  | fuel + 1, r, cs =>
    let again (least : Nat) (most : Option Nat) (rest : List Char) : Option (Regex × List Char) :=
      let rest := skipBlanks flags rest
      repeated? flags fuel (.times least most r) (if rest.head? = some '?' then rest.drop 1 else rest)
    match skipBlanks flags cs with
    | '*' :: rest => again 0 none rest
    | '+' :: rest => again 1 none rest
    | '?' :: rest => again 0 (some 1) rest
    | '\x7b' :: rest =>
      match cut '\x7d' rest with
      | (inner, some rest) => (bounds? inner).bind fun (least, most) => again least most rest
      | (_, none) => none
    | cs => some (r, cs)

/-! ## Groups and alternatives -/

/-- What an opening parenthesis begins. -/
inductive Opening where
  | group (name : Option String) (flags : Flags)
  /-- Nothing: the flags hold for the rest of the group. -/
  | flags (flags : Flags)

/-- The flags written behind a question mark, and what they begin. -/
def flagsOpening? (flags : Flags) (on : Bool) : List Char → Option (Opening × List Char)
  | [] => none
  | ')' :: rest => some (.flags flags, rest)
  | ':' :: rest => some (.group none flags, rest)
  | '-' :: rest => if on then flagsOpening? flags false rest else none
  | c :: rest => (flags.switch? on c).bind fun flags => flagsOpening? flags on rest

/-- What an opening parenthesis begins, read behind it. -/
def opening? (flags : Flags) (cs : List Char) : Option (Opening × List Char) :=
  let named (rest : List Char) : Option (Opening × List Char) :=
    match cut '>' rest with
    | (name, some rest) =>
      if name.isEmpty then none else some (.group (some (String.ofList name)) flags, rest)
    | (_, none) => none
  match cs with
  | '?' :: 'P' :: '<' :: rest => named rest
  | '?' :: '<' :: rest => named rest
  | '?' :: rest => flagsOpening? flags true rest
  | rest => some (.group none flags, rest)

/-- The expression that starts here and is no group. -/
def atom? (flags : Flags) (cs : List Char) : Option (Regex × List Char) :=
  match cs with
  | [] => none
  | '.' :: rest =>
    let breaks : CharClass := if flags.crlf then .ofRanges [('\n', '\n'), ('\r', '\r')] else .single '\n'
    some (.one (if flags.dotAll then .property .any else .complement breaks), rest)
  | '^' :: rest => some (.look (if flags.lines then .lineStart flags.crlf else .textStart), rest)
  | '$' :: rest => some (.look (if flags.lines then .lineEnd flags.crlf else .textEnd), rest)
  | '[' :: rest => (bracket? flags (2 * cs.length) rest).map fun (chars, rest) => (.one chars, rest)
  | '\\' :: rest =>
    (escape? flags rest).map fun (escaped, rest) =>
      match escaped with
      | .char c => (.one (flags.fold (.single c)), rest)
      | .chars members => (.one members, rest)
      | .condition condition => (.look condition, rest)
  | c :: rest =>
    if c = '*' || c = '+' || c = '?' || c = '\x7b' then none
    else some (.one (flags.fold (.single c)), rest)

mutual

/-- The alternatives up to a closing parenthesis or the end. -/
def alternatives? : Nat → Flags → List Char → Option (Regex × List Char)
  | 0, _, _ => none
  | fuel + 1, flags, cs => do
    let (first, flags, rest) ← branch? fuel flags .nothing cs
    match rest with
    | '|' :: rest =>
      let (second, rest) ← alternatives? fuel flags rest
      some (.either first second, rest)
    | rest => some (first, rest)

/-- One alternative, behind what is read of it: it ends in front of a bar, a closing parenthesis or the
end, with the flags that hold there. -/
def branch? : Nat → Flags → Regex → List Char → Option (Regex × Flags × List Char)
  | 0, _, _, _ => none
  | fuel + 1, flags, read, cs =>
    match skipBlanks flags cs with
    | [] => some (read, flags, [])
    | '|' :: rest => some (read, flags, '|' :: rest)
    | ')' :: rest => some (read, flags, ')' :: rest)
    | '(' :: rest => do
      match ← opening? flags rest with
      | (.flags flags, rest) => branch? fuel flags read rest
      | (.group name inner, rest) =>
        match ← alternatives? fuel inner rest with
        | (body, ')' :: rest) =>
          let group := match name with
            | some name => .named name body
            | none => body
          let (r, rest) ← repeated? flags (rest.length + 1) group rest
          branch? fuel flags (.seq read r) rest
        | _ => none
    | cs => do
      let (atom, rest) ← atom? flags cs
      let (r, rest) ← repeated? flags (rest.length + 1) atom rest
      branch? fuel flags (.seq read r) rest

end

/-- The expression that a text denotes. -/
def parse? (text : List Char) : Option Regex :=
  match alternatives? (2 * text.length + 2) .standard text with
  | some (r, []) => some r
  | _ => none

end ResidencePortal.Regex
