import ResidencePortal.Charset.Label
import ResidencePortal.Text.Blank
import ResidencePortal.Text.Case
import ResidencePortal.Text.Chars

/-!
# Media types

The type of a request's body: `type/subtype+suffix` and parameters behind semicolons. Names do not
depend on case. Two questions are asked of it: does it name JSON, and if it names a form, in which
character set.
-/

namespace ResidencePortal.Web

open Text

/-- A parameter of a media type. -/
structure MediaType.Parameter where
  /-- The blanks between the semicolon and the name. -/
  blanks : Nat
  /-- The name, in lower case. -/
  name : String
  quoted : Bool
  value : String
deriving Repr, DecidableEq

/-- A media type, its names in lower case. -/
structure MediaType where
  type : String
  subtype : String
  suffix : Option String
  parameters : List MediaType.Parameter
deriving Repr, DecidableEq

namespace MediaType

/-- A character of a name. -/
def isTokenChar (c : Char) : Bool :=
  isDigit c || ('a' ≤ c && c ≤ 'z') || ('A' ≤ c && c ≤ 'Z') || "!#$%&'*+-.^_|~`".toList.contains c

/-- A character between quotes. -/
def isQuotedChar (c : Char) : Bool := 31 < c.toNat && c.toNat != 127

/-- At least one character of a name, as many as there are. -/
def token? (cs : List Char) : Option (List Char × List Char) :=
  match cs.takeWhile isTokenChar with
  | [] => none
  | name => some (name, cs.dropWhile isTokenChar)

/-- What stands between an opening quote and the closing one, and what follows. The text is never
empty: a quote right behind the opening one is text. -/
def quotedText? : List Char → Option (List Char × List Char)
  | [] => none
  | first :: rest =>
    match cut '"' rest with
    | (more, some rest) => if (first :: more).all isQuotedChar then some (first :: more, rest) else none
    | (_, none) => none

/-- The value of a parameter, whether it is quoted, and what follows up to the next semicolon: spaces
behind a quoted value do not count, and only the last value may be empty. -/
def parameterValue? : List Char → Option (Bool × List Char × List Char)
  | '"' :: rest => (quotedText? rest).map fun (value, rest) => (true, value, rest.dropWhile (· == ' '))
  | cs =>
    let value := cs.takeWhile isTokenChar
    let rest := cs.dropWhile isTokenChar
    if value.isEmpty && !rest.isEmpty then none else some (false, value, rest)

/-- The parameters, each behind a semicolon; one semicolon may stand at the end. -/
def parameters? : Nat → List Char → Option (List Parameter)
  | 0, _ => none
  | _ + 1, [] => some []
  | fuel + 1, ';' :: rest =>
    let blanks := (rest.takeWhile (· == ' ')).length
    match rest.dropWhile (· == ' ') with
    | [] => some []
    | rest => do
      let (name, rest) ← token? rest
      match rest with
      | '=' :: rest =>
        let (quoted, value, rest) ← parameterValue? rest
        let more ← parameters? fuel rest
        some (⟨blanks, lowerAscii (String.ofList name), quoted, String.ofList value⟩ :: more)
      | _ => none
  | _ + 1, _ :: _ => none

/-- The subtype and its suffix, divided at the last plus sign that is not the first character. -/
def splitSuffix (cs : List Char) : List Char × Option (List Char) :=
  match (cs.drop 1).reverse.dropWhile (· != '+') with
  | [] => (cs, none)
  | _ :: before =>
    let subtype := cs.take (before.length + 1)
    (subtype, some (cs.drop (subtype.length + 1)))

/-- The media type of a header, which holds visible ASCII characters, blanks and tabs only. The subtype
may be empty if no parameters follow. -/
def parse? (header : String) : Option MediaType := do
  guard (header.toList.all fun c => c == '\t' || (32 ≤ c.toNat && c.toNat < 127))
  let (type, rest) ← token? header.toList
  match rest with
  | '/' :: rest =>
    let name := rest.takeWhile isTokenChar
    let rest := rest.dropWhile isTokenChar
    guard (!name.isEmpty || rest.isEmpty)
    let (subtype, suffix) := splitSuffix name
    let parameters ← parameters? (rest.length + 1) rest
    let lower (cs : List Char) : String := lowerAscii (String.ofList cs)
    some ⟨lower type, lower subtype, suffix.map lower, parameters⟩
  | _ => none

/-- The label of the character set. A first parameter for UTF-8 that stands one blank behind its
semicolon and before other parameters is read by position: the five characters behind its equals
sign, the opening quote counted. -/
def charset? (m : MediaType) : Option String :=
  match m.parameters with
  | first :: _ :: _ =>
    if first.name = "charset" && first.blanks = 1 && first.quoted && lowerAscii first.value = "utf-8" then
      some "\"utf-"
    else (m.parameters.find? fun p => p.name = "charset").map Parameter.value
  | _ => (m.parameters.find? fun p => p.name = "charset").map Parameter.value

/-- The character set of the form that a header names: the part before the parameters names a form, the
whole can be read, and the character set is known; it is UTF-8 if none is given. -/
def formCharset? (header : String) : Option Charset := do
  let essence := trim (String.ofList (cut ';' header.toList).1)
  guard (lowerAscii essence == "application/x-www-form-urlencoded")
  let m ← parse? header
  match m.charset? with
  | none => some .utf8
  | some label => Charset.ofLabel? label

/-- The header names JSON, by its subtype or its suffix. -/
def isJson (header : String) : Bool :=
  (parse? header).any fun m => m.subtype == "json" || m.suffix == some "json"

end MediaType

end ResidencePortal.Web
