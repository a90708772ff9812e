import ResidencePortal.Regex.Reader
import ResidencePortal.Regex.Search
import ResidencePortal.Text.Percent

/-!
# Paths and their patterns

A request names its target by a path, or by a whole address that holds the path. For routing the path
is percent-decoded, except that `%`, `/` and `+` stay escaped.

A pattern is a path in which parameters stand in braces: a name for one or more characters other than
a slash, or a name, a colon and a regular expression. A star behind the last parameter lets it take all
that is left of the path.
-/

namespace ResidencePortal.Web

open Text

namespace Path

/-- A character of a scheme. -/
def isSchemeChar (c : Char) : Bool := c.isAlphanum || c == '+' || c == '-' || c == '.'

/-- What follows the scheme of a whole address. -/
def afterScheme? (target : List Char) : Option (List Char) :=
  match target.dropWhile isSchemeChar with
  | ':' :: '/' :: '/' :: rest => some rest
  | _ => none

/-- The characters in front of a query or fragment. -/
def beforeQuery (cs : List Char) : List Char := cs.takeWhile fun c => c != '?' && c != '#'

/-- The path of a target: a path may be followed by a query, a star is a path, a whole address without
a path has the path `/`, and any other target names a host only. -/
def ofTarget (target : String) : String :=
  match target.toList with
  | '/' :: rest => String.ofList ('/' :: beforeQuery rest)
  | ['*'] => "*"
  | cs =>
    match afterScheme? cs with
    | some rest =>
      match (beforeQuery rest).dropWhile (· != '/') with
      | [] => "/"
      | path => String.ofList path
    | none => ""

/-- The bytes that stay escaped for routing. -/
def staysEscaped (b : UInt8) : Bool := b == 0x25 || b == 0x2F || b == 0x2B

/-- The path as patterns see it. -/
def decoded (path : String) : String := decodeLossy (Percent.unescape staysEscaped (utf8Bytes path))

end Path

/-- A pattern of paths. -/
inductive Pattern where
  /-- Exactly one path. -/
  | exactly (path : List Char)
  /-- The paths in which a text of the expression is found. -/
  | expression (r : Regex)
deriving Repr, DecidableEq

namespace Pattern

/-- A character that has a meaning of its own in regular expressions. -/
def isMeta (c : Char) : Bool := "\\.+*?()|[]^$#&-~\x7b\x7d".toList.contains c

/-- Characters that stand for themselves, as a regular expression. -/
def literally (cs : List Char) : List Char := cs.flatMap fun c => if isMeta c then ['\\', c] else [c]

/-- A parameter up to the brace that closes it, and what follows; `depth` braces are open inside. -/
def parameter? : (depth : Nat) → List Char → Option (List Char × List Char)
  | _, [] => none
  | depth, c :: rest =>
    match c, depth with
    | '\x7d', 0 => some ([], rest)
    | '\x7d', depth + 1 => (parameter? depth rest).map fun (inner, rest) => (c :: inner, rest)
    | '\x7b', depth => (parameter? (depth + 1) rest).map fun (inner, rest) => (c :: inner, rest)
    | _, depth => (parameter? depth rest).map fun (inner, rest) => (c :: inner, rest)

/-- A group of a regular expression with a name. -/
def namedGroup (name inner : List Char) : List Char := "(?P<".toList ++ name ++ ['>'] ++ inner ++ [')']

/-- The regular expression of a pattern, and whether it takes all that is left. Text behind the last
parameter that ends in a star stands for nothing. -/
def expression? : Nat → List Char → Option (List Char × Bool)
  | 0, _ => none
  | fuel + 1, cs =>
    match cut '\x7b' cs with
    | (text, none) => some (if text.getLast? = some '*' then [] else literally text, false)
    | (text, some rest) => do
      let (inner, rest) ← parameter? 0 rest
      match cut ':' inner, rest with
      | (_, some _), ['*'] => none
      | (name, none), ['*'] => some (literally text ++ namedGroup name ".*".toList, true)
      | (name, custom), rest =>
        let (more, tail) ← expression? fuel rest
        some (literally text ++ namedGroup name (custom.getD "[^/]+".toList) ++ more, tail)

/-- The pattern of a path that is written as one; `none` if it cannot be read. -/
def parse? (path : List Char) : Option Pattern :=
  if !path.contains '\x7b' && path.getLast? != some '*' then some (.exactly path)
  else do
    let (inner, tail) ← expression? (path.length + 1) path
    let whole := "((?s-m)^".toList ++ inner ++ [')'] ++ (if tail then [] else ['$'])
    (Regex.parse? whole).map .expression

/-- The pattern of a configured path, which gets a slash in front if it has none. -/
def ofPath? (path : String) : Option Pattern :=
  match path.toList with
  | [] => parse? []
  | '/' :: rest => parse? ('/' :: rest)
  | cs => parse? ('/' :: cs)

/-- The pattern covers the path. -/
def covers : Pattern → List Char → Bool
  | .exactly path, cs => path == cs
  | .expression r, cs => r.foundIn cs

end Pattern

end ResidencePortal.Web
