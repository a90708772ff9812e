import ResidencePortal.Url.Basic
import ResidencePortal.Url.Path

/-!
# Reading addresses

A text is read from left to right: scheme, user and password, host, port, path, query, fragment. Blanks
and control characters around it do not count, nor do tabs and line breaks inside. The first part with
a fault decides.

The schemes of the web need a host and take a backslash for a slash. A file may do without a host. Any
other scheme may be followed by two slashes and a host, by a path, or by text that is no path.
-/

namespace ResidencePortal.Url

open Text

/-! ## Pieces of the text -/

/-- Tabs and line breaks do not count. -/
def isIgnored (c : Char) : Bool := c == '\t' || c == '\n' || c == '\r'

/-- The characters that count. -/
def significant (cs : List Char) : List Char :=
  let isOuter (c : Char) : Bool := c.toNat ≤ 32
  ((cs.dropWhile isOuter).reverse.dropWhile isOuter).reverse.filter fun c => !isIgnored c

/-- A character of a scheme after its first. -/
def isSchemeChar (c : Char) : Bool := c.isAlphanum || c == '+' || c == '-' || c == '.'

/-- The scheme in lower case, and what follows its colon. -/
def scheme? (cs : List Char) : Option (List Char × List Char) :=
  match cut ':' cs with
  | (first :: more, some rest) =>
    if first.isAlpha && more.all isSchemeChar then some ((first :: more).map Char.toLower, rest) else none
  | _ => none

/-- A character that ends user, host and port. -/
def endsAuthority (web : Bool) (c : Char) : Bool :=
  c == '/' || c == '?' || c == '#' || (web && c == '\\')

/-- Query and fragment of what follows the path, coded. -/
def queryAndFragment (set : CodedSet) (cs : List Char) : Option (List Char) × Option (List Char) :=
  let (front, fragment) := cut '#' cs
  let query := match front with
    | '?' :: query => some (set.encode query)
    | _ => none
  (query, fragment.map CodedSet.fragment.encode)

/-- The address with the query and fragment of what follows the path. -/
def withEnd (u : Url) (web : Bool) (cs : List Char) : Url :=
  let (query, fragment) := queryAndFragment (if web then .webQuery else .query) cs
  { u with query := query, fragment := fragment }

/-- The text in front of a query or fragment, and the text from there on. -/
def splitPath (cs : List Char) : List Char × List Char :=
  let isPathChar (c : Char) : Bool := c != '?' && c != '#'
  (cs.takeWhile isPathChar, cs.dropWhile isPathChar)

/-! ## User, host and port -/

/-- User and password in front of the last at sign, coded, and what follows. A password is given if there
is text behind the first colon. -/
structure UserPart where
  user : List Char
  password : Option (List Char)
  rest : List Char

/-- The user part of what follows two slashes. An at sign in front of nothing is a fault. -/
def userPart (web : Bool) (cs : List Char) : Except Fault UserPart :=
  let authority := cs.takeWhile fun c => !endsAuthority web c
  if !authority.contains '@' then .ok ⟨[], none, cs⟩
  else
    let behind := (authority.reverse.takeWhile (· != '@')).reverse
    let before := authority.take (authority.length - behind.length - 1)
    let rest := cs.drop (before.length + 1)
    if before.isEmpty && rest.head?.any (endsAuthority web) then .error .emptyHost
    else
      let (user, password) := cut ':' before
      let password := password.filter fun p => !p.isEmpty
      .ok ⟨CodedSet.user.encode user, password.map CodedSet.user.encode, rest⟩

/-- The text of the host, and what follows: it ends at a colon outside brackets. -/
def splitHost (web : Bool) : (bracketed : Bool) → List Char → List Char × List Char
  | _, [] => ([], [])
  | bracketed, c :: rest =>
    if endsAuthority web c || (c == ':' && !bracketed) then ([], c :: rest)
    else
      let bracketed := if c = '[' then true else if c = ']' then false else bracketed
      let (host, rest) := splitHost web bracketed rest
      (c :: host, rest)

/-- The port behind a colon, and what follows. An empty port is none, and only digits may stand up to a
slash, a backslash, a query or a fragment. -/
def portPart : List Char → Except Fault (Option Nat × List Char)
  | ':' :: rest =>
    let digits := rest.takeWhile isDigit
    let rest := rest.dropWhile isDigit
    if 65535 < ofDigits digits || rest.head?.any fun c => !endsAuthority true c then .error .badPort
    else .ok (if digits.isEmpty then none else some (ofDigits digits), rest)
  | cs => .ok (none, cs)

/-- The host of a text; it may be empty behind schemes outside the web. -/
def hostOf (web : Bool) (text : List Char) : Except Fault (Option Host) :=
  match text with
  | [] => if web then .error .emptyHost else .ok none
  | text => ((if web then Host.ofWeb text else Host.ofOther text)).map some

/-- The path behind host and port. -/
def pathBehindHost (web : Bool) (text : List Char) : List Char :=
  match text with
  | [] => if web then ['/'] else []
  | c :: rest =>
    let text := if c = '/' || (web && c = '\\') then rest else c :: rest
    Path.ofSegments (Path.segments web false text)

/-- The address behind a scheme and two slashes. -/
def withHost (scheme : List Char) (web : Bool) (cs : List Char) : Except Fault Url := do
  let part ← userPart web cs
  let (text, rest) := splitHost web false part.rest
  let host ← hostOf web text
  if host.isNone && (rest.head? = some ':' || !part.user.isEmpty || part.password.isSome) then
    throw .emptyHost
  let (port, rest) ← portPart rest
  let (path, rest) := splitPath rest
  let u : Url :=
    { scheme := scheme, hasAuthority := true, user := part.user, password := part.password, host := host,
      port := if port = defaultPort? scheme then none else port, path := pathBehindHost web path,
      query := none, fragment := none }
  pure (withEnd u web rest)

/-! ## Files -/

/-- The host of a file, and the text of its path: a drive is no host, and `localhost` is as good as none. -/
def fileHost (cs : List Char) : Except Fault (Option Host × List Char) :=
  let text := cs.takeWhile fun c => !endsAuthority true c
  let rest := cs.dropWhile fun c => !endsAuthority true c
  if text.isEmpty || Path.isDrive text then .ok (none, cs)
  else do
    let host ← Host.ofWeb text
    pure (if host = .domain "localhost".toList then none else some host, rest)

/-- The address of a file. Slashes at the front of its path count as one, and the host is dropped if the
path names a drive. -/
def file (cs : List Char) : Except Fault Url := do
  let isSlash (c : Char) : Bool := c == '/' || c == '\\'
  let (host, cs) ←
    match cs with
    | a :: b :: rest => if isSlash a && isSlash b then fileHost rest else .ok (none, cs)
    | cs => .ok (none, cs)
  let (path, rest) := splitPath cs
  let segments := Path.segments true true path
  let u : Url :=
    { scheme := "file".toList, hasAuthority := true, user := [], password := none,
      host := if segments.any Path.isDrive then none else host, port := none,
      path := '/' :: (Path.ofSegments segments).dropWhile (· == '/'), query := none, fragment := none }
  pure (withEnd u true rest)

/-! ## Schemes without a host -/

/-- The address behind a scheme outside the web that no two slashes follow: a path if a slash does, else
text in which only control characters are coded. -/
def withoutHost (scheme cs : List Char) : Url :=
  let (text, rest) := splitPath cs
  let path := match text with
    | '/' :: text => Path.ofSegments (Path.segments false false text)
    | text => CodedSet.controls.encode text
  let u : Url :=
    { scheme := scheme, hasAuthority := false, user := [], password := none, host := none, port := none,
      path := path, query := none, fragment := none }
  withEnd u false rest

/-- The address of a text. -/
def parse (text : String) : Except Fault Url :=
  match scheme? (significant text.toList) with
  | none => .error .noScheme
  | some (scheme, rest) =>
    if scheme = "file".toList then file rest
    else if isWebScheme scheme then
      withHost scheme true (rest.dropWhile fun c => c == '/' || c == '\\')
    else
      match rest with
      | '/' :: '/' :: rest => withHost scheme false rest
      | rest => .ok (withoutHost scheme rest)

end ResidencePortal.Url
