import ResidencePortal.Url.Host

/-!
# Addresses

An address in its parts, and its text. The parts are kept as they are written in the text, percent-coded
where their place asks for it.
-/

namespace ResidencePortal

/-- An address. -/
structure Url where
  scheme : List Char
  /-- Whether two slashes introduce user, host and port. -/
  hasAuthority : Bool
  user : List Char
  password : Option (List Char)
  host : Option Url.Host
  port : Option Nat
  path : List Char
  query : Option (List Char)
  fragment : Option (List Char)
deriving Repr, DecidableEq

namespace Url

open Text

/-- A scheme of the web, other than that of files. -/
def isWebScheme (scheme : List Char) : Bool :=
  ["http", "https", "ws", "wss", "ftp"].any fun s => s.toList = scheme

/-- The port that need not be written. -/
def defaultPort? (scheme : List Char) : Option Nat :=
  match String.ofList scheme with
  | "http" => some 80
  | "ws" => some 80
  | "https" => some 443
  | "wss" => some 443
  | "ftp" => some 21
  | _ => none

/-- The part in front of the path. -/
def authorityChars (u : Url) : List Char :=
  let user := u.user ++ (u.password.map (':' :: ·)).getD []
  let host := (u.host.map Host.chars).getD []
  let port := (u.port.map fun n => ':' :: natChars n).getD []
  ['/', '/'] ++ user ++ (if user.isEmpty then [] else ['@']) ++ host ++ port

/-- The text of an address. A path that starts with two slashes gets `/.` in front if it could be taken
for a host. -/
def chars (u : Url) : List Char :=
  let front := if u.hasAuthority then u.authorityChars
    else if ['/', '/'].isPrefixOf u.path then ['/', '.'] else []
  u.scheme ++ [':'] ++ front ++ u.path ++ (u.query.map ('?' :: ·)).getD [] ++
    (u.fragment.map ('#' :: ·)).getD []

/-- The address without user and password. -/
def withoutUser (u : Url) : Url := { u with user := [], password := none }

end Url

end ResidencePortal
