import ResidencePortal.Domain.Name
import ResidencePortal.Url.Encoding
import ResidencePortal.Url.Fault
import ResidencePortal.Url.Ipv4
import ResidencePortal.Url.Ipv6

/-!
# Hosts

Who an address leads to. Behind a scheme of the web a host is a domain name or a numeric address; other
schemes take the text as it is.
-/

namespace ResidencePortal.Url

open Text

/-- A host. -/
inductive Host where
  | domain (name : List Char)
  | ipv4 (address : Nat)
  | ipv6 (pieces : List Nat)
deriving Repr, DecidableEq

namespace Host

/-- The host as it stands in an address. -/
def chars : Host → List Char
  | .domain name => name
  | .ipv4 address => Ipv4.chars address
  | .ipv6 pieces => Ipv6.chars pieces

/-- The host behind an opening bracket. -/
def bracketed (inner : List Char) : Except Fault Host :=
  match inner.reverse with
  | ']' :: rest =>
    match Ipv6.parse? rest.reverse with
    | some pieces => .ok (.ipv6 pieces)
    | none => .error .badIpv6
  | _ => .error .badIpv6

/-- The characters that percent-coded bytes stand for, if they are UTF-8. -/
def decoded? (cs : List Char) : Option (List Char) :=
  let bytes := Percent.unescape (fun _ => false) (charBytes cs)
  let text := decodeFrom none bytes
  if charBytes text = bytes then some text else none

/-- The host behind a scheme of the web. -/
def ofWeb (cs : List Char) : Except Fault Host :=
  match cs with
  | '[' :: inner => bracketed inner
  | cs =>
    match (decoded? cs).bind Domain.toAscii? with
    | none => .error .badDomain
    | some [] => .error .emptyHost
    | some name =>
      if Ipv4.isNumeric name then
        match Ipv4.parse? name with
        | some address => .ok (.ipv4 address)
        | none => .error .badIpv4
      else .ok (.domain name)

/-- A character that no host has. -/
def isForbidden (c : Char) : Bool := "\x00\t\n\r #/:<>?@[\\]^|".toList.contains c

/-- The host behind another scheme. -/
def ofOther (cs : List Char) : Except Fault Host :=
  match cs with
  | '[' :: inner => bracketed inner
  | cs => if cs.any isForbidden then .error .badDomainChar else .ok (.domain (CodedSet.controls.encode cs))

end Host

end ResidencePortal.Url
