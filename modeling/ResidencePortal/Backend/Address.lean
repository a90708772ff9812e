import ResidencePortal.Backend.Call
import ResidencePortal.Url.Reader

/-!
# Requests that cannot be sent

A request is refused before anything is sent if its address or its token cannot be written into a
request. First the address must be one and have a host; then the token must fit into a header; then the
scheme must be one that requests are sent by, and the address must be writable as the target of a
request. The first fault in that order counts.
-/

namespace ResidencePortal.Backend

open Text

/-- Why a request cannot be sent. -/
inductive Obstacle where
  | badAddress (fault : Url.Fault)
  /-- The scheme has no host, or is not one that requests are sent by. -/
  | badScheme (url : Url)
  | badToken
  /-- The address holds what the target of a request cannot. -/
  | badTarget (url : Url)
deriving Repr, DecidableEq

/-- The sentence for an obstacle. -/
def Obstacle.message : Obstacle → String
  | .badAddress fault => "builder error: " ++ fault.message
  | .badScheme url =>
    "builder error for url (" ++ String.ofList url.chars ++ "): URL scheme is not allowed"
  | .badToken => "builder error: failed to parse header value"
  | .badTarget url =>
    "builder error for url (" ++ String.ofList url.chars ++ "): Parsed Url is not a valid Uri"

/-- The address as it is sent: user and password move into a header, if they can be read as text. -/
def sentUrl (url : Url) : Url :=
  match Url.Host.decoded? url.user with
  | none => url
  | some user =>
    if !user.isEmpty || (url.password.bind Url.Host.decoded?).isSome then url.withoutUser else url

/-- Requests are sent by the scheme. -/
def isSendable (url : Url) : Bool := url.scheme = "http".toList || url.scheme = "https".toList

/-- The longest target of a request, in bytes. -/
def targetLimit : Nat := 65534

/-- The address can be written as the target of a request. -/
def isTarget (url : Url) : Bool :=
  !((url.host.map Url.Host.chars).getD []).any (fun c => "\"`\x7b\x7d".toList.contains c) &&
    url.chars.length ≤ targetLimit

/-- Why a request cannot be sent (`ReqwestTransport.send`). -/
def Request.obstacle? (r : Request) : Option Obstacle :=
  match Url.parse r.url with
  | .error fault => some (.badAddress fault)
  | .ok url =>
    if url.host.isNone then some (.badScheme url)
    else if r.bearer.any fun token => token.toList.any breaksHeader then some .badToken
    else
      let url := sentUrl url
      if !isSendable url then some (.badScheme url)
      else if !isTarget url then some (.badTarget url)
      else none

end ResidencePortal.Backend
