import ResidencePortal.Backend.Reply

/-!
# Calls to the backend

A call is one request and a way to read its reply. The line to the backend keeps what was sent and the
deliveries still to come; running a call sends its request and takes the next delivery.
-/

namespace ResidencePortal.Backend

open Text

/-- The methods of requests (`ApiMethod`). -/
inductive Method where
  | get
  | post
  | put
  | delete
deriving Repr, DecidableEq

/-- The name of a method (`ApiMethod.as_str`). -/
def Method.name : Method → String
  | .get => "GET"
  | .post => "POST"
  | .put => "PUT"
  | .delete => "DELETE"

/-- Requests of the method carry a body (`ApiMethod.carries_body`). -/
def Method.carriesBody : Method → Bool
  | .post => true
  | .put => true
  | _ => false

/-- A request to the backend (`ApiRequest`). -/
structure Request where
  method : Method
  url : String
  body : Option Json
  /-- The token that identifies the visitor. -/
  bearer : Option String

/-- What comes back for a request: a reply, or why there is none (`Transport.send`). -/
abbrev Delivery : Type := Except String Reply

/-- The line to the backend. -/
structure Line where
  /-- The deliveries to come. -/
  pending : List Delivery
  /-- The requests sent, in order. -/
  sent : List Request

/-- A line on which nothing was sent. -/
def Line.ofDeliveries (pending : List Delivery) : Line := ⟨pending, []⟩

/-- What is reported when no delivery is left. -/
def noDelivery : String := "no canned response"

/-- Sends a request and takes the next delivery. -/
def Line.send (line : Line) (request : Request) : Delivery × Line :=
  match line.pending with
  | [] => (.error noDelivery, ⟨[], line.sent ++ [request]⟩)
  | delivery :: rest => (delivery, ⟨rest, line.sent ++ [request]⟩)

/-- A request and how to read its reply. -/
structure Call (α : Type) where
  request : Request
  decode : Reply → Except Failure α

namespace Call

variable {α β : Type}

/-- The result of a call for a delivery. -/
def receive (c : Call α) : Delivery → Except Failure α
  | .ok reply => c.decode reply
  | .error reason => .error (.transport reason)

/-- Runs a call on the line. -/
def run (c : Call α) (line : Line) : Except Failure α × Line :=
  let (delivery, line) := line.send c.request
  (c.receive delivery, line)

/-- A call sends its request and no other. -/
theorem sent_run (c : Call α) (line : Line) : (c.run line).2.sent = line.sent ++ [c.request] := by
  unfold run Line.send
  cases line.pending <;> rfl

/-- A call takes the next delivery and no other. -/
theorem pending_run (c : Call α) (line : Line) : (c.run line).2.pending = line.pending.tail := by
  unfold run Line.send
  cases line.pending <;> rfl

/-- A call whose result is treated further. -/
def andThen (c : Call α) (f : α → Except Failure β) : Call β :=
  ⟨c.request, fun reply => c.decode reply >>= f⟩

end Call

/-- Who calls the backend: its address, and the token of the visitor (`ApiClient`). -/
structure Client where
  baseUrl : String
  bearer : Option String
deriving Repr, DecidableEq

namespace Client

/-- The client of an address, of which slashes at the end are dropped (`ApiClient.new`). -/
def ofUrl (url : String) : Client := ⟨dropTrailing '/' url, none⟩

/-- The client for the holder of a token (`ApiClient.with_bearer`). -/
def withBearer (c : Client) (token : Option String) : Client := { c with bearer := token }

/-- The request to an endpoint; the payload is dropped if the method carries none. -/
def request (c : Client) (endpoint : String) (method : Method) (payload : Option Json) : Request :=
  ⟨method, c.baseUrl ++ endpoint, if method.carriesBody then payload else none, c.bearer⟩

/-- The call of an endpoint (`ApiClient.request`). -/
def call (c : Client) (endpoint : String) (method : Method) (payload : Option Json) : Call Json :=
  ⟨c.request endpoint method payload, Reply.normalize⟩

end Client

end ResidencePortal.Backend
