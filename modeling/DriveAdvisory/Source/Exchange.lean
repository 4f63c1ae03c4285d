/-
  What goes over the network, as data.

  A source turns a query into a `Request` and what comes back into an answer; it never sends anything
  itself.  The transport is a function: what comes back may depend on the request and on all requests
  before it, and nothing is said about how.  So every law about sources holds for every transport, one
  that loses each request included.
-/
import DriveAdvisory.Fault
import DriveAdvisory.Json.Reader

namespace DriveAdvisory

/-- What a request does. -/
inductive Method
  | get
  | head
  | post
deriving DecidableEq, Repr

def Method.name : Method → String
  | get => "GET"
  | head => "HEAD"
  | post => "POST"

/-- A request, its texts not yet escaped. -/
structure Request where
  method : Method := .get
  address : String
  query : List (String × String) := []
  headers : List (String × String) := []
  body : Option Json := none

/-- What was received. -/
structure Response where
  status : Nat
  text : String
deriving DecidableEq, Repr

/-- What came of a request: a response, unless the exchange failed, and how long that took. -/
structure Exchange where
  response : Option Response
  took : Duration := 0
deriving DecidableEq, Repr

/-- What comes of a request, given the requests before it, the latest first. -/
abbrev Transport := List Request → Request → Exchange

/-- The transport that loses every request at once. -/
def Transport.down : Transport := fun _ _ => ⟨none, 0⟩

/-- The name under which requests are made. -/
def agentName : String := "roadwise/0.1.0"

namespace Response

/-- The status does not say that the request failed. -/
def accepted (r : Response) : Bool := !(400 ≤ r.status ∧ r.status < 600)

end Response

namespace Exchange

/-- The exchange as far as it came in time: one that takes longer is given up. -/
def within (limit : Duration) (e : Exchange) : Exchange :=
  if e.took ≤ limit then e else ⟨none, limit⟩

/-- The document that was received, if an accepted response holds one. -/
def document? (e : Exchange) : Option Json :=
  (e.response.filter Response.accepted).bind fun r => Json.read? r.text

/-- The document that was received. -/
def document (e : Exchange) : Except SourceFault Json :=
  match e.document? with
  | some body => .ok body
  | none => .error .exchange

end Exchange

end DriveAdvisory
