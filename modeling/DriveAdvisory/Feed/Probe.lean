/-
  Whether the reasoning endpoint can be reached.

  Not being reached is an answer here, not a failure, and it is kept like any other answer.
-/

namespace DriveAdvisory

/-- What a probe found. -/
structure Reachability where
  reachable : Bool
  /-- The round trip; none when the endpoint is out of reach. -/
  latencyMillis : Option Nat
deriving DecidableEq, Repr

namespace Reachability

def unreachable : Reachability := ⟨false, none⟩

/-- A word for the latency. -/
def quality (r : Reachability) : String :=
  match r.latencyMillis with
  | none => "offline"
  | some ms => if ms < 300 then "good" else if ms < 1000 then "fair" else "poor"

end Reachability

end DriveAdvisory
