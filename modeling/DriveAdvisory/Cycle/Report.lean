/-
  What a cycle goes through, and what it reports when it is over.
-/
import DriveAdvisory.Advisory.Document
import DriveAdvisory.Fault

namespace DriveAdvisory

/-- The phases of a cycle.  The last two are not the cycle's own: filtering and publishing happen where its
    report is taken in. -/
inductive Phase
  | idle
  | buildingContext
  | awaitingReasoning
  | executing
  | merging
  | filtering
  | published
deriving DecidableEq, Repr, Inhabited

namespace Phase

def all : List Phase :=
  [idle, buildingContext, awaitingReasoning, executing, merging, filtering, published]

def name : Phase → String
  | idle => "idle"
  | buildingContext => "building_context"
  | awaitingReasoning => "awaiting_reasoning"
  | executing => "executing_capabilities"
  | merging => "merging"
  | filtering => "filtering"
  | published => "published"

/-- The phase of a name, and `idle` for every other text. -/
def ofName (name : String) : Phase := (all.find? (·.name == name)).getD idle

end Phase

/-- How a cycle ended. -/
inductive Ending
  /-- Something was proposed. -/
  | advised
  /-- The engine answered, and nothing was proposed. -/
  | noCandidates
  /-- The engine was not asked. -/
  | skipped
  /-- The engine did not answer. -/
  | reasoningFailed
deriving DecidableEq, Repr, Inhabited

def Ending.name : Ending → String
  | advised => "Advised"
  | noCandidates => "NoCandidates"
  | skipped => "Skipped"
  | reasoningFailed => "ReasoningFailed"

/-- What a cycle reports. -/
structure Report where
  /-- The phases it entered, in order. -/
  phases : List Phase := []
  /-- The advisory it came to, if the engine answered. -/
  merged : Option Advisory := none
  proposals : List Proposal := []
  backend : String := ""
  degraded : Bool := false
  /-- How long the engine took. -/
  latency : Duration := 0
  summary : String := ""
  ending : Ending := .skipped
  fault : Option Fault := none

/-- Notes a phase. -/
def Report.enter (phase : Phase) (r : Report) : Report := { r with phases := r.phases ++ [phase] }

end DriveAdvisory
