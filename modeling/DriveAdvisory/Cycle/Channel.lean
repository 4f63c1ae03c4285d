/-
  The two channels that others read: the advisory for the planner, and the state of the program for people.

  A channel holds its latest value alone.  Readers look whenever they like and miss what was replaced; a
  reader is told that there is something new when the channel's count of changes is not the one that he
  last saw.  Every advisory counts as a change.  A status counts only if it differs from the one before,
  so that saying the same again wakes nobody.
-/
import DriveAdvisory.Cycle.Report
import DriveAdvisory.Time.Calendar

namespace DriveAdvisory

/-! ## Advisories -/

/-- A published advisory. -/
structure Message where
  /-- Which one it is, from one; zero stands for none yet. -/
  seq : Nat := 0
  publishedAt : Moment
  advisory : Advisory := .empty
deriving DecidableEq

instance : ToJson Message := ⟨fun m => Json.ofMembers
  [("seq", toJson m.seq), ("published_at", .string m.publishedAt.documentText),
    ("speed", toJson m.advisory.speed), ("lane", toJson m.advisory.lane),
    ("alert", toJson m.advisory.alert), ("capabilities", toJson m.advisory.skills),
    ("reason", toJson m.advisory.reason)]⟩

/-- The channel of advisories.  The number of the latest message is also the count of changes. -/
structure AdvisoryChannel where
  latest : Message
deriving DecidableEq

namespace AdvisoryChannel

/-- A channel on which nothing was published. -/
def opened (now : Moment) : AdvisoryChannel := ⟨{ publishedAt := now }⟩

/-- Publishes an advisory. -/
def publish (now : Moment) (a : Advisory) (c : AdvisoryChannel) : AdvisoryChannel :=
  ⟨⟨c.latest.seq + 1, now, a⟩⟩

end AdvisoryChannel

/-! ## Status -/

/-- How the program is. -/
inductive AgentState
  | initializing
  /-- The engine of first choice answers. -/
  | active
  /-- Another engine answers. -/
  | degraded
  /-- No cycles are run. -/
  | disabled
  /-- The engine did not answer last time. -/
  | error
deriving DecidableEq, Repr, Inhabited

namespace AgentState

def all : List AgentState := [initializing, active, degraded, disabled, error]

def name : AgentState → String
  | initializing => "initializing"
  | active => "active"
  | degraded => "degraded"
  | disabled => "disabled"
  | error => "error"

/-- The state of a name, and `initializing` for every other text. -/
def ofName (name : String) : AgentState := (all.find? (·.name == name)).getD initializing

end AgentState

/-- The state of the program. -/
structure Status where
  state : AgentState := .initializing
  backend : String := ""
  latencyMillis : Nat := 0
  summary : String := ""
  phase : Phase := .idle
deriving DecidableEq, Repr

instance : ToJson Status := ⟨fun s => Json.ofMembers
  [("state", toJson s.state.name), ("backend", toJson s.backend),
    ("latency_ms", toJson s.latencyMillis), ("summary", toJson s.summary),
    ("phase", toJson s.phase.name)]⟩

namespace Status

/-- How many characters of a summary are shown. -/
def summaryLimit : Nat := 200

/-- The status as it is shown. -/
def shown (s : Status) : Status := { s with summary := Text.cut summaryLimit s.summary }

end Status

/-- The channel of the status. -/
structure StatusChannel where
  latest : Status := {}
  /-- How often the value changed. -/
  changes : Nat := 0
deriving DecidableEq, Repr

namespace StatusChannel

/-- Puts a value; one that is there already changes nothing. -/
def put (s : Status) (c : StatusChannel) : StatusChannel :=
  if c.latest = s then c else ⟨s, c.changes + 1⟩

/-- Publishes a status, its summary cut. -/
def publish (s : Status) (c : StatusChannel) : StatusChannel := c.put s.shown

/-- Publishes a phase alone. -/
def setPhase (phase : Phase) (c : StatusChannel) : StatusChannel := c.put { c.latest with phase }

end StatusChannel

/-! ## Readers -/

/-- The counts that a reader last saw. -/
structure Reader where
  seenAdvisory : Nat := 0
  seenStatus : Nat := 0
deriving DecidableEq, Repr

namespace Reader

/-- A new advisory is there. -/
def hasAdvisory (r : Reader) (c : AdvisoryChannel) : Bool := r.seenAdvisory != c.latest.seq

/-- A new status is there. -/
def hasStatus (r : Reader) (c : StatusChannel) : Bool := r.seenStatus != c.changes

/-- The reader after he looked at both. -/
def look (a : AdvisoryChannel) (s : StatusChannel) : Reader := ⟨a.latest.seq, s.changes⟩

end Reader

end DriveAdvisory
