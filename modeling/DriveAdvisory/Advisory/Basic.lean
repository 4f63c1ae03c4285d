/-
  What the program says to the planner, and what its skills propose to say.

  A *proposal* comes from one run of one skill and may speak about any of three axes: the speed, the
  lane, and an alert for the driver.  All proposals of a cycle become ONE *advisory*, which has each axis
  exactly once, active or not.  An axis that is not active stands at its default, so that nothing of
  an earlier cycle shows through; `Advisory.empty` is the advisory of nothing but such axes.
-/
import DriveAdvisory.Number.Binary
import DriveAdvisory.Text.Basic

namespace DriveAdvisory

/-- How many characters of an alert the driver's display shows. -/
def displayLimit : Nat := 50

/-! ## Sides and tiers -/

/-- Where to move to. -/
inductive Side
  | none
  | left
  | right
deriving DecidableEq, Repr, Inhabited

namespace Side

def all : List Side := [none, left, right]

def name : Side → String
  | none => "none"
  | left => "left"
  | right => "right"

/-- The side of a free text: blanks and case aside, and `none` for every other text. -/
def ofText (text : String) : Side :=
  let word := Text.lowerAscii (Text.trim text)
  (all.find? (·.name == word)).getD none

end Side

/-- How serious an alert is. -/
inductive Tier
  | info
  | warning
  | critical
deriving DecidableEq, Repr, Inhabited

namespace Tier

def all : List Tier := [info, warning, critical]

def name : Tier → String
  | info => "info"
  | warning => "warning"
  | critical => "critical"

/-- The place of a tier: the higher, the more serious. -/
def level : Tier → Nat
  | info => 0
  | warning => 1
  | critical => 2

/-- The more serious of two tiers. -/
def max (a b : Tier) : Tier := if a.level < b.level then b else a

/-- The tier of a free text: blanks and case aside, and `info` for every other text. -/
def ofText (text : String) : Tier :=
  let word := Text.lowerAscii (Text.trim text)
  (all.find? (·.name == word)).getD info

end Tier

/-! ## Proposals -/

/-- A proposed speed. -/
structure SpeedProposal where
  /-- In metres per second. -/
  target : Single
  /-- A tag for what asked for the speed. -/
  source : String
  confidence : Single
  /-- How many metres ahead its reason lies. -/
  ahead : Single
deriving DecidableEq

/-- A proposed change of lane. -/
structure LaneProposal where
  side : Side
  reason : String
  confidence : Single
deriving DecidableEq

/-- A proposed alert. -/
structure AlertProposal where
  text : String
  tier : Tier
  confidence : Single
deriving DecidableEq

/-- What one run of one skill proposes. -/
structure Proposal where
  /-- The skill's name. -/
  skill : String
  /-- The skill's place in the catalogue; the lower place wins ties. -/
  rank : Nat := 0
  speed : Option SpeedProposal := none
  lane : Option LaneProposal := none
  alert : Option AlertProposal := none
  reason : String := ""
deriving DecidableEq

namespace Proposal

/-- Speaks about no axis. -/
def isEmpty (p : Proposal) : Bool := p.speed.isNone && p.lane.isNone && p.alert.isNone

end Proposal

/-! ## Advisories -/

/-- What is said about the speed. -/
structure SpeedAxis where
  active : Bool := false
  target : Single := 0
  source : String := ""
  confidence : Single := 0
  ahead : Single := 0
deriving DecidableEq

/-- What is said about the lane. -/
structure LaneAxis where
  active : Bool := false
  side : Side := .none
  reason : String := ""
  confidence : Single := 0
deriving DecidableEq

/-- What the driver is alerted to. -/
structure AlertAxis where
  active : Bool := false
  text : String := ""
  tier : Tier := .info
  confidence : Single := 0
deriving DecidableEq

/-- One recommendation per axis. -/
structure Advisory where
  speed : SpeedAxis := {}
  lane : LaneAxis := {}
  alert : AlertAxis := {}
  /-- The skills that contributed, each once. -/
  skills : List String := []
  /-- Their reasons. -/
  reason : String := ""
deriving DecidableEq

/-- The active axis that says what a proposal proposes. -/
def SpeedProposal.axis (p : SpeedProposal) : SpeedAxis :=
  { active := true, target := p.target, source := p.source, confidence := p.confidence
    ahead := p.ahead }

/-- The active axis that says what a proposal proposes. -/
def LaneProposal.axis (p : LaneProposal) : LaneAxis :=
  { active := true, side := p.side, reason := p.reason, confidence := p.confidence }

/-- The active axis that says what a proposal proposes. -/
def AlertProposal.axis (p : AlertProposal) : AlertAxis :=
  { active := true, text := p.text, tier := p.tier, confidence := p.confidence }

namespace Advisory

/-- Nothing is recommended. -/
def empty : Advisory := {}

/-- Something is recommended. -/
def anyActive (a : Advisory) : Bool := a.speed.active || a.lane.active || a.alert.active

/-- The highest confidence of an active axis, zero when there is none above it. -/
def peakConfidence (a : Advisory) : Single :=
  [(a.speed.active, a.speed.confidence), (a.lane.active, a.lane.confidence),
    (a.alert.active, a.alert.confidence)].foldl
    (fun peak (active, confidence) => if active then peak.max confidence else peak) 0

end Advisory

/-! ## Equality of advisories

Advisories are compared the way their numbers are: two zeros are equal, and an advisory that holds a
NaN is equal to none, itself included. -/

def SpeedAxis.eqv (a b : SpeedAxis) : Bool :=
  a.active == b.active && a.target.eqv b.target && a.source == b.source
    && a.confidence.eqv b.confidence && a.ahead.eqv b.ahead

def LaneAxis.eqv (a b : LaneAxis) : Bool :=
  a.active == b.active && a.side == b.side && a.reason == b.reason && a.confidence.eqv b.confidence

def AlertAxis.eqv (a b : AlertAxis) : Bool :=
  a.active == b.active && a.text == b.text && a.tier == b.tier && a.confidence.eqv b.confidence

def Advisory.eqv (a b : Advisory) : Bool :=
  a.speed.eqv b.speed && a.lane.eqv b.lane && a.alert.eqv b.alert && a.skills == b.skills
    && a.reason == b.reason

end DriveAdvisory
