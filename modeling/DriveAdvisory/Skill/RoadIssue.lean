/-
  Road issues: what the engine sees on the road is recorded, and the driver is warned.

  The sighting is stored once, however often it is reported; the warning is given each time, because a
  known pothole is still in front of the car.
-/
import DriveAdvisory.Skill.Basic

namespace DriveAdvisory

/-! ## Arguments -/

/-- A report.  Issue, severity and lane are free texts, so that a report with a word nobody knows is kept
    as some other issue rather than lost. -/
structure RoadIssueArguments where
  issue : String
  severity : String
  lane : Option String
  description : String
  confidence : Single
deriving DecidableEq

namespace RoadIssueArguments

def arguments : Arguments RoadIssueArguments :=
  RoadIssueArguments.mk
    <$> .required "issue_type" (.suggestion Issue.all Issue.name)
      (some "Closed set of reportable road issues.")
    <*> .required "severity" (.suggestion Severity.all Severity.name)
    <*> .optional "lane_position" (.suggestion Lane.all Lane.name)
      (some "Where on the carriageway an issue was seen.")
    <*> .required "description" .text
      (some "What is visible, e.g. \"large pothole near lane marking\".")
    <*> .required "confidence" .single (some "Detection confidence from 0.0 to 1.0.")

def title : String := "RoadIssueParams"

def note : String := ("Enum-valued fields arrive as free strings and are coerced, so a model that invents "
      ++ "a category still gets its report stored as `other`.")

def decode : Decoder RoadIssueArguments := arguments.decode title

/-- The sighting that is reported, at the place and speed of the snapshot. -/
def sighting (a : RoadIssueArguments) (stamp : Stamp) (s : Snapshot) : Sighting :=
  let made := Sighting.make stamp.id stamp.seenAt stamp.clock (Issue.ofText a.issue)
    (Severity.ofText a.severity) a.description a.confidence
  let fix := s.fix.getD {}
  { made with
    latitude := fix.lat, longitude := fix.lon, accuracy := fix.accuracy, bearing := fix.bearing
    speed := s.motion.speed
    road := s.road.name.filter (· != "")
    lane := (a.lane.map Lane.ofText).getD .unknown }

end RoadIssueArguments

/-! ## The warning -/

/-- The name of a severity in a report. -/
def Severity.title : Severity → String
  | minor => "Minor"
  | moderate => "Moderate"
  | severe => "Severe"

/-- The name of a lane in a report. -/
def Lane.title : Lane → String
  | left => "LeftLane"
  | center => "CenterLane"
  | right => "RightLane"
  | shoulder => "Shoulder"
  | median => "Median"
  | unknown => "Unknown"

/-- The lane in plain words. -/
def Lane.words : Lane → String
  | left => "left lane"
  | center => "center lane"
  | right => "right lane"
  | shoulder => "shoulder"
  | median => "median"
  | unknown => "unknown"

/-- The share of the reference speed to shed. -/
def Severity.reduction : Severity → Single
  | severe => 0.30
  | moderate => 0.15
  | minor => 0

/-- The side to move to, away from a lane. -/
def Lane.away : Lane → Option Side
  | center | right => some .left
  | left => some .right
  | shoulder | median | unknown => none

namespace RoadIssue

def skillName : String := "report_road_issue"

/-- What is in the picture is close, in metres. -/
def aheadMetres : Single := 100

/-- The confidence in a lane change, as a share of the confidence in the sighting. -/
def laneShare : Single := 0.8

/-- What the driver is told. -/
def warning (s : Sighting) : AlertProposal :=
  let (text, tier) := match s.severity with
    | .severe => (s.issue.label ++ " ahead - caution", Tier.critical)
    | .moderate => (s.issue.label ++ " reported", Tier.warning)
    | .minor => (s.issue.label ++ " noted", Tier.info)
  ⟨Text.cut displayLimit text, tier, s.confidence⟩

/-- The speed proposed, where the issue calls for less and lies where the vehicle may drive. -/
def slowdown? (s : Sighting) (motion : Motion) : Option SpeedProposal :=
  let reduction := s.severity.reduction
  let base := motion.reference
  if 0 < reduction ∧ s.lane.isTravelled ∧ 0 < base then
    some ⟨base * (1 - reduction), "road_maintenance_" ++ s.issue.name, s.confidence, aheadMetres⟩
  else none

/-- The side proposed: away from a severe issue. -/
def avoidance? (s : Sighting) : Option LaneProposal :=
  if s.severity = .severe then
    s.lane.away.map fun side =>
      ⟨side, s.issue.label ++ " in " ++ s.lane.words, s.confidence * laneShare⟩
  else none

/-- What is proposed for a sighting, new or not. -/
def respond (s : Sighting) (motion : Motion) : Proposal :=
  { skill := skillName, alert := some (warning s), speed := slowdown? s motion
    lane := avoidance? s }

/-- What was done with a sighting. -/
def report (s : Sighting) (reception : Reception) : String :=
  let repeated := reception = .repeated
  Text.join " | " <|
    [(if repeated then "Duplicate skipped" else "Recorded") ++ ": " ++ s.issue.label ++ " ("
        ++ s.severity.title ++ ")",
      match s.place with
      | some p => "Location: " ++ p.lat.places 6 ++ ", " ++ p.lon.places 6
      | none => "Location: no GPS fix"]
      ++ (s.road.map ("Road: " ++ ·)).toList
      ++ ["Lane: " ++ s.lane.title]
      ++ if repeated then [] else ["Report ID: " ++ Identifier.text s.id]

/-- Records the sighting and warns of it. -/
def act (surroundings : Surroundings) (a : RoadIssueArguments) (s : Snapshot) :
    StateM World Proposal := fun w =>
  let sighting := a.sighting (surroundings.stamp w.sightings) s
  let (reception, store) := w.store.record surroundings.sources.globe sighting
  ({ respond sighting s.motion with reason := report sighting reception },
    { w with store, sightings := w.sightings + 1 })

end RoadIssue

namespace Skill

def roadIssue : Skill Run where
  name := RoadIssue.skillName
  description :=
    "Report a road defect visible in the frame (pothole, crack, debris, faded markings, "
      ++ "damaged sign or guardrail, drainage or shoulder damage). The report is stored for "
      ++ "maintenance crews and yields caution advisories."
  schema := (RoadIssueArguments.arguments.schema RoadIssueArguments.title
    (some RoadIssueArguments.note)).toJson
  run := runWith RoadIssue.skillName RoadIssueArguments.decode RoadIssue.act

end Skill

end DriveAdvisory
