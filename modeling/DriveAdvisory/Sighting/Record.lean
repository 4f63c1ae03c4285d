/-
  Sightings: road issues that were seen from the vehicle.

  A sighting is written once and never changed.  It carries two clocks: the wall clock, for people, and a
  clock that only runs forward, by which ages are measured.  Coordinates of zero and zero stand for
  "no fix"; `Sighting.place` is the only place where that is decided.
-/
import DriveAdvisory.Advisory.Document
import DriveAdvisory.Geo.Point
import DriveAdvisory.Text.Identifier
import DriveAdvisory.Time.Calendar

namespace DriveAdvisory

/-! ## Kinds, severities and lanes -/

/-- What can be seen. -/
inductive Issue
  | pothole
  | crack
  | surfaceDamage
  | debris
  | fadedMarkings
  | damagedSign
  | brokenGuardrail
  | drainage
  | shoulderDamage
  | other
deriving DecidableEq, Repr, Inhabited

namespace Issue

def all : List Issue :=
  [pothole, crack, surfaceDamage, debris, fadedMarkings, damagedSign, brokenGuardrail, drainage,
    shoulderDamage, other]

def name : Issue → String
  | pothole => "pothole"
  | crack => "crack"
  | surfaceDamage => "surface_damage"
  | debris => "debris"
  | fadedMarkings => "faded_markings"
  | damagedSign => "damaged_sign"
  | brokenGuardrail => "broken_guardrail"
  | drainage => "drainage_issue"
  | shoulderDamage => "shoulder_damage"
  | other => "other"

/-- What the driver is told. -/
def label : Issue → String
  | pothole => "Pothole"
  | crack => "Road crack"
  | surfaceDamage => "Surface damage"
  | debris => "Debris"
  | fadedMarkings => "Faded markings"
  | damagedSign => "Damaged sign"
  | brokenGuardrail => "Broken guardrail"
  | drainage => "Drainage issue"
  | shoulderDamage => "Shoulder damage"
  | other => "Road issue"

/-- The issue of a free text: blanks and case aside, and `other` for every other text. -/
def ofText (text : String) : Issue :=
  let word := Text.lowerAscii (Text.trim text)
  (all.find? (·.name == word)).getD other

def decode : Decoder Issue := Decoder.named all name

end Issue

/-- How bad it is. -/
inductive Severity
  | minor
  | moderate
  | severe
deriving DecidableEq, Repr, Inhabited

namespace Severity

def all : List Severity := [minor, moderate, severe]

def name : Severity → String
  | minor => "minor"
  | moderate => "moderate"
  | severe => "severe"

/-- The severity of a free text: blanks and case aside, and `minor` for every other text. -/
def ofText (text : String) : Severity :=
  let word := Text.lowerAscii (Text.trim text)
  (all.find? (·.name == word)).getD minor

def decode : Decoder Severity := Decoder.named all name

end Severity

/-- Where on the carriageway it is. -/
inductive Lane
  | left
  | center
  | right
  | shoulder
  | median
  | unknown
deriving DecidableEq, Repr, Inhabited

namespace Lane

def all : List Lane := [left, center, right, shoulder, median, unknown]

def name : Lane → String
  | left => "left_lane"
  | center => "center_lane"
  | right => "right_lane"
  | shoulder => "shoulder"
  | median => "median"
  | unknown => "unknown"

/-- The lane of a free text: blanks and case aside, and `unknown` for every other text. -/
def ofText (text : String) : Lane :=
  let word := Text.lowerAscii (Text.trim text)
  (all.find? (·.name == word)).getD unknown

/-- The vehicle may be driving there; an unknown lane counts. -/
def isTravelled : Lane → Bool
  | left | center | right | unknown => true
  | shoulder | median => false

def decode : Decoder Lane := Decoder.named all name

end Lane

instance : ToJson Issue := ⟨fun a => .string a.name⟩
instance : ToJson Severity := ⟨fun a => .string a.name⟩
instance : ToJson Lane := ⟨fun a => .string a.name⟩

/-! ## Sightings -/

/-- How many characters of a description are kept. -/
def descriptionLimit : Nat := 500

/-- A road issue that was seen. -/
structure Sighting where
  id : Identifier
  seenAt : Moment
  /-- Seconds on the clock that only runs forward. -/
  clock : Double
  latitude : Double := 0
  longitude : Double := 0
  /-- The accuracy of the fix in metres. -/
  accuracy : Single := 0
  /-- The heading in degrees. -/
  bearing : Single := 0
  /-- The vehicle's speed in metres per second. -/
  speed : Single := 0
  road : Option String := none
  issue : Issue
  severity : Severity
  lane : Lane := .unknown
  description : String
  confidence : Single
deriving DecidableEq

namespace Sighting

/-- A confidence held to `[0, 1]`; what is not finite counts as none. -/
def heldConfidence (confidence : Single) : Single :=
  if confidence.isFinite then confidence.clamp 0 1 else 0

/-- A new sighting without a place. -/
def make (id : Identifier) (seenAt : Moment) (clock : Double) (issue : Issue) (severity : Severity)
    (description : String) (confidence : Single) : Sighting :=
  { id, seenAt, clock, issue, severity
    description := Text.cut descriptionLimit description
    confidence := heldConfidence confidence }

/-- Where it was seen, if there was a fix. -/
def place (s : Sighting) : Option Point := Point.fix? s.latitude s.longitude

instance : ToJson Identifier := ⟨fun id => .string (Identifier.text id)⟩

/-- A moment that is reported by itself.  Records write theirs as `Moment.documentText`. -/
instance : ToJson Moment := ⟨fun m => .string m.text⟩

/-- An identifier as a document. -/
def decodeId : Decoder Identifier := fun j =>
  match j with
  | .string text => match Identifier.ofText? text with
    | some id => .ok id
    | none => .error .badIdentifier
  | other => .error (.wrongType other.kind "a formatted UUID string")

/-- A moment as a document. -/
def decodeMoment : Decoder Moment := fun j =>
  match j with
  | .string text => match Moment.ofText? text with
    | some m => .ok m
    | none => .error .badTime
  | other => .error (.wrongType other.kind "an RFC 3339 formatted date and time string")

instance : ToJson Sighting := ⟨fun s => Json.ofMembers
  [("id", toJson s.id), ("timestamp", .string s.seenAt.documentText), ("monotonic_s", toJson s.clock),
    ("latitude", toJson s.latitude), ("longitude", toJson s.longitude),
    ("accuracy_m", toJson s.accuracy), ("bearing_deg", toJson s.bearing),
    ("speed_ms", toJson s.speed), ("road_name", toJson s.road), ("category", toJson s.issue),
    ("severity", toJson s.severity), ("lane_position", toJson s.lane),
    ("description", toJson s.description), ("confidence", toJson s.confidence)]⟩

def decode : Decoder Sighting := Fields.record "ObservationRecord"
  (Sighting.mk <$> .required "id" decodeId <*> .required "timestamp" decodeMoment
    <*> .required "monotonic_s" .double <*> .required "latitude" .double
    <*> .required "longitude" .double <*> .required "accuracy_m" .single
    <*> .required "bearing_deg" .single <*> .required "speed_ms" .single
    <*> .optional "road_name" .string <*> .required "category" Issue.decode
    <*> .required "severity" Severity.decode <*> .required "lane_position" Lane.decode
    <*> .required "description" .string <*> .required "confidence" .single)

end Sighting

end DriveAdvisory
