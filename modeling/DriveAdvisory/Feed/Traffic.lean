/-
  Traffic events of the state's road feed.

  The feed answers with every active event of the state in one array, so there is one answer for all
  queries and the search around the vehicle is ours.
-/
import DriveAdvisory.Feed.Rows
import DriveAdvisory.Geo.Nearby

namespace DriveAdvisory

/-- How badly an event disturbs traffic. -/
inductive Impact
  | critical
  | major
  | moderate
  | minor
  | unknown
deriving DecidableEq, Repr, Inhabited

namespace Impact

def all : List Impact := [critical, major, moderate, minor, unknown]

def name : Impact → String
  | critical => "Critical"
  | major => "Major"
  | moderate => "Moderate"
  | minor => "Minor"
  | unknown => "Unknown"

/-- The place of an impact: the lower, the worse. -/
def order : Impact → Nat
  | critical => 0
  | major => 1
  | moderate => 2
  | minor => 3
  | unknown => 4

/-- The impact of a text: blanks around it aside, and `unknown` for every other text. -/
def ofText (text : String) : Impact := (all.find? (·.name == Text.trim text)).getD unknown

end Impact

/-- A traffic event. -/
structure TrafficEvent where
  id : String := ""
  latitude : Double := 0
  longitude : Double := 0
  roadway : String := ""
  direction : String := ""
  /-- The feed's word for what happened. -/
  kind : String := ""
  severity : String := ""
  description : String := ""
  location : String := ""
deriving DecidableEq, Inhabited

namespace TrafficEvent

def impact (e : TrafficEvent) : Impact := Impact.ofText e.severity

/-- An event for which to slow down. -/
def isSlowdown (e : TrafficEvent) : Bool :=
  e.kind == "accidentsAndIncidents" || e.kind == "roadwork" || e.kind == "closures"
    || e.kind == "winterDrivingIndex"

def isClosure (e : TrafficEvent) : Bool := e.kind == "closures"

/-- What the driver is told. -/
def label (e : TrafficEvent) : String :=
  match e.kind with
  | "accidentsAndIncidents" => "Accident"
  | "roadwork" => "Road work"
  | "closures" => "Road closure"
  | "specialEvents" => "Special event"
  | "winterDrivingIndex" => "Weather hazard"
  | _ => "Traffic event"

instance : Located TrafficEvent :=
  ⟨fun e => Point.fix? e.latitude e.longitude, fun e => some e.direction, fun e => some e.roadway⟩

def decode : Decoder TrafficEvent := Fields.record "TrafficEvent"
  (TrafficEvent.mk <$> .looseString "ID" <*> .looseDouble "Latitude" <*> .looseDouble "Longitude"
    <*> .looseString "RoadwayName" <*> .looseString "DirectionOfTravel" <*> .looseString "EventType"
    <*> .looseString "Severity" <*> .looseString "Description" <*> .looseString "Location")

/-- What a document is called by this feed's complaints. -/
def shapeName : Json → String
  | .null => "null"
  | .bool _ => "bool"
  | .number _ => "number"
  | .string _ => "string"
  | .array _ => "array"
  | .object _ => "object"

/-- The events of an answer, which is an array of them. -/
def ofBody (body : Json) : Except SourceFault (List TrafficEvent) :=
  match body with
  | .array _ => decodeBody "fl511 events" (.list decode) body
  | other => .error (.badResponse ("fl511: expected array, got " ++ shapeName other))

end TrafficEvent

end DriveAdvisory
