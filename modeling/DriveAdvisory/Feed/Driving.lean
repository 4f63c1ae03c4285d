/-
  Turn-by-turn driving routes.
-/
import DriveAdvisory.Feed.Rows

namespace DriveAdvisory

/-- One step of a route. -/
structure RouteStep where
  instruction : String
  distance : Double
  duration : Double
deriving DecidableEq

/-- A route to drive, in metres and seconds. -/
structure DrivingRoute where
  distance : Double
  duration : Double
  steps : List RouteStep
deriving DecidableEq

namespace DrivingRoute

def miles (r : DrivingRoute) : Double := metresToMiles r.distance

/-- Length and time in one line. -/
def summary (r : DrivingRoute) : String :=
  r.miles.places 1 ++ " mi, ~" ++ (r.duration / 60).round.places 0 ++ " min"

/-! ## Answers of the router -/

/-- What to do at the start of a step. -/
structure Manoeuvre where
  kind : String := ""
  modifier : String := ""

structure RawStep where
  name : String := ""
  distance : Double := 0
  duration : Double := 0
  manoeuvre : Manoeuvre := {}

structure RawRoute where
  distance : Double := 0
  duration : Double := 0
  legs : List (List RawStep) := []

structure RawAnswer where
  code : String := ""
  routes : List RawRoute := []

def Manoeuvre.decode : Decoder Manoeuvre := Fields.record "Maneuver"
  (Manoeuvre.mk <$> .looseString "type" <*> .looseString "modifier")

def RawStep.decode : Decoder RawStep := Fields.record "RawStep"
  (RawStep.mk <$> .looseString "name" <*> .defaulted "distance" .double 0
    <*> .defaulted "duration" .double 0 <*> .defaulted "maneuver" Manoeuvre.decode {})

/-- A leg is its steps. -/
def decodeLeg : Decoder (List RawStep) :=
  Fields.record "RawLeg" (.defaulted "steps" (.list RawStep.decode) [])

def RawRoute.decode : Decoder RawRoute := Fields.record "RawRoute"
  (RawRoute.mk <$> .defaulted "distance" .double 0 <*> .defaulted "duration" .double 0
    <*> .defaulted "legs" (.list decodeLeg) [])

def RawAnswer.decode : Decoder RawAnswer := Fields.record "RouteResponse"
  (RawAnswer.mk <$> .looseString "code" <*> .defaulted "routes" (.list RawRoute.decode) [])

/-! ## Instructions -/

/-- What to do, by the kind of the step, its direction and the road's name. -/
def action (kind modifier name : String) : String :=
  let named := name != ""
  match kind with
  | "depart" => if named then "Head " ++ modifier ++ " on " ++ name else "Depart " ++ modifier
  | "arrive" => "Arrive at destination"
  | "turn" => if named then "Turn " ++ modifier ++ " onto " ++ name else "Turn " ++ modifier
  | "merge" => if named then "Merge onto " ++ name else "Merge " ++ modifier
  | "on ramp" | "off ramp" =>
    if named then "Take ramp onto " ++ name else "Take " ++ modifier ++ " ramp"
  | "fork" => if named then "Keep " ++ modifier ++ " onto " ++ name else "Keep " ++ modifier
  | "continue" => if named then "Continue on " ++ name else "Continue straight"
  | "roundabout" => if named then "Take roundabout to " ++ name else "Take roundabout"
  | other => Text.join " " ([other, modifier, name].filter (· != ""))

/-- How far a step goes; a step of no length does not say. -/
def lengthNote (distance : Double) : String :=
  if 0 < distance then
    let miles := metresToMiles distance
    if 1 ≤ miles then " (" ++ miles.places 1 ++ " mi)" else " (" ++ distance.places 0 ++ " m)"
  else ""

/-- A step in words, with single spaces between them. -/
def instruction (step : RawStep) : String :=
  Text.join " " (Text.words
    (action step.manoeuvre.kind (Text.trim step.manoeuvre.modifier) (Text.trim step.name)
      ++ lengthNote step.distance))

/-- How many steps are kept. -/
def maxSteps : Nat := 15

def ofRaw (raw : RawRoute) : DrivingRoute :=
  { distance := raw.distance, duration := raw.duration
    steps := (raw.legs.flatten.take maxSteps).map fun step =>
      ⟨instruction step, step.distance.round, step.duration.round⟩ }

/-- The first route of an answer; none when the router found none. -/
def ofBody (body : Json) : Except SourceFault (Option DrivingRoute) :=
  (decodeBody "osrm" RawAnswer.decode body).map fun raw =>
    if raw.code = "Ok" then raw.routes.head?.map ofRaw else none

end DrivingRoute

end DriveAdvisory
