/-
  Evacuation: is there a reason to leave, where to, and on which way.

  Three questions are answered from up to six sources: what the situation is, how to drive to a
  destination or the nearest shelter, and which shelters are near.  A source that gives nothing adds
  nothing to the answer; it never makes the skill fail.
-/
import DriveAdvisory.Skill.Basic

namespace DriveAdvisory

/-! ## Arguments -/

/-- What is asked for. -/
inductive EvacuationMode
  | situation
  | route
  | shelters
deriving DecidableEq, Repr

def EvacuationMode.name : EvacuationMode → String
  | situation => "check_situation"
  | route => "plan_route"
  | shelters => "find_shelters"

structure EvacuationArguments where
  mode : EvacuationMode
  destinationLat : Option Double
  destinationLon : Option Double
  radiusMiles : Option Double
deriving DecidableEq

namespace EvacuationArguments

def arguments : Arguments EvacuationArguments :=
  EvacuationArguments.mk
    <$> .quiet "action" (.choice [.situation, .route, .shelters] EvacuationMode.name) .situation
    <*> .optional "destination_lat" .double
      (some "Destination latitude for `plan_route`; nearest shelter when omitted.")
    <*> .optional "destination_lon" .double
    <*> .optional "radius_miles" .double
      (some "Search radius in miles (closures: 50, shelters: 25).")

def title : String := "EvacuationParams"

def decode : Decoder EvacuationArguments := arguments.decode title

/-- The destination, if both coordinates are given and make a position. -/
def destination? (a : EvacuationArguments) : Option Point := do
  Point.fix? (← a.destinationLat) (← a.destinationLon)

end EvacuationArguments

namespace Evacuation

def skillName : String := "plan_evacuation"

/-- An alert for the driver, as far as the display shows it. -/
def alert (text : String) (tier : Tier) : AlertProposal := ⟨Text.cut displayLimit text, tier, 1⟩

/-- The names of the first few routes. -/
def routeNames (routes : List EvacuationRoute) : String :=
  Text.join ", " ((routes.take 5).map (·.name))

/-! ## The situation -/

/-- All that the situation is judged by. -/
structure Situation where
  alerts : List WeatherAlert := []
  zone : Option EvacuationZone := none
  routes : List EvacuationRoute := []
  closures : List (Hit TrafficEvent) := []

namespace Situation

/-- The alerts that may call for an evacuation. -/
def relevant (s : Situation) : List WeatherAlert := s.alerts.filter (·.callsForEvacuation)

/-- The other alerts. -/
def other (s : Situation) : List WeatherAlert := s.alerts.filter (!·.callsForEvacuation)

/-- Some alert may call for an evacuation. -/
def threatened (s : Situation) : Bool := !s.relevant.isEmpty

/-- The zone, if it is one of those that are evacuated first. -/
def urgentZone (s : Situation) : Option EvacuationZone := s.zone.filter (·.isHighPriority)

/-- How serious the situation is: the highest tier of a relevant alert, critical for a threatened urgent
    zone, and a warning at least when roads are closed. -/
def tier (s : Situation) : Tier :=
  let weather := s.relevant.foldl (fun worst a => worst.max a.tier) .info
  let zoned := if s.urgentZone.isSome ∧ s.threatened then .critical else weather
  if s.closures.isEmpty then zoned else zoned.max .warning

/-- What the driver is told. -/
def text (s : Situation) : String :=
  match s.threatened, s.urgentZone with
  | true, some z => "EVACUATE: Zone " ++ z.zone ++ " active"
  | true, none => "Weather alert: check evacuation"
  | false, _ =>
    if Tier.warning.level ≤ s.tier.level then "Road closures nearby" else "No evacuation needed"

def relevantLines (a : WeatherAlert) : List String :=
  ("- " ++ a.event ++ " (" ++ a.severity ++ "): " ++ a.headline)
    :: if a.instruction = "" then [] else ["  Instructions: " ++ Text.cut 200 a.instruction]

/-- What is reported about the weather. -/
def weatherLines (s : Situation) : List String :=
  if s.threatened then "ACTIVE WEATHER ALERTS:" :: (s.relevant.take 3).flatMap relevantLines
  else if !s.other.isEmpty then
    "Weather alerts (non-evacuation):"
      :: (s.other.take 2).map fun a => "- " ++ a.event ++ ": " ++ a.headline
  else ["No active weather alerts."]

/-- What is reported about the zone. -/
def zoneLines (s : Situation) : List String :=
  match s.zone with
  | none => ["Not in a designated evacuation zone (or zone data unavailable)."]
  | some z =>
    ("Evacuation zone " ++ z.zone ++ " (" ++ z.county ++ " County), status: " ++ z.status)
      :: if z.isHighPriority then ["Zone " ++ z.zone ++ " is high-priority for evacuation"]
        else if z.priority ≤ 4 then ["Zone " ++ z.zone ++ " may require evacuation in severe storms"]
        else []

/-- What is reported about designated routes. -/
def routeLines (s : Situation) : List String :=
  if s.routes.isEmpty then []
  else ["Nearby designated evacuation routes: " ++ routeNames s.routes]

def closureLine (hit : Hit TrafficEvent) : String :=
  "- " ++ hit.item.roadway ++ " " ++ hit.item.direction ++ ": "
    ++ Text.cut 100 hit.item.description ++ " (" ++ hit.miles.places 1 ++ "mi away)"

/-- What is reported about closed roads. -/
def closureLines (s : Situation) : List String :=
  if s.closures.isEmpty then []
  else (toString s.closures.length ++ " road closure(s) nearby:")
    :: (s.closures.take 3).map closureLine

/-- The alert that a situation calls for, if any. -/
def alert? (s : Situation) : Option AlertProposal :=
  if Tier.info.level < s.tier.level ∨ s.threatened then some (alert s.text s.tier) else none

/-- What is proposed for a situation. -/
def assess (s : Situation) : Proposal :=
  { skill := skillName, alert := s.alert?
    reason := Text.join "\n" (s.weatherLines ++ s.zoneLines ++ s.routeLines ++ s.closureLines) }

end Situation

/-! ## The way -/

/-- A way to a destination. -/
structure Plan where
  origin : Point
  destination : Point
  /-- The shelter that was chosen, where no destination was given. -/
  shelter : Option Shelter := none
  route : Option DrivingRoute := none
  incidents : List (Hit TrafficEvent) := []
  designated : List EvacuationRoute := []

/-- No incident is looked for farther away than this, in miles. -/
def incidentRadius : Double := 50

/-- Where incidents on the way are looked for: around the middle, and five miles past the ends. -/
def corridor (globe : Globe) (origin destination : Point) : Point × Double :=
  let middle : Point :=
    ⟨(origin.lat + destination.lat) / 2, (origin.lon + destination.lon) / 2⟩
  (middle, (metresToMiles (globe.distance origin destination) / 2 + 5).min incidentRadius)

namespace Plan

def shelterLines (p : Plan) : List String :=
  (p.shelter.map fun s =>
    "Routing to nearest shelter: " ++ s.name ++ " (" ++ s.address ++ ", "
      ++ (metresToMiles s.distance).places 1 ++ "mi away, capacity: " ++ toString s.capacity
      ++ ")").toList

def incidentLine (hit : Hit TrafficEvent) : String :=
  "- " ++ hit.item.roadway ++ " " ++ hit.item.direction ++ ": " ++ Text.cut 80 hit.item.description

def incidentLines (p : Plan) : List String :=
  if p.incidents.isEmpty then []
  else (toString p.incidents.length ++ " closure(s)/incident(s) on route corridor:")
    :: (p.incidents.take 5).map incidentLine

def directionLines (p : Plan) : List String :=
  match p.route with
  | some r =>
    ["Route: " ++ r.summary, "Directions:"]
      ++ r.steps.zipIdx.map fun (step, i) => toString (i + 1) ++ ". " ++ step.instruction
  | none =>
    ["Route calculation unavailable. Head to " ++ p.destination.lat.places 4 ++ ", "
      ++ p.destination.lon.places 4]

def designatedLines (p : Plan) : List String :=
  if p.designated.isEmpty then []
  else ["Designated evacuation routes nearby: " ++ routeNames p.designated]

/-- The length of the way in metres; without a route, that of the straight line. -/
def length (globe : Globe) (p : Plan) : Double :=
  match p.route with
  | some r => r.distance
  | none => globe.distance p.origin p.destination

/-- The way in a few words. -/
def summary (globe : Globe) (p : Plan) : String :=
  match p.route with
  | some r => r.summary
  | none => (metresToMiles (p.length globe)).places 0 ++ "mi to destination"

/-- The highest speed proposed on the way, in miles per hour. -/
def speedCap : Single := 55

/-- The speed proposed to a vehicle that moves: its own, as far as the cap allows. -/
def speed? (globe : Globe) (p : Plan) (motion : Motion) : Option SpeedProposal :=
  if 0 < motion.speed then
    some ⟨motion.speed.min (speedCap * mphToMs), "evacuation_routing", 0.7, (p.length globe).toSingle⟩
  else none

/-- What is proposed for a way. -/
def advise (globe : Globe) (p : Plan) (motion : Motion) : Proposal :=
  { skill := skillName
    alert := some (alert ("Evac route: " ++ p.summary globe) .critical)
    speed := p.speed? globe motion
    reason := Text.join "\n" (p.shelterLines ++ p.incidentLines ++ p.directionLines
      ++ p.designatedLines) }

end Plan

/-! ## Shelters -/

/-- How many shelters are listed. -/
def sheltersListed : Nat := 10

def shelterLine (s : Shelter) (number : Nat) : String :=
  toString number ++ ". " ++ s.name ++ " [" ++ s.status ++ "] - "
    ++ (metresToMiles s.distance).places 1 ++ "mi, " ++ s.address ++ ", " ++ s.county
    ++ " County, capacity " ++ toString s.capacity
    ++ (match s.availability with
      | some free => ", " ++ toString free ++ " spots available"
      | none => "")
    ++ (if s.petFriendly then ", pets OK" else "")
    ++ (if s.specialNeeds then ", special needs" else "")

/-- What is proposed for the shelters found, the nearest of which comes first. -/
def listShelters (shelters : List Shelter) (radiusMiles : Double) : Proposal :=
  let miles := radiusMiles.places 0
  let count := toString shelters.length
  if shelters.isEmpty then
    { skill := skillName, alert := some (alert "No shelters found nearby" .info)
      reason := "No emergency shelters found within " ++ miles ++ " miles." }
  else
    { skill := skillName
      alert := some (alert (count ++ " shelter(s) within " ++ miles ++ "mi") .info)
      reason := Text.join "\n" (("Found " ++ count ++ " shelter(s) within " ++ miles ++ " miles:")
        :: (shelters.take sheltersListed).zipIdx.map fun (s, i) => shelterLine s (i + 1)) }

/-! ## Asking the sources -/

/-- The events of a kind around a position; none without a key for the feed. -/
def incidents (sources : Sources) (center : Point) (radiusMiles : Double)
    (wanted : TrafficEvent → Bool) : StateM Hub (List (Hit TrafficEvent)) := do
  if !sources.endpoints.hasTraffic then return []
  match (← Hub.findEvents sources).payload? with
  | none => return []
  | some events =>
    let search := Search.withinMiles radiusMiles none none
    return (search.hits sources.globe center events).filter fun hit => wanted hit.item

def routesNear (sources : Sources) (p : Point) (radiusMiles : Double) :
    StateM Hub (List EvacuationRoute) := do
  return (← Hub.findRoutes sources p radiusMiles).payload?.getD []

def sheltersNear (sources : Sources) (p : Point) (radiusMiles : Double) :
    StateM Hub (List Shelter) := do
  return (← Hub.findShelters sources p radiusMiles).payload?.getD []

/-- An event that blocks the way or may do so. -/
def mayBlock (e : TrafficEvent) : Bool := e.isClosure || e.kind == "accidentsAndIncidents"

/-- Gathers and judges the situation. -/
def situation (sources : Sources) (a : EvacuationArguments) (origin : Point) :
    StateM Hub Proposal := do
  let alerts := (← Hub.findAlerts sources origin).payload?.getD []
  let zone := (← Hub.findZone sources origin).payload?.join
  let routes ← routesNear sources origin 15
  let closures ← incidents sources origin (a.radiusMiles.getD incidentRadius) TrafficEvent.isClosure
  return Situation.assess { alerts, zone, routes, closures }

/-- Plans the way to a known destination. -/
def planTo (sources : Sources) (origin destination : Point) (shelter : Option Shelter)
    (motion : Motion) : StateM Hub Proposal := do
  let (middle, radius) := corridor sources.globe origin destination
  let found ← incidents sources middle radius mayBlock
  let route := (← Hub.findDrive sources origin destination).payload?.join
  let designated ← routesNear sources origin 10
  return Plan.advise sources.globe
    { origin, destination, shelter, route, incidents := found, designated } motion

/-- What is said where there is nowhere to go. -/
def nowhere : Proposal :=
  { skill := skillName, alert := some (alert "No shelters found nearby" .warning)
    reason := "No shelters found within 50 miles. Please provide a destination." }

/-- Plans the way to the destination, or to the nearest shelter. -/
def planRoute (sources : Sources) (a : EvacuationArguments) (origin : Point) (motion : Motion) :
    StateM Hub Proposal := do
  match a.destination? with
  | some destination => planTo sources origin destination none motion
  | none =>
    match (← sheltersNear sources origin 50).head? with
    | some shelter => planTo sources origin shelter.location (some shelter) motion
    | none => return nowhere

/-- Lists the shelters within the radius; the kept answer may be for a slightly larger one. -/
def findShelters (sources : Sources) (a : EvacuationArguments) (origin : Point) :
    StateM Hub Proposal := do
  let radius := a.radiusMiles.getD 25
  let found ← sheltersNear sources origin radius
  return listShelters (found.filter fun s => s.distance ≤ milesToMetres radius) radius

def act (surroundings : Surroundings) (a : EvacuationArguments) (s : Snapshot) :
    StateM World Proposal :=
  match s.place with
  | none => return { skill := skillName, alert := some (alert "No GPS for evacuation check" .info)
                     reason := "No GPS fix" }
  | some origin => World.withHub <| match a.mode with
    | .situation => situation surroundings.sources a origin
    | .route => planRoute surroundings.sources a origin s.motion
    | .shelters => findShelters surroundings.sources a origin

end Evacuation

namespace Skill

def evacuation : Skill Run where
  name := Evacuation.skillName
  description :=
    "Hurricane and evacuation support for Florida: check weather alerts, the evacuation "
      ++ "zone, closures and routes (check_situation), route to a destination or the nearest "
      ++ "shelter (plan_route), or list shelters (find_shelters)."
  schema := (EvacuationArguments.arguments.schema EvacuationArguments.title).toJson
  run := runWith Evacuation.skillName EvacuationArguments.decode Evacuation.act

end Skill

end DriveAdvisory
