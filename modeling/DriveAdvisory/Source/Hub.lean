/-
  The seven sources behind their clients.

  `Sources` is what never changes: addresses, policies, the transport and the globe.  `Hub` is what does: the
  clients, the requests that were made, and the clock.  Every part of the program that reads a source goes
  through one hub, so answers and budgets are shared.

  Asking a source is a `StateM Hub` step.  A source says which requests it makes and what their
  documents mean; whether it is asked at all is the client's matter.
-/
import DriveAdvisory.Feed.Driving
import DriveAdvisory.Feed.Emergency
import DriveAdvisory.Feed.Probe
import DriveAdvisory.Feed.Traffic
import DriveAdvisory.Feed.Weather
import DriveAdvisory.Geo.Grid
import DriveAdvisory.Source.Client
import DriveAdvisory.Source.Exchange

namespace DriveAdvisory

/-! ## What does not change -/

/-- Where the sources are. -/
structure Endpoints where
  traffic : String := "https://fl511.com/api/getevents"
  /-- The traffic feed's key; without one the feed is not asked. -/
  trafficKey : Option String := none
  weather : String := "https://api.weather.gov/alerts/active"
  /-- The emergency layers' common address. -/
  emergency : String := "https://services.arcgis.com/3wFbqsFPLeKqOlIK/arcgis/rest/services"
  driving : String := "https://router.project-osrm.org/route/v1/driving"
  /-- The reasoning service that is probed. -/
  probe : String

namespace Endpoints

/-- A key that is blank is none. -/
def key? (raw : Option String) : Option String := raw.bind Text.nonBlank?

/-- The traffic feed can be asked. -/
def hasTraffic (e : Endpoints) : Bool := e.trafficKey.isSome

end Endpoints

/-- The policies of the sources. -/
structure SourcePolicies where
  traffic : SourcePolicy := .traffic
  weather : SourcePolicy := .weather
  zones : SourcePolicy := .emergency
  shelters : SourcePolicy := .emergency
  routes : SourcePolicy := .emergency
  driving : SourcePolicy := .driving
  probe : SourcePolicy := .probe

/-- All that asking depends on and that never changes. -/
structure Sources where
  endpoints : Endpoints
  policies : SourcePolicies := {}
  transport : Transport
  globe : Globe

/-! ## What changes -/

/-- The clients, the requests made so far, latest first, and the time. -/
structure Hub where
  traffic : Client Unit (List TrafficEvent)
  weather : Client Cell (List WeatherAlert)
  zones : Client Cell (Option EvacuationZone)
  shelters : Client Cell (List Shelter)
  routes : Client Cell (List EvacuationRoute)
  driving : Client Leg (Option DrivingRoute)
  probe : Client Unit Reachability
  requests : List Request := []
  now : Duration := 0

namespace Hub

/-- The hub before anything was asked. -/
def ofPolicies (p : SourcePolicies) : Hub :=
  { traffic := .ofPolicy p.traffic, weather := .ofPolicy p.weather, zones := .ofPolicy p.zones
    shelters := .ofPolicy p.shelters, routes := .ofPolicy p.routes, driving := .ofPolicy p.driving
    probe := .ofPolicy p.probe }

/-- How long the sources wait for a response. -/
def responseLimit : Duration := Duration.ofSeconds 5

/-- How long the probe waits for a response. -/
def probeLimit : Duration := Duration.ofSeconds 3

/-- Makes a request. -/
def exchange (sources : Sources) (limit : Duration) (r : Request) : StateM Hub Exchange := do
  let request := { r with headers := ("user-agent", agentName) :: r.headers }
  let hub ← get
  set { hub with requests := request :: hub.requests }
  return (sources.transport hub.requests request).within limit

/-- Asks for a document and reads it. -/
def ask {π : Type} (sources : Sources) (r : Request) (read : Json → Except SourceFault π) :
    StateM Hub (Answer π) := do
  let e ← exchange sources responseLimit r
  return ⟨e.document.bind read, e.took⟩

/-- Visits a client; the source is asked where the client says so. -/
def visit {κ π : Type} [DecidableEq κ] (policy : SourcePolicy) (client : Hub → Client κ π)
    (store : Client κ π → Hub → Hub) (key : κ) (query : StateM Hub (Answer π)) :
    StateM Hub (Fetched π) := do
  let hub ← get
  match (client hub).plan policy hub.now key with
  | (.serve payload, _) => return .fresh payload
  | (.refuse, c) =>
    let (got, c) := c.settle policy 0 hub.now key (.error .budgetExhausted)
    set (store c hub)
    return got
  | (.ask, c) =>
    set (store c hub)
    let answer := (← query).within policy.timeout
    let hub ← get
    let done := hub.now + answer.took
    let (got, c) := (client hub).settle policy 0 done key answer.result
    set (store c { hub with now := done })
    return got

/-! ## The traffic feed -/

def trafficRequest (e : Endpoints) (key : String) : Request :=
  { address := e.traffic, query := [("key", Text.trim key), ("format", "json")] }

/-- All events of the state. -/
def findEvents (sources : Sources) : StateM Hub (Fetched (List TrafficEvent)) :=
  visit sources.policies.traffic Hub.traffic (fun c hub => { hub with traffic := c }) () <|
    match sources.endpoints.trafficKey with
    | none => return ⟨.error (.notConfigured "FL511 API key"), 0⟩
    | some key => ask sources (trafficRequest sources.endpoints key) TrafficEvent.ofBody

/-! ## Weather alerts -/

def weatherRequest (e : Endpoints) (p : Point) : Request :=
  { address := e.weather
    query := [("point", p.lat.places 4 ++ "," ++ p.lon.places 4), ("status", "actual")]
    headers := [("accept", "application/geo+json")] }

/-- The alerts for a position, to two decimals. -/
def findAlerts (sources : Sources) (p : Point) : StateM Hub (Fetched (List WeatherAlert)) :=
  let cell := Cell.around 2 p
  visit sources.policies.weather Hub.weather (fun c hub => { hub with weather := c }) cell <|
    ask sources (weatherRequest sources.endpoints cell.point) WeatherAlert.ofBody

/-! ## The emergency layers -/

/-- What a layer is asked about a position. -/
def layerQuery (p : Point) (fields : String) (geometry : Bool) : List (String × String) :=
  [("geometry", p.lon.prose ++ "," ++ p.lat.prose), ("geometryType", "esriGeometryPoint"),
    ("inSR", "4326"), ("spatialRel", "esriSpatialRelIntersects"), ("outFields", fields),
    ("returnGeometry", if geometry then "true" else "false"), ("f", "json")]

/-- What it is asked about the surroundings. -/
def radiusQuery (miles : Double) (records : Nat) : List (String × String) :=
  [("distance", (milesToMetres miles).places 0), ("units", "esriSRUnit_Meter"),
    ("resultRecordCount", toString records)]

def zoneRequest (e : Endpoints) (p : Point) : Request :=
  { address := e.emergency ++ "/Evacuation_Zones_20230608/FeatureServer/12/query"
    query := layerQuery p "EZone,County_Nam,STATUS" false }

/-- The zone of a position, to four decimals. -/
def findZone (sources : Sources) (p : Point) : StateM Hub (Fetched (Option EvacuationZone)) :=
  let cell := Cell.around 4 p
  visit sources.policies.zones Hub.zones (fun c hub => { hub with zones := c }) cell <|
    ask sources (zoneRequest sources.endpoints cell.point) EvacuationZone.ofBody

/-- Shelters and routes are kept to three decimals, with the radius. -/
def areaCell (p : Point) (radiusMiles : Double) : Cell := (Cell.around 3 p).within radiusMiles

def shelterRequest (e : Endpoints) (cell : Cell) : ShelterLayer → Request
  | .active =>
    { address := e.emergency ++ "/Open_Shelters_in_Florida_(View_Only)/FeatureServer/0/query"
      query := layerQuery cell.point
          ("label,street,city,county,zip,gen_capacity,gen_occupancy,gen_availability,"
            ++ "pet_friendly,special_needs,status") true
        ++ radiusQuery cell.radiusMiles 20 }
  | .inventory =>
    { address := e.emergency ++ "/Risk_Shelter_Inventory_General/FeatureServer/0/query"
      query := layerQuery cell.point
          ("Name,Address,City,COUNTY,Zip,Risk_Capacity_Spaces,General_Pop,SPECIAL_NEEDS,"
            ++ "Pet_Friendly,Evacuation_Zone") true
        ++ radiusQuery cell.radiusMiles 20 }

/-- Asks one layer for the shelters of a cell. -/
def askLayer (sources : Sources) (cell : Cell) (layer : ShelterLayer) :
    StateM Hub (Answer (List Shelter)) :=
  ask sources (shelterRequest sources.endpoints cell layer)
    (Shelter.ofBody sources.globe layer cell.point cell.radiusMiles)

/-- Asks for the open shelters of a cell, and for the planned ones where those are not enough. -/
def askShelters (sources : Sources) (cell : Cell) : StateM Hub (Answer (List Shelter)) := do
  let opened ← askLayer sources cell .active
  if Shelter.needsInventory opened.result then
    let planned ← askLayer sources cell .inventory
    return ⟨Shelter.combine opened.result (some planned.result), opened.took + planned.took⟩
  else
    return ⟨Shelter.combine opened.result none, opened.took⟩

/-- The shelters around a position. -/
def findShelters (sources : Sources) (p : Point) (radiusMiles : Double) :
    StateM Hub (Fetched (List Shelter)) :=
  let cell := areaCell p radiusMiles
  visit sources.policies.shelters Hub.shelters (fun c hub => { hub with shelters := c }) cell <|
    askShelters sources cell

def routeRequest (e : Endpoints) (cell : Cell) : Request :=
  { address := e.emergency ++ "/Evacuation_Routes_Hosted/FeatureServer/0/query"
    query := layerQuery cell.point "NAME,HWY_NUM,SHIELD,NAMELSAD" false
      ++ radiusQuery cell.radiusMiles 10 }

/-- The designated routes around a position. -/
def findRoutes (sources : Sources) (p : Point) (radiusMiles : Double) :
    StateM Hub (Fetched (List EvacuationRoute)) :=
  let cell := areaCell p radiusMiles
  visit sources.policies.routes Hub.routes (fun c hub => { hub with routes := c }) cell <|
    ask sources (routeRequest sources.endpoints cell) EvacuationRoute.ofBody

/-! ## Driving -/

def driveRequest (e : Endpoints) (leg : Leg) : Request :=
  let o := leg.origin.point
  let d := leg.destination.point
  { address := e.driving ++ "/" ++ o.lon.prose ++ "," ++ o.lat.prose ++ ";" ++ d.lon.prose ++ ","
      ++ d.lat.prose
    query := [("overview", "full"), ("steps", "true"), ("geometries", "geojson")] }

/-- The way to drive, if there is one. -/
def findDrive (sources : Sources) (origin destination : Point) :
    StateM Hub (Fetched (Option DrivingRoute)) :=
  let leg := Leg.between origin destination
  visit sources.policies.driving Hub.driving (fun c hub => { hub with driving := c }) leg <|
    ask sources (driveRequest sources.endpoints leg) DrivingRoute.ofBody

/-! ## The probe -/

/-- Whatever comes back, the endpoint was reached. -/
def askProbe (sources : Sources) : StateM Hub (Answer Reachability) := do
  let e ← exchange sources probeLimit { method := .head, address := sources.endpoints.probe }
  return ⟨.ok (if e.response.isSome then ⟨true, some e.took.toMillis⟩ else .unreachable), e.took⟩

/-- Whether the reasoning service can be reached. -/
def findReach (sources : Sources) : StateM Hub (Fetched Reachability) :=
  visit sources.policies.probe Hub.probe (fun c hub => { hub with probe := c }) ()
    (askProbe sources)

end Hub

end DriveAdvisory
