/-
  What is known about the vehicle at the start of a cycle.

  A snapshot is taken once per cycle and shared by everything that happens in it.  Read from a document, every
  field of it may be missing; the moment it was taken is then the moment of reading.
-/
import DriveAdvisory.Geo.Point
import DriveAdvisory.Order.Stable
import DriveAdvisory.Sighting.Record

namespace DriveAdvisory

/-- How the vehicle moves and what its driver does. -/
structure Motion where
  /-- In metres per second. -/
  speed : Single := 0
  acceleration : Single := 0
  heading : Single := 0
  steering : Single := 0
  /-- The cruise control's set point; zero when none is set. -/
  cruise : Single := 0
  cruiseEnabled : Bool := false
  brake : Bool := false
  gas : Bool := false
  leftBlinker : Bool := false
  rightBlinker : Bool := false
  standstill : Bool := false
  gear : String := ""
deriving DecidableEq

/-- The speed that a reduction is computed from: the higher one of the vehicle's and the set point. -/
def Motion.reference (m : Motion) : Single := m.speed.max m.cruise

/-- A satellite fix. -/
structure Fix where
  lat : Double := 0
  lon : Double := 0
  accuracy : Single := 0
  bearing : Single := 0
deriving DecidableEq

/-- A vehicle ahead. -/
structure Lead where
  distance : Single := 0
  speed : Single := 0
  relativeSpeed : Single := 0
deriving DecidableEq

/-- What the map says about the road. -/
structure Road where
  name : Option String := none
  speedLimit : Option Single := none
  limitAhead : Option Single := none
  limitAheadDistance : Option Single := none
deriving DecidableEq

/-- The link to the network. -/
structure Network where
  kind : String := "none"
  strength : String := "unknown"
  metered : Bool := false
  operator : Option String := none
  technology : Option String := none
  /-- Seconds since the reasoning service last answered. -/
  lastReply : Option Double := none
deriving DecidableEq

/-- Whether the driver has the assistance on. -/
structure Engagement where
  enabled : Bool := false
  active : Bool := false
deriving DecidableEq

/-- Everything known at the start of a cycle. -/
structure Snapshot where
  takenAt : Moment
  motion : Motion := {}
  fix : Option Fix := none
  leads : List Lead := []
  road : Road := {}
  network : Network := {}
  engagement : Engagement := {}
  /-- The camera's picture. -/
  frame : Option (List UInt8) := none
deriving DecidableEq

namespace Snapshot

/-- Where the vehicle is, if the fix is usable. -/
def place (s : Snapshot) : Option Point := s.fix.bind fun fix => Point.fix? fix.lat fix.lon

/-- The nearest vehicle ahead, the first of several. -/
def nearestLead (s : Snapshot) : Option Lead :=
  Order.least? (fun a b => a.distance.totalCompare b.distance == .lt)
    (s.leads.filter (·.distance.isFinite))

end Snapshot

/-! ## As documents -/

def Motion.fields : Fields Motion :=
  Motion.mk <$> .defaulted "speed_ms" .single 0 <*> .defaulted "accel_ms2" .single 0
    <*> .defaulted "heading_deg" .single 0 <*> .defaulted "steering_deg" .single 0
    <*> .defaulted "cruise_set_ms" .single 0 <*> .defaulted "cruise_enabled" .bool false
    <*> .defaulted "brake_pressed" .bool false <*> .defaulted "gas_pressed" .bool false
    <*> .defaulted "left_blinker" .bool false <*> .defaulted "right_blinker" .bool false
    <*> .defaulted "standstill" .bool false <*> .defaulted "gear" .string ""

def Motion.decode : Decoder Motion := Fields.record "VehicleState" Motion.fields

def Fix.fields : Fields Fix :=
  Fix.mk <$> .defaulted "lat" .double 0 <*> .defaulted "lon" .double 0
    <*> .defaulted "accuracy_m" .single 0 <*> .defaulted "bearing_deg" .single 0

def Fix.decode : Decoder Fix := Fields.record "GpsFix" Fix.fields

def Lead.fields : Fields Lead :=
  Lead.mk <$> .defaulted "distance_m" .single 0 <*> .defaulted "speed_ms" .single 0
    <*> .defaulted "relative_speed_ms" .single 0

def Lead.decode : Decoder Lead := Fields.record "LeadVehicle" Lead.fields

def Road.fields : Fields Road :=
  Road.mk <$> .defaultedOption "road_name" .string none
    <*> .defaultedOption "speed_limit_ms" .single none
    <*> .defaultedOption "speed_limit_ahead_ms" .single none
    <*> .defaultedOption "speed_limit_ahead_distance_m" .single none

def Road.decode : Decoder Road := Fields.record "MapAttributes" Road.fields

def Network.fields : Fields Network :=
  Network.mk <$> .defaulted "network_type" .string "none"
    <*> .defaulted "strength" .string "unknown" <*> .defaulted "metered" .bool false
    <*> .defaultedOption "operator" .string none <*> .defaultedOption "technology" .string none
    <*> .defaultedOption "last_cloud_ping_s_ago" .double none

def Network.decode : Decoder Network := Fields.record "NetworkStatus" Network.fields

def Engagement.fields : Fields Engagement :=
  Engagement.mk <$> .defaulted "enabled" .bool false <*> .defaulted "active" .bool false

def Engagement.decode : Decoder Engagement := Fields.record "SystemState" Engagement.fields

/-- The fields of a snapshot, read at the given moment.  Pictures do not come this way. -/
def Snapshot.fields (now : Moment) : Fields Snapshot :=
  (fun takenAt motion fix leads road network engagement =>
      { takenAt, motion, fix, leads, road, network, engagement })
    <$> .defaulted "captured_at" Sighting.decodeMoment now
    <*> .defaulted "vehicle" Motion.decode {} <*> .defaultedOption "gps" Fix.decode none
    <*> .defaulted "leads" (.list Lead.decode) [] <*> .defaulted "map" Road.decode {}
    <*> .defaulted "network" Network.decode {} <*> .defaulted "system" Engagement.decode {}

/-- A snapshot as a document, read at the given moment. -/
def Snapshot.decode (now : Moment) : Decoder Snapshot := Fields.record "ContextSnapshot" (fields now)

instance : ToJson Motion := ⟨fun m => Json.ofMembers
  [("speed_ms", toJson m.speed), ("accel_ms2", toJson m.acceleration),
    ("heading_deg", toJson m.heading), ("steering_deg", toJson m.steering),
    ("cruise_set_ms", toJson m.cruise), ("cruise_enabled", toJson m.cruiseEnabled),
    ("brake_pressed", toJson m.brake), ("gas_pressed", toJson m.gas),
    ("left_blinker", toJson m.leftBlinker), ("right_blinker", toJson m.rightBlinker),
    ("standstill", toJson m.standstill), ("gear", toJson m.gear)]⟩

instance : ToJson Fix := ⟨fun f => Json.ofMembers
  [("lat", toJson f.lat), ("lon", toJson f.lon), ("accuracy_m", toJson f.accuracy),
    ("bearing_deg", toJson f.bearing)]⟩

instance : ToJson Lead := ⟨fun l => Json.ofMembers
  [("distance_m", toJson l.distance), ("speed_ms", toJson l.speed),
    ("relative_speed_ms", toJson l.relativeSpeed)]⟩

instance : ToJson Road := ⟨fun r => Json.ofMembers
  [("road_name", toJson r.name), ("speed_limit_ms", toJson r.speedLimit),
    ("speed_limit_ahead_ms", toJson r.limitAhead),
    ("speed_limit_ahead_distance_m", toJson r.limitAheadDistance)]⟩

instance : ToJson Network := ⟨fun n => Json.ofMembers
  [("network_type", toJson n.kind), ("strength", toJson n.strength), ("metered", toJson n.metered),
    ("operator", toJson n.operator), ("technology", toJson n.technology),
    ("last_cloud_ping_s_ago", toJson n.lastReply)]⟩

instance : ToJson Engagement := ⟨fun e => Json.ofMembers
  [("enabled", toJson e.enabled), ("active", toJson e.active)]⟩

instance : ToJson Snapshot := ⟨fun s => Json.ofMembers
  [("captured_at", .string s.takenAt.documentText), ("vehicle", toJson s.motion), ("gps", toJson s.fix),
    ("leads", toJson s.leads), ("map", toJson s.road), ("network", toJson s.network),
    ("system", toJson s.engagement)]⟩

end DriveAdvisory
