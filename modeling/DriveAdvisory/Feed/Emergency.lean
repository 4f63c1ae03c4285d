/-
  The emergency layers: evacuation zones, shelters and designated evacuation routes.
-/
import DriveAdvisory.Feed.Rows
import DriveAdvisory.Order.Stable

namespace DriveAdvisory

/-- The text, or `Unknown` when it is blank. -/
def orUnknown (text : String) : String := if Text.trim text = "" then "Unknown" else text

/-! ## Zones -/

/-- The evacuation zone of a position. -/
structure EvacuationZone where
  zone : String
  county : String
  status : String
deriving DecidableEq

namespace EvacuationZone

/-- The priority of a zone's letter: A comes first, and other texts come last. -/
def priorityOf (letter : String) : Nat :=
  match Text.lowerAscii (Text.trim letter) with
  | "a" => 1
  | "b" => 2
  | "c" => 3
  | "d" => 4
  | "e" => 5
  | "f" => 6
  | _ => 99

def priority (z : EvacuationZone) : Nat := priorityOf z.zone

/-- Zones A and B. -/
def isHighPriority (z : EvacuationZone) : Bool := z.priority ≤ 2

def decode : Decoder EvacuationZone := Fields.record "ZoneAttributes"
  (EvacuationZone.mk <$> .looseString "EZone" <*> .looseString "County_Nam" <*> .looseString "STATUS")

def known (z : EvacuationZone) : EvacuationZone :=
  ⟨orUnknown z.zone, orUnknown z.county, orUnknown z.status⟩

/-- The zone of an answer, if there is one. -/
def ofBody (body : Json) : Except SourceFault (Option EvacuationZone) :=
  (layerRows "fdem zones" decode ⟨"", "", ""⟩ body).map fun rows => rows.head?.map (·.about.known)

end EvacuationZone

/-! ## Shelters -/

/-- The layer that a shelter comes from. -/
inductive ShelterLayer
  /-- Open now. -/
  | active
  /-- Planned. -/
  | inventory
deriving DecidableEq, Repr

/-- A shelter near a position. -/
structure Shelter where
  name : String
  address : String
  county : String
  capacity : Nat
  /-- Free places; planned shelters do not say. -/
  availability : Option Nat
  petFriendly : Bool
  specialNeeds : Bool
  status : String
  layer : ShelterLayer
  location : Point
  /-- In metres. -/
  distance : Double
deriving DecidableEq

namespace Shelter

/-- What an open shelter's row says. -/
structure OpenRow where
  label : String := ""
  street : String := ""
  city : String := ""
  county : String := ""
  zip : String := ""
  capacity : Double := 0
  availability : Double := 0
  petFriendly : String := ""
  specialNeeds : String := ""
  status : String := ""

def OpenRow.decode : Decoder OpenRow := Fields.record "OpenShelterAttributes"
  (OpenRow.mk <$> .looseString "label" <*> .looseString "street" <*> .looseString "city"
    <*> .looseString "county" <*> .looseString "zip" <*> .looseDouble "gen_capacity"
    <*> .looseDouble "gen_availability" <*> .looseString "pet_friendly"
    <*> .looseString "special_needs" <*> .looseString "status")

/-- What a planned shelter's row says. -/
structure PlannedRow where
  name : String := ""
  address : String := ""
  city : String := ""
  county : String := ""
  zip : String := ""
  capacity : Double := 0
  specialNeeds : String := ""
  petFriendly : String := ""

def PlannedRow.decode : Decoder PlannedRow := Fields.record "InventoryAttributes"
  (PlannedRow.mk <$> .looseString "Name" <*> .looseString "Address" <*> .looseString "City"
    <*> .looseString "COUNTY" <*> .looseString "Zip" <*> .looseDouble "Risk_Capacity_Spaces"
    <*> .looseString "SPECIAL_NEEDS" <*> .looseString "Pet_Friendly")

/-- A text that says yes. -/
def saysYes (text : String) : Bool :=
  ["yes", "y", "true", "1"].contains (Text.lowerAscii (Text.trim text))

/-- The parts of an address that are not blank. -/
def oneLine (parts : List String) : String := Text.join " " (parts.filterMap Text.trimmed?)

/-- A number of places: at least none, and to the nearest one. -/
def places (x : Double) : Nat :=
  if x.isFinite ∧ 0 < x then (x.round.toIntWithin 0 4294967295).toNat else 0

def nameOrUnknown (name : String) : String :=
  if Text.trim name = "" then "Unknown Shelter" else name

/-- Where a row lies and how far that is, if it lies within the radius. -/
def placed? (globe : Globe) (origin : Point) (radius : Double) (place : Option MapPoint) :
    Option (Point × Double) := do
  let location ← (← place).toPoint? globe
  let distance := globe.distance origin location
  if distance ≤ radius then some (location, distance) else none

def ofOpenRow (row : OpenRow) (location : Point) (distance : Double) : Shelter :=
  { name := nameOrUnknown row.label, address := oneLine [row.street, row.city, row.zip]
    county := row.county, capacity := places row.capacity
    availability := some (places row.availability), petFriendly := saysYes row.petFriendly
    specialNeeds := saysYes row.specialNeeds, status := orUnknown row.status, layer := .active
    location, distance }

def ofPlannedRow (row : PlannedRow) (location : Point) (distance : Double) : Shelter :=
  { name := nameOrUnknown row.name, address := oneLine [row.address, row.city, row.zip]
    county := row.county, capacity := places row.capacity, availability := none
    petFriendly := saysYes row.petFriendly, specialNeeds := saysYes row.specialNeeds
    status := "Planned", layer := .inventory, location, distance }

/-- The shelters of a layer's rows that lie within the radius. -/
def ofRows {α : Type} (globe : Globe) (origin : Point) (radius : Double)
    (make : α → Point → Double → Shelter) (rows : List (Feature α)) : List Shelter :=
  rows.filterMap fun row =>
    (placed? globe origin radius row.place).map fun (location, distance) =>
      make row.about location distance

/-- The shelters of an answer that lie within the radius, in the order of the rows. -/
def ofBody (globe : Globe) (layer : ShelterLayer) (origin : Point) (radiusMiles : Double)
    (body : Json) : Except SourceFault (List Shelter) :=
  let radius := milesToMetres radiusMiles
  match layer with
  | .active =>
    (layerRows "fdem open shelters" OpenRow.decode {} body).map (ofRows globe origin radius ofOpenRow)
  | .inventory =>
    (layerRows "fdem shelter inventory" PlannedRow.decode {} body).map
      (ofRows globe origin radius ofPlannedRow)

/-- Shelters are ordered by distance. -/
def noFarther (a b : Shelter) : Bool := a.distance.totalCompare b.distance != .gt

/-- With fewer open shelters than this the planned ones are asked for too. -/
def enough : Nat := 5

/-- The open layer's answer alone is not enough. -/
def needsInventory (opened : Except SourceFault (List Shelter)) : Bool :=
  match opened with
  | .ok found => found.length < enough
  | .error _ => true

/-- What the layers that were asked come to, nearest first.  One that failed is passed over, unless
    both did. -/
def combine (opened : Except SourceFault (List Shelter))
    (planned : Option (Except SourceFault (List Shelter))) : Except SourceFault (List Shelter) :=
  match opened, planned with
  | .error _, some (.error fault) => .error fault
  | opened, planned =>
    let found : Except SourceFault (List Shelter) → List Shelter
      | .ok shelters => shelters
      | .error _ => []
    .ok (Order.sort noFarther (found opened ++ (planned.map found).getD []))

end Shelter

/-! ## Routes -/

/-- A designated evacuation route. -/
structure EvacuationRoute where
  name : String
  highway : String
  shield : String
  county : String
deriving DecidableEq

namespace EvacuationRoute

def decode : Decoder EvacuationRoute := Fields.record "RouteAttributes"
  (EvacuationRoute.mk <$> .looseString "NAME" <*> .looseString "HWY_NUM" <*> .looseString "SHIELD"
    <*> .looseString "NAMELSAD")

/-- What a route is called: its name, else shield and number of its highway, else the number. -/
def displayName (r : EvacuationRoute) : String :=
  match Text.trimmed? r.name with
  | some name => name
  | none => match Text.trimmed? r.shield, Text.trimmed? r.highway with
    | some shield, some number => shield ++ "-" ++ number
    | _, _ => Text.trim r.highway

/-- The route with the name it is called by; one that cannot be named is dropped. -/
def named? (r : EvacuationRoute) : Option EvacuationRoute :=
  let name := r.displayName
  if name = "" then none else some { r with name := name }

/-- The routes of an answer, in the order of the rows. -/
def ofBody (body : Json) : Except SourceFault (List EvacuationRoute) :=
  (layerRows "fdem routes" decode ⟨"", "", "", ""⟩ body).map fun rows =>
    rows.filterMap fun row => row.about.named?

end EvacuationRoute

end DriveAdvisory
