/-
  A snapshot in words, as the reasoning engine reads it beside the picture.  Speeds are in miles per hour.
-/
import DriveAdvisory.Number.Shortest
import DriveAdvisory.Text.Base64
import DriveAdvisory.Vehicle.Snapshot

namespace DriveAdvisory

namespace Snapshot

/-- A speed in miles per hour. -/
def mph (metresPerSecond : Single) : Single := metresPerSecond * msToMph

/-- The picture as text, unless it is empty. -/
def frameText (s : Snapshot) : Option String :=
  (s.frame.filter (!·.isEmpty)).map Base64.encode

def motionLine (m : Motion) : String :=
  let cruise :=
    if m.cruiseEnabled ∧ 0 < m.cruise then (mph m.cruise).places 0 ++ " mph" else "off"
  "Vehicle: " ++ (mph m.speed).places 0 ++ " mph, accel " ++ m.acceleration.places 1
    ++ " m/s², cruise " ++ cruise ++ ", steering " ++ m.steering.places 0 ++ "°"
    ++ if m.standstill then ", stopped" else ""

/-- What the driver presses and signals. -/
def inputs (m : Motion) : List String :=
  ([(m.brake, "brake"), (m.gas, "gas"), (m.leftBlinker, "left blinker"),
    (m.rightBlinker, "right blinker")].filter (·.1)).map (·.2)

def inputLines (m : Motion) : List String :=
  let pressed := inputs m
  if pressed.isEmpty then [] else ["Driver inputs: " ++ Text.join ", " pressed]

def leadLine (l : Lead) : String :=
  "Lead vehicle: " ++ l.distance.places 0 ++ " m ahead, " ++ (mph l.speed).places 0 ++ " mph ("
    ++ (mph l.relativeSpeed).signedPlaces 0 ++ " mph relative)"

def leadLines (leads : List Lead) : List String :=
  if leads.isEmpty then ["No vehicles detected ahead by radar."] else leads.map leadLine

def roadLines (r : Road) : List String :=
  ((r.name.filter (· != "")).map ("Road: " ++ ·)).toList
    ++ (r.speedLimit.map fun limit => "Speed limit: " ++ (mph limit).places 0 ++ " mph").toList
    ++ (r.limitAhead.map fun limit =>
      "Speed limit ahead: " ++ (mph limit).places 0 ++ " mph in "
        ++ (r.limitAheadDistance.getD 0).places 0 ++ " m").toList

def fixLine : Option Fix → String
  | some fix =>
    "GPS: " ++ fix.lat.places 5 ++ ", " ++ fix.lon.places 5 ++ " (±" ++ fix.accuracy.places 0
      ++ " m), bearing " ++ fix.bearing.places 0 ++ "°"
  | none => "GPS: no fix"

def engagementLine (e : Engagement) : String :=
  "Co-pilot: " ++
    if e.enabled then if e.active then "engaged" else "enabled, not engaged" else "disabled"

def networkLine (n : Network) : String :=
  "Network: " ++ n.kind ++ " (" ++ n.strength ++ ")" ++ (if n.metered then ", metered" else "")
    ++ match n.lastReply with
      | some ago => ", last cloud reply " ++ ago.places 0 ++ "s ago"
      | none => ""

/-- The lines about the scene, from the vehicle outward. -/
def lines (s : Snapshot) : List String :=
  [motionLine s.motion] ++ inputLines s.motion ++ leadLines s.leads ++ roadLines s.road
    ++ [fixLine s.fix, engagementLine s.engagement, networkLine s.network]

/-- The snapshot in words. -/
def describe (s : Snapshot) : String :=
  Text.join "\n" s.lines ++ "\n\nDecide whether any tool call is warranted for the scene above."

end Snapshot

end DriveAdvisory
