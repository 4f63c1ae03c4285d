/-
  Active weather alerts for a position.
-/
import DriveAdvisory.Advisory.Basic
import DriveAdvisory.Feed.Rows

namespace DriveAdvisory

/-- An active weather alert. -/
structure WeatherAlert where
  event : String := ""
  /-- The weather service's own tier: `Extreme`, `Severe`, `Moderate`, `Minor` or `Unknown`. -/
  severity : String := ""
  urgency : String := ""
  headline : String := ""
  description : String := ""
  instruction : String := ""
  area : String := ""
deriving DecidableEq, Inhabited

namespace WeatherAlert

/-- The events that may call for an evacuation. -/
def evacuationEvents : List String :=
  ["Hurricane Warning", "Hurricane Watch", "Tropical Storm Warning", "Tropical Storm Watch",
    "Storm Surge Warning", "Storm Surge Watch", "Flood Warning", "Flash Flood Warning",
    "Tornado Warning", "Extreme Wind Warning", "Coastal Flood Warning", "Tsunami Warning"]

def callsForEvacuation (a : WeatherAlert) : Bool := evacuationEvents.contains a.event

/-- How serious the alert is for the driver. -/
def tier (a : WeatherAlert) : Tier :=
  if a.severity = "Extreme" ∨ a.severity = "Severe" then .critical
  else if a.severity = "Moderate" then .warning
  else .info

/-- How many characters of a description or an instruction are kept. -/
def textLimit : Nat := 500

def fields : Fields WeatherAlert :=
  WeatherAlert.mk <$> .looseString "event" <*> .looseString "severity" <*> .looseString "urgency"
    <*> .looseString "headline" <*> .looseString "description" <*> .looseString "instruction"
    <*> .looseString "areaDesc"

/-- The alert as it is kept: long texts cut, and a severity in any case. -/
def kept (a : WeatherAlert) : WeatherAlert :=
  { a with
    severity := if a.severity = "" then "Unknown" else a.severity
    description := Text.cut textLimit a.description
    instruction := Text.cut textLimit a.instruction }

/-- A row of the answer. -/
def decodeRow : Decoder WeatherAlert :=
  Fields.record "Feature" (.defaulted "properties" (Fields.record "Properties" fields) {})

def decodeBody : Decoder (List WeatherAlert) :=
  Fields.record "FeatureCollection" (.defaulted "features" (.list decodeRow) [])

/-- The alerts of an answer. -/
def ofBody (body : Json) : Except SourceFault (List WeatherAlert) :=
  (DriveAdvisory.decodeBody "nws alerts" decodeBody body).map (·.map kept)

end WeatherAlert

end DriveAdvisory
