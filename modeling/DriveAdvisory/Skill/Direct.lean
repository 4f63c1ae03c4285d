/-
  The direct skills: the engine states a speed, a lane or an alert outright, and the proposal says just
  that.
-/
import DriveAdvisory.Skill.Basic

namespace DriveAdvisory

/-! ## A speed -/

structure SpeedArguments where
  /-- In miles per hour. -/
  mph : Single
  reason : String
  confidence : Single
  ahead : Single
deriving DecidableEq

namespace SpeedArguments

def arguments : Arguments SpeedArguments :=
  SpeedArguments.mk
    <$> .required "speed_mph" .single
      (some "Recommended target speed in mph (e.g. 45 for a construction zone).")
    <*> .required "reason" .text
      (some "Short explanation, e.g. `construction_zone`, `school_zone`.")
    <*> .required "confidence" .single (some "Confidence from 0.0 to 1.0.")
    <*> .defaulted "distance_ahead_m" .single 200
      (some "Distance in metres to the condition; 200 when unknown.")

def title : String := "SpeedAdvisoryParams"

def decode : Decoder SpeedArguments := arguments.decode title

def proposal (a : SpeedArguments) : Proposal :=
  { skill := "set_speed_advisory"
    speed := some ⟨a.mph * mphToMs, a.reason, a.confidence, a.ahead⟩
    reason := a.reason }

end SpeedArguments

/-! ## A lane -/

structure LaneArguments where
  side : Side
  reason : String
  confidence : Single
deriving DecidableEq

namespace LaneArguments

def arguments : Arguments LaneArguments :=
  LaneArguments.mk
    <$> .required "direction" (.choice [.left, .right] Side.name)
      (some "Suggested lane change direction.")
    <*> .required "reason" .text
      (some "Short explanation, e.g. `slow_truck_ahead`, `merge_required`.")
    <*> .required "confidence" .single (some "Confidence from 0.0 to 1.0.")

def title : String := "LaneAdvisoryParams"

def decode : Decoder LaneArguments := arguments.decode title

def proposal (a : LaneArguments) : Proposal :=
  { skill := "set_lane_advisory", lane := some ⟨a.side, a.reason, a.confidence⟩, reason := a.reason }

end LaneArguments

/-! ## An alert -/

structure AlertArguments where
  text : String
  tier : Tier
  confidence : Single
deriving DecidableEq

namespace AlertArguments

def arguments : Arguments AlertArguments :=
  AlertArguments.mk
    <$> .required "text" .text (some "Short text for the driver display (max 50 characters).")
    <*> .required "severity" (.choice Tier.all Tier.name)
      (some "Alert tiers, ordered `Info < Warning < Critical`.")
    <*> .defaulted "confidence" .single 1 (some "Confidence from 0.0 to 1.0; defaults to 1.0.")

def title : String := "AlertParams"

def decode : Decoder AlertArguments := arguments.decode title

/-- The text without blanks at its ends, as far as the display shows it. -/
def shown (a : AlertArguments) : String := Text.cut displayLimit (Text.trim a.text)

def proposal (a : AlertArguments) : Proposal :=
  { skill := "set_alert", alert := some ⟨a.shown, a.tier, a.confidence⟩, reason := a.shown }

end AlertArguments

namespace Skill

def speed : Skill Run where
  name := "set_speed_advisory"
  description :=
    "Suggest a target speed when conditions ahead call for it: construction zones, sharp "
      ++ "curves, bad weather, school zones, heavy traffic or other hazards."
  schema := (SpeedArguments.arguments.schema SpeedArguments.title).toJson
  run := runWith "set_speed_advisory" SpeedArguments.decode fun _ a _ => pure a.proposal

def lane : Skill Run where
  name := "set_lane_advisory"
  description :=
    "Suggest a lane change, e.g. for a slow truck, a required merge or an obstruction. "
      ++ "Advisory only; the driver confirms."
  schema := (LaneArguments.arguments.schema LaneArguments.title).toJson
  run := runWith "set_lane_advisory" LaneArguments.decode fun _ a _ => pure a.proposal

def alert : Skill Run where
  name := "set_alert"
  description :=
    "Show a short alert on the driver display: construction ahead, an emergency vehicle, "
      ++ "unusual road conditions or another hazard."
  schema := (AlertArguments.arguments.schema AlertArguments.title).toJson
  run := runWith "set_alert" AlertArguments.decode fun _ a _ => pure a.proposal

end Skill

end DriveAdvisory
