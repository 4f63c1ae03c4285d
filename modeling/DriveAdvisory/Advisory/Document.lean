/-
  Advisories as documents.

  Members are named as the planner names them, numbers that are not finite become `null`, and
  reading an advisory back takes every field: none has a default.
-/
import DriveAdvisory.Advisory.Basic
import DriveAdvisory.Json.Decode

namespace DriveAdvisory

/-! ## Names -/

/-- The names of a kind's values, for reading. -/
def Decoder.named {α : Type} (all : List α) (name : α → String) : Decoder α :=
  Decoder.variant (all.map fun a => (name a, a))

instance : ToJson Side := ⟨fun side => .string side.name⟩
instance : ToJson Tier := ⟨fun tier => .string tier.name⟩

def Side.decode : Decoder Side := Decoder.named Side.all Side.name

def Tier.decode : Decoder Tier := Decoder.named Tier.all Tier.name

/-! ## Axes -/

instance : ToJson SpeedAxis := ⟨fun a => Json.ofMembers
  [("active", toJson a.active), ("target_ms", toJson a.target), ("source", toJson a.source),
    ("confidence", toJson a.confidence), ("distance_ahead_m", toJson a.ahead)]⟩

instance : ToJson LaneAxis := ⟨fun a => Json.ofMembers
  [("active", toJson a.active), ("direction", toJson a.side), ("reason", toJson a.reason),
    ("confidence", toJson a.confidence)]⟩

instance : ToJson AlertAxis := ⟨fun a => Json.ofMembers
  [("active", toJson a.active), ("text", toJson a.text), ("severity", toJson a.tier),
    ("confidence", toJson a.confidence)]⟩

def SpeedAxis.decode : Decoder SpeedAxis := Fields.record "SpeedAxis"
  (SpeedAxis.mk <$> .required "active" .bool <*> .required "target_ms" .single
    <*> .required "source" .string <*> .required "confidence" .single
    <*> .required "distance_ahead_m" .single)

def LaneAxis.decode : Decoder LaneAxis := Fields.record "LaneAxis"
  (LaneAxis.mk <$> .required "active" .bool <*> .required "direction" Side.decode
    <*> .required "reason" .string <*> .required "confidence" .single)

def AlertAxis.decode : Decoder AlertAxis := Fields.record "AlertAxis"
  (AlertAxis.mk <$> .required "active" .bool <*> .required "text" .string
    <*> .required "severity" Tier.decode <*> .required "confidence" .single)

/-! ## Advisories -/

instance : ToJson Advisory := ⟨fun a => Json.ofMembers
  [("speed", toJson a.speed), ("lane", toJson a.lane), ("alert", toJson a.alert),
    ("capabilities", toJson a.skills), ("reason", toJson a.reason)]⟩

def Advisory.decode : Decoder Advisory := Fields.record "Advisory"
  (Advisory.mk <$> .required "speed" SpeedAxis.decode <*> .required "lane" LaneAxis.decode
    <*> .required "alert" AlertAxis.decode <*> .required "capabilities" (.list .string)
    <*> .required "reason" .string)

end DriveAdvisory
