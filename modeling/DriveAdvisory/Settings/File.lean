/-
  Settings as a document and as a file.

  A settings file holds the settings in one fixed order.  Blank keys and places that are not given are left
  out, and read back as not given.  A document may leave out any setting, and what it holds besides is
  passed over.
-/
import DriveAdvisory.Settings.Basic
import DriveAdvisory.Toml.Printer
import DriveAdvisory.Toml.Reader

namespace DriveAdvisory

namespace ApiKey

def decode : Decoder ApiKey := fun j => (Decoder.string j).map ApiKey.mk

end ApiKey

namespace Settings

/-! ## Documents -/

/-- The settings of a document. -/
def decode : Decoder Settings :=
  let d : Settings := {}
  Fields.record "Config"
    (Settings.mk <$> .defaulted "provider" Provider.decode d.provider
      <*> .defaulted "model" .string d.model
      <*> .defaulted "ollama_fallback" .bool d.localFallback
      <*> .defaulted "ollama_model" .string d.localModel
      <*> .defaulted "anthropic_url" .string d.anthropicAddress
      <*> .defaulted "openai_url" .string d.openAIAddress
      <*> .defaulted "ollama_url" .string d.localAddress
      <*> .defaulted "anthropic_api_key" ApiKey.decode d.anthropicKey
      <*> .defaulted "openai_api_key" ApiKey.decode d.openAIKey
      <*> .defaulted "fl511_api_key" ApiKey.decode d.trafficKey
      <*> .defaulted "rate_hz" .double d.rate
      <*> .defaulted "reasoning_timeout_s" .double d.reasoningTimeout
      <*> .defaulted "cycle_deadline_s" .double d.cycleDeadline
      <*> .defaulted "advisory_max_age_s" .double d.advisoryMaxAge
      <*> .defaulted "require_frame" .bool d.needsFrame
      <*> .defaulted "max_speed_ms" .single d.maxSpeed
      <*> .defaulted "max_step_ms" .single d.maxStep
      <*> .defaulted "min_confidence" .single d.minConfidence
      <*> .defaulted "dedup_radius_m" .double d.repeatRadius
      <*> .defaulted "dedup_window_s" .double d.repeatWindow
      <*> .defaulted "ring_capacity" .count d.ringCapacity
      <*> .defaultedOption "observation_db" .path d.journalPath
      <*> .defaulted "context_path" .path d.contextPath
      <*> .defaultedOption "frame_path" .path d.framePath)

/-- A number as a setting; a narrow one is widened. -/
def number {f : BinaryFormat} (x : Binary f) : Json := .number (.real x.convert)

/-- A key's setting, unless it is blank. -/
def keyMember (name : String) (k : ApiKey) : List (String × Json) :=
  if k.isBlank then [] else [(name, .string k.raw)]

/-- A place's setting, if it is given. -/
def placeMember (name : String) (place : Option String) : List (String × Json) :=
  (place.map fun place => (name, Json.string place)).toList

/-- The settings with their names, in the order of the file. -/
def members (s : Settings) : List (String × Json) :=
  [("provider", .string s.provider.name), ("model", .string s.model),
    ("ollama_fallback", .bool s.localFallback), ("ollama_model", .string s.localModel),
    ("anthropic_url", .string s.anthropicAddress), ("openai_url", .string s.openAIAddress),
    ("ollama_url", .string s.localAddress)]
  ++ keyMember "anthropic_api_key" s.anthropicKey ++ keyMember "openai_api_key" s.openAIKey
  ++ keyMember "fl511_api_key" s.trafficKey
  ++ [("rate_hz", number s.rate), ("reasoning_timeout_s", number s.reasoningTimeout),
    ("cycle_deadline_s", number s.cycleDeadline), ("advisory_max_age_s", number s.advisoryMaxAge),
    ("require_frame", .bool s.needsFrame), ("max_speed_ms", number s.maxSpeed),
    ("max_step_ms", number s.maxStep), ("min_confidence", number s.minConfidence),
    ("dedup_radius_m", number s.repeatRadius), ("dedup_window_s", number s.repeatWindow),
    ("ring_capacity", .number (.whole s.ringCapacity))]
  ++ placeMember "observation_db" s.journalPath ++ [("context_path", .string s.contextPath)]
  ++ placeMember "frame_path" s.framePath

/-! ## Files -/

/-- The largest integer of a file. -/
def largestInteger : Nat := 9223372036854775807

/-- The settings as a file.  A file has no integer beyond a signed word of 64 bits. -/
def toText (s : Settings) : Except Fault String :=
  if s.ringCapacity ≤ largestInteger then .ok (Toml.text s.members)
  else .error (.configuration "failed to serialize config: out-of-range value for u64 type")

/-- In a file a variant's name may also be the only key of a table, with nothing below it. -/
def plainVariant : Json → Json
  | .object [(name, .object [])] => .string name
  | .object [(name, .array [])] => .string name
  | j => j

/-- The document with the provider's name in its plain form. -/
def plainDocument : Json → Json
  | .object members => .object (members.map fun (name, value) =>
      (name, if name = "provider" then plainVariant value else value))
  | j => j

/-- The settings that a file holds. -/
def ofText? (text : String) : Option Settings := do
  (decode (plainDocument (← Toml.read? text))).toOption

/-- The settings that a file holds, or what is wrong. -/
def ofText (text : String) : Except Fault Settings :=
  match ofText? text with
  | some s => .ok s
  | none => .error (.configuration "failed to parse config")

end Settings

end DriveAdvisory
