/-
  The settings: what a user may choose, and what follows from the choice.

  Every setting has a default, so that an empty file is a valid one.  `Settings.validate` refuses what the
  program cannot run with; the parts of the program take their own settings from here
  (`Settings.limits`, `Settings.closeness`, `Settings.ticker?`, `Settings.cycle?`).
-/
import DriveAdvisory.Advisory.Merge
import DriveAdvisory.Advisory.Safety
import DriveAdvisory.Cycle.Ticker
import DriveAdvisory.Json.Decode
import DriveAdvisory.Reasoning.Service
import DriveAdvisory.Sighting.Ring

namespace DriveAdvisory

/-! ## Keys -/

/-- A key for a service.  It is never shown. -/
structure ApiKey where
  raw : String := ""
deriving DecidableEq, Inhabited

namespace ApiKey

/-- Nothing but blanks: no key is set. -/
def isBlank (k : ApiKey) : Bool := Text.trim k.raw == ""

/-- The key to send, if one is set. -/
def exposed? (k : ApiKey) : Option String := Text.trimmed? k.raw

/-- What may be said about the key. -/
def shown (k : ApiKey) : String := if k.isBlank then "<not set>" else "<redacted>"

end ApiKey

/-! ## Providers -/

/-- The reasoning service that is asked first. -/
inductive Provider
  | anthropic
  | openAI
  | ollama
deriving DecidableEq, Repr, Inhabited

namespace Provider

def all : List Provider := [anthropic, openAI, ollama]

def name : Provider → String
  | anthropic => "anthropic"
  | openAI => "openai"
  | ollama => "ollama"

/-- The provider that a user names, in any case and with blanks around it. -/
def ofText (text : String) : Except Fault Provider :=
  let wanted := Text.lowerAscii (Text.trim text)
  match all.find? (·.name == wanted) with
  | some provider => .ok provider
  | none => .error (.configuration ("unknown provider '" ++ wanted ++ "'"))

/-- The provider of a document, by its exact name. -/
def decode : Decoder Provider := .variant (all.map fun provider => (provider.name, provider))

end Provider

/-! ## The settings -/

/-- Everything that a user may choose. -/
structure Settings where
  provider : Provider := .anthropic
  /-- The model to ask; a blank one stands for the provider's own choice. -/
  model : String := ""
  /-- A local service is asked when the provider does not answer. -/
  localFallback : Bool := false
  localModel : String := "llava"
  anthropicAddress : String := Service.messagesAddress
  openAIAddress : String := "https://api.openai.com"
  localAddress : String := "http://localhost:11434"
  anthropicKey : ApiKey := {}
  openAIKey : ApiKey := {}
  trafficKey : ApiKey := {}
  /-- In ticks per second. -/
  rate : Double := 2
  /-- In seconds, as are the next two. -/
  reasoningTimeout : Double := 10
  cycleDeadline : Double := 15
  advisoryMaxAge : Double := 30
  needsFrame : Bool := true
  /-- In metres per second, as is the next one. -/
  maxSpeed : Single := 45
  maxStep : Single := 20
  minConfidence : Single := 0.3
  repeatRadius : Double := 50
  repeatWindow : Double := 300
  /-- How many sightings are kept in mind. -/
  ringCapacity : Nat := 100
  /-- Where sightings are written down; by default a file in the program's own directory. -/
  journalPath : Option String := none
  contextPath : String := "roadwise-context.json"
  framePath : Option String := none
deriving DecidableEq, Inhabited

namespace Settings

/-! ## Checking -/

/-- A span that a user gave in seconds: at least half a nanosecond, and not too long. -/
def seconds (name : String) (value : Double) : Except Fault Duration :=
  match Duration.ofFloatSeconds value with
  | .ok (d + 1) => .ok (d + 1)
  | _ => .error (.configuration (name ++ " must be positive, got " ++ value.prose))

def reasoningTimeout? (s : Settings) : Except Fault Duration :=
  seconds "reasoning_timeout_s" s.reasoningTimeout

def cycleDeadline? (s : Settings) : Except Fault Duration :=
  seconds "cycle_deadline_s" s.cycleDeadline

def advisoryMaxAge? (s : Settings) : Except Fault Duration :=
  seconds "advisory_max_age_s" s.advisoryMaxAge

/-- Refuses what the program cannot run with; the first problem counts. -/
def validate (s : Settings) : Except Fault Unit := do
  unless s.rate.isFinite ∧ 0 < s.rate do
    throw (.configuration ("rate_hz must be positive, got " ++ s.rate.prose))
  discard s.reasoningTimeout?
  discard s.cycleDeadline?
  discard s.advisoryMaxAge?
  unless 0 ≤ s.minConfidence ∧ s.minConfidence ≤ 1 do
    throw (.configuration ("min_confidence must be within [0, 1], got " ++ s.minConfidence.prose))
  if s.maxSpeed ≤ 0 ∨ s.maxStep ≤ 0 then
    throw (.configuration "max_speed_ms and max_step_ms must be positive")

/-! ## What follows -/

def limits (s : Settings) : Limits :=
  { maxSpeed := s.maxSpeed, maxStep := s.maxStep, minConfidence := s.minConfidence }

def closeness (s : Settings) : Closeness := ⟨s.repeatRadius, s.repeatWindow⟩

/-- The rate and the patience of the ticker. -/
def ticker? (s : Settings) : Except Fault TickerSettings := do
  return { rate := s.rate, deadline := ← s.cycleDeadline?, maxAge := ← s.advisoryMaxAge? }

/-- What cycles go by. -/
structure CycleSettings where
  timeout : Duration
  needsFrame : Bool
  policy : MergePolicy

def cycle? (s : Settings) : Except Fault CycleSettings := do
  return ⟨← s.reasoningTimeout?, s.needsFrame, { minConfidence := s.minConfidence }⟩

/-- The endpoint whose reach is probed: the provider's. -/
def probeAddress (s : Settings) : String :=
  match s.provider with
  | .anthropic => s.anthropicAddress
  | .openAI => s.openAIAddress
  | .ollama => s.localAddress

/-! ## Places -/

/-- A name inside a directory. -/
def inDirectory (directory name : String) : String :=
  if directory = "" ∨ directory.toList.getLast? = some '/' then directory ++ name
  else directory ++ "/" ++ name

/-- The program's own directory. -/
def ownDirectory (home : String) : String := inDirectory home ".roadwise"

/-- The settings file. -/
def filePath (home : String) : String := inDirectory (ownDirectory home) "config.toml"

/-- Where sightings are written down. -/
def journalFile (home : String) (s : Settings) : String :=
  s.journalPath.getD (inDirectory (ownDirectory home) "observations.db")

end Settings

end DriveAdvisory
