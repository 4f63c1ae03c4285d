/-
  The program that settings describe: its engines, its sources, its ticker.
-/
import DriveAdvisory.Cycle.Timeline
import DriveAdvisory.Reasoning.Chain
import DriveAdvisory.Settings.Basic
import DriveAdvisory.Skill.Builtin

namespace DriveAdvisory.Settings

/-- The chosen model, or the given one. -/
def modelOr (fallback : String) (s : Settings) : String :=
  if Text.trim s.model = "" then fallback else s.model

/-- The local service, which needs no key. -/
def localService (s : Settings) : Service.ChatService := ⟨s.localAddress, s.localModel, none⟩

/-- The engines in the order in which they are asked. -/
def engines (s : Settings) (sources : Sources) : List (Engine Hub) :=
  let first := match s.provider with
    | .anthropic => Service.MessageService.engine
        ⟨s.anthropicAddress, s.modelOr Messages.defaultModel, s.anthropicKey.exposed?⟩ sources
    | .openAI => Service.ChatService.engine
        ⟨s.openAIAddress, s.modelOr "gpt-4o", s.openAIKey.exposed?⟩ sources
    | .ollama => s.localService.engine sources
  first :: if s.localFallback ∧ s.provider ≠ .ollama then [s.localService.engine sources] else []

/-- The engine that settings describe. -/
def engine (s : Settings) (sources : Sources) : Engine Hub := Chain.engine (s.engines sources)

/-- The sources that settings describe, behind a transport. -/
def sources (s : Settings) (transport : Transport) : Sources :=
  { endpoints := { trafficKey := s.trafficKey.exposed?, probe := s.probeAddress }
    transport, globe := Globe.earth }

/-- The world at the start, with the sightings of a journal if there is one. -/
def world (s : Settings) (journal : Option Journal) : World :=
  { hub := .ofPolicies {}, store := ⟨Ring.empty s.closeness s.ringCapacity, journal⟩ }

/-- The program that settings describe. -/
def session? (s : Settings) (transport : Transport) (stamp : Nat → Stamp)
    (calendar : Duration → Moment) : Except Fault SessionSetup := do
  let sources := s.sources transport
  let engine := (s.engine sources).on World.withHub
  let cycle ← s.cycle?
  return {
    pipeline := { catalogue := Catalogue.builtin, engine, surroundings := ⟨sources, stamp⟩
                  timeout := cycle.timeout, needsFrame := cycle.needsFrame, policy := cycle.policy }
    ticker := { settings := ← s.ticker?, limits := s.limits, engineName := engine.name
                engineAvailable := engine.available, calendar } }

end DriveAdvisory.Settings
