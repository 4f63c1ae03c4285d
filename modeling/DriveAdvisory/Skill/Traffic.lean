/-
  Traffic ahead: what the road feed says about the surroundings of the vehicle.

  Asked to check, the skill lists the nearest events.  Asked to advise, it picks ONE event, the worst
  and among equally bad ones the nearest, alerts the driver to it, and where it is an event for which to
  slow down proposes to shed a share of the reference speed.
-/
import DriveAdvisory.Skill.Basic

namespace DriveAdvisory

/-! ## Arguments -/

/-- What is asked for. -/
inductive TrafficMode
  | check
  | advise
deriving DecidableEq, Repr

def TrafficMode.name : TrafficMode → String
  | check => "check"
  | advise => "advise"

structure TrafficArguments where
  mode : TrafficMode
  radiusMiles : Double
  roadway : Option String
  direction : Option String
deriving DecidableEq

namespace TrafficArguments

def arguments : Arguments TrafficArguments :=
  TrafficArguments.mk
    <$> .quiet "action" (.choice [.check, .advise] TrafficMode.name) .check
    <*> .defaulted "radius_miles" .double 10 (some "Search radius in miles (default 10).")
    <*> .optional "roadway_filter" .text (some "Only events on this roadway, e.g. `I-4`.")
    <*> .optional "direction_filter" .text
      (some "Only events in this direction, e.g. `Eastbound`.")

def title : String := "TrafficParams"

def decode : Decoder TrafficArguments := arguments.decode title

def search (a : TrafficArguments) : Search := .withinMiles a.radiusMiles a.direction a.roadway

end TrafficArguments

/-! ## Answers -/

/-- How an impact is answered. -/
structure ImpactResponse where
  confidence : Single
  tier : Tier
  /-- The share of the reference speed to shed. -/
  reduction : Single
deriving DecidableEq

def Impact.response : Impact → ImpactResponse
  | critical => ⟨0.9, .critical, 0.50⟩
  | major => ⟨0.8, .warning, 0.35⟩
  | moderate => ⟨0.7, .warning, 0.25⟩
  | minor => ⟨0.6, .info, 0.15⟩
  | unknown => ⟨0.5, .info, 0.10⟩

namespace Traffic

def skillName : String := "get_traffic_ahead"

/-- A notice for the driver that proposes nothing else. -/
def notice (text : String) : Proposal :=
  { skill := skillName, alert := some ⟨text, .info, 1⟩, reason := text }

/-- An event in one line. -/
def line (hit : Hit TrafficEvent) : String :=
  let e := hit.item
  let road := if e.roadway = "" then "unknown road" else e.roadway
  Text.join " " (Text.words (e.label ++ " (" ++ e.impact.name ++ ") on " ++ road ++ " " ++ e.direction
    ++ " - " ++ hit.miles.places 1 ++ "mi"))

/-- How many events are listed. -/
def listed : Nat := 5

/-- How many events there are, and the first few of them. -/
def check (hits : List (Hit TrafficEvent)) : Proposal :=
  let text := toString hits.length ++ " traffic event(s) nearby"
  { skill := skillName, alert := some ⟨Text.cut displayLimit text, .info, 1⟩
    reason := text ++ ": " ++ Text.join "; " ((hits.take listed).map line) }

/-- The worst event, the first one of several. -/
def worst? (hits : List (Hit TrafficEvent)) : Option (Hit TrafficEvent) :=
  Order.least? (fun a b => a.item.impact.order < b.item.impact.order) hits

/-- What the driver is alerted to; the road is left out where there is no room for it. -/
def alertText (hit : Hit TrafficEvent) : String :=
  let miles := hit.miles.places 1
  let full := hit.item.label ++ " on " ++ hit.item.roadway ++ " - " ++ miles ++ "mi ahead"
  if hit.item.roadway = "" ∨ displayLimit < Text.size full then
    hit.item.label ++ " ahead - " ++ miles ++ "mi"
  else full

/-- The speed proposed for an event, if it is one to slow down for. -/
def slowdown? (hit : Hit TrafficEvent) (motion : Motion) : Option SpeedProposal :=
  let response := hit.item.impact.response
  let base := motion.reference
  if hit.item.isSlowdown ∧ 0 < base then
    some ⟨base * (1 - response.reduction), "fl511_" ++ hit.item.kind, response.confidence,
      hit.distance.toSingle⟩
  else none

/-- What is proposed for the events found, the nearest of which comes first. -/
def advise (hits : List (Hit TrafficEvent)) (motion : Motion) : Proposal :=
  match worst? hits with
  | none => { skill := skillName, reason := "No traffic events nearby" }
  | some hit =>
    let response := hit.item.impact.response
    { skill := skillName
      alert := some ⟨Text.cut displayLimit (alertText hit), response.tier, response.confidence⟩
      speed := slowdown? hit motion
      reason := line hit }

/-- What is proposed for all events of the feed. -/
def propose (globe : Globe) (a : TrafficArguments) (origin : Point) (motion : Motion)
    (events : List TrafficEvent) : Proposal :=
  let hits := a.search.hits globe origin events
  if hits.isEmpty then
    { skill := skillName
      reason := "No traffic events within " ++ a.radiusMiles.places 0 ++ "mi" }
  else match a.mode with
    | .check => check hits
    | .advise => advise hits motion

/-- Asks the feed, unless it is clear without it that there is nothing to say. -/
def act (surroundings : Surroundings) (a : TrafficArguments) (s : Snapshot) :
    StateM World Proposal := do
  if !surroundings.sources.endpoints.hasTraffic then return notice "FL511 API key not configured"
  match s.place with
  | none => return notice "No GPS location available"
  | some origin =>
    match (← World.withHub (Hub.findEvents surroundings.sources)).payload? with
    | none => return { skill := skillName, reason := "FL511 unavailable, no cached events" }
    | some events => return propose surroundings.sources.globe a origin s.motion events

end Traffic

namespace Skill

def traffic : Skill Run where
  name := Traffic.skillName
  description :=
    "Look up FL511 traffic events (accidents, road work, closures) near the vehicle. "
      ++ "'check' lists them; 'advise' returns a speed and alert for the worst one."
  schema := (TrafficArguments.arguments.schema TrafficArguments.title).toJson
  run := runWith Traffic.skillName TrafficArguments.decode Traffic.act

end Skill

end DriveAdvisory
