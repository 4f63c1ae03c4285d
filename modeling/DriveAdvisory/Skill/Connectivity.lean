/-
  Connectivity: how good the link to the network is, by the vehicle's own account and, when asked to, by a
  probe of the reasoning service.
-/
import DriveAdvisory.Skill.Basic

namespace DriveAdvisory

/-! ## Arguments -/

inductive ConnectivityMode
  | status
  | ping
deriving DecidableEq, Repr

def ConnectivityMode.name : ConnectivityMode → String
  | status => "status"
  | ping => "ping"

namespace ConnectivityMode

/-- The only argument is the mode. -/
def arguments : Arguments ConnectivityMode :=
  .quiet "action" (.choice [.status, .ping] ConnectivityMode.name) .status
    (some "`status` reads telemetry only; `ping` also probes the cloud endpoint.")

def title : String := "ConnectivityParams"

def decode : Decoder ConnectivityMode := arguments.decode title

end ConnectivityMode

/-! ## Judging a link -/

namespace Network

/-- A word for what a kind of link can carry. -/
def kindQuality (kind : String) : String :=
  match kind with
  | "none" => "disconnected"
  | "cell2G" => "very_slow"
  | "cell3G" => "slow"
  | "cell4G" | "wifi" => "good"
  | "cell5G" | "ethernet" => "excellent"
  | _ => "unknown"

/-- A word for the strength of a signal. -/
def strengthQuality (strength : String) : String :=
  match strength with
  | "poor" => "poor"
  | "moderate" => "moderate"
  | "good" => "good"
  | "great" => "excellent"
  | _ => "unknown"

/-- A reply that is older than this many seconds is called stale. -/
def staleAfter : Double := 120

/-- What is said about the last reply. -/
def replyLine (n : Network) : String :=
  match n.lastReply with
  | none => "Last cloud reply: unknown"
  | some ago =>
    "Last cloud reply: " ++ ago.places 0 ++ "s ago" ++ if staleAfter < ago then " (stale)" else ""

/-- The vehicle's own account. -/
def report (n : Network) : List String :=
  ["Network type: " ++ n.kind, "Signal strength: " ++ n.strength,
    "Type quality: " ++ kindQuality n.kind, "Strength quality: " ++ strengthQuality n.strength]
    ++ ((n.operator.filter (· != "")).map ("Carrier: " ++ ·)).toList
    ++ ((n.technology.filter (· != "")).map ("Technology: " ++ ·)).toList
    ++ ["Metered connection: " ++ if n.metered then "yes" else "no", n.replyLine]

/-- What the driver is told without a probe. -/
def verdict (n : Network) : String × Tier :=
  if n.kind = "none" then ("No network connection", .warning)
  else if n.strength = "poor" ∨ n.kind = "cell2G" then
    ("Weak network: " ++ n.kind ++ " " ++ n.strength, .warning)
  else ("Network: " ++ n.kind ++ " (" ++ n.strength ++ ")", .info)

end Network

namespace Reachability

/-- A service that answers more slowly than this, in milliseconds, is called slow. -/
def slowAfter : Nat := 2000

/-- What a probe found, in one line. -/
def line (r : Reachability) : String :=
  "Endpoint probe: " ++ (if r.reachable then "reachable" else "unreachable") ++ ", "
    ++ match r.latencyMillis with
      | some ms => toString ms ++ "ms (" ++ r.quality ++ ")"
      | none => "no latency"

/-- What the driver is told with a probe, given what he would be told without. -/
def correct (r : Reachability) (verdict : String × Tier) : String × Tier :=
  if !r.reachable then ("Cloud API unreachable", verdict.2.max .warning)
  else match r.latencyMillis.filter (slowAfter < ·) with
    | some ms => ("Cloud API slow (" ++ toString ms ++ "ms)", verdict.2)
    | none => verdict

end Reachability

namespace Connectivity

def skillName : String := "check_connectivity"

/-- What is proposed for a link, and a probe if one was taken. -/
def assess (n : Network) (probe : Option Reachability) : Proposal :=
  let (text, tier) := match probe with
    | some r => r.correct n.verdict
    | none => n.verdict
  { skill := skillName, alert := some ⟨Text.cut displayLimit text, tier, 1⟩
    reason := Text.join "\n" (n.report ++ (probe.map Reachability.line).toList) }

def act (surroundings : Surroundings) (mode : ConnectivityMode) (s : Snapshot) :
    StateM World Proposal :=
  match mode with
  | .status => return assess s.network none
  | .ping =>
    return assess s.network (← World.withHub (Hub.findReach surroundings.sources)).payload?

end Connectivity

namespace Skill

def connectivity : Skill Run where
  name := Connectivity.skillName
  description :=
    "Report network type, signal strength, carrier and metered status; with 'ping', also "
      ++ "check that the cloud reasoning endpoint is reachable and how fast."
  schema := (ConnectivityMode.arguments.schema ConnectivityMode.title).toJson
  run := runWith Connectivity.skillName ConnectivityMode.decode Connectivity.act

end Skill

end DriveAdvisory
