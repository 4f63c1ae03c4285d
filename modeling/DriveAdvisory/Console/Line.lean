/-
  What the terminal shows about an advisory: one line.

  Styles are kept apart from texts.  On a terminal that shows none, or for a style that changes nothing, a
  text stands as it is; else it stands between the codes of the style and the code that ends all
  styles.  Where a styled text ends all styles itself, its own style begins again.
-/
import DriveAdvisory.Cycle.Channel
import DriveAdvisory.Geo.Point
import DriveAdvisory.Number.Shortest

namespace DriveAdvisory.Console

/-! ## Styles -/

/-- The codes of a style. -/
abbrev Style := List Nat

def plain : Style := []
def bold : Style := [1]
def dimmed : Style := [2]
def red : Style := [31]
def green : Style := [32]
def yellow : Style := [33]
/-- Bold and red. -/
def alarming : Style := [1, 31]

/-- The code that ends all styles. -/
def reset : String := "\x1b[0m"

/-- The text with `restart` after every end of all styles. -/
def restarted (restart : List Char) : (fuel : Nat) → List Char → List Char
  | 0, cs => cs
  | _ + 1, [] => []
  | fuel + 1, c :: rest =>
    match Text.dropFront? reset.toList (c :: rest) with
    | some tail => reset.toList ++ restart ++ restarted restart fuel tail
    | none => c :: restarted restart fuel rest

/-- A text in a style. -/
def paint (styled : Bool) (style : Style) (text : String) : String :=
  if !styled || style.isEmpty then text
  else
    let start := "\x1b[" ++ Text.join ";" (style.map toString) ++ "m"
    start ++ String.ofList (restarted start.toList text.length text.toList) ++ reset

/-! ## Lines -/

/-- How an alert's text looks. -/
def tierStyle : Tier → Style
  | .info => plain
  | .warning => yellow
  | .critical => alarming

/-- A side, as it is shown. -/
def sideWord : Side → String
  | .none => "None"
  | .left => "Left"
  | .right => "Right"

/-- The parts of an advisory that recommend something. -/
def parts (styled : Bool) (a : Advisory) : List String :=
  let label := paint styled bold
  (if a.speed.active then
    [label "speed" ++ " " ++ (a.speed.target / mphToMs).places 0 ++ " mph (" ++ a.speed.source ++ ", "
      ++ a.speed.confidence.places 2 ++ ")"] else [])
  ++ (if a.lane.active then
    [label "lane" ++ " " ++ sideWord a.lane.side ++ " (" ++ a.lane.reason ++ ", "
      ++ a.lane.confidence.places 2 ++ ")"] else [])
  ++ (if a.alert.active then
    [label "alert" ++ " " ++ paint styled (tierStyle a.alert.tier) a.alert.text] else [])

/-- The line of a message. -/
def advisoryLine (styled : Bool) (m : Message) : String :=
  if m.advisory.anyActive then
    "#" ++ toString m.seq ++ " " ++ Text.join " | " (parts styled m.advisory)
  else paint styled dimmed "· no advisory"

/-- How a state looks. -/
def stateStyle : AgentState → Style
  | .active => green
  | .degraded => yellow
  | .error => red
  | .disabled => dimmed
  | .initializing => plain

/-- The line of a status. -/
def statusLine (styled : Bool) (s : Status) : String :=
  paint styled dimmed "status" ++ " [" ++ paint styled (stateStyle s.state) s.state.name ++ "] "
    ++ paint styled dimmed (s.backend ++ " " ++ toString s.latencyMillis ++ "ms") ++ " " ++ s.summary

end DriveAdvisory.Console
