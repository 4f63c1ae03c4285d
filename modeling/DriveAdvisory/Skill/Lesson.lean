/-
  Lessons: what the engine is taught about the use of the skills.

  A lesson is a text that stands in the engine's instructions.  It cannot be invoked; it shares the
  catalogue with the skills all the same, so that no lesson has the name of a skill.
-/
import DriveAdvisory.Text.Basic

namespace DriveAdvisory

/-- A lesson. -/
structure Lesson where
  name : String
  description : String
  text : String
deriving DecidableEq, Repr

namespace Lesson

/-- When to overtake and when to stay behind. -/
def slowVehicle : Lesson where
  name := "slow_vehicle_handler"
  description := "Spot slow vehicles ahead and suggest a lane change when it is safe."
  text := Text.join "\n"
    [("When the camera shows a clearly slower vehicle ahead (a truck, farm equipment, a car "
        ++ "well under the limit) and the radar lead confirms it is much slower than cruise:"),
      ("1. More than 15 mph under cruise: call set_lane_advisory away from it, preferring "
        ++ "left on highways."),
      ("2. No usable adjacent lane: call set_speed_advisory matching the lead speed with a "
        ++ "buffer."),
      "3. Optionally call set_alert \"Slow vehicle ahead\" with severity info.",
      ("Check the visual against the radar lead line. Use confidence 0.6 or more for lane "
        ++ "changes only when the adjacent lane looks clear.")]

/-- When to ask for traffic events and what to make of them. -/
def traffic : Lesson where
  name := "fl511_traffic_awareness"
  description := "Check Florida 511 traffic events ahead and advise on speed and lanes."
  text := Text.join "\n"
    ["get_traffic_ahead returns live Florida 511 incidents near the vehicle.",
      "",
      ("Call it every few observations, when the camera shows brake lights or congestion, "
        ++ "when signs announce construction or detours, and on major highways (I-95, I-75, I-4, "
        ++ "Turnpike)."),
      "",
      ("Start with action=check for a summary. If something serious shows up (accident, "
        ++ "closure, major roadwork) call again with action=advise to get speed and alert "
        ++ "candidates. Pass roadway_filter with the current road name and direction_filter with "
        ++ "the travel direction when known."),
      "",
      ("Severity: Critical means a major crash or full closure; Major causes big delays; "
        ++ "Moderate has some impact; Minor is alert-only."),
      "",
      ("Camera and 511 agreeing: confidence 0.8+. One source only: 0.5-0.7. If a closure is "
        ++ "on the current road and traffic is slowing, consider set_lane_advisory, especially "
        ++ "when the event names the closed lanes.")]

/-- What to report of the road, and what not. -/
def roadIssues : Lesson where
  name := "road_maintenance_awareness"
  description := "Detect and report potholes, cracks, debris and damaged infrastructure."
  text := Text.join "\n"
    [("report_road_issue geotags and stores a road defect seen in the frame and produces "
        ++ "caution advisories. Repeat sightings at the same spot are merged automatically."),
      "",
      ("Issue types: pothole, crack, surface_damage, debris, faded_markings, damaged_sign, "
        ++ "broken_guardrail, drainage_issue, shoulder_damage, other."),
      "Lane positions: left_lane, center_lane, right_lane, shoulder, median, unknown.",
      "",
      ("Report only clear evidence on the roadway or roadside with confidence 0.5 or more. "
        ++ "Skip normal texture, shadows, wet pavement, rumble strips and expansion joints."),
      "",
      "Severity:",
      ("- severe: could damage the car or cause loss of control (deep pothole, large debris "
        ++ "in lane, missing guardrail on a curve or bridge, buckled pavement)."),
      ("- moderate: hurts ride or visibility (medium pothole, alligator cracking, faded "
        ++ "markings at a merge, bent sign, water across part of a lane)."),
      "- minor: cosmetic (hairline cracks, light fading, small shoulder erosion).",
      "",
      ("The tool slows the car about 30% for severe and 15% for moderate issues in a travel "
        ++ "lane, and suggests moving away from severe ones. Call set_speed_advisory as well only "
        ++ "for an imminent hazard. Several reports in a short stretch mean a worn segment: "
        ++ "consider a conservative speed overall.")]

/-- When to look at the situation and when to plan a way out. -/
def evacuation : Lesson where
  name := "evacuation_awareness"
  description := "Use weather alerts, evacuation zones, closures and routing in Florida emergencies."
  text := Text.join "\n"
    [("plan_evacuation combines NWS alerts, FDEM evacuation zones, shelters and designated "
        ++ "routes, FL511 closures and OSRM routing."),
      "",
      ("Call action=check_situation during hurricane season when weather turns bad, on "
        ++ "flooding, on heavy one-way traffic or contra-flow lanes, when 511 reports closures or "
        ++ "critical events, and on evacuation corridors (I-75, I-95, I-4, Turnpike, I-10, US-1)."),
      "",
      "Escalate to action=plan_route when:",
      ("- a hurricane or storm surge warning covers zone A or B (also set_alert \"EVACUATE "
        ++ "NOW\" critical),"),
      "- a tropical storm warning covers zones A to C,",
      "- a flood warning coincides with visible flooding,",
      "- several closures coincide with severe weather.",
      "Otherwise action=find_shelters lists nearby shelters.",
      "",
      ("Zones run from A (coastal, evacuate first) to F (major storms only). Other county "
        ++ "codes are variants of these."),
      "",
      ("Speeds: heavy rain 35-45 mph, clear evacuation route up to 55 mph, near closures "
        ++ "25-35 mph. Confidence 0.8+ when several sources agree, 0.5-0.7 for one. Never delay a "
        ++ "critical evacuation alert. If the data sources are unreachable, warn the driver to "
        ++ "check local radio or TV.")]

/-- What the link allows. -/
def connectivity : Lesson where
  name := "connectivity_awareness"
  description := "Adapt tool use to network type, strength and cloud reachability."
  text := Text.join "\n"
    [("The context includes the network line. check_connectivity with action=status is free; "
        ++ "action=ping sends a cached HEAD request to the cloud endpoint. Ping when the last "
        ++ "cloud reply is over 120 s old or a network tool just timed out, at most every few "
        ++ "minutes."),
      "",
      ("- No network: do not call get_traffic_ahead or plan_evacuation. Camera-based tools "
        ++ "(report_road_issue, speed, lane and alert) still work."),
      ("- Very slow (cell2G, poor cell3G): only safety-critical 511 or evacuation checks, and "
        ++ "expect timeouts."),
      "- Slow (cell3G, poor cell4G): check 511 every 2-3 minutes with action=check.",
      "- Good (cell4G, cell5G, wifi, ethernet): normal use.",
      "- Metered: fewer calls, rely on cached data.",
      "",
      ("If the network drops mid-drive, confirm with action=status and set an info alert "
        ++ "\"Network lost - camera only\".")]

/-- The lessons, in the order in which they are taught. -/
def all : List Lesson := [slowVehicle, traffic, roadIssues, evacuation, connectivity]

end Lesson

end DriveAdvisory
