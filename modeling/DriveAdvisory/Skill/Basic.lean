/-
  Skills: what the engine may have done for it.

  A skill takes the engine's document and the cycle's snapshot.  It may read the sources and report what
  was seen; all of that is in the `World`, and a run is a step from one world to the next that ends with a
  proposal or a fault.  A skill whose arguments do not fit leaves the world as it was, for it has not
  begun.
-/
import DriveAdvisory.Sighting.Store
import DriveAdvisory.Skill.Arguments
import DriveAdvisory.Source.Hub
import DriveAdvisory.Vehicle.Snapshot

namespace DriveAdvisory

/-! ## The world that skills act in -/

/-- What a new sighting is marked with. -/
structure Stamp where
  id : Identifier
  seenAt : Moment
  clock : Double

/-- What the world is made of and that never changes. -/
structure Surroundings where
  sources : Sources
  /-- The marks of new sightings, by how many there were before. -/
  stamp : Nat → Stamp

/-- The sources and the sightings as they stand. -/
structure World where
  hub : Hub
  store : Store
  /-- How many sightings were made. -/
  sightings : Nat := 0
  /-- How many questions the engine was asked. -/
  questions : Nat := 0

namespace World

/-- The time. -/
def now (w : World) : Duration := w.hub.now

/-- The world at another time. -/
def atTime (now : Duration) (w : World) : World := { w with hub := { w.hub with now } }

/-- Does a step of the sources. -/
def withHub {α : Type} (step : StateM Hub α) : StateM World α := fun w =>
  let (a, hub) := step w.hub
  (a, { w with hub })

end World

/-! ## Skills -/

/-- What runs a skill. -/
abbrev Run := Surroundings → Json → Snapshot → StateM World (Except Fault Proposal)

/-- A skill; what runs it is left open, for much can be said of skills that are not run. -/
structure Skill (ρ : Type) where
  name : String
  description : String
  /-- What it may be told, as it is offered to the engine. -/
  schema : Json
  run : ρ

namespace Skill

/-- What a skill makes of the arguments it is given. -/
def readArguments {α : Type} (name : String) (decode : Decoder α) (arguments : Json) :
    Except Fault α :=
  match decode arguments with
  | .ok a => .ok a
  | .error m => .error (.invalidArguments name m.message)

/-- The run of a skill that knows its arguments and cannot fail with them. -/
def runWith {α : Type} (name : String) (decode : Decoder α)
    (act : Surroundings → α → Snapshot → StateM World Proposal) : Run :=
  fun surroundings arguments snapshot =>
    match readArguments name decode arguments with
    | .ok a => Except.ok <$> act surroundings a snapshot
    | .error fault => pure (.error fault)

end Skill

end DriveAdvisory
