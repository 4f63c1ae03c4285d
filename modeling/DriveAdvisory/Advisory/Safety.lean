/-
  The last filter before the planner.

  Whatever was merged, what passes it keeps to the limits:

  1. an axis whose confidence, held to `[0, 1]`, is below the least one is set back to its default;
  2. a speed lies in `[0, maxSpeed]`, and a target that is not finite switches its axis off;
  3. a speed more than `maxStep` below the reference becomes reference minus step, so that a slow
     target is reached over several messages;
  4. an alert's text is cut to what the display shows.

  The bounds of rule 2 are an interval only if `0 ≤ maxSpeed`, which a NaN is not.  `Limits.enforce` is
  total all the same; `Limits.enforce?` has no value where a speed would be held to such an interval.
-/
import DriveAdvisory.Advisory.Basic

namespace DriveAdvisory

/-- What a published advisory keeps to. -/
structure Limits where
  /-- The highest speed, in metres per second. -/
  maxSpeed : Single := 45
  /-- The largest drop below the reference speed from one message to the next. -/
  maxStep : Single := 20
  minConfidence : Single := 0.3
  alertLimit : Nat := displayLimit
deriving DecidableEq

namespace Limits

/-- A confidence held to `[0, 1]`; what is not finite counts as none. -/
def unitConfidence (confidence : Single) : Single :=
  if confidence.isFinite then confidence.clamp 0 1 else 0

/-- The confidence with which an axis passes, if it does. -/
def gate? (limits : Limits) (active : Bool) (confidence : Single) : Option Single :=
  if active then
    let held := unitConfidence confidence
    if held < limits.minConfidence then none else some held
  else none

/-- The speed below which a message may not go: the step below a finite reference. -/
def floor? (limits : Limits) (reference : Option Single) : Option Single :=
  (reference.filter (·.isFinite)).map (· - limits.maxStep)

/-- The speed that is published for a finite target. -/
def holdSpeed (limits : Limits) (reference : Option Single) (target : Single) : Single :=
  let clamped := target.clamp 0 limits.maxSpeed
  match limits.floor? reference with
  | some floor => if clamped < floor then (0 : Single).max (floor.min limits.maxSpeed) else clamped
  | none => clamped

def filterSpeed (limits : Limits) (reference : Option Single) (axis : SpeedAxis) : SpeedAxis :=
  match limits.gate? axis.active axis.confidence with
  | none => {}
  | some confidence =>
    if axis.target.isFinite then
      { active := true, target := limits.holdSpeed reference axis.target, source := axis.source
        confidence := confidence, ahead := (0 : Single).max axis.ahead }
    else {}

def filterLane (limits : Limits) (axis : LaneAxis) : LaneAxis :=
  match limits.gate? axis.active axis.confidence with
  | none => {}
  | some confidence => { axis with confidence := confidence }

def filterAlert (limits : Limits) (axis : AlertAxis) : AlertAxis :=
  match limits.gate? axis.active axis.confidence with
  | none => {}
  | some confidence =>
    { active := true, text := Text.cut limits.alertLimit axis.text, tier := axis.tier
      confidence := confidence }

/-- The advisory that is published.  The reference is the speed last published, or the vehicle's own when
    there is none; without one nothing limits the step. -/
def enforce (limits : Limits) (merged : Advisory) (reference : Option Single) : Advisory :=
  { merged with
    speed := limits.filterSpeed reference merged.speed
    lane := limits.filterLane merged.lane
    alert := limits.filterAlert merged.alert }

/-- A speed would be held to `[0, maxSpeed]`. -/
def holdsSpeed (limits : Limits) (axis : SpeedAxis) : Bool :=
  (limits.gate? axis.active axis.confidence).isSome && axis.target.isFinite

/-- The advisory that is published, unless a speed would be held to bounds that are no interval. -/
def enforce? (limits : Limits) (merged : Advisory) (reference : Option Single) : Option Advisory :=
  if limits.holdsSpeed merged.speed ∧ ¬ Binary.Bounds 0 limits.maxSpeed then none
  else some (limits.enforce merged reference)

end Limits

end DriveAdvisory
