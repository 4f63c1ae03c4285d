/-
  Telling new sightings from repeated ones.

  The ring holds the last sightings that were new, oldest first.  A sighting repeats one of them when
  it is of the same issue, no older relative to it than the window, and no farther away than the
  radius; both bounds belong to the range.  Without a fix a sighting neither repeats anything nor is
  repeated.  A new one is taken in, and pushes the oldest out of a full ring.
-/
import DriveAdvisory.Order.Stable
import DriveAdvisory.Sighting.Record

namespace DriveAdvisory

/-- How close in space and time two sightings of an issue are the same one. -/
structure Closeness where
  /-- In metres. -/
  radius : Double := 50
  /-- In seconds. -/
  window : Double := 300
deriving DecidableEq

/-- The age of an earlier sighting at a later one; never negative. -/
def Sighting.ageAt (prior later : Sighting) : Double := (0 : Double).max (later.clock - prior.clock)

namespace Closeness

/-- The sighting, made at the given place, repeats an earlier one. -/
def repeatsOne (globe : Globe) (near : Closeness) (s : Sighting) (here : Point) (prior : Sighting) :
    Bool :=
  prior.issue == s.issue && decide (prior.ageAt s ≤ near.window)
    && match prior.place with
      | some there => decide (globe.distance here there ≤ near.radius)
      | none => false

/-- The sighting repeats one of the earlier ones. -/
def repeatsAny (globe : Globe) (near : Closeness) (s : Sighting) (history : List Sighting) : Bool :=
  match s.place with
  | some here => history.any (near.repeatsOne globe s here)
  | none => false

end Closeness

/-- The recent sightings that were new, oldest first. -/
structure Ring where
  near : Closeness := {}
  capacity : Nat := 100
  recent : List Sighting := []

namespace Ring

/-- A ring without sightings; it has room for one at least. -/
def empty (near : Closeness) (capacity : Nat) : Ring := ⟨near, max 1 capacity, []⟩

/-- The ring with room made for one more, and that one taken in. -/
def push (ring : Ring) (s : Sighting) : Ring :=
  { ring with
    recent := (if ring.capacity ≤ ring.recent.length then ring.recent.drop 1 else ring.recent) ++ [s] }

/-- Whether a sighting is new, and the ring after it. -/
def take (globe : Globe) (ring : Ring) (s : Sighting) : Bool × Ring :=
  if ring.near.repeatsAny globe s ring.recent then (false, ring) else (true, ring.push s)

/-- The sightings around a position and how far they are, nearest first. -/
def nearby (globe : Globe) (ring : Ring) (p : Point) (radius : Double) : List (Sighting × Double) :=
  Order.sort (fun a b => a.2.totalCompare b.2 != .gt)
    (ring.recent.filterMap fun s => do
      let distance := globe.distance (← s.place) p
      if distance ≤ radius then some (s, distance) else none)

end Ring

end DriveAdvisory
