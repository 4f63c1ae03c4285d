/-
  What lies around a position, nearest first.

  A search keeps the items that have a position no farther than the radius, and that match the
  direction and the corridor where those are asked for.  The order is by distance in the total order,
  and equally far items keep the order in which they came, so a wider search only appends.
-/
import DriveAdvisory.Geo.Point
import DriveAdvisory.Order.Stable
import DriveAdvisory.Text.Lower

namespace DriveAdvisory

/-- Something that may lie on a road. -/
class Located (α : Type) where
  position : α → Option Point
  /-- The direction of travel, such as `Northbound`. -/
  direction : α → Option String
  /-- The name of the roadway. -/
  corridor : α → Option String

/-- What a search is for.  The wanted words are lower case. -/
structure Search where
  radius : Double
  direction : Option String
  corridor : Option String
deriving DecidableEq

namespace Search

/-- The wanted word of a request: trimmed and in lower case, none when nothing is left. -/
def word? (raw : Option String) : Option String := (raw.bind Text.trimmed?).map Text.lower

/-- A search within some miles, along a direction and a corridor if these are given. -/
def withinMiles (miles : Double) (direction corridor : Option String) : Search :=
  ⟨milesToMetres miles, word? direction, word? corridor⟩

/-- What an item says of itself matches when it holds the wanted word, whatever its case.  Without a
    wanted word everything matches, with one an item that says nothing does not. -/
def matchesWord (wanted found : Option String) : Bool :=
  match wanted with
  | none => true
  | some word => match found with
    | none => false
    | some text => Text.contains (Text.lower text) word

end Search

/-- An item and how far away it is, in metres. -/
structure Hit (α : Type) where
  item : α
  distance : Double
deriving DecidableEq

namespace Hit

variable {α : Type}

def miles (hit : Hit α) : Double := metresToMiles hit.distance

/-- Hits are ordered by distance. -/
def noFarther (a b : Hit α) : Bool := a.distance.totalCompare b.distance != .gt

end Hit

/-- The item with its distance, if the search is for it. -/
def Search.hit? {α : Type} [Located α] (globe : Globe) (search : Search) (origin : Point) (item : α) :
    Option (Hit α) := do
  let position ← Located.position item
  let distance := globe.distance position origin
  if search.radius < distance then none
  else if Search.matchesWord search.direction (Located.direction item)
      && Search.matchesWord search.corridor (Located.corridor item) then
    some ⟨item, distance⟩
  else none

/-- The items that a search is for, nearest first. -/
def Search.hits {α : Type} [Located α] (globe : Globe) (search : Search) (origin : Point)
    (items : List α) : List (Hit α) :=
  Order.sort Hit.noFarther (items.filterMap (search.hit? globe origin))

instance : Located Point := ⟨some, fun _ => none, fun _ => none⟩

end DriveAdvisory
