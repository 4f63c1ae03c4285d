/-
  Positions snapped to a decimal grid.

  Two queries for almost the same place should share one answer, so caches are keyed by grid cells: the
  coordinates times a power of ten, rounded to whole numbers (a half away from zero), and the search
  radius in tenths of a mile.  The cell forgets the query's own coordinates; whoever needs a
  position takes the cell's `point`.
-/
import DriveAdvisory.Geo.Point

namespace DriveAdvisory

/-- A cell of the decimal grid, with a search radius. -/
structure Cell where
  lat : Int
  lon : Int
  decimals : UInt32
  /-- The radius in tenths of a mile; zero when the query has none. -/
  radiusTenths : Int
deriving DecidableEq

namespace Cell

/-- The nearest whole number that a 64-bit word holds. -/
def snap (x : Double) : Int := x.round.toIntWithin (-9223372036854775808) 9223372036854775807

/-- How many cells there are to a degree: a power of ten.  The number of decimals is taken as a signed word,
    so the largest ones make cells of several degrees. -/
def scale (decimals : UInt32) : Double := (10 : Double).signedPower decimals.toBitVec.toInt

/-- The cell around a position. -/
def around (decimals : UInt32) (p : Point) : Cell :=
  ⟨snap (p.lat * scale decimals), snap (p.lon * scale decimals), decimals, 0⟩

/-- The cell with a search radius. -/
def within (radiusMiles : Double) (c : Cell) : Cell := { c with radiusTenths := snap (radiusMiles * 10) }

/-- The position that stands for the cell. -/
def point (c : Cell) : Point :=
  ⟨Binary.ofInt c.lat / scale c.decimals, Binary.ofInt c.lon / scale c.decimals⟩

/-- The search radius in miles. -/
def radiusMiles (c : Cell) : Double := Binary.ofInt c.radiusTenths / 10

end Cell

/-- The two ends of a drive, each in its cell. -/
structure Leg where
  origin : Cell
  destination : Cell
deriving DecidableEq

/-- Drives are kept to three decimals. -/
def Leg.between (origin destination : Point) : Leg :=
  ⟨Cell.around 3 origin, Cell.around 3 destination⟩

end DriveAdvisory
