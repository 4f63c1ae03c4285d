/-
  Positions on the globe, and how far they are apart.

  The two functions that need trigonometry, the distance of two positions and the way back from
  projected metres to degrees, are fields of one structure, `Globe`.  Everything that filters or sorts by
  distance takes the globe as an argument, so its laws hold for ANY distance; `Globe.earth` is the
  one the program runs with.
-/
import DriveAdvisory.Number.Binary

namespace DriveAdvisory

/-- A position in decimal degrees. -/
structure Point where
  lat : Double
  lon : Double
deriving DecidableEq, Inhabited

/-- Where coordinates count as a position: both finite, and not the pair of zeros that a receiver
    without a fix reports. -/
def Point.fix? (lat lon : Double) : Option Point :=
  if !lat.isFinite || !lon.isFinite || (lat.isZero && lon.isZero) then none else some ⟨lat, lon⟩

/-! ## Miles and metres -/

/-- Metres in a statute mile. -/
def metresPerMile : Double := 1609.344

def milesToMetres (miles : Double) : Double := miles * metresPerMile

def metresToMiles (metres : Double) : Double := metres / metresPerMile

/-- Metres per second in a mile per hour. -/
def mphToMs : Single := 0.44704

/-- Miles per hour in a metre per second. -/
def msToMph : Single := 1 / mphToMs

/-! ## The globe -/

/-- The measurements that positions allow. -/
structure Globe where
  /-- The distance between two positions, in metres. -/
  distance : Point → Point → Double
  /-- The position of a pair of projected metres, easting first. -/
  unproject : Double → Double → Point

namespace Double

/-- Applies a real function of the mathematics library. -/
def through (fn : Float → Float) (x : Double) : Double :=
  Double.ofBits (fn (Float.ofBits x.toBits)).toBits

def sin (x : Double) : Double := x.through Float.sin
def cos (x : Double) : Double := x.through Float.cos
def asin (x : Double) : Double := x.through Float.asin
def atan (x : Double) : Double := x.through Float.atan
def exp (x : Double) : Double := x.through Float.exp
def sqrt (x : Double) : Double := x.through Float.sqrt

end Double

namespace Globe

def pi : Double := 3.141592653589793

/-- The mean radius of the earth in metres. -/
def earthRadius : Double := 6371000

def radians (degrees : Double) : Double := degrees * (pi / 180)

/-- The haversine of the angle between two positions, then the arc.  The root is held to at most one,
    so opposite ends of the globe still have a distance. -/
def haversine (a b : Point) : Double :=
  let lat1 := radians a.lat
  let lat2 := radians b.lat
  let halfLat := Double.sin (radians (b.lat - a.lat) / 2)
  let halfLon := Double.sin (radians (b.lon - a.lon) / 2)
  let h := halfLat * halfLat + Double.cos lat1 * Double.cos lat2 * (halfLon * halfLon)
  2 * earthRadius * Double.asin ((Double.sqrt h).min 1)

/-- Half the width of the projected map, in metres. -/
def mapHalfExtent : Double := 20037508.34

/-- The degrees of a pair of projected metres. -/
def mercator (x y : Double) : Point :=
  let lon := x * 180 / mapHalfExtent
  let lat := Double.atan (Double.exp (y * pi / mapHalfExtent)) * 360 / pi - 90
  ⟨lat, lon⟩

/-- The globe we live on. -/
def earth : Globe := ⟨haversine, mercator⟩

end Globe

end DriveAdvisory
