/-
  What the feeds have in common.

  Feeds are careless about types: a number may come as text, a text as a number, and either may be
  `null`.  The two lenient decoders take all of these.  The emergency layers share an envelope, a
  list of features with attributes and a position; a body that reports an error is malformed whatever
  else it holds.
-/
import DriveAdvisory.Fault
import DriveAdvisory.Geo.Point
import DriveAdvisory.Json.Decode
import DriveAdvisory.Number.Reading

namespace DriveAdvisory

/-! ## Lenient values -/

/-- A number, or a text that writes one, other texts and `null` being zero. -/
def Decoder.looseDouble : Decoder Double
  | .null => .ok 0
  | .number n => .ok n.toBinary
  | .string text => .ok ((readDouble? (Text.trim text)).getD 0)
  | _ => .error (.noShape "Raw")

/-- A text as it is, `null` as the empty one, and anything else as its document. -/
def Decoder.looseString : Decoder String
  | .null => .ok ""
  | .string text => .ok text
  | other => .ok other.render

/-- A field of a number that may be missing. -/
def Fields.looseDouble (name : String) : Fields Double := .defaulted name .looseDouble 0

/-- A field of a text that may be missing. -/
def Fields.looseString (name : String) : Fields String := .defaulted name .looseString ""

/-- A body that is not what the feed promised. -/
def malformed (feed : String) (m : Mismatch) : SourceFault := .badResponse (feed ++ ": " ++ m.message)

/-- Decodes a body. -/
def decodeBody {α : Type} (feed : String) (decode : Decoder α) (body : Json) : Except SourceFault α :=
  match decode body with
  | .ok a => .ok a
  | .error m => .error (malformed feed m)

/-! ## Features -/

/-- A position of the emergency layers: degrees, or metres on the projected map. -/
structure MapPoint where
  x : Double
  y : Double
deriving DecidableEq

namespace MapPoint

def decode : Decoder MapPoint := Fields.record "ArcPoint"
  (MapPoint.mk <$> .looseDouble "x" <*> .looseDouble "y")

/-- The position in degrees.  Numbers too large for degrees are metres. -/
def toPoint? (globe : Globe) (p : MapPoint) : Option Point :=
  if 180 < p.x.abs ∨ 90 < p.y.abs then
    let q := globe.unproject p.x p.y
    Point.fix? q.lat q.lon
  else Point.fix? p.y p.x

end MapPoint

/-- A row of an emergency layer. -/
structure Feature (α : Type) where
  about : α
  place : Option MapPoint

/-- A row; without attributes it has those of an empty object. -/
def Feature.decode {α : Type} (about : Decoder α) (blank : α) : Decoder (Feature α) :=
  Fields.record "ArcFeature"
    (Feature.mk <$> .defaulted "attributes" about blank <*> .optional "geometry" MapPoint.decode)

/-- The envelope of an emergency layer. -/
structure Layer (α : Type) where
  rows : List (Feature α)
  error : Option Json

def Layer.decode {α : Type} (about : Decoder α) (blank : α) : Decoder (Layer α) :=
  Fields.record "FeatureSet"
    (Layer.mk <$> .defaulted "features" (.list (Feature.decode about blank)) []
      <*> .optional "error" .any)

/-- The rows of an emergency layer. -/
def layerRows {α : Type} (feed : String) (about : Decoder α) (blank : α) (body : Json) :
    Except SourceFault (List (Feature α)) := do
  let layer ← decodeBody feed (Layer.decode about blank) body
  match layer.error with
  | some error => .error (.badResponse (feed ++ ": " ++ error.render))
  | none => .ok layer.rows

end DriveAdvisory
