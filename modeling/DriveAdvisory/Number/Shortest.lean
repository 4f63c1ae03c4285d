/-
  The text of a float by the fewest digits that read back.

  The reals that round to a float form an interval around it, reaching half-way to each neighbour,
  ends included exactly when the magnitude is even (a tie rounds to even).  `Binary.shortest` walks
  the decimal grids `10^e` from the coarse side and stops at the first grid that has a point in the
  interval.  Coarser grids hold the numbers with fewer digits, so the first hit has the fewest; only
  the two grid points next to the value can be hits, and of two hits the nearer one is taken.

  What a format decides on top of the digits (which exponents are written out, what follows a whole
  number, which of two equally near decimals is taken) is ONE record, `FloatLayout`.
-/
import DriveAdvisory.Number.Binary

namespace DriveAdvisory

/-! ## Digits -/

/-- The number `digits * 10 ^ exponent`. -/
structure Decimal where
  digits : Nat
  exponent : Int
deriving DecidableEq, Repr

/-- Which of two equally near decimals with equally many digits is written. -/
inductive TieRule
  | up
  | even
deriving DecidableEq, Repr

/-- The point of the grid `10 ^ exponent` that stands for a value strictly inside
    `(lower, upper)` (`closed`: or on an end of it), if the grid has one.  All three are halves of
    a quantum, `one` quanta to the unit. -/
def gridPoint? (tie : TieRule) (one lower value upper : Nat) (closed : Bool) (exponent : Int) :
    Option Nat :=
  let up := if 0 ≤ exponent then Nat.pow 10 exponent.natAbs else 1
  let down := if 0 ≤ exponent then 1 else Nat.pow 10 exponent.natAbs
  let unit := up * (2 * one)
  let inside (n : Nat) : Bool :=
    n != 0 && (decide (lower * down < n * unit) && decide (n * unit < upper * down)
      || closed && (n * unit == lower * down || n * unit == upper * down))
  let below := value * down / unit
  let above := below + 1
  match inside below, inside above with
  | false, false => none
  | true, false => some below
  | false, true => some above
  | true, true =>
    let toBelow := value * down - below * unit
    let toAbove := above * unit - value * down
    if toBelow < toAbove then some below
    else if toAbove < toBelow then some above
    else match tie with
      | .up => some above
      | .even => if below % 2 = 0 then some below else some above

/-- Tries `count` grids downward from `10 ^ exponent`. -/
def firstGridPoint (point? : Int → Option Nat) : Nat → Int → Option Decimal
  | 0, _ => none
  | count + 1, exponent =>
    match point? exponent with
    | some digits => some ⟨digits, exponent⟩
    | none => firstGridPoint point? count (exponent - 1)

/-- The shortest decimal that reads back as the finite non-zero number `x`, nearest to it among
    those.  The walk starts above the leading digit, and no format needs forty digits. -/
def Binary.shortest {f : BinaryFormat} (tie : TieRule) (x : Binary f) : Decimal :=
  let here := x.size
  let lower := here + f.quanta (x.magnitude - 1)
  let upper := here + f.quanta (x.magnitude + 1)
  let binaryPlace : Int := (bitLength here : Int) - f.quantumShift
  let start := binaryPlace * 30103 / 100000 + 2
  (firstGridPoint (gridPoint? tie f.one lower (2 * here) upper (x.magnitude % 2 == 0)) 40 start).getD
    ⟨0, 0⟩

/-! ## Layouts -/

/-- How a format writes a number whose digits are known. -/
structure FloatLayout where
  /-- Which decimal is taken of two equally near ones. -/
  tie : TieRule
  /-- What follows a number written without a decimal point. -/
  wholeSuffix : String
  /-- Whether a number with its leading digit at this power of ten is written without exponent. -/
  positional : Int → Bool
  nan : String
  infinity : String

/-- `count` zeros. -/
def zeros (count : Nat) : String := String.ofList (List.replicate count '0')

/-- A decimal written out without an exponent. -/
def Decimal.positional (d : Decimal) (wholeSuffix : String) : String :=
  let digits := toString d.digits
  if 0 ≤ d.exponent then digits ++ zeros d.exponent.natAbs ++ wholeSuffix
  else
    let places := d.exponent.natAbs
    let padded := (zeros (places + 1 - digits.length) ++ digits).toList
    String.ofList (padded.take (padded.length - places)) ++ "."
      ++ String.ofList (padded.drop (padded.length - places))

/-- A decimal written with one digit before the point and a signed exponent. -/
def Decimal.scientific (d : Decimal) : String :=
  let digits := (toString d.digits).toList
  let place := d.exponent + (digits.length - 1 : Nat)
  let fraction := digits.drop 1
  String.ofList (digits.take 1)
    ++ (if fraction.isEmpty then "" else "." ++ String.ofList fraction)
    ++ "e" ++ (if place < 0 then "-" else "+") ++ toString place.natAbs

/-- The power of ten of the leading digit. -/
def Decimal.place (d : Decimal) : Int := d.exponent + ((toString d.digits).length - 1 : Nat)

/-- The shortest text of a number in a layout. -/
def Binary.text {f : BinaryFormat} (layout : FloatLayout) (x : Binary f) : String :=
  if x.isNaN then layout.nan
  else
    (if x.negative then "-" else "") ++
      if x.isInfinite then layout.infinity
      else if x.isZero then "0" ++ layout.wholeSuffix
      else
        let decimal := x.shortest layout.tie
        if layout.positional decimal.place then decimal.positional layout.wholeSuffix
        else decimal.scientific

/-- Numbers in running text: always written out, and a whole number without a point. -/
def FloatLayout.prose : FloatLayout :=
  { tie := .up, wholeSuffix := "", positional := fun _ => true, nan := "NaN", infinity := "inf" }

/-- A number as running text writes it. -/
def Binary.prose {f : BinaryFormat} (x : Binary f) : String := x.text .prose

/-! ## Fixed places -/

/-- The absolute value of a finite number with exactly `places` decimals, the exact value rounded
    half to even. -/
def Binary.magnitudeText {f : BinaryFormat} (places : Nat) (x : Binary f) : String :=
  let scaled := toString (roundHalfEven (x.size * Nat.pow 10 places) f.one)
  let padded := (zeros (places + 1 - scaled.length) ++ scaled).toList
  let whole := String.ofList (padded.take (padded.length - places))
  if places = 0 then whole else whole ++ "." ++ String.ofList (padded.drop (padded.length - places))

/-- A number with exactly `places` decimals.  The sign bit shows even where all digits are zero, a
    NaN has no sign, and `plus` is what stands before the others. -/
def Binary.placesWith {f : BinaryFormat} (plus : String) (places : Nat) (x : Binary f) : String :=
  if x.isNaN then "NaN"
  else (if x.negative then "-" else plus) ++
    if x.isInfinite then "inf" else x.magnitudeText places

/-- A number with exactly `places` decimals. -/
def Binary.places {f : BinaryFormat} (places : Nat) (x : Binary f) : String := x.placesWith "" places

/-- A number with exactly `places` decimals that always shows its sign. -/
def Binary.signedPlaces {f : BinaryFormat} (places : Nat) (x : Binary f) : String :=
  x.placesWith "+" places

end DriveAdvisory
