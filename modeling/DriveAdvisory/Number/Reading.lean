/-
  Reading decimal text as a sixty-four bit number.

  Two readings exist side by side, and inputs show the difference in the last digit:

  * `readDouble?`  takes a whole text and rounds ONCE: the result is the float nearest to the decimal
    that was written.
  * `Scaled.toDouble?`  takes a significand that fits a 64-bit word and a power of ten, and rounds the
    significand, the power and their product or quotient each on its own.  This is how documents
    are read (`Json/Reader`); a power too large for the format is an error there, not infinity.
-/
import DriveAdvisory.Number.Binary

namespace DriveAdvisory

/-! ## Scanning -/

/-- The decimal digits at the front of a text, and what follows them. -/
def spanDigits (cs : List Char) : List Char × List Char := cs.span Char.isDigit

/-- The natural number that a run of decimal digits writes. -/
def digitsValue (cs : List Char) : Nat :=
  cs.foldl (fun n c => n * 10 + (c.toNat - '0'.toNat)) 0

/-! ## One rounding -/

/-- The float nearest to `digits * 10 ^ exponent`, without computing powers that cannot matter: a
    decimal above `10^310` is infinite and one below `10^-330` is zero. -/
def Double.nearestDecimal (negative : Bool) (digits : Nat) (exponent : Int) : Double :=
  let place := ((toString digits).length : Int) + exponent
  if digits = 0 ∨ place < -330 then Binary.zero negative
  else if 311 < place then Binary.infinite negative
  else Binary.ofDecimal negative digits exponent

/-- The exponent part of a decimal: nothing, or an `e`, an optional sign and at least one digit. -/
def readExponent? : List Char → Option Int
  | [] => some 0
  | mark :: rest =>
    if mark = 'e' ∨ mark = 'E' then
      let (negative, digits) := match rest with
        | '-' :: more => (true, more)
        | '+' :: more => (false, more)
        | more => (false, more)
      if digits.isEmpty ∨ ¬ digits.all Char.isDigit then none
      else some (if negative then -(digitsValue digits : Int) else digitsValue digits)
    else none

/-- An unsigned decimal: digits on at least one side of an optional point, then an exponent. -/
def readUnsigned? (negative : Bool) (cs : List Char) : Option Double :=
  let (whole, afterWhole) := spanDigits cs
  let (fraction, rest) := match afterWhole with
    | '.' :: more => spanDigits more
    | more => ([], more)
  if whole.isEmpty ∧ fraction.isEmpty then none
  else (readExponent? rest).map fun exponent =>
    Double.nearestDecimal negative (digitsValue (whole ++ fraction)) (exponent - fraction.length)

/-- A float as free text: an optional sign, then a decimal, or `inf`, `infinity` or `nan` in any
    case.  Nothing may stand before or after. -/
def readDouble? (text : String) : Option Double :=
  let (negative, body) := match text.toList with
    | '-' :: more => (true, more)
    | '+' :: more => (false, more)
    | more => (false, more)
  let word := String.ofList (body.map Char.toLower)
  if word = "inf" ∨ word = "infinity" then some (Binary.infinite negative)
  else if word = "nan" then some { (Binary.nan : Double) with negative := negative }
  else readUnsigned? negative body

/-! ## A significand and a power -/

/-- A decimal whose significand was cut to what a 64-bit word holds. -/
structure Scaled where
  significand : Nat
  exponent : Int
deriving DecidableEq, Repr

/-- The largest significand. -/
def Scaled.limit : Nat := 18446744073709551615

/-- Takes one more digit, unless the significand would no longer fit. -/
def Scaled.push? (significand digit : Nat) : Option Nat :=
  let next := significand * 10 + digit
  if next ≤ Scaled.limit then some next else none

/-- The largest power of ten below infinity. -/
def Scaled.maxPower : Nat := 308

/-- Divides or multiplies by the power of ten in steps of at most `maxPower`.  Too large a power, or
    a product that leaves the finite numbers, is refused; a quotient may vanish. -/
def Scaled.scale : Nat → Double → Int → Option Double
  | 0, value, _ => some value
  | fuel + 1, value, exponent =>
    if exponent.natAbs ≤ Scaled.maxPower then
      let power : Double := Binary.ofDecimal false 1 exponent.natAbs
      if exponent < 0 then some (value / power)
      else
        let product := value * power
        if product.isInfinite then none else some product
    else if value.isZero then some value
    else if 0 ≤ exponent then none
    else Scaled.scale fuel (value / Binary.ofDecimal false 1 Scaled.maxPower)
      (exponent + Scaled.maxPower)

/-- The absolute value that a cut decimal is read as.  Eight steps are enough: after three the value
    has vanished whatever it was. -/
def Scaled.toDouble? (s : Scaled) : Option Double :=
  Scaled.scale 8 (Binary.ofNat s.significand) s.exponent

end DriveAdvisory
