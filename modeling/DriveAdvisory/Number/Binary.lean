/-
  Binary floating point as a sign and a magnitude.

  A number of a binary interchange format is kept here the way its bits order it: a sign, and the
  remaining bits read as ONE natural number, the *magnitude*.  The magnitude grows with the absolute
  value, so an order on floats is an order on integers (`orderKey`, `rank`) and needs no arithmetic.

  For arithmetic every finite number is a whole number of *quanta*, the quantum being the least
  positive number of the format (`2^-149` for `single`, `2^-1074` for `double`):

  * `BinaryFormat.quanta`   magnitude  ↦  how many quanta it stands for;
  * `BinaryFormat.nearest`  a quotient of naturals, in quanta  ↦  the nearest magnitude, a tie going
    to the even one, a value beyond the largest finite one to infinity.

  Each operation is the exact result in `Nat` or `Int`, rounded once by `nearest`.  That is the whole
  of the standard's definition of `+ - * /`, and it is why nothing below rounds twice.

  There are three ways to compare two floats, and the difference between them matters everywhere in
  this library:

  * `totalCompare`  the total order: `-0` is below `+0`, a NaN stands at the end its sign points to;
  * `lt`, `le`      the numeric order: the zeros are equal, a NaN is unordered with everything;
  * `=`             sameness of bits.
-/

namespace DriveAdvisory

/-! ## The formats -/

/-- A binary interchange format, given by the widths of its two unsigned fields. -/
structure BinaryFormat where
  exponentBits : Nat
  fractionBits : Nat
deriving DecidableEq, Repr

/-- Thirty-two bits. -/
abbrev single : BinaryFormat := ⟨8, 23⟩

/-- Sixty-four bits. -/
abbrev double : BinaryFormat := ⟨11, 52⟩

namespace BinaryFormat

/-- The number of bits beside the sign. -/
def width (f : BinaryFormat) : Nat := f.exponentBits + f.fractionBits

/-- The magnitude of infinity: all ones in the exponent, zeros in the fraction.  Every smaller
    magnitude is finite and every larger one is a NaN. -/
def infinity (f : BinaryFormat) : Nat := (Nat.pow 2 f.exponentBits - 1) * Nat.pow 2 f.fractionBits

/-- A quantum is `2 ^ -quantumShift`. -/
def quantumShift (f : BinaryFormat) : Nat := Nat.pow 2 (f.exponentBits - 1) + f.fractionBits - 2

/-- One, in quanta. -/
def one (f : BinaryFormat) : Nat := Nat.pow 2 f.quantumShift

theorem infinity_lt (f : BinaryFormat) : f.infinity < Nat.pow 2 f.width := by
  have h : Nat.pow 2 f.width = Nat.pow 2 f.exponentBits * Nat.pow 2 f.fractionBits :=
    Nat.pow_add 2 f.exponentBits f.fractionBits
  rw [infinity, h]
  exact Nat.mul_lt_mul_of_pos_right (Nat.sub_lt (Nat.two_pow_pos _) (by decide)) (Nat.two_pow_pos _)

theorem one_pos (f : BinaryFormat) : 0 < f.one := Nat.two_pow_pos _

/-- How many quanta a finite magnitude stands for.  Without an exponent the fraction itself, else
    the fraction with its hidden leading bit, doubled once per exponent step above the first. -/
def quanta (f : BinaryFormat) (magnitude : Nat) : Nat :=
  let step := magnitude / Nat.pow 2 f.fractionBits
  let fraction := magnitude % Nat.pow 2 f.fractionBits
  if step = 0 then fraction else (Nat.pow 2 f.fractionBits + fraction) * Nat.pow 2 (step - 1)

end BinaryFormat

/-- The number of binary digits of `n`; zero has none. -/
def bitLength (n : Nat) : Nat := if n = 0 then 0 else n.log2 + 1

/-- The integer nearest to `num / den`, the even one of two equally near. -/
def roundHalfEven (num den : Nat) : Nat :=
  let whole := num / den
  let rest := num % den
  if 2 * rest < den then whole
  else if den < 2 * rest then whole + 1
  else if whole % 2 = 0 then whole else whole + 1

/-- The magnitude nearest to `num / den` quanta.  A significand has `fractionBits + 1` digits, so a
    longer quotient loses `drop` of them to rounding, and each one lost is one exponent step.  When
    rounding carries into a further digit the sum below carries into the exponent field by itself,
    which is exactly the next magnitude. -/
def BinaryFormat.nearest (f : BinaryFormat) (num den : Nat) : Nat :=
  let drop := bitLength (num / den) - (f.fractionBits + 1)
  min (drop * Nat.pow 2 f.fractionBits + roundHalfEven num (den * Nat.pow 2 drop)) f.infinity

/-! ## Numbers -/

/-- A floating point number: its sign bit and its other bits as one natural number. -/
structure Binary (f : BinaryFormat) where
  negative : Bool
  magnitude : Nat
  magnitude_lt : magnitude < Nat.pow 2 f.width
deriving DecidableEq

/-- A thirty-two bit number. -/
abbrev Single := Binary single

/-- A sixty-four bit number. -/
abbrev Double := Binary double

namespace Binary

variable {f g : BinaryFormat}

/-- The number of the given sign and magnitude; a magnitude beyond infinity's counts as infinite. -/
def ofMagnitude (negative : Bool) (magnitude : Nat) : Binary f :=
  ⟨negative, min magnitude f.infinity, Nat.lt_of_le_of_lt (Nat.min_le_right _ _) f.infinity_lt⟩

/-- The number nearest to `num / den` quanta, with the given sign. -/
def ofQuanta (negative : Bool) (num den : Nat) : Binary f :=
  ofMagnitude negative (f.nearest num den)

/-- The NaN that invalid operations give. -/
def nan : Binary f := ⟨false, Nat.pow 2 f.width - 1, Nat.sub_lt (Nat.two_pow_pos _) (by decide)⟩

/-- Infinity of the given sign. -/
def infinite (negative : Bool) : Binary f := ⟨negative, f.infinity, f.infinity_lt⟩

/-- Zero of the given sign. -/
def zero (negative : Bool) : Binary f := ⟨negative, 0, Nat.two_pow_pos _⟩

/-! ### Classes -/

def isNaN (x : Binary f) : Bool := decide (f.infinity < x.magnitude)

def isInfinite (x : Binary f) : Bool := x.magnitude == f.infinity

def isFinite (x : Binary f) : Bool := decide (x.magnitude < f.infinity)

def isZero (x : Binary f) : Bool := x.magnitude == 0

/-! ### Orders -/

/-- The place of a number in the total order of its format. -/
def orderKey (x : Binary f) : Int :=
  if x.negative then -(x.magnitude : Int) - 1 else x.magnitude

/-- The total order: every number has its place, zeros of different sign and NaNs included. -/
def totalCompare (x y : Binary f) : Ordering := compare x.orderKey y.orderKey

/-- The place of a number in the numeric order, in which the zeros share one. -/
def rank (x : Binary f) : Int :=
  if x.negative then -(x.magnitude : Int) else x.magnitude

/-- Numerically less: false as soon as one side is a NaN. -/
def lt (x y : Binary f) : Bool := !x.isNaN && !y.isNaN && decide (x.rank < y.rank)

/-- Numerically at most: false as soon as one side is a NaN. -/
def le (x y : Binary f) : Bool := !x.isNaN && !y.isNaN && decide (x.rank ≤ y.rank)

/-- Numerically equal: the zeros are, a NaN is not even to itself. -/
def eqv (x y : Binary f) : Bool := !x.isNaN && !y.isNaN && decide (x.rank = y.rank)

instance : LT (Binary f) := ⟨fun x y => x.lt y = true⟩
instance : LE (Binary f) := ⟨fun x y => x.le y = true⟩
instance (x y : Binary f) : Decidable (x < y) := inferInstanceAs (Decidable (x.lt y = true))
instance (x y : Binary f) : Decidable (x ≤ y) := inferInstanceAs (Decidable (x.le y = true))

/-- The larger of two numbers.  A NaN gives way to the other side, and of two equal numbers the
    first is kept. -/
def max (x y : Binary f) : Binary f :=
  if x.isNaN then y else if x < y then y else x

/-- The smaller of two numbers, by the same two rules as `max`. -/
def min (x y : Binary f) : Binary f :=
  if x.isNaN then y else if y < x then y else x

/-- The interval `[low, high]` can hold a clamped number: its ends are numbers in order. -/
def Bounds (low high : Binary f) : Prop := low ≤ high

instance (low high : Binary f) : Decidable (Bounds low high) :=
  inferInstanceAs (Decidable (low ≤ high))

/-- Moves a number into `[low, high]`; a NaN stays one.  Callers owe `Bounds low high`. -/
def clamp (x low high : Binary f) : Binary f :=
  let raised := if x < low then low else x
  if high < raised then high else raised

/-! ### Arithmetic -/

/-- The exact value of a finite number, in quanta. -/
def units (x : Binary f) : Int :=
  if x.negative then -(f.quanta x.magnitude : Int) else f.quanta x.magnitude

/-- The exact absolute value of a finite number, in quanta. -/
def size (x : Binary f) : Nat := f.quanta x.magnitude

def neg (x : Binary f) : Binary f := { x with negative := !x.negative }

def abs (x : Binary f) : Binary f := { x with negative := false }

/-- An exact zero is negative only as the sum of two negative numbers. -/
def add (x y : Binary f) : Binary f :=
  if x.isNaN || y.isNaN then nan
  else if x.isInfinite then
    if y.isInfinite && x.negative != y.negative then nan else x
  else if y.isInfinite then y
  else
    let sum := x.units + y.units
    ofQuanta (if sum = 0 then x.negative && y.negative else decide (sum < 0)) sum.natAbs 1

def sub (x y : Binary f) : Binary f := x.add y.neg

def mul (x y : Binary f) : Binary f :=
  let negative := x.negative != y.negative
  if x.isNaN || y.isNaN then nan
  else if x.isInfinite then if y.isZero then nan else infinite negative
  else if y.isInfinite then if x.isZero then nan else infinite negative
  else ofQuanta negative (x.size * y.size) f.one

def div (x y : Binary f) : Binary f :=
  let negative := x.negative != y.negative
  if x.isNaN || y.isNaN then nan
  else if x.isInfinite then if y.isInfinite then nan else infinite negative
  else if y.isInfinite then zero negative
  else if y.isZero then if x.isZero then nan else infinite negative
  else ofQuanta negative (x.size * f.one) y.size

instance : Neg (Binary f) := ⟨neg⟩
instance : Add (Binary f) := ⟨add⟩
instance : Sub (Binary f) := ⟨sub⟩
instance : Mul (Binary f) := ⟨mul⟩
instance : Div (Binary f) := ⟨div⟩

/-- Whole powers by repeated squaring, the lowest binary digit of the exponent first. -/
def power (x : Binary f) (n : Nat) : Binary f :=
  go (n + 1) x n (ofQuanta false f.one 1)
where
  go : Nat → Binary f → Nat → Binary f → Binary f
    | 0, _, _, product => product
    | fuel + 1, base, n, product =>
      let product := if n % 2 = 1 then product * base else product
      if n / 2 = 0 then product else go fuel (base * base) (n / 2) product

/-- Whole powers, one below zero being the reciprocal of its opposite. -/
def signedPower (x : Binary f) (n : Int) : Binary f :=
  if n < 0 then ofQuanta false f.one 1 / x.power n.natAbs else x.power n.natAbs

/-! ### From and to other numbers -/

/-- The number nearest to an integer. -/
def ofInt (n : Int) : Binary f := ofQuanta (decide (n < 0)) (n.natAbs * f.one) 1

/-- The number nearest to a natural number. -/
def ofNat (n : Nat) : Binary f := ofQuanta false (n * f.one) 1

/-- The number nearest to the decimal `digits * 10 ^ exponent`. -/
def ofDecimal (negative : Bool) (digits : Nat) (exponent : Int) : Binary f :=
  if exponent < 0 then ofQuanta negative (digits * f.one) (Nat.pow 10 exponent.natAbs)
  else ofQuanta negative (digits * Nat.pow 10 exponent.natAbs * f.one) 1

instance : OfScientific (Binary f) :=
  ⟨fun digits negativeExponent exponent =>
    ofDecimal false digits (if negativeExponent then -(exponent : Int) else exponent)⟩

instance (n : Nat) : OfNat (Binary f) n := ⟨ofNat n⟩

instance : Inhabited (Binary f) := ⟨zero false⟩

/-- The nearest number of another format.  Going to a wider one nothing is rounded. -/
def convert (x : Binary f) : Binary g :=
  if x.isNaN then nan
  else if x.isInfinite then infinite x.negative
  else ofQuanta x.negative (x.size * g.one) f.one

/-- The integer part of a finite number. -/
def truncate (x : Binary f) : Int :=
  let whole : Int := (x.size / f.one : Nat)
  if x.negative then -whole else whole

/-- The integer part, moved into `[low, high]`; a NaN counts as zero. -/
def toIntWithin (low high : Int) (x : Binary f) : Int :=
  if x.isNaN then 0
  else if x.isInfinite then if x.negative then low else high
  else Max.max low (Min.min high x.truncate)

/-- The nearest whole number, a half going away from zero; the sign is kept. -/
def round (x : Binary f) : Binary f :=
  if x.isFinite then ofQuanta x.negative ((2 * x.size + f.one) / (2 * f.one) * f.one) 1 else x

end Binary

namespace Double

/-- What the sign bit counts. -/
def signWeight : Nat := Nat.pow 2 63

/-- The bits of a sixty-four bit number. -/
def toBits (x : Double) : UInt64 :=
  UInt64.ofNat (x.magnitude + if x.negative then signWeight else 0)

/-- The sixty-four bit number that has the given bits. -/
def ofBits (bits : UInt64) : Double :=
  ⟨decide (signWeight ≤ bits.toNat), bits.toNat % signWeight, Nat.mod_lt _ (by decide)⟩

end Double

/-- Widens a thirty-two bit number; nothing is rounded. -/
def Binary.toDouble (x : Single) : Double := x.convert

/-- The thirty-two bit number nearest to a sixty-four bit one. -/
def Binary.toSingle (x : Double) : Single := x.convert

end DriveAdvisory
