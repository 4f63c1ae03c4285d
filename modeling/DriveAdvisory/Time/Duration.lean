/-
  Spans of time, in whole nanoseconds.
-/
import DriveAdvisory.Number.Binary
import DriveAdvisory.Text.Basic

namespace DriveAdvisory

/-- A span of time in nanoseconds. -/
abbrev Duration := Nat

namespace Duration

def ofMillis (ms : Nat) : Duration := ms * 1000000

def ofSeconds (s : Nat) : Duration := s * 1000000000

/-- The whole milliseconds of a span. -/
def toMillis (d : Duration) : Nat := d / 1000000

/-- The longest span: the most seconds that fit 64 bits, and all but one nanosecond of another. -/
def longest : Duration := 18446744073709551615 * 1000000000 + 999999999

/-- Why a number of seconds is no span. -/
inductive Unfit
  | negative
  | tooLong
deriving DecidableEq, Repr

def Unfit.message : Unfit → String
  | negative => "cannot convert float seconds to Duration: value is negative"
  | tooLong => "cannot convert float seconds to Duration: value is either too big or NaN"

/-- The span of a number of seconds, to the nearest nanosecond, a half to the even one. -/
def ofFloatSeconds (seconds : Double) : Except Unfit Duration :=
  if seconds.isNaN then .error .tooLong
  else if seconds < 0 then .error .negative
  else if seconds.isInfinite then .error .tooLong
  else
    let nanos := roundHalfEven (seconds.size * 1000000000) double.one
    if longest < nanos then .error .tooLong else .ok nanos

/-- `whole` units and `rest` of `parts` of one, as few decimals as needed. -/
def decimalText (whole rest places : Nat) : String :=
  let fraction := ((Text.padded places rest).toList.reverse.dropWhile (· == '0')).reverse
  toString whole ++ if rest = 0 then "" else "." ++ String.ofList fraction

/-- A span in the largest unit that it has a whole one of. -/
def text (d : Duration) : String :=
  if 1000000000 ≤ d then decimalText (d / 1000000000) (d % 1000000000) 9 ++ "s"
  else if 1000000 ≤ d then decimalText (d / 1000000) (d % 1000000) 6 ++ "ms"
  else if 1000 ≤ d then decimalText (d / 1000) (d % 1000) 3 ++ "µs"
  else toString d ++ "ns"

end Duration

end DriveAdvisory
