/-
  Points in time, and how they are written.

  A moment is kept as seconds since the start of 1970 and the nanoseconds into the second; a leap second
  is the 59th with a billion nanoseconds and more.  The written form is a date, a time of day, a fraction of
  as many decimals as are needed (none, three, six or nine), and a mark of universal time: `Z` in documents,
  the distance `+00:00` elsewhere.
  Reading is a little wider than writing: numbers may have fewer digits, blanks may stand in front of numbers
  and of what divides them, date and time may be divided by a blank, and the offset may be any other one.
-/
import DriveAdvisory.Number.Reading
import DriveAdvisory.Text.Basic

namespace DriveAdvisory

/-- A point in time. -/
structure Moment where
  /-- Seconds since the start of 1970. -/
  seconds : Int
  nanos : Nat
deriving DecidableEq, Repr, Inhabited

/-! ## Days -/

/-- The number of a day, counted from the start of 1970.  Years begin in March here, so that the leap day
    is the last one. -/
def dayNumber (year month day : Int) : Int :=
  let y := if month ≤ 2 then year - 1 else year
  let era := y / 400
  let yearOfEra := y - era * 400
  let shifted := if 2 < month then month - 3 else month + 9
  let dayOfYear := (153 * shifted + 2) / 5 + day - 1
  let dayOfEra := yearOfEra * 365 + yearOfEra / 4 - yearOfEra / 100 + dayOfYear
  era * 146097 + dayOfEra - 719468

/-- Year, month and day of a day's number. -/
def dateOfDay (n : Int) : Int × Int × Int :=
  let z := n + 719468
  let era := z / 146097
  let dayOfEra := z - era * 146097
  let yearOfEra := (dayOfEra - dayOfEra / 1460 + dayOfEra / 36524 - dayOfEra / 146096) / 365
  let dayOfYear := dayOfEra - (365 * yearOfEra + yearOfEra / 4 - yearOfEra / 100)
  let shifted := (5 * dayOfYear + 2) / 153
  let day := dayOfYear - (153 * shifted + 2) / 5 + 1
  let month := if shifted < 10 then shifted + 3 else shifted - 9
  (yearOfEra + era * 400 + (if month ≤ 2 then 1 else 0), month, day)

def isLeapYear (year : Int) : Bool :=
  decide (year % 4 = 0) && (decide (year % 100 ≠ 0) || decide (year % 400 = 0))

def daysInMonth (year : Int) (month : Nat) : Nat :=
  if month = 2 then if isLeapYear year then 29 else 28
  else if month = 4 ∨ month = 6 ∨ month = 9 ∨ month = 11 then 30 else 31

namespace Moment

/-! ## Writing -/

/-- The fraction of a second with none, three, six or nine decimals. -/
def fractionText (nanos : Nat) : String :=
  if nanos = 0 then ""
  else if nanos % 1000000 = 0 then "." ++ Text.padded 3 (nanos / 1000000)
  else if nanos % 1000 = 0 then "." ++ Text.padded 6 (nanos / 1000)
  else "." ++ Text.padded 9 nanos

/-- Years have four digits; others show their sign. -/
def yearText (year : Int) : String :=
  if 0 ≤ year ∧ year ≤ 9999 then Text.padded 4 year.toNat
  else (if year < 0 then "-" else "+") ++ Text.padded 4 year.natAbs

/-- The moment in universal time, not marked as such. -/
def clockText (m : Moment) : String :=
  let day := m.seconds / 86400
  let rest := (m.seconds % 86400).toNat
  let (year, month, dayOfMonth) := dateOfDay day
  let second := rest % 60 + m.nanos / 1000000000
  yearText year ++ "-" ++ Text.padded 2 month.toNat ++ "-" ++ Text.padded 2 dayOfMonth.toNat ++ "T"
    ++ Text.padded 2 (rest / 3600) ++ ":" ++ Text.padded 2 (rest / 60 % 60) ++ ":"
    ++ Text.padded 2 second ++ fractionText (m.nanos % 1000000000)

/-- The moment as it is reported. -/
def text (m : Moment) : String := m.clockText ++ "+00:00"

/-- The moment as a document holds it. -/
def documentText (m : Moment) : String := m.clockText ++ "Z"

/-! ## Reading -/

def skipBlanks (cs : List Char) : List Char := cs.dropWhile Text.isBlank

/-- A number of at least one and at most `limit` digits. -/
def digits? (limit : Nat) (cs : List Char) : Option (Nat × List Char) :=
  let digits := (cs.take limit).takeWhile Char.isDigit
  if digits.isEmpty then none else some (digitsValue digits, cs.drop digits.length)

/-- A number of one or two digits, after blanks. -/
def number? (cs : List Char) : Option (Nat × List Char) := digits? 2 (skipBlanks cs)

/-- A year, after blanks.  It has four digits at most unless it has a sign. -/
def year? (cs : List Char) : Option (Int × List Char) :=
  match skipBlanks cs with
  | '-' :: rest => (digits? rest.length rest).map fun (n, rest) => (-(n : Int), rest)
  | '+' :: rest => (digits? rest.length rest).map fun (n, rest) => ((n : Int), rest)
  | rest => (digits? 4 rest).map fun (n, rest) => ((n : Int), rest)

/-- What follows the character that divides two numbers; blanks may stand in front of it. -/
def divider? (wanted : Char) (cs : List Char) : Option (List Char) :=
  match skipBlanks cs with
  | c :: rest => if c = wanted then some rest else none
  | [] => none

/-- The fraction of a second: digits after a point, of which nine count. -/
def fraction? : List Char → Option (Nat × List Char)
  | '.' :: rest =>
    let (digits, after) := spanDigits rest
    let counted := digits.take 9
    if digits.isEmpty then none
    else some (digitsValue counted * Nat.pow 10 (9 - counted.length), after)
  | rest => some (0, rest)

/-- Two digits. -/
def twoDigits? : List Char → Option (Nat × List Char)
  | a :: b :: rest => if a.isDigit ∧ b.isDigit then some (digitsValue [a, b], rest) else none
  | _ => none

/-- Seconds east of universal time: a `Z`, `UTC`, or a sign, hours and minutes. -/
def offset? (cs : List Char) : Option (Int × List Char) :=
  match cs with
  | 'Z' :: rest | 'z' :: rest => some (0, rest)
  | sign :: rest =>
    if Text.lowerAscii (String.ofList (cs.take 3)) = "utc" then some (0, cs.drop 3)
    else if sign = '+' ∨ sign = '-' ∨ sign = '−' then do
      let (hours, rest) ← twoDigits? rest
      let (minutes, rest) ← twoDigits? (rest.dropWhile fun c => c == ':' || Text.isBlank c)
      let seconds : Int := hours * 3600 + minutes * 60
      if 60 ≤ minutes ∨ 86400 ≤ seconds then none
      else some (if sign = '+' then seconds else -seconds, rest)
    else none
  | [] => none

/-- The years that can be told apart. -/
def firstYear : Int := -262143

def lastYear : Int := 262142

/-- The moment lies in one of the years that can be told apart, in universal time. -/
def isInRange (m : Moment) : Bool :=
  decide (dayNumber firstYear 1 1 ≤ m.seconds / 86400)
    && decide (m.seconds / 86400 ≤ dayNumber lastYear 12 31)

/-- A date: year, month and day. -/
def date? (cs : List Char) : Option ((Int × Nat × Nat) × List Char) := do
  let (year, rest) ← year? cs
  let (month, rest) ← number? (← divider? '-' rest)
  let (day, rest) ← number? (← divider? '-' rest)
  some ((year, month, day), rest)

/-- What follows the character between a date and a time of day. -/
def timeMark? : List Char → Option (List Char)
  | 'T' :: rest | 't' :: rest | ' ' :: rest => some rest
  | _ => none

/-- A time of day: hour, minute, second and nanoseconds. -/
def timeOfDay? (cs : List Char) : Option ((Nat × Nat × Nat × Nat) × List Char) := do
  let (hour, rest) ← number? cs
  let (minute, rest) ← number? (← divider? ':' rest)
  let (second, rest) ← number? (← divider? ':' rest)
  let (nanos, rest) ← fraction? rest
  some ((hour, minute, second, nanos), rest)

/-- The moment of a date and a time of day, so many seconds east of universal time.  It has to be in range both
    by the date and in universal time. -/
def ofFields? (year : Int) (month day hour minute second nanos : Nat) (offset : Int) : Option Moment :=
  if year < firstYear ∨ lastYear < year ∨ month < 1 ∨ 12 < month ∨ day < 1 ∨ daysInMonth year month < day
      ∨ 23 < hour ∨ 59 < minute ∨ 60 < second then none
  else
    let leap := if second = 60 then 1 else 0
    let m : Moment :=
      { seconds := dayNumber year month day * 86400 + hour * 3600 + minute * 60 + (second - leap : Nat)
          - offset
        nanos := nanos + leap * 1000000000 }
    if m.isInRange then some m else none

/-- The moment that a text writes. -/
def ofText? (text : String) : Option Moment := do
  let ((year, month, day), rest) ← date? text.toList
  let ((hour, minute, second, nanos), rest) ← timeOfDay? (← timeMark? rest)
  let (offset, rest) ← offset? (skipBlanks rest)
  if (skipBlanks rest).isEmpty then ofFields? year month day hour minute second nanos offset
  else none

end Moment

end DriveAdvisory
