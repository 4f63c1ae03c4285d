/-
  Reading a settings file.

  The file is read statement by statement, each one changing the table that is being made (`Toml/Table`).
  Bare values are read as one word, up to the blank, the comma, the bracket or the comment that ends
  them, and the whole word has to be a value: an integer that fits a signed word of 64 bits, a float, a
  truth value, or a date and time.  Floats are rounded once.  A date or a time, which no setting is, is
  kept as the list of its text.

  What is refused is refused without saying why.
-/
import DriveAdvisory.Json.Reader
import DriveAdvisory.Time.Calendar
import DriveAdvisory.Toml.Table

namespace DriveAdvisory.Toml

/-- How deep lists and tables may stand in one another inside a value, and how long a path may be. -/
def maxDepth : Nat := 79

/-! ## Between the parts -/

def isGap (c : Char) : Bool := c == ' ' || c == '\t'

def skipGaps (cs : List Char) : List Char := cs.dropWhile isGap

/-- A character that may stand in a comment or, quotes aside, as it is in a string. -/
def isPlain (c : Char) : Bool := c == '\t' || (0x20 ≤ c.toNat && c.toNat != 0x7f)

/-- What follows the end of a line. -/
def afterNewline? : List Char → Option (List Char)
  | '\n' :: rest => some rest
  | '\r' :: '\n' :: rest => some rest
  | _ => none

/-- What follows a comment, if one is here. -/
def skipComment : List Char → List Char
  | '#' :: rest => rest.dropWhile isPlain
  | cs => cs

/-- What follows the rest of a line that holds no more than a comment. -/
def endLine? (cs : List Char) : Option (List Char) :=
  match skipComment (skipGaps cs) with
  | [] => some []
  | rest => afterNewline? rest

/-- What follows the blanks, comments and line ends inside a list.  `fuel` bounds the number of lines. -/
def skipLines : (fuel : Nat) → List Char → List Char
  | 0, cs => cs
  | fuel + 1, cs =>
    let rest := skipComment (skipGaps cs)
    match afterNewline? rest with
    | some rest => skipLines fuel rest
    | none => rest

/-! ## Strings -/

/-- A character by the digits of its number. -/
def readNumbered? (digits : Nat) (cs : List Char) : Option (Char × List Char) := do
  let places ← (cs.take digits).mapM Json.hexValue?
  let n := places.foldl (fun n digit => n * 16 + digit) 0
  if places.length = digits ∧ n.isValidChar then some (Char.ofNat n, cs.drop digits) else none

/-- The character after a backslash, and what follows it. -/
def readEscape? : List Char → Option (Char × List Char)
  | '"' :: rest => some ('"', rest)
  | '\\' :: rest => some ('\\', rest)
  | 'b' :: rest => some ('\x08', rest)
  | 'f' :: rest => some ('\x0c', rest)
  | 'n' :: rest => some ('\n', rest)
  | 'r' :: rest => some ('\r', rest)
  | 't' :: rest => some ('\t', rest)
  | 'u' :: rest => readNumbered? 4 rest
  | 'U' :: rest => readNumbered? 8 rest
  | _ => none

/-- How a string is written. -/
structure Quotes where
  mark : Char
  /-- Three quotes on each side, and line ends between them. -/
  tripled : Bool

/-- Backslashes mean something. -/
def Quotes.escapes (q : Quotes) : Bool := q.mark == '"'

/-- What follows a backslash at the end of a line: the next character that is no blank. -/
def afterFoldedLine? (cs : List Char) : Option (List Char) :=
  (afterNewline? (skipGaps cs)).map fun rest =>
    rest.dropWhile fun c => isGap c || c == '\n' || c == '\r'

/-- The rest of a string, up to its closing quotes.  Of quotes in a row the last three close, so up to two
    more may stand before them.  `fuel` bounds the number of characters. -/
def readStringRest? (q : Quotes) :
    (fuel : Nat) → (done : List Char) → List Char → Option (String × List Char)
  | 0, _, _ => none
  | _ + 1, _, [] => none
  | fuel + 1, done, c :: rest =>
    if c = q.mark then
      if q.tripled then
        let more := (rest.take 4).takeWhile (· == q.mark)
        if more.length < 2 then readStringRest? q fuel (c :: done) rest
        else some (String.ofList (more.drop 2 ++ done).reverse, rest.drop more.length)
      else some (String.ofList done.reverse, rest)
    else if c = '\\' ∧ q.escapes then
      match if q.tripled then afterFoldedLine? rest else none with
      | some rest => readStringRest? q fuel done rest
      | none => do
        let (escaped, rest) ← readEscape? rest
        readStringRest? q fuel (escaped :: done) rest
    else if isPlain c then readStringRest? q fuel (c :: done) rest
    else if q.tripled then do
      let rest ← afterNewline? (c :: rest)
      readStringRest? q fuel ('\n' :: done) rest
    else none

/-- A string that starts with the given quote; the line end right after three quotes is no part of it. -/
def readString? (mark : Char) (tripleAllowed : Bool) (rest : List Char) :
    Option (String × List Char) :=
  match rest with
  | a :: b :: inner =>
    if tripleAllowed ∧ a = mark ∧ b = mark then
      let inner := (afterNewline? inner).getD inner
      readStringRest? ⟨mark, true⟩ (inner.length + 1) [] inner
    else readStringRest? ⟨mark, false⟩ (rest.length + 1) [] rest
  | _ => readStringRest? ⟨mark, false⟩ (rest.length + 1) [] rest

/-! ## Keys -/

def isQuote (c : Char) : Bool := c == '"' || c == '\x27'

def isKeyChar (c : Char) : Bool := c.isAlphanum || c == '_' || c == '-'

/-- One key: a word, or a string on one line. -/
def readKey? : List Char → Option (String × List Char)
  | [] => none
  | c :: rest =>
    if isQuote c then readString? c false rest
    else
      let (word, rest) := (c :: rest).span isKeyChar
      if word.isEmpty then none else some (String.ofList word, rest)

/-- A path of keys with points between them, its last key apart. -/
def readPath? : (fuel : Nat) → (done : List String) → List Char →
    Option ((List String × String) × List Char)
  | 0, _, _ => none
  | fuel + 1, done, cs => do
    let (key, rest) ← readKey? (skipGaps cs)
    match skipGaps rest with
    | '.' :: more => readPath? fuel (key :: done) more
    | rest => some ((done.reverse, key), rest)

/-! ## Bare values -/

/-- Digits, with single underscores between them. -/
def readGrouped? (digit : Char → Bool) (cs : List Char) : Option (List Char) :=
  let pieces := Text.splitAt '_' cs
  if pieces.all fun piece => !piece.isEmpty && piece.all digit then some pieces.flatten else none

/-- The number that digits write in a base. -/
def basedValue? (base : Nat) (cs : List Char) : Option Nat := do
  let fits (c : Char) : Bool := ((Json.hexValue? c).map fun digit => decide (digit < base)).getD false
  let digits ← readGrouped? fits cs
  let places ← digits.mapM Json.hexValue?
  some (places.foldl (fun n digit => n * base + digit) 0)

/-- The sign in front of a number, and the rest. -/
def splitSign : List Char → Bool × List Char
  | '-' :: rest => (true, rest)
  | '+' :: rest => (false, rest)
  | rest => (false, rest)

/-- Decimal digits without a zero in front. -/
def readDecimal? (cs : List Char) : Option (List Char) := do
  let digits ← readGrouped? Char.isDigit cs
  if digits.length ≠ 1 ∧ digits.head? = some '0' then none else some digits

/-- An integer that fits a signed word of 64 bits. -/
def readInteger? (word : List Char) : Option Int := do
  let n : Int ← match word with
    | '0' :: 'x' :: digits => (basedValue? 16 digits).map Int.ofNat
    | '0' :: 'o' :: digits => (basedValue? 8 digits).map Int.ofNat
    | '0' :: 'b' :: digits => (basedValue? 2 digits).map Int.ofNat
    | word =>
      let (negative, digits) := splitSign word
      (readDecimal? digits).map fun digits =>
        if negative then -(digitsValue digits : Int) else digitsValue digits
  if -9223372036854775808 ≤ n ∧ n ≤ 9223372036854775807 then some n else none

/-- The power of a float: an optional sign and digits. -/
def fitsPower (cs : List Char) : Bool := (readGrouped? Char.isDigit (splitSign cs).2).isSome

/-- What follows the whole part of a float: a fraction, a power or both. -/
def fitsFloatTail : List Char → Bool
  | '.' :: rest =>
    let (fraction, power) := rest.span fun c => c != 'e' && c != 'E'
    (readGrouped? Char.isDigit fraction).isSome && (power.isEmpty || fitsPower (power.drop 1))
  | _ :: rest => fitsPower rest
  | [] => false

/-- A float.  One that is too large is refused, unless it is negative. -/
def readFloat? (word : List Char) : Option Double :=
  let (negative, body) := splitSign word
  if body = "inf".toList then some (Binary.infinite negative)
  else if body = "nan".toList then some { (Binary.nan : Double) with negative }
  else
    let (whole, tail) := body.span fun c => c != '.' && c != 'e' && c != 'E'
    if (readDecimal? whole).isSome ∧ fitsFloatTail tail then
      (readDouble? (String.ofList (word.filter (· != '_')))).filter fun x =>
        x.negative || !x.isInfinite
    else none

/-- A time of day, up to its fraction of a second. -/
def isTime (cs : List Char) : Bool :=
  match cs with
  | h :: h' :: ':' :: m :: m' :: ':' :: s :: s' :: rest =>
    [h, h', m, m', s, s'].all Char.isDigit && digitsValue [h, h'] < 24 && digitsValue [m, m'] < 60
      && digitsValue [s, s'] ≤ 60 && fitsFraction rest
  | _ => false
where
  fitsFraction : List Char → Bool
    | [] => true
    | '.' :: digits => !digits.isEmpty && digits.all Char.isDigit
    | _ => false

/-- A distance from universal time. -/
def isOffset (cs : List Char) : Bool :=
  match cs with
  | [c] => c == 'Z' || c == 'z'
  | [sign, h, h', ':', m, m'] =>
    (sign == '+' || sign == '-') && [h, h', m, m'].all Char.isDigit && digitsValue [h, h'] < 24
      && digitsValue [m, m'] < 60
  | _ => false

/-- A time of day that may be followed by a distance from universal time. -/
def isZonedTime (cs : List Char) : Bool :=
  let (time, offset) := cs.span fun c => c.isDigit || c == ':' || c == '.'
  isTime time && (offset.isEmpty || isOffset offset)

/-- A day of the calendar. -/
def isDate (cs : List Char) : Bool :=
  match cs with
  | [a, b, c, d, '-', m, m', '-', t, t'] =>
    let month := digitsValue [m, m']
    let day := digitsValue [t, t']
    [a, b, c, d, m, m', t, t'].all Char.isDigit && 1 ≤ month && month ≤ 12 && 1 ≤ day
      && day ≤ daysInMonth (digitsValue [a, b, c, d]) month
  | _ => false

/-- A date, a time of day, or both with a letter between them. -/
def isMoment (word : List Char) : Bool :=
  isTime word || isDate word
    || (isDate (word.take 10)
      && (match word.drop 10 with
        | mark :: time => (mark == 'T' || mark == 't') && isZonedTime time
        | [] => false))

/-- The value that a word is. -/
def readWord? (word : List Char) : Option Json :=
  if word = "true".toList then some (.bool true)
  else if word = "false".toList then some (.bool false)
  else if isMoment word then some (.array [.string (String.ofList word)])
  else match readInteger? word with
    | some n => some (.number (.whole n))
    | none => (readFloat? word).map fun x => .number (.real x)

/-- The characters of a word. -/
def isWordChar (c : Char) : Bool :=
  !isGap c && c != '\n' && c != '\r' && c != ',' && c != ']' && c != '\x7d' && c != '#'

/-- A bare value.  A date and a time of day may also have a blank between them. -/
def readBare? (cs : List Char) : Option (Json × List Char) :=
  let (word, rest) := cs.span isWordChar
  let plain := (readWord? word).map (·, rest)
  match rest with
  | ' ' :: more =>
    let (time, after) := more.span isWordChar
    if isDate word ∧ isZonedTime time then
      some (.array [.string (String.ofList (word ++ ' ' :: time))], after)
    else plain
  | _ => plain

/-! ## Values -/

/-- A reader of one value from the front of a text. -/
abbrev ValueReader := List Char → Option (Json × List Char)

/-- The items of a list, up to the closing bracket. -/
def readItems? (value? : ValueReader) : (fuel : Nat) → (done : List Json) → ValueReader
  | 0, _, _ => none
  | fuel + 1, done, cs =>
    match skipLines cs.length cs with
    | ']' :: more => some (.array done.reverse, more)
    | inner => do
      let (item, rest) ← value? inner
      match skipLines rest.length rest with
      | ',' :: more => readItems? value? fuel (item :: done) more
      | ']' :: more => some (.array (item :: done).reverse, more)
      | _ => none

/-- A key and its value, seen from the table they stand in. -/
def readStatement? (value? : ValueReader) (cs : List Char) : Option (Act × List Char) := do
  let ((path, key), rest) ← readPath? maxDepth [] cs
  match rest with
  | '=' :: more =>
    let (j, rest) ← value? (skipGaps more)
    some (put path key j, rest)
  | _ => none

/-- The rest of a table on one line, up to the closing brace. -/
def readMembers? (value? : ValueReader) : (fuel : Nat) → (done : Table) → ValueReader
  | 0, _, _ => none
  | fuel + 1, done, cs => do
    let (act, rest) ← readStatement? value? cs
    let done ← act .opened done
    match skipGaps rest with
    | ',' :: more => readMembers? value? fuel done more
    | '\x7d' :: more => some (toDocument done, more)
    | _ => none

/-- One value that starts right here, with at most `depth` lists and tables in one another. -/
def readValue? : (depth : Nat) → ValueReader
  | _, [] => none
  | depth, c :: rest =>
    if isQuote c then (readString? c true rest).map fun (s, rest) => (.string s, rest)
    else match c, depth with
      | '[', 0 => none
      | '[', depth + 1 => readItems? (readValue? depth) (rest.length + 1) [] rest
      | '\x7b', 0 => none
      | '\x7b', depth + 1 => match skipGaps rest with
        | '\x7d' :: more => some (.object [], more)
        | inner => readMembers? (readValue? depth) (inner.length + 1) [] inner
      | _, _ => readBare? (c :: rest)

/-! ## Files -/

/-- A header of one or two brackets, and what follows its line. -/
def readHeader? (cs : List Char) : Option ((List String × String × Act) × List Char) :=
  match cs with
  | '[' :: inner => do
    let ((path, key), rest) ← readPath? maxDepth [] inner
    match rest with
    | ']' :: ']' :: more => some ((path, key, openNext path key), ← endLine? more)
    | _ => none
  | inner => do
    let ((path, key), rest) ← readPath? maxDepth [] inner
    match rest with
    | ']' :: more => some ((path, key, openTable path key), ← endLine? more)
    | _ => none

/-- The statements of a file, one line after the other, the first ones standing in the table `here`. -/
def readStatements? : (fuel : Nat) → (here : List String) → Table → List Char → Option Table
  | 0, _, _, _ => none
  | fuel + 1, here, t, cs =>
    match skipGaps cs with
    | [] => some t
    | '[' :: inner => do
      let ((path, key, act), rest) ← readHeader? inner
      let t ← act .opened t
      readStatements? fuel (path ++ [key]) t rest
    | c :: rest =>
      match endLine? (c :: rest) with
      | some rest => readStatements? fuel here t rest
      | none => do
        let (act, rest) ← readStatement? (readValue? maxDepth) (c :: rest)
        let t ← reach false act here .opened t
        readStatements? fuel here t (← endLine? rest)

/-- The document that a file is; a byte order mark in front is no part of it. -/
def read? (text : String) : Option Json :=
  let cs := match text.toList with
    | '\uFEFF' :: rest => rest
    | cs => cs
  (readStatements? (cs.length + 1) [] [] cs).map toDocument

end DriveAdvisory.Toml
