/-
  Reading a document from text.

  The reader is a recursion on the depth that is still allowed, and inside one depth on the text: an
  array or object deeper than `maxDepth` is refused, as is everything the grammar does not have (a
  comma before a closing bracket, a leading zero, a bare control character in a string, half of a
  surrogate pair, text after the value).

  What a reader is not interested in can be passed over.  An `Outline` says what of a document is read; of the
  rest only the form is looked at, so it may be as deep as it likes and hold numbers that are too
  large and halves of surrogate pairs.

  A number without point and exponent is `whole` when it fits an unsigned or a negative signed word
  of 64 bits.  Every other number is read digit by digit into a `Scaled`, so its value is rounded the
  way that type says.
-/
import DriveAdvisory.Json.Basic
import DriveAdvisory.Number.Reading

namespace DriveAdvisory.Json

/-- How deep arrays and objects may stand in one another. -/
def maxDepth : Nat := 127

/-- Space, tab, line feed and carriage return may stand between the parts of a document. -/
def isSpace (c : Char) : Bool := c == ' ' || c == '\n' || c == '\t' || c == '\r'

def skipSpaces (cs : List Char) : List Char := cs.dropWhile isSpace

/-! ## Numbers -/

/-- Digits after the point.  The significand takes them while it has room; from the first one that
    does not fit on, they are passed over. -/
def takeFraction (s : Scaled) : List Char → Scaled
  | [] => s
  | c :: rest =>
    match Scaled.push? s.significand (c.toNat - '0'.toNat) with
    | some significand => takeFraction ⟨significand, s.exponent - 1⟩ rest
    | none => s

/-- Digits before the point.  Those from the first one that does not fit on only raise the power. -/
def takeWhole (s : Scaled) : List Char → Scaled
  | [] => s
  | c :: rest =>
    if s.exponent = 0 then
      match Scaled.push? s.significand (c.toNat - '0'.toNat) with
      | some significand => takeWhole ⟨significand, 0⟩ rest
      | none => takeWhole ⟨s.significand, 1⟩ rest
    else takeWhole ⟨s.significand, s.exponent + 1⟩ rest

/-- The largest power that is computed with.  Beyond it a non-zero number is refused when the power
    is positive, and vanishes when it is negative. -/
def exponentLimit : Nat := 2147483647

/-- The value of `s * 10 ^ power`. -/
def scaledNumber (negative : Bool) (s : Scaled) (down : Bool) (power : Nat) : Option JsonNumber :=
  let signed (x : Double) : JsonNumber := .real (if negative then -x else x)
  if exponentLimit < power then
    if s.significand = 0 ∨ down then some (signed (Binary.zero false)) else none
  else
    let exponent := s.exponent + (if down then -(power : Int) else power)
    (Scaled.toDouble? ⟨s.significand, exponent⟩).map signed

/-- The power after an `e`: a sign and at least one digit. -/
def readPower? (cs : List Char) : Option (Bool × Nat × List Char) :=
  let (down, rest) := match cs with
    | '-' :: more => (true, more)
    | '+' :: more => (false, more)
    | more => (false, more)
  let (digits, after) := spanDigits rest
  if digits.isEmpty then none else some (down, digitsValue digits, after)

/-- The unsigned part of a number, and what follows it. -/
def readUnsignedNumber? (negative : Bool) (cs : List Char) : Option (JsonNumber × List Char) :=
  let (digits, rest) := spanDigits cs
  if digits.isEmpty ∨ (digits.length ≠ 1 ∧ digits.head? = some '0') then none
  else
    let whole := takeWhole ⟨0, 0⟩ digits
    match rest with
    | '.' :: more =>
      let (fraction, after) := spanDigits more
      if fraction.isEmpty then none else finish (takeFraction whole fraction) after
    | mark :: _ =>
      if mark = 'e' ∨ mark = 'E' then finish whole rest
      else plain whole rest
    | [] => plain whole rest
where
  /-- A number with a fraction or a power, of which the power is still to come. -/
  finish (s : Scaled) (rest : List Char) : Option (JsonNumber × List Char) :=
    match rest with
    | mark :: more =>
      if mark = 'e' ∨ mark = 'E' then do
        let (down, power, after) ← readPower? more
        let n ← scaledNumber negative s down power
        some (n, after)
      else (scaledNumber negative s false 0).map (·, rest)
    | [] => (scaledNumber negative s false 0).map (·, rest)
  /-- A number that is digits only. -/
  plain (whole : Scaled) (rest : List Char) : Option (JsonNumber × List Char) :=
    if whole.exponent ≠ 0 then (scaledNumber negative whole false 0).map (·, rest)
    else if ¬ negative then some (.whole whole.significand, rest)
    else if whole.significand = 0 ∨ 9223372036854775808 < whole.significand then
      some (.real (-(Binary.ofNat whole.significand : Double)), rest)
    else some (.whole (-(whole.significand : Int)), rest)

/-! ## Strings -/

/-- The value of a hexadecimal digit. -/
def hexValue? (c : Char) : Option Nat :=
  if c.isDigit then some (c.toNat - '0'.toNat)
  else if 'a' ≤ c ∧ c ≤ 'f' then some (c.toNat - 'a'.toNat + 10)
  else if 'A' ≤ c ∧ c ≤ 'F' then some (c.toNat - 'A'.toNat + 10)
  else none

/-- Four hexadecimal digits. -/
def readUnit? : List Char → Option (Nat × List Char)
  | a :: b :: c :: d :: rest => do
    let a ← hexValue? a
    let b ← hexValue? b
    let c ← hexValue? c
    let d ← hexValue? d
    some (((a * 16 + b) * 16 + c) * 16 + d, rest)
  | _ => none

/-- The character of a `\u` escape, of which a high surrogate takes the low one after it along. -/
def readEscapedUnit? (cs : List Char) : Option (Char × List Char) := do
  let (unit, rest) ← readUnit? cs
  if 0xD800 ≤ unit ∧ unit ≤ 0xDBFF then
    match rest with
    | '\\' :: 'u' :: more =>
      let (low, after) ← readUnit? more
      if 0xDC00 ≤ low ∧ low ≤ 0xDFFF then
        some (Char.ofNat (0x10000 + (unit - 0xD800) * 0x400 + (low - 0xDC00)), after)
      else none
    | _ => none
  else if 0xDC00 ≤ unit ∧ unit ≤ 0xDFFF then none
  else some (Char.ofNat unit, rest)

/-- The character after a backslash, and what follows it. -/
def readEscape? : List Char → Option (Char × List Char)
  | '"' :: rest => some ('"', rest)
  | '\\' :: rest => some ('\\', rest)
  | '/' :: rest => some ('/', rest)
  | 'b' :: rest => some ('\x08', rest)
  | 'f' :: rest => some ('\x0c', rest)
  | 'n' :: rest => some ('\n', rest)
  | 'r' :: rest => some ('\r', rest)
  | 't' :: rest => some ('\t', rest)
  | 'u' :: rest => readEscapedUnit? rest
  | _ => none

/-- The rest of a string, up to its closing quote.  `fuel` bounds the number of characters. -/
def readStringRest? : (fuel : Nat) → (done : List Char) → List Char → Option (String × List Char)
  | 0, _, _ => none
  | _ + 1, _, [] => none
  | fuel + 1, done, c :: rest =>
    if c = '"' then some (String.ofList done.reverse, rest)
    else if c = '\\' then do
      let (escaped, after) ← readEscape? rest
      readStringRest? fuel (escaped :: done) after
    else if c.toNat < 0x20 then none
    else readStringRest? fuel (c :: done) rest

/-! ## Passing over -/

/-- What follows the digits, if there is one. -/
def passDigits? (cs : List Char) : Option (List Char) :=
  let (digits, rest) := spanDigits cs
  if digits.isEmpty then none else some rest

/-- What follows a power, if there is one. -/
def passPower? : List Char → Option (List Char)
  | mark :: rest =>
    if mark = 'e' ∨ mark = 'E' then (readPower? rest).map fun (_, _, after) => after
    else some (mark :: rest)
  | [] => some []

/-- What follows an unsigned number. -/
def passNumber? (cs : List Char) : Option (List Char) := do
  let (digits, rest) := spanDigits cs
  if digits.isEmpty ∨ (digits.length ≠ 1 ∧ digits.head? = some '0') then none
  else match rest with
    | '.' :: more => passPower? (← passDigits? more)
    | rest => passPower? rest

/-- What follows the rest of a string. -/
def passString? : List Char → Option (List Char)
  | [] => none
  | '"' :: rest => some rest
  | '\\' :: 'u' :: a :: b :: c :: d :: rest =>
    if [a, b, c, d].all fun digit => (hexValue? digit).isSome then passString? rest else none
  | '\\' :: c :: rest =>
    if ['"', '\\', '/', 'b', 'f', 'n', 'r', 't'].contains c then passString? rest else none
  | c :: rest => if c.toNat < 0x20 then none else passString? rest

/-- An array or an object that is not closed yet. -/
inductive Open
  | array
  | object
deriving DecidableEq, Repr

def Open.closing : Open → Char
  | array => ']'
  | object => '\x7d'

/-- What has to come next in a text that is passed over. -/
inductive Next
  | value
  /-- A member of an object. -/
  | member
  /-- A comma or the end of what is open. -/
  | more
deriving DecidableEq, Repr

/-- What follows a value, `opened` being what was opened in it and not closed yet.  `fuel` bounds the number
    of characters. -/
def passFrom? : (fuel : Nat) → (opened : List Open) → Next → List Char → Option (List Char)
  | 0, _, _, _ => none
  | _ + 1, [], .more, cs => some cs
  | fuel + 1, inner :: outer, .more, cs =>
    match skipSpaces cs with
    | ',' :: rest =>
      passFrom? fuel (inner :: outer) (if inner = .object then .member else .value) rest
    | c :: rest => if c = inner.closing then passFrom? fuel outer .more rest else none
    | [] => none
  | fuel + 1, opened, .member, cs =>
    match skipSpaces cs with
    | '"' :: rest => do
      match skipSpaces (← passString? rest) with
      | ':' :: rest => passFrom? fuel opened .value rest
      | _ => none
    | _ => none
  | fuel + 1, opened, .value, cs =>
    match skipSpaces cs with
    | 'n' :: 'u' :: 'l' :: 'l' :: rest => passFrom? fuel opened .more rest
    | 't' :: 'r' :: 'u' :: 'e' :: rest => passFrom? fuel opened .more rest
    | 'f' :: 'a' :: 'l' :: 's' :: 'e' :: rest => passFrom? fuel opened .more rest
    | '"' :: rest => do passFrom? fuel opened .more (← passString? rest)
    | '-' :: rest => do passFrom? fuel opened .more (← passNumber? rest)
    | '[' :: rest => match skipSpaces rest with
      | ']' :: rest => passFrom? fuel opened .more rest
      | rest => passFrom? fuel (.array :: opened) .value rest
    | '\x7b' :: rest => match skipSpaces rest with
      | '\x7d' :: rest => passFrom? fuel opened .more rest
      | rest => passFrom? fuel (.object :: opened) .member rest
    | rest => do passFrom? fuel opened .more (← passNumber? rest)

/-- What follows a value. -/
def passValue? (cs : List Char) : Option (List Char) := passFrom? (cs.length + 2) [] .value cs

/-! ## Values -/

/-- What of a document is read. -/
inductive Outline
  | all
  /-- The members of these names, and as much of each.  In an array the items stand for the members, in
      this order. -/
  | record (fields : List (String × Outline))
  /-- As much of every item of an array. -/
  | list (item : Outline)

namespace Outline

/-- The members of these names. -/
def flat (names : List String) : Outline := record (names.map fun name => (name, all))

/-- What of a member is read, if it is. -/
def member? (name : String) : Outline → Option Outline
  | record fields => fields.lookup name
  | _ => some all

/-- What of the item at a place is read. -/
def item (place : Nat) : Outline → Outline
  | record fields => (fields[place]?.map Prod.snd).getD all
  | list item => item
  | all => all

end Outline

/-- A reader of one value from the front of a text. -/
abbrev ValueReader := List Char → Option (Json × List Char)

/-- The items of an array after its first one's place was reached, up to the closing bracket. -/
def readItems? (value? : Outline → ValueReader) (outline : Outline) :
    (fuel : Nat) → (done : List Json) → ValueReader
  | 0, _, _ => none
  | fuel + 1, done, cs => do
    let (item, rest) ← value? (outline.item done.length) (skipSpaces cs)
    match skipSpaces rest with
    | ',' :: more => readItems? value? outline fuel (item :: done) more
    | ']' :: more => some (.array (item :: done).reverse, more)
    | _ => none

/-- One member with the value that starts right here, or no member if it is passed over. -/
def readMember? (value? : Outline → ValueReader) (outline : Outline) (name : String) (cs : List Char) :
    Option (List (String × Json) × List Char) :=
  match outline.member? name with
  | some outline => (value? outline cs).map fun (value, rest) => ([(name, value)], rest)
  | none => (passValue? cs).map fun rest => ([], rest)

/-- The members of an object after its first one's place was reached, up to the closing brace. -/
def readMembers? (value? : Outline → ValueReader) (outline : Outline) :
    (fuel : Nat) → (done : List (String × Json)) → ValueReader
  | 0, _, _ => none
  | fuel + 1, done, cs => do
    match skipSpaces cs with
    | '"' :: inName =>
      let (name, afterName) ← readStringRest? (inName.length + 1) [] inName
      match skipSpaces afterName with
      | ':' :: afterColon =>
        let (found, rest) ← readMember? value? outline name (skipSpaces afterColon)
        match skipSpaces rest with
        | ',' :: more => readMembers? value? outline fuel (found ++ done) more
        | '\x7d' :: more => some (.object (found ++ done).reverse, more)
        | _ => none
      | _ => none
    | _ => none

/-- One value that starts right here, with at most `depth` arrays and objects in one another. -/
def readValue? : (depth : Nat) → Outline → ValueReader
  | _, _, [] => none
  | depth, outline, c :: rest =>
    match c with
    | 'n' => match rest with
      | 'u' :: 'l' :: 'l' :: more => some (.null, more)
      | _ => none
    | 't' => match rest with
      | 'r' :: 'u' :: 'e' :: more => some (.bool true, more)
      | _ => none
    | 'f' => match rest with
      | 'a' :: 'l' :: 's' :: 'e' :: more => some (.bool false, more)
      | _ => none
    | '"' => (readStringRest? (rest.length + 1) [] rest).map fun (s, more) => (.string s, more)
    | '-' => (readUnsignedNumber? true rest).map fun (n, more) => (.number n, more)
    | '[' => match depth with
      | 0 => none
      | depth + 1 => match skipSpaces rest with
        | ']' :: more => some (.array [], more)
        | inner => readItems? (readValue? depth) outline (inner.length + 1) [] inner
    | '\x7b' => match depth with
      | 0 => none
      | depth + 1 => match skipSpaces rest with
        | '\x7d' :: more => some (.object [], more)
        | inner => readMembers? (readValue? depth) outline (inner.length + 1) [] inner
    | _ => (readUnsignedNumber? false (c :: rest)).map fun (n, more) => (.number n, more)

/-- What is read of the document that a text is, with the members of its objects as they were written. -/
def readOutlined? (outline : Outline) (text : String) : Option Json := do
  let (value, rest) ← readValue? maxDepth outline (skipSpaces text.toList)
  if (skipSpaces rest).isEmpty then some value else none

/-- The document that a text is. -/
def read? (text : String) : Option Json := (readOutlined? .all text).map sorted

end DriveAdvisory.Json
