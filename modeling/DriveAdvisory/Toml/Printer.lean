/-
  Writing a settings file: one `key = value` a line.

  Numbers are written out without a power, floats with a point.  A string stands between the first of these
  quotes that show it as it is: double ones; single ones; three double ones; three single ones.  If
  none of them do, it stands between double quotes, three if it has several lines, with
  escapes.  A string of several lines starts on the line after its opening quotes.
-/
import DriveAdvisory.Json.Basic
import DriveAdvisory.Number.Shortest
import DriveAdvisory.Text.Quoted

namespace DriveAdvisory.Toml

/-! ## Strings -/

/-- The longest run of a character. -/
def longestRun (c : Char) (cs : List Char) : Nat :=
  (cs.foldl (fun (best, run) other => if other = c then (max best (run + 1), run + 1) else (best, 0))
    (0, 0)).1

/-- A character that never stands in a string as it is. -/
def isControl (c : Char) : Bool := (c.toNat < 0x20 && c != '\t' && c != '\n') || c.toNat == 0x7f

/-- How a character is written between double quotes. -/
def escaped (tripled : Bool) (c : Char) : String :=
  match c with
  | '\x08' => "\\b"
  | '\t' => "\\t"
  | '\n' => if tripled then "\n" else "\\n"
  | '\x0c' => "\\f"
  | '\r' => "\\r"
  | '\\' => "\\\\"
  | c =>
    if isControl c then
      let digits := Text.hexDigits c.toNat
      "\\u" ++ Text.repeated (4 - digits.length) "0" ++ String.ofList (digits.toList.map Char.toUpper)
    else c.toString

/-- The characters of a string between double quotes.  `run` is how many quotes stand right before; three
    in a row would close three quotes, and one would close a single one. -/
def escapedFrom (tripled : Bool) (run : Nat) : List Char → String
  | [] => ""
  | c :: rest =>
    if c = '"' then
      if (if tripled then 2 else 0) ≤ run then "\\\"" ++ escapedFrom tripled 0 rest
      else "\"" ++ escapedFrom tripled (run + 1) rest
    else escaped tripled c ++ escapedFrom tripled 0 rest

/-- A string with its quotes. -/
def stringText (s : String) : String :=
  let cs := s.toList
  let lines := cs.contains '\n'
  let backslash := cs.contains '\\'
  let control := cs.any isControl
  let start := if lines then "\n" else ""
  let double := "\"" ++ escapedFrom false 0 cs ++ "\""
  let tripleDouble := "\"\"\"" ++ start ++ escapedFrom true 0 cs ++ "\"\"\""
  if !control && !backslash && !lines && longestRun '"' cs = 0 then double
  else if !control && !lines && longestRun '\x27' cs = 0 then "\x27" ++ s ++ "\x27"
  else if !control && !backslash && longestRun '"' cs ≤ 2 then tripleDouble
  else if !control && longestRun '\x27' cs ≤ 2 then "\x27\x27\x27" ++ start ++ s ++ "\x27\x27\x27"
  else if lines then tripleDouble
  else double

/-! ## Values -/

/-- Floats: always written out, and always with a point. -/
def floatLayout : FloatLayout :=
  { tie := .up, wholeSuffix := ".0", positional := fun _ => true, nan := "nan", infinity := "inf" }

/-- A plain value; a settings file that is written holds no others. -/
def valueText : Json → String
  | .string s => stringText s
  | .bool b => if b then "true" else "false"
  | .number (.whole n) => toString n
  | .number (.real x) => x.text floatLayout
  | _ => ""

/-- A settings file of plain values. -/
def text (members : List (String × Json)) : String :=
  members.foldl (fun done (key, j) => done ++ key ++ " = " ++ valueText j ++ "\n") ""

end DriveAdvisory.Toml
