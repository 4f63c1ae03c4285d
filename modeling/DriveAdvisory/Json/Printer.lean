/-
  The text of a document: no spaces, members in the order of the object, and the fewest digits that
  read back for a `real` number.
-/
import DriveAdvisory.Json.Basic
import DriveAdvisory.Number.Shortest
import DriveAdvisory.Text.Basic

namespace DriveAdvisory

/-- Numbers in documents: a point always stands in a `real` number that is written out, which are
    those from `1e-5` up to below `1e16`; a tie goes to the even decimal. -/
def FloatLayout.document : FloatLayout :=
  { tie := .even, wholeSuffix := ".0", positional := fun place => -5 ≤ place && place ≤ 15
    nan := "null", infinity := "null" }

/-- The text of a number. -/
def JsonNumber.text : JsonNumber → String
  | .whole n => toString n
  | .real x => x.text .document

namespace Json

/-- The sixteen digits. -/
def hexDigit (n : Nat) : Char :=
  if n < 10 then Char.ofNat ('0'.toNat + n) else Char.ofNat ('a'.toNat + (n - 10))

/-- How a character stands between quotes. -/
def escaped (c : Char) : String :=
  match c with
  | '"' => "\\\""
  | '\\' => "\\\\"
  | '\n' => "\\n"
  | '\r' => "\\r"
  | '\t' => "\\t"
  | '\x08' => "\\b"
  | '\x0c' => "\\f"
  | _ =>
    if c.toNat < 0x20 then
      "\\u00" ++ String.ofList [hexDigit (c.toNat / 16), hexDigit (c.toNat % 16)]
    else c.toString

/-- A text between quotes. -/
def quoted (s : String) : String :=
  "\"" ++ s.toList.foldl (fun done c => done ++ escaped c) "" ++ "\""

mutual

/-- The text of a document. -/
def render : Json → String
  | .null => "null"
  | .bool true => "true"
  | .bool false => "false"
  | .number n => n.text
  | .string s => quoted s
  | .array items => "[" ++ renderItems items ++ "]"
  | .object members => "\x7b" ++ renderMembers members ++ "\x7d"

def renderItems : List Json → String
  | [] => ""
  | [item] => item.render
  | item :: rest => item.render ++ "," ++ renderItems rest

def renderMembers : List (String × Json) → String
  | [] => ""
  | [(name, value)] => quoted name ++ ":" ++ value.render
  | (name, value) :: rest => quoted name ++ ":" ++ value.render ++ "," ++ renderMembers rest

end

end Json

end DriveAdvisory
