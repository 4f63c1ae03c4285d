/-
  A text between quotes for a message: what cannot be seen is written as an escape.
-/
import DriveAdvisory.Text.Basic
import DriveAdvisory.Text.Unseen

namespace DriveAdvisory.Text

/-- The hexadecimal digits of a number, without leading zeros. -/
def hexDigits (n : Nat) : String := String.ofList (Nat.toDigits 16 n)

/-- How a character stands between the quotes of a message. -/
def visible (c : Char) : String :=
  match c with
  | '"' => "\\\""
  | '\\' => "\\\\"
  | '\n' => "\\n"
  | '\r' => "\\r"
  | '\t' => "\\t"
  | '\x00' => "\\0"
  | _ => if unseen.holds c then "\\u\x7b" ++ hexDigits c.toNat ++ "\x7d" else c.toString

/-- A text between quotes. -/
def quoted (s : String) : String :=
  "\"" ++ s.toList.foldl (fun done c => done ++ visible c) "" ++ "\""

end DriveAdvisory.Text
