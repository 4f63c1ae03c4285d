/-
  Identifiers of 128 bits.

  They are written as thirty-two hexadecimal digits in groups of 8, 4, 4, 4 and 12; read are also the
  digits alone, and the grouped form in braces or after `urn:uuid:`, in either case.
-/
import DriveAdvisory.Json.Reader
import DriveAdvisory.Json.Printer

namespace DriveAdvisory

/-- An identifier. -/
abbrev Identifier := BitVec 128

namespace Identifier

/-- The last `count` hexadecimal digits of a number. -/
def digits : (count : Nat) → Nat → List Char
  | 0, _ => []
  | count + 1, n => digits count (n / 16) ++ [Json.hexDigit (n % 16)]

/-- The grouped form. -/
def text (id : Identifier) : String :=
  let cs := digits 32 id.toNat
  String.ofList (cs.take 8 ++ ['-'] ++ (cs.drop 8).take 4 ++ ['-'] ++ (cs.drop 12).take 4 ++ ['-']
    ++ (cs.drop 16).take 4 ++ ['-'] ++ cs.drop 20)

/-- The number that hexadecimal digits write. -/
def value? (cs : List Char) : Option Nat :=
  cs.foldl (fun n c => do
    let n ← n
    let digit ← Json.hexValue? c
    some (n * 16 + digit)) (some 0)

/-- The digits of the grouped form. -/
def ungroup? (cs : List Char) : Option (List Char) :=
  if cs.length = 36 ∧ [8, 13, 18, 23].all fun place => cs[place]? == some '-' then
    some (cs.take 8 ++ (cs.drop 9).take 4 ++ (cs.drop 14).take 4 ++ (cs.drop 19).take 4 ++ cs.drop 24)
  else none

/-- The digits of any written form. -/
def bare? (cs : List Char) : Option (List Char) :=
  if cs.length = 32 then some cs
  else if cs.length = 36 then ungroup? cs
  else if cs.length = 38 ∧ cs.head? = some '\x7b' ∧ cs.getLast? = some '\x7d' then
    ungroup? (cs.drop 1).dropLast
  else if cs.length = 45 then (Text.dropFront? "urn:uuid:".toList cs).bind ungroup?
  else none

def ofText? (text : String) : Option Identifier :=
  ((bare? text.toList).bind value?).map (BitVec.ofNat 128)

end Identifier

end DriveAdvisory
