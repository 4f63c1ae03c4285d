/-
  Documents: the data that feeds, engines and files are made of.

  Numbers keep their kind, because answers show it: a number written without point and exponent that
  fits 64 bits is `whole`, every other one is `real`.  An object holds its members in the order of
  their names, each name once; `Json.object` is only ever built through `Json.ofMembers`, which sorts
  and lets the last of several members of one name win.
-/
import DriveAdvisory.Number.Binary

namespace DriveAdvisory

/-- A number of a document. -/
inductive JsonNumber
  | whole (n : Int)
  | real (x : Double)
deriving DecidableEq

/-- A document. -/
inductive Json
  | null
  | bool (b : Bool)
  | number (n : JsonNumber)
  | string (s : String)
  | array (items : List Json)
  | object (members : List (String × Json))

namespace Json

instance : Inhabited Json := ⟨null⟩

/-! ## Objects -/

/-- Puts a member at its place; a member of the same name is replaced. -/
def insertMember (name : String) (value : Json) : List (String × Json) → List (String × Json)
  | [] => [(name, value)]
  | (other, old) :: rest =>
    if name < other then (name, value) :: (other, old) :: rest
    else if name = other then (name, value) :: rest
    else (other, old) :: insertMember name value rest

/-- The object with the given members, of which the last one of a name counts. -/
def ofMembers (members : List (String × Json)) : Json :=
  .object (members.foldl (fun sorted (name, value) => insertMember name value sorted) [])

/-- The value of the first member of a name. -/
def lookup (name : String) : List (String × Json) → Option Json
  | [] => none
  | (other, value) :: rest => if other = name then some value else lookup name rest

/-- The member of an object. -/
def get? (name : String) : Json → Option Json
  | .object members => lookup name members
  | _ => none

/-- The member of an object, `null` when there is none. -/
def get (name : String) (j : Json) : Json := (j.get? name).getD .null

mutual

/-- The document with the members of every object sorted and unique. -/
def sorted : Json → Json
  | .array items => .array (sortedItems items)
  | .object members => ofMembers (sortedMembers members)
  | j => j

def sortedItems : List Json → List Json
  | [] => []
  | item :: rest => item.sorted :: sortedItems rest

def sortedMembers : List (String × Json) → List (String × Json)
  | [] => []
  | (name, value) :: rest => (name, value.sorted) :: sortedMembers rest

end

/-! ## Views -/

/-- The items of an array. -/
def items? : Json → Option (List Json)
  | .array items => some items
  | _ => none

/-- The text of a string. -/
def string? : Json → Option String
  | .string s => some s
  | _ => none

/-- The truth value of a boolean. -/
def bool? : Json → Option Bool
  | .bool b => some b
  | _ => none

end Json

namespace JsonNumber

/-- The value of a number, an integer being rounded once. -/
def toDouble : JsonNumber → Double
  | .whole n => Binary.ofInt n
  | .real x => x

/-- The value of a number in any format. -/
def toBinary {f : BinaryFormat} : JsonNumber → Binary f
  | .whole n => Binary.ofInt n
  | .real x => x.convert

end JsonNumber

/-! ## Building documents -/

/-- A value that has a document. -/
class ToJson (α : Type) where
  toJson : α → Json

export ToJson (toJson)

instance : ToJson Json := ⟨id⟩
instance : ToJson String := ⟨.string⟩
instance : ToJson Bool := ⟨.bool⟩
instance : ToJson Nat := ⟨fun n => .number (.whole n)⟩
instance : ToJson Int := ⟨fun n => .number (.whole n)⟩

/-- A finite number is written as it is; documents have no other numbers, so the rest is `null`.
    A narrow number is widened first. -/
instance {f : BinaryFormat} : ToJson (Binary f) :=
  ⟨fun x => if x.isFinite then .number (.real x.convert) else .null⟩

instance {α : Type} [ToJson α] : ToJson (Option α) :=
  ⟨fun
    | none => .null
    | some a => toJson a⟩

instance {α : Type} [ToJson α] : ToJson (List α) := ⟨fun items => .array (items.map toJson)⟩

end DriveAdvisory
