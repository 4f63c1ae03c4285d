/-
  From documents to values, first problem first.

  A `Decoder α` looks at one document and gives an `α` or a `Mismatch`.  A record is described by
  `Fields`, built with `<$>` and `<*>` in the order in which its fields are declared; the one
  description serves both written forms of a record:

  * an object: its members are looked at in the order they stand in (for a read document the order of
    the names), members of unknown names are passed over and the first one that does not fit is
    the problem; only then a missing field is reported, the first declared one;
  * an array of the fields in declaration order: fields with a default may be left off at the end.
-/
import DriveAdvisory.Json.Printer
import DriveAdvisory.Text.Quoted

namespace DriveAdvisory

/-! ## Problems -/

/-- Why a document is not a value of the wanted kind. -/
inductive Mismatch
  | missingField (name : String)
  | repeatedField (name : String)
  | unknownVariant (found : String) (known : List String)
  | wrongType (found expected : String)
  | wrongValue (found expected : String)
  | wrongLength (length : Nat) (expected : String)
  | noShape (name : String)
  | badIdentifier
  | badTime
deriving DecidableEq

namespace Mismatch

/-- A name in a message. -/
def ticked (name : String) : String := "`" ++ name ++ "`"

/-- The known variants in a message. -/
def choices : List String → String
  | [] => "there are no variants"
  | [one] => "expected " ++ ticked one
  | [one, two] => "expected " ++ ticked one ++ " or " ++ ticked two
  | many => "expected one of " ++ Text.join ", " (many.map ticked)

def message : Mismatch → String
  | missingField name => "missing field " ++ ticked name
  | repeatedField name => "duplicate field " ++ ticked name
  | unknownVariant found known => "unknown variant " ++ ticked found ++ ", " ++ choices known
  | wrongType found expected => "invalid type: " ++ found ++ ", expected " ++ expected
  | wrongValue found expected => "invalid value: " ++ found ++ ", expected " ++ expected
  | wrongLength length expected => "invalid length " ++ toString length ++ ", expected " ++ expected
  | noShape name => "data did not match any variant of untagged enum " ++ name
  | badIdentifier => "invalid uuid"
  | badTime => "invalid timestamp"

end Mismatch

/-- What a document is called in a message. -/
def Json.kind : Json → String
  | .null => "null"
  | .bool b => "boolean " ++ Mismatch.ticked (if b then "true" else "false")
  | .number (.whole n) => "integer " ++ Mismatch.ticked (toString n)
  | .number (.real x) => "floating point " ++ Mismatch.ticked (x.text .document)
  | .string s => "string " ++ Text.quoted s
  | .array _ => "sequence"
  | .object _ => "map"

/-! ## Single values -/

/-- A reading of documents as values of one kind. -/
abbrev Decoder (α : Type) := Json → Except Mismatch α

namespace Decoder

/-- A value of type `expected`, by a look at its shape. -/
def ofView {α : Type} (expected : String) (view : Json → Option α) : Decoder α := fun j =>
  match view j with
  | some a => .ok a
  | none => .error (.wrongType j.kind expected)

def bool : Decoder Bool := ofView "a boolean" Json.bool?

def string : Decoder String := ofView "a string" Json.string?

/-- A file's place. -/
def path : Decoder String := ofView "path string" Json.string?

/-- A sixty-four bit number. -/
def double : Decoder Double := ofView "f64" fun
  | .number n => some n.toBinary
  | _ => none

/-- A thirty-two bit number; one that is out of its range becomes infinite. -/
def single : Decoder Single := ofView "f32" fun
  | .number n => some n.toBinary
  | _ => none

/-- A count. -/
def count : Decoder Nat := fun j =>
  match j with
  | .number (.whole n) =>
    if n < 0 then .error (.wrongValue j.kind "usize") else .ok n.toNat
  | _ => .error (.wrongType j.kind "usize")

/-- Any document. -/
def any : Decoder Json := .ok

/-- `null` is no value. -/
def nullable {α : Type} (decode : Decoder α) : Decoder (Option α)
  | .null => .ok none
  | j => (decode j).map some

/-- A list of values, the first one that does not fit being the problem. -/
def list {α : Type} (decode : Decoder α) : Decoder (List α)
  | .array items => items.mapM decode
  | j => .error (.wrongType j.kind "a sequence")

/-- One of a few names.  A name may also stand as the only member of an object, with `null` as its
    value. -/
def variant {α : Type} (known : List (String × α)) : Decoder α := fun j =>
  match j with
  | .string name => named name
  | .object [(name, content)] => do
    let a ← named name
    match content with
    | .null => .ok a
    | other => .error (.wrongType other.kind "unit")
  | .object _ => .error (.wrongValue "map" "map with a single key")
  | other => .error (.wrongType other.kind "string or map")
where
  named (name : String) : Except Mismatch α :=
    match known.lookup name with
    | some a => .ok a
    | none => .error (.unknownVariant name (known.map Prod.fst))

end Decoder

/-! ## Records -/

/-- The description of a record's fields, in the order of their declaration. -/
structure Fields (α : Type) where
  /-- The fields' names. -/
  names : List String
  /-- Whether a member of this name, if it is a field's, has a fitting value. -/
  check : String → Json → Except Mismatch Unit
  /-- The record that the members of an object make. -/
  ofMembers : List (String × Json) → Except Mismatch α
  /-- The record that items make from the given place on, the next place, and the items left over.
      The text names what was expected where they are too few. -/
  ofItems : String → Nat → List Json → Except Mismatch (α × Nat × List Json)

namespace Fields

variable {α β : Type}

/-- The record without fields. -/
def none (a : α) : Fields α where
  names := []
  check _ _ := .ok ()
  ofMembers _ := .ok a
  ofItems _ place items := .ok (a, place, items)

/-- One field.  `absent` is its value in an object without it, `left` its value in an array that is
    too short; without a value the record does not fit. -/
def one (name : String) (decode : Decoder α) (absent left : Option α) : Fields α where
  names := [name]
  check other j := if other = name then (decode j).map fun _ => () else .ok ()
  ofMembers members :=
    match Json.lookup name members with
    | some j => decode j
    | .none => match absent with
      | some a => .ok a
      | .none => .error (.missingField name)
  ofItems expected place items :=
    match items with
    | j :: rest => (decode j).map fun a => (a, place + 1, rest)
    | [] => match left with
      | some a => .ok (a, place + 1, [])
      | .none => .error (.wrongLength place expected)

/-- Fields of a function and of its argument make those of the result. -/
def seq (fields : Fields (α → β)) (more : Fields α) : Fields β where
  names := fields.names ++ more.names
  check name j := do
    fields.check name j
    more.check name j
  ofMembers members := do
    let f ← fields.ofMembers members
    let a ← more.ofMembers members
    .ok (f a)
  ofItems expected place items := do
    let (f, place, items) ← fields.ofItems expected place items
    let (a, place, items) ← more.ofItems expected place items
    .ok (f a, place, items)

instance : Applicative Fields where
  pure := none
  seq fields more := seq fields (more ())

/-- A field that has to be there. -/
def required (name : String) (decode : Decoder α) : Fields α := one name decode .none .none

/-- A field that may be left out of an object or be `null`. -/
def optional (name : String) (decode : Decoder α) : Fields (Option α) :=
  one name decode.nullable (some .none) .none

/-- A field with a value for when it is not there. -/
def defaulted (name : String) (decode : Decoder α) (a : α) : Fields α :=
  one name decode (some a) (some a)

/-- A field with a default that may also be `null`. -/
def defaultedOption (name : String) (decode : Decoder α) (a : Option α) : Fields (Option α) :=
  one name decode.nullable (some a) (some a)

/-- A name that occurs twice among the members and is a field's. -/
def repeated? (names : List String) : List (String × Json) → Option String
  | [] => .none
  | (name, _) :: rest =>
    if names.contains name ∧ (Json.lookup name rest).isSome then some name
    else repeated? names rest

/-- The record as a document, `name` being what messages call it. -/
def record (name : String) (fields : Fields α) : Decoder α := fun j =>
  let expected := "struct " ++ name
  match j with
  | .object members => do
    members.forM fun (name, value) => fields.check name value
    match repeated? fields.names members with
    | some name => .error (.repeatedField name)
    | .none => fields.ofMembers members
  | .array items => do
    let size := fields.names.length
    let elements := if size = 1 then " with 1 element" else " with " ++ toString size ++ " elements"
    let (a, _, rest) ← fields.ofItems (expected ++ elements) 0 items
    if rest.isEmpty then .ok a
    else .error (.wrongLength items.length "fewer elements in array")
  | other => .error (.wrongType other.kind expected)

end Fields

end DriveAdvisory
