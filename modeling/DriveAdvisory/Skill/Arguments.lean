/-
  What a skill may be told, and how the engine is told of that.

  An argument is described once.  From the description follow both what the engine is offered, the
  schema, and what the skill makes of the engine's document, the fields; so the two cannot drift
  apart: whatever a schema allows, its fields accept.

  `Arguments α` is put together with `<$>` and `<*>`, one argument after the other, in the order in
  which the skill declares them.
-/
import DriveAdvisory.Advisory.Document

namespace DriveAdvisory

/-! ## Schemas -/

/-- What kind of value is offered. -/
inductive Shape
  /-- A number, of the given width. -/
  | number (format : String)
  | text
  /-- One of a few texts. -/
  | choice (names : List String)
  /-- A value of the shape, or `null`. -/
  | orNull (shape : Shape)
deriving DecidableEq, Repr

namespace Shape

/-- The schema's name for the type. -/
def typeName : Shape → String
  | number _ => "number"
  | text => "string"
  | choice _ => "string"
  | orNull shape => shape.typeName

/-- The types that are named; a nullable value has two. -/
def typeJson : Shape → Json
  | orNull shape => .array [.string shape.typeName, .string "null"]
  | shape => .string shape.typeName

/-- What else is said about the value.  A choice does not name `null`, even where the type does. -/
def details : Shape → List (String × Json)
  | number format => [("format", .string format)]
  | text => []
  | choice names => [("enum", toJson names)]
  | orNull shape => shape.details

end Shape

/-- One argument, as it is offered. -/
structure Offer where
  name : String
  shape : Shape
  /-- What the engine is told of it. -/
  note : Option String
  /-- The value that stands for a missing one, where the engine is told. -/
  standard : Option Json
  required : Bool

namespace Offer

def toJson (o : Offer) : Json := Json.ofMembers <|
  [("type", o.shape.typeJson)] ++ o.shape.details
    ++ (o.note.map fun note => ("description", Json.string note)).toList
    ++ (o.standard.map fun standard => ("default", standard)).toList

end Offer

/-- What is offered about all arguments of a skill. -/
structure Schema where
  title : String
  note : Option String
  offers : List Offer

namespace Schema

/-- The names of the required arguments, in the order of names. -/
def requiredNames (s : Schema) : List String :=
  ((s.offers.filter (·.required)).map (·.name)).mergeSort

/-- The schema as it is offered. -/
def toJson (s : Schema) : Json :=
  let required := s.requiredNames
  Json.ofMembers <|
    [("type", Json.string "object"), ("title", Json.string s.title),
      ("properties", Json.ofMembers (s.offers.map fun o => (o.name, o.toJson)))]
      ++ (s.note.map fun note => ("description", Json.string note)).toList
      ++ if required.isEmpty then [] else [("required", DriveAdvisory.toJson required)]

end Schema

/-! ## Kinds of values -/

/-- A kind of argument: its shape and its reading. -/
structure ArgumentKind (α : Type) where
  shape : Shape
  decode : Decoder α

namespace ArgumentKind

def single : ArgumentKind Single := ⟨.number "float", .single⟩

def double : ArgumentKind Double := ⟨.number "double", .double⟩

def text : ArgumentKind String := ⟨.text, .string⟩

/-- One of a few values by their names. -/
def choice {α : Type} (all : List α) (name : α → String) : ArgumentKind α :=
  ⟨.choice (all.map name), .named all name⟩

/-- A text for which a few values are offered, and any other one is taken. -/
def suggestion {α : Type} (all : List α) (name : α → String) : ArgumentKind String :=
  ⟨.choice (all.map name), .string⟩

end ArgumentKind

/-! ## Arguments -/

/-- The arguments of a skill that become an `α`. -/
structure Arguments (α : Type) where
  offers : List Offer
  fields : Fields α

namespace Arguments

variable {α β : Type}

instance : Applicative Arguments where
  pure a := ⟨[], pure a⟩
  seq f x := ⟨f.offers ++ (x ()).offers, f.fields <*> (x ()).fields⟩

/-- An argument that has to be given. -/
def required (name : String) (kind : ArgumentKind α) (note : Option String := none) : Arguments α :=
  ⟨[⟨name, kind.shape, note, none, true⟩], .required name kind.decode⟩

/-- An argument that has a value when it is not given; the engine is not told which. -/
def quiet (name : String) (kind : ArgumentKind α) (a : α) (note : Option String := none) :
    Arguments α :=
  ⟨[⟨name, kind.shape, note, none, false⟩], .defaulted name kind.decode a⟩

/-- An argument that has a value when it is not given. -/
def defaulted [ToJson α] (name : String) (kind : ArgumentKind α) (a : α)
    (note : Option String := none) : Arguments α :=
  ⟨[⟨name, kind.shape, note, some (toJson a), false⟩], .defaulted name kind.decode a⟩

/-- An argument that may be left out or be `null`. -/
def optional (name : String) (kind : ArgumentKind α) (note : Option String := none) :
    Arguments (Option α) :=
  ⟨[⟨name, .orNull kind.shape, note, some .null, false⟩], .defaultedOption name kind.decode none⟩

/-- The reading of a document of arguments, under the name that messages call it. -/
def decode (args : Arguments α) (name : String) : Decoder α := args.fields.record name

/-- What is offered. -/
def schema (args : Arguments α) (title : String) (note : Option String := none) : Schema :=
  ⟨title, note, args.offers⟩

end Arguments

end DriveAdvisory
