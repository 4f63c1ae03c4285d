/-
  Tables under construction.

  A settings file is a list of statements: a key with its value, a `[header]` that opens a table, and a
  `[[header]]` that opens one more table of a list.  Each statement names a place by a path of keys, and what
  may be done at a place depends on how the tables on the way there came to be:

  * a value is final: nothing is ever put below it, and no key gets a second one;
  * a table is opened by its own header once at most, but it may have come to be before, implied by the
    header of a table in it;
  * a table that dotted keys made is open to dotted keys alone, and a table with a header of its own is
    not open to dotted keys from outside.

  `none` is the answer to a statement that breaks one of these rules.
-/
import DriveAdvisory.Json.Basic

namespace DriveAdvisory.Toml

/-- How a table came to be. -/
inductive Origin
  /-- By its own header, or as the whole of a file. -/
  | opened
  /-- By the header of a table in it. -/
  | implied
  /-- By a dotted key. -/
  | dotted
deriving DecidableEq, Repr

/-- What stands under a key.  The tables of a list are kept latest first. -/
inductive Entry
  | value (j : Json)
  | table (origin : Origin) (entries : List (String × Entry))
  | tables (items : List (List (String × Entry)))

/-- The keys of a table and what stands under them, in the order in which they came. -/
abbrev Table := List (String × Entry)

/-- Puts an entry under a key that is there. -/
def replace (key : String) (entry : Entry) : Table → Table
  | [] => []
  | (other, old) :: rest =>
    if other = key then (other, entry) :: rest else (other, old) :: replace key entry rest

/-! ## Places -/

/-- What is done at a place: the table there, and how it came to be. -/
abbrev Act := Origin → Table → Option Table

/-- Acts on the table at the end of a path.  Tables that are missing on the way are made; of a list of tables
    the latest one is meant. -/
def reach (dotted : Bool) (act : Act) : (path : List String) → Act
  | [], origin, t => act origin t
  | key :: path, _, t =>
    match t.lookup key with
    | none => do
      let made : Origin := if dotted then .dotted else .implied
      let inner ← reach dotted act path made []
      some (t ++ [(key, .table made inner)])
    | some (.value _) => none
    | some (.tables []) => none
    | some (.tables (latest :: before)) => do
      let latest ← reach dotted act path .opened latest
      some (replace key (.tables (latest :: before)) t)
    | some (.table origin inner) =>
      if dotted ∧ origin = .opened then none
      else do
        let inner ← reach dotted act path origin inner
        some (replace key (.table origin inner) t)

/-! ## Statements -/

/-- A key with its value, seen from the table it stands in; the key may be dotted. -/
def put (path : List String) (key : String) (j : Json) : Act :=
  reach true (fun origin t =>
    if (origin = .dotted ↔ path = []) ∨ (t.lookup key).isSome then none
    else some (t ++ [(key, .value j)])) path

/-- A header: opens the table of the given key. -/
def openTable (path : List String) (key : String) : Act :=
  reach false (fun _ t =>
    match t.lookup key with
    | none => some (t ++ [(key, .table .opened [])])
    | some (.table .implied inner) => some (replace key (.table .opened inner) t)
    | some _ => none) path

/-- A doubled header: opens one more table of the given key. -/
def openNext (path : List String) (key : String) : Act :=
  reach false (fun _ t =>
    match t.lookup key with
    | none => some (t ++ [(key, .tables [[]])])
    | some (.tables items) => some (replace key (.tables ([] :: items)) t)
    | some _ => none) path

/-! ## As a document -/

mutual

def Entry.toJson : Entry → Json
  | .value j => j
  | .table _ entries => .ofMembers (toMembers entries)
  | .tables items => .array (toItems items).reverse

/-- The members of a table. -/
def toMembers : List (String × Entry) → List (String × Json)
  | [] => []
  | (key, entry) :: rest => (key, entry.toJson) :: toMembers rest

def toItems : List (List (String × Entry)) → List Json
  | [] => []
  | item :: rest => .ofMembers (toMembers item) :: toItems rest

end

/-- A table as a document. -/
def toDocument (t : Table) : Json := .ofMembers (toMembers t)

end DriveAdvisory.Toml
