/-
  The durable log of sightings.

  A row is appended once and never changed.  It holds the sighting's identifier, of which there is one row
  at most, and its text as a document; a sighting whose latitude or longitude is a NaN has no row, since
  those columns may not be empty.  Reading decodes the rows that are asked for, and one that does not
  decode makes the whole answer a failure.
-/
import DriveAdvisory.Fault
import DriveAdvisory.Json.Reader
import DriveAdvisory.Sighting.Record

namespace DriveAdvisory

/-- Why the journal failed. -/
inductive JournalFault
  /-- A column that may not be empty was. -/
  | emptyColumn (name : String)
  | repeatedId
  | encoding
deriving DecidableEq, Repr

def JournalFault.message : JournalFault → String
  | emptyColumn name => "SQLite error: NOT NULL constraint failed: observations." ++ name
  | repeatedId => "SQLite error: UNIQUE constraint failed: observations.id"
  | encoding => "Record encoding error"

def JournalFault.toFault (fault : JournalFault) : Fault := .persistence fault.message

/-- One line of the log. -/
structure JournalRow where
  id : Identifier
  text : String
deriving DecidableEq

/-- The log, oldest row first. -/
structure Journal where
  rows : List JournalRow := []
deriving DecidableEq

namespace Journal

/-- The row of a sighting. -/
def row (s : Sighting) : JournalRow := ⟨s.id, (toJson s).render⟩

/-- The log with one more sighting. -/
def append (journal : Journal) (s : Sighting) : Except JournalFault Journal :=
  if s.latitude.isNaN then .error (.emptyColumn "latitude")
  else if s.longitude.isNaN then .error (.emptyColumn "longitude")
  else if journal.rows.any (·.id == s.id) then .error .repeatedId
  else .ok { rows := journal.rows ++ [row s] }

def count (journal : Journal) : Nat := journal.rows.length

/-- The sighting that a row holds. -/
def readRow (row : JournalRow) : Except JournalFault Sighting :=
  match Json.read? row.text with
  | none => .error .encoding
  | some j => match Sighting.decode j with
    | .ok s => .ok s
    | .error _ => .error .encoding

/-- All sightings, in the order they were appended. -/
def all (journal : Journal) : Except JournalFault (List Sighting) := journal.rows.mapM readRow

/-- The last sightings, newest first. -/
def recent (journal : Journal) (limit : Nat) : Except JournalFault (List Sighting) :=
  (journal.rows.reverse.take limit).mapM readRow

end Journal

end DriveAdvisory
