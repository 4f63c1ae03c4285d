/-
  The two tiers that keep sightings.

  A new sighting goes into the ring and then into the journal, if there is one.  The tiers do not wait
  for one another: when the journal refuses a sighting the ring holds it all the same, and a repeated
  sighting reaches neither.  The two halves are steps of their own, because several sightings may be on
  their way at once.
-/
import DriveAdvisory.Fault
import DriveAdvisory.Sighting.Journal
import DriveAdvisory.Sighting.Ring

namespace DriveAdvisory

/-- What became of a sighting. -/
inductive Reception
  | recorded (persisted : Bool)
  | repeated
deriving DecidableEq, Repr

instance : ToJson Reception := ⟨fun
  | .recorded persisted => Json.ofMembers
      [("recorded", Json.ofMembers [("persisted", toJson persisted)])]
  | .repeated => .string "duplicate"⟩

/-- Ring and journal. -/
structure Store where
  ring : Ring
  journal : Option Journal

namespace Store

/-- A store that forgets. -/
def ephemeral : Store := ⟨Ring.empty {} 100, none⟩

/-- The first half: whether the sighting is new, and the ring after it. -/
def take (globe : Globe) (store : Store) (s : Sighting) : Bool × Store :=
  let (new, ring) := store.ring.take globe s
  (new, { store with ring })

/-- What came of writing to the journal: whether it holds the sighting, and the store after it. -/
def enter (store : Store) : Except JournalFault Journal → Bool × Store
  | .ok journal => (true, { store with journal := some journal })
  | .error _ => (false, store)

/-- The second half, for a new sighting: whether the journal holds it, and the store after it. -/
def persist (store : Store) (s : Sighting) : Bool × Store :=
  match store.journal with
  | none => (false, store)
  | some journal => store.enter (journal.append s)

/-- Both halves. -/
def record (globe : Globe) (store : Store) (s : Sighting) : Reception × Store :=
  match store.take globe s with
  | (false, store) => (.repeated, store)
  | (true, store) =>
    let (persisted, store) := store.persist s
    (.recorded persisted, store)

/-- The number of rows, if there is a journal. -/
def persistedCount (store : Store) : Option Nat := store.journal.map Journal.count

end Store

end DriveAdvisory
