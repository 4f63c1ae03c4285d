/-
  Sets of characters.

  The properties of characters that a text operation asks for come as long tables.  A table is kept here as
  its *turns*: the code points, in ascending order, from each of which on membership is the other one
  than before it.  Nothing is a member before the first turn, so a character is a member exactly when
  an odd number of turns lie at it or below.
-/
namespace DriveAdvisory.Text

/-- A set of characters, given by its turns. -/
structure CodeSet where
  turns : List Nat

/-- The character is in the set. -/
def CodeSet.holds (set : CodeSet) (c : Char) : Bool :=
  (set.turns.takeWhile (· ≤ c.toNat)).length % 2 == 1

end DriveAdvisory.Text
