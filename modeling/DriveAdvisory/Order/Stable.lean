/-
  Sorting by insertion, which never swaps equals.

  Every list that this library sorts is short, and what its users rely on is the order of EQUAL
  items: nearest hits, shelters, candidates and ties of the arbitration all keep the order in which
  they came.  `insertInto` puts an item in front of the first one that it may precede, and `sort`
  inserts from the back, so an earlier item always lands in front of a later equal.
-/

namespace DriveAdvisory.Order

variable {α : Type}

/-- Puts `a` in front of the first item it may precede. -/
def insertInto (mayPrecede : α → α → Bool) (a : α) : List α → List α
  | [] => [a]
  | b :: rest => if mayPrecede a b then a :: b :: rest else b :: insertInto mayPrecede a rest

/-- The items in order, equals in the order they came. -/
def sort (mayPrecede : α → α → Bool) : List α → List α
  | [] => []
  | a :: rest => insertInto mayPrecede a (sort mayPrecede rest)

/-- The first of the least items. -/
def least? (less : α → α → Bool) : List α → Option α
  | [] => none
  | a :: rest => some (rest.foldl (fun best b => if less b best then b else best) a)

theorem insertInto_perm (mayPrecede : α → α → Bool) (a : α) (items : List α) :
    (insertInto mayPrecede a items).Perm (a :: items) := by
  induction items with
  | nil => exact List.Perm.refl _
  | cons b rest ih =>
    unfold insertInto; split
    · exact List.Perm.refl _
    · exact (ih.cons b).trans (List.Perm.swap a b rest)

theorem sort_perm (mayPrecede : α → α → Bool) (items : List α) :
    (sort mayPrecede items).Perm items := by
  induction items with
  | nil => exact List.Perm.refl _
  | cons a rest ih => exact (insertInto_perm mayPrecede a _).trans (ih.cons a)

theorem mem_sort {mayPrecede : α → α → Bool} {items : List α} {a : α} :
    a ∈ sort mayPrecede items ↔ a ∈ items := (sort_perm mayPrecede items).mem_iff

end DriveAdvisory.Order
