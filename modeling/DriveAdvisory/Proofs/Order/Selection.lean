/-
  Sorting by a key, and picking the least of what was sorted.

  The arbitration of a cycle is a stable sort followed by "the first of the least".  Both are described here
  for any key in a linear order:

  * `least?_eq_some_iff`      the item picked is the first of those with the least key (`IsFirstLeast`);
  * `pick_sort`               picking by one key after sorting by another one picks a least item of the
                              two keys together, the picking key first;
  * `pick_sort_cons`          and an item that stands first in the INPUT and is such a least one is picked.

  The last two say between them how far the order of the input matters: it decides among the items that are
  least by both keys, and among those it decides everything.  For a whole list the same is `sort_swaps`:
  sorting two permutations of a list gives lists that differ by exchanges of neighbours with equal keys.
-/
import DriveAdvisory.Order.Stable
import Mathlib.Data.Prod.Lex
import Mathlib.Logic.Relation

namespace DriveAdvisory.Order

section Keys

variable {α β κ ρ : Type} [LinearOrder κ] [LinearOrder ρ]

/-- One item is less than another by its key. -/
abbrev below (key : α → κ) (a b : α) : Bool := decide (key a < key b)

/-- One item may precede another by its rank. -/
abbrev upTo (rank : α → ρ) (a b : α) : Bool := decide (rank a ≤ rank b)

/-! ## The least item -/

/-- `a` stands in the list, everything in front of it is greater and nothing behind it is less. -/
def IsFirstLeast (key : α → κ) (items : List α) (a : α) : Prop :=
  ∃ before after, items = before ++ a :: after ∧
    (∀ b ∈ before, key a < key b) ∧ ∀ b ∈ after, key a ≤ key b

theorem IsFirstLeast.mem {key : α → κ} {items : List α} {a : α} (h : IsFirstLeast key items a) :
    a ∈ items := by
  obtain ⟨before, after, rfl, -, -⟩ := h
  simp

theorem IsFirstLeast.le {key : α → κ} {items : List α} {a b : α} (h : IsFirstLeast key items a)
    (hb : b ∈ items) : key a ≤ key b := by
  obtain ⟨before, after, rfl, hbefore, hafter⟩ := h
  rcases List.mem_append.mp hb with hb | hb
  · exact le_of_lt (hbefore b hb)
  · rcases List.mem_cons.mp hb with rfl | hb
    · exact le_refl _
    · exact hafter b hb

/-- Every list but the empty one has a first least item. -/
theorem exists_isFirstLeast (key : α → κ) : ∀ items : List α, items ≠ [] →
    ∃ a, IsFirstLeast key items a
  | [], h => absurd rfl h
  | [a], _ => ⟨a, [], [], rfl, by simp, by simp⟩
  | a :: b :: rest, _ => by
    obtain ⟨c, hc⟩ := exists_isFirstLeast key (b :: rest) (by simp)
    by_cases hac : key a ≤ key c
    · exact ⟨a, [], b :: rest, rfl, by simp, fun d hd => le_trans hac (hc.le hd)⟩
    · obtain ⟨before, after, he, hbefore, hafter⟩ := hc
      refine ⟨c, a :: before, after, by rw [he]; rfl, ?_, hafter⟩
      intro d hd
      rcases List.mem_cons.mp hd with rfl | hd
      · exact not_le.mp hac
      · exact hbefore d hd

/-- Nothing takes the place of an item that nothing is less than. -/
theorem foldl_keep (key : α → κ) {a : α} : ∀ items : List α, (∀ b ∈ items, key a ≤ key b) →
    items.foldl (fun best b => if below key b best = true then b else best) a = a
  | [], _ => rfl
  | b :: rest, h => by
    rw [List.foldl_cons, if_neg]
    · exact foldl_keep key rest fun c hc => h c (List.mem_cons_of_mem b hc)
    · have := h b List.mem_cons_self
      simpa using this

/-- An item takes the place of the best so far if that and everything in between is greater. -/
theorem foldl_take (key : α → κ) {a : α} (after : List α) : ∀ (before : List α) (best : α),
    key a < key best → (∀ b ∈ before, key a < key b) →
    (before ++ a :: after).foldl
        (fun best b => if below key b best = true then b else best) best
      = after.foldl (fun best b => if below key b best = true then b else best) a
  | [], best, hbest, _ => by
    rw [List.nil_append, List.foldl_cons, if_pos (decide_eq_true hbest)]
  | b :: rest, best, hbest, hbefore => by
    rw [List.cons_append, List.foldl_cons]
    apply foldl_take key after rest
    · split
      · exact hbefore b List.mem_cons_self
      · exact hbest
    · exact fun c hc => hbefore c (List.mem_cons_of_mem b hc)

theorem least?_of_isFirstLeast {key : α → κ} {items : List α} {a : α}
    (h : IsFirstLeast key items a) :
    least? (below key) items = some a := by
  obtain ⟨before, after, rfl, hbefore, hafter⟩ := h
  cases before with
  | nil => exact congrArg some (foldl_keep key after hafter)
  | cons b rest =>
    have htake := foldl_take key after rest b (hbefore b List.mem_cons_self)
      fun c hc => hbefore c (List.mem_cons_of_mem b hc)
    exact congrArg some (htake.trans (foldl_keep key after hafter))

/-- **What is picked** is the first of the least items, and nothing else is. -/
theorem least?_eq_some_iff {key : α → κ} {items : List α} {a : α} :
    least? (below key) items = some a ↔ IsFirstLeast key items a := by
  constructor
  · intro h
    have hne : items ≠ [] := by
      rintro rfl
      nomatch h
    obtain ⟨c, hc⟩ := exists_isFirstLeast key items hne
    rw [least?_of_isFirstLeast hc] at h
    exact Option.some.inj h ▸ hc
  · exact least?_of_isFirstLeast

theorem least?_eq_none_iff {less : α → α → Bool} {items : List α} :
    least? less items = none ↔ items = [] := by
  cases items <;> simp [least?]

/-- Where the key tells all items apart, the order of the items does not matter. -/
theorem least?_perm {key : α → κ} (hkey : Function.Injective key) {items others : List α}
    (h : items.Perm others) : least? (below key) items = least? (below key) others := by
  cases hl : least? (below key) items with
  | none =>
    have hnil : items = [] := least?_eq_none_iff.mp hl
    rw [hnil] at h
    rw [h.symm.eq_nil]
    rfl
  | some a =>
    have ha := least?_eq_some_iff.mp hl
    have hne : others ≠ [] := by
      rintro rfl
      exact List.ne_nil_of_mem ha.mem h.eq_nil
    obtain ⟨b, hb⟩ := exists_isFirstLeast key others hne
    have hab : key a = key b :=
      le_antisymm (ha.le (h.mem_iff.mpr hb.mem)) (hb.le (h.mem_iff.mp ha.mem))
    rw [hkey hab]
    exact (least?_of_isFirstLeast hb).symm

/-! ## Sorting by a key -/

theorem insertInto_of_le {rank : α → ρ} {a b : α} (h : rank a ≤ rank b) (rest : List α) :
    insertInto (upTo rank) a (b :: rest) = a :: b :: rest := if_pos (decide_eq_true h)

theorem insertInto_of_not_le {rank : α → ρ} {a b : α} (h : ¬ rank a ≤ rank b) (rest : List α) :
    insertInto (upTo rank) a (b :: rest) = b :: insertInto (upTo rank) a rest :=
  if_neg (by simpa using h)

theorem mem_sort_upTo (rank : α → ρ) {items : List α} {a : α} :
    a ∈ sort (upTo rank) items ↔ a ∈ items := mem_sort

theorem insertInto_pairwise {rank : α → ρ} {a : α} : ∀ {items : List α},
    items.Pairwise (fun b c => rank b ≤ rank c) →
    (insertInto (upTo rank) a items).Pairwise (fun b c => rank b ≤ rank c)
  | [], _ => List.pairwise_singleton _ a
  | b :: rest, h => by
    obtain ⟨hb, hrest⟩ := List.pairwise_cons.mp h
    by_cases hab : rank a ≤ rank b
    · rw [insertInto_of_le hab]
      refine List.pairwise_cons.mpr ⟨?_, h⟩
      intro c hc
      rcases List.mem_cons.mp hc with rfl | hc
      · exact hab
      · exact le_trans hab (hb c hc)
    · rw [insertInto_of_not_le hab]
      refine List.pairwise_cons.mpr ⟨?_, insertInto_pairwise hrest⟩
      intro c hc
      rcases List.mem_cons.mp ((insertInto_perm _ a rest).mem_iff.mp hc) with rfl | hc
      · exact le_of_not_ge hab
      · exact hb c hc

theorem sort_pairwise (rank : α → ρ) : ∀ items : List α,
    (sort (upTo rank) items).Pairwise (fun b c => rank b ≤ rank c)
  | [] => List.Pairwise.nil
  | _ :: rest => insertInto_pairwise (sort_pairwise rank rest)

/-- In a sorted list, what ranks lower than an item stands in front of it. -/
theorem mem_before_of_lt {rank : α → ρ} {before after : List α} {a b : α}
    (hsorted : (before ++ a :: after).Pairwise fun c d => rank c ≤ rank d)
    (hb : b ∈ before ++ a :: after) (hlt : rank b < rank a) : b ∈ before := by
  have ha := (List.pairwise_cons.mp (List.pairwise_append.mp hsorted).2.1).1
  rcases List.mem_append.mp hb with hbefore | hbehind
  · exact hbefore
  · rcases List.mem_cons.mp hbehind with rfl | hafter
    · exact absurd hlt (lt_irrefl _)
    · exact absurd (ha b hafter) (not_le.mpr hlt)

/-- Where an inserted item goes: behind what ranks lower, in front of everything else. -/
theorem insertInto_split {rank : α → ρ} {a : α} : ∀ {items : List α},
    items.Pairwise (fun b c => rank b ≤ rank c) →
    ∃ before after, items = before ++ after ∧
      insertInto (upTo rank) a items = before ++ a :: after ∧
      (∀ b ∈ before, rank b < rank a) ∧ ∀ b ∈ after, rank a ≤ rank b
  | [], _ => ⟨[], [], rfl, rfl, by simp, by simp⟩
  | b :: rest, h => by
    obtain ⟨hb, hrest⟩ := List.pairwise_cons.mp h
    by_cases hab : rank a ≤ rank b
    · rw [insertInto_of_le hab]
      refine ⟨[], b :: rest, rfl, rfl, by simp, ?_⟩
      intro c hc
      rcases List.mem_cons.mp hc with rfl | hc
      · exact hab
      · exact le_trans hab (hb c hc)
    · rw [insertInto_of_not_le hab]
      obtain ⟨before, after, he, hins, hbefore, hafter⟩ := insertInto_split (a := a) hrest
      refine ⟨b :: before, after, by rw [he]; rfl, by rw [hins]; rfl, ?_, hafter⟩
      intro c hc
      rcases List.mem_cons.mp hc with rfl | hc
      · exact not_le.mp hab
      · exact hbefore c hc

/-- The item that stands first in the input, in the sorted list. -/
theorem sort_cons_split (rank : α → ρ) (a : α) (rest : List α) :
    ∃ before after, sort (upTo rank) rest = before ++ after ∧
      sort (upTo rank) (a :: rest) = before ++ a :: after ∧
      (∀ b ∈ before, rank b < rank a) ∧ ∀ b ∈ after, rank a ≤ rank b :=
  insertInto_split (sort_pairwise rank rest)

/-- An item goes past everything that ranks lower. -/
theorem insertInto_append {rank : α → ρ} {a : α} (rest : List α) : ∀ before : List α,
    (∀ b ∈ before, rank b < rank a) →
    insertInto (upTo rank) a (before ++ rest) = before ++ insertInto (upTo rank) a rest
  | [], _ => rfl
  | b :: before, h => by
    have hb := not_le.mpr (h b List.mem_cons_self)
    rw [List.cons_append, insertInto_of_not_le hb, List.cons_append,
      insertInto_append rest before fun c hc => h c (List.mem_cons_of_mem b hc)]

/-- Two items of equal rank in front of the input: they stay neighbours, in the order of the input. -/
theorem sort_pair_split {rank : α → ρ} {a b : α} (h : rank a = rank b) (rest : List α) :
    ∃ before after, sort (upTo rank) rest = before ++ after ∧
      sort (upTo rank) (a :: b :: rest) = before ++ a :: b :: after ∧
      sort (upTo rank) (b :: a :: rest) = before ++ b :: a :: after ∧
      (∀ c ∈ before, rank c < rank a) := by
  obtain ⟨before, after, hrest, hb, hbefore, hafter⟩ := sort_cons_split rank b rest
  have hinsert (c : α) (hc : rank c = rank b) :
      insertInto (upTo rank) c (before ++ after) = before ++ c :: after := by
    rw [insertInto_append after before fun d hd => hc ▸ hbefore d hd]
    cases after with
    | nil => rfl
    | cons d after =>
      rw [insertInto_of_le (hc ▸ hafter d List.mem_cons_self)]
  refine ⟨before, after, hrest, ?_, ?_, fun c hc => h ▸ hbefore c hc⟩
  · show insertInto _ a (sort _ (b :: rest)) = _
    rw [hb, insertInto_append _ before fun d hd => h ▸ hbefore d hd, insertInto_of_le (le_of_eq h)]
  · show insertInto _ b (insertInto _ a (sort _ rest)) = _
    rw [hrest, hinsert a h, insertInto_append _ before hbefore, insertInto_of_le (le_of_eq h.symm)]

/-! ## Picking after sorting -/

/-- **What is picked after sorting** is a least item by the picking key and then the sorting key. -/
theorem pick_sort {rank : α → ρ} {key : β → κ} {view : α → Option β} {items : List α} {b : β}
    (h : IsFirstLeast key
      ((sort (upTo rank) items).filterMap view) b) :
    ∃ a ∈ items, view a = some b ∧ ∀ c ∈ items, ∀ d, view c = some d →
      toLex (key b, rank a) ≤ toLex (key d, rank c) := by
  obtain ⟨before, after, he, hbefore, hafter⟩ := h
  have hsorted := sort_pairwise rank items
  -- back from the views to the items: in front of `a` stand those with a greater view, then those
  -- with none, which `filterMap` skips
  obtain ⟨front, back, hfb, rfl, hback⟩ := List.filterMap_eq_append_iff.mp he
  obtain ⟨skip, a, behind, rfl, hskip, hview, rfl⟩ := List.filterMap_eq_cons_iff.mp hback
  have hmem : ∀ c, c ∈ items ↔ c ∈ front ∨ c ∈ skip ∨ c = a ∨ c ∈ behind := by
    intro c
    rw [← mem_sort_upTo rank, hfb]
    simp
  rw [hfb] at hsorted
  have ha := (List.pairwise_cons.mp
    (List.pairwise_append.mp (List.pairwise_append.mp hsorted).2.1).2.1).1
  refine ⟨a, (hmem a).mpr (.inr (.inr (.inl rfl))), hview, ?_⟩
  intro c hc d hd
  rw [Prod.Lex.toLex_le_toLex]
  rcases (hmem c).mp hc with hc | hc | rfl | hc
  · exact .inl (hbefore d (List.mem_filterMap.mpr ⟨c, hc, hd⟩))
  · rw [hskip c hc] at hd
    nomatch hd
  · rw [hview] at hd
    obtain rfl := Option.some.inj hd
    exact .inr ⟨rfl, le_refl _⟩
  · have hkey := hafter d (List.mem_filterMap.mpr ⟨c, hc, hd⟩)
    rcases lt_or_eq_of_le hkey with hlt | heq
    · exact .inl hlt
    · exact .inr ⟨heq, ha c hc⟩

/-- Picked from all that was sorted, it is no worse than anything, and nothing as good ranks below it. -/
theorem IsFirstLeast.of_sort {rank : α → ρ} {key : α → κ} {items : List α} {a c : α}
    (h : IsFirstLeast key (sort (upTo rank) items) a) (hc : c ∈ items) :
    key a < key c ∨ key a = key c ∧ rank a ≤ rank c := by
  rw [← List.filterMap_some (l := sort (upTo rank) items)] at h
  obtain ⟨b, -, hb, hleast⟩ := pick_sort h
  obtain rfl : b = a := Option.some.inj hb
  exact Prod.Lex.toLex_le_toLex.mp (hleast c hc c rfl)

/-- **The first of the input among the least** is picked. -/
theorem pick_sort_cons {rank : α → ρ} {key : β → κ} {view : α → Option β} {rest : List α} {a : α}
    {b : β} (hview : view a = some b)
    (hleast : ∀ c ∈ rest, ∀ d, view c = some d → toLex (key b, rank a) ≤ toLex (key d, rank c)) :
    IsFirstLeast key
      ((sort (upTo rank) (a :: rest)).filterMap view) b := by
  obtain ⟨before, after, hrest, hsort, hbefore, -⟩ := sort_cons_split rank a rest
  have hmem : ∀ c, c ∈ rest ↔ c ∈ before ∨ c ∈ after := by
    intro c
    rw [← mem_sort_upTo rank, hrest, List.mem_append]
  refine ⟨before.filterMap view, after.filterMap view, ?_, ?_, ?_⟩
  · rw [hsort, List.filterMap_append, List.filterMap_cons_some hview]
  · intro d hd
    obtain ⟨c, hc, hcd⟩ := List.mem_filterMap.mp hd
    have hle := hleast c ((hmem c).mpr (.inl hc)) d hcd
    rcases Prod.Lex.toLex_le_toLex.mp hle with hlt | ⟨-, hrank⟩
    · exact hlt
    · exact absurd hrank (not_le.mpr (hbefore c hc))
  · intro d hd
    obtain ⟨c, hc, hcd⟩ := List.mem_filterMap.mp hd
    have hle := hleast c ((hmem c).mpr (.inr hc)) d hcd
    rcases Prod.Lex.toLex_le_toLex.mp hle with hlt | ⟨heq, -⟩
    · exact le_of_lt hlt
    · exact le_of_eq heq

/-! ## Exchanges of equals -/

end Keys

section Swaps

variable {α ρ : Type}

/-- Two lists that differ by one exchange of neighbours of equal rank. -/
inductive Swapped (rank : α → ρ) : List α → List α → Prop
  | here {a b : α} {rest : List α} (h : rank a = rank b) :
    Swapped rank (a :: b :: rest) (b :: a :: rest)
  | there {a : α} {items others : List α} (h : Swapped rank items others) :
    Swapped rank (a :: items) (a :: others)

/-- Where the exchange is. -/
theorem Swapped.split {rank : α → ρ} {items others : List α} (h : Swapped rank items others) :
    ∃ before a b after, items = before ++ a :: b :: after ∧ others = before ++ b :: a :: after ∧
      rank a = rank b := by
  induction h with
  | here h => exact ⟨[], _, _, _, rfl, rfl, h⟩
  | there _ ih =>
    obtain ⟨before, a, b, after, rfl, rfl, h⟩ := ih
    exact ⟨_ :: before, a, b, after, rfl, rfl, h⟩

theorem Swapped.perm {rank : α → ρ} {items others : List α} (h : Swapped rank items others) :
    items.Perm others := by
  obtain ⟨before, a, b, after, rfl, rfl, -⟩ := h.split
  exact (List.Perm.swap b a after).append_left before

/-- An exchange of equals does not show in the ranks. -/
theorem Swapped.map_eq {rank : α → ρ} {items others : List α} (h : Swapped rank items others) :
    items.map rank = others.map rank := by
  obtain ⟨before, a, b, after, rfl, rfl, hab⟩ := h.split
  simp [hab]

variable [LinearOrder ρ]

/-- An exchange stays one when an item is inserted: the item cannot come between equals. -/
theorem Swapped.insertInto {rank : α → ρ} {items others : List α} (h : Swapped rank items others)
    (c : α) : Swapped rank (insertInto (upTo rank) c items) (insertInto (upTo rank) c others) := by
  induction h with
  | @here a b rest h =>
    by_cases hca : rank c ≤ rank a
    · rw [insertInto_of_le hca, insertInto_of_le (h ▸ hca)]
      exact .there (.here h)
    · have hcb : ¬ rank c ≤ rank b := h ▸ hca
      rw [insertInto_of_not_le hca, insertInto_of_not_le hcb, insertInto_of_not_le hcb,
        insertInto_of_not_le hca]
      exact .here h
  | @there a items others h ih =>
    by_cases hca : rank c ≤ rank a
    · rw [insertInto_of_le hca, insertInto_of_le hca]
      exact .there (.there h)
    · rw [insertInto_of_not_le hca, insertInto_of_not_le hca]
      exact .there ih

/-- Two items in front of a list that both may precede: they come in the order of their ranks, and in the
    order of insertion if those are equal. -/
theorem insertInto_pair {rank : α → ρ} {a b : α} {rest : List α}
    (ha : insertInto (upTo rank) a rest = a :: rest) (hb : insertInto (upTo rank) b rest = b :: rest) :
    insertInto (upTo rank) a (b :: rest) = insertInto (upTo rank) b (a :: rest) ∨
      Swapped rank (insertInto (upTo rank) a (b :: rest)) (insertInto (upTo rank) b (a :: rest)) := by
  rcases lt_trichotomy (rank a) (rank b) with h | h | h
  · left
    rw [insertInto_of_le (le_of_lt h), insertInto_of_not_le (not_le.mpr h), hb]
  · right
    rw [insertInto_of_le (le_of_eq h), insertInto_of_le (le_of_eq h.symm)]
    exact .here h
  · left
    rw [insertInto_of_not_le (not_le.mpr h), insertInto_of_le (le_of_lt h), ha]

/-- Two items inserted in either order: it makes no difference, or that of one exchange. -/
theorem insertInto_comm (rank : α → ρ) (a b : α) : ∀ items : List α,
    insertInto (upTo rank) a (insertInto (upTo rank) b items)
        = insertInto (upTo rank) b (insertInto (upTo rank) a items) ∨
      Swapped rank (insertInto (upTo rank) a (insertInto (upTo rank) b items))
        (insertInto (upTo rank) b (insertInto (upTo rank) a items))
  | [] => insertInto_pair rfl rfl
  | c :: rest => by
    by_cases ha : rank a ≤ rank c <;> by_cases hb : rank b ≤ rank c
    -- only where both stop in front of `c`, or both go past it, can they be equals
    · rw [insertInto_of_le ha, insertInto_of_le hb]
      exact insertInto_pair (insertInto_of_le ha rest) (insertInto_of_le hb rest)
    · have hba : ¬ rank b ≤ rank a := fun h => hb (le_trans h ha)
      left
      rw [insertInto_of_not_le hb, insertInto_of_le ha, insertInto_of_le ha, insertInto_of_not_le hba,
        insertInto_of_not_le hb]
    · have hab : ¬ rank a ≤ rank b := fun h => ha (le_trans h hb)
      left
      rw [insertInto_of_le hb, insertInto_of_not_le ha, insertInto_of_not_le hab,
        insertInto_of_not_le ha, insertInto_of_le hb]
    · rw [insertInto_of_not_le hb, insertInto_of_not_le ha, insertInto_of_not_le ha,
        insertInto_of_not_le hb]
      rcases insertInto_comm rank a b rest with he | hs
      · left; rw [he]
      · right; exact .there hs

/-- **What sorting leaves of the input's order**: permutations sort to lists that differ by exchanges of
    neighbours of equal rank. -/
theorem sort_swaps (rank : α → ρ) {items others : List α} (h : items.Perm others) :
    Relation.ReflTransGen (Swapped rank) (sort (upTo rank) items)
      (sort (upTo rank) others) := by
  induction h with
  | nil => exact .refl
  | cons a _ ih =>
    -- an exchange further back stays one when `a` is put in
    exact ih.lift _ fun _ _ hs => hs.insertInto a
  | swap a b rest =>
    rcases insertInto_comm rank b a
        (sort (upTo rank) rest) with he | hs
    · show Relation.ReflTransGen _ (insertInto _ b (insertInto _ a _)) _
      rw [he]
      exact .refl
    · exact .single hs
  | trans _ _ ih₁ ih₂ => exact ih₁.trans ih₂

end Swaps

end DriveAdvisory.Order
