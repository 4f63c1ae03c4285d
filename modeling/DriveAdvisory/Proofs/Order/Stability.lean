/-
  What a stable sort does to items that hardly matter.

  Sorting takes an item from its place in the input to a place in the output, and everything else keeps its
  order.  `sort_middle` says where that place is seen from the others: whatever stood in front of the item and
  does not rank above it stands in front of it afterwards.  An item that repeats an earlier one therefore stands
  behind that one in the output, and what looks for first occurrences or for the first least item does not notice
  it (`Echoed`).

  The other direction is `sort_stable`: whatever relation the input keeps from front to back is kept by the output
  among items of equal rank.  With the relation "stands further back in the input" this is the order in which
  equals come.

  Leaving items out before sorting or after it is the same (`sort_filter`).  So the items of one rank stand in the
  output as they stood in the input (`sort_level`), and leaving out all that ranks above some point leaves a front
  part of the output (`filter_prefix`).
-/
import DriveAdvisory.Proofs.Order.Selection

namespace DriveAdvisory.Order

section Sorted

variable {α β ρ : Type} [LinearOrder ρ] {rank : α → ρ} {a : α}

/-! ## Taking an item out -/

/-- An item stays in front of everything that does not rank below it. -/
theorem insertInto_append_of_le {rest : List α} : ∀ before : List α,
    (∀ b ∈ rest, rank a ≤ rank b) →
    insertInto (upTo rank) a (before ++ rest) = insertInto (upTo rank) a before ++ rest
  | [], h => by
    cases rest with
    | nil => rfl
    | cons b rest => exact insertInto_of_le (h b List.mem_cons_self) rest
  | b :: before, h => by
    by_cases hab : rank a ≤ rank b
    · rw [List.cons_append, insertInto_of_le hab, insertInto_of_le hab, List.cons_append,
        List.cons_append]
    · rw [List.cons_append, insertInto_of_not_le hab, insertInto_of_not_le hab,
        insertInto_append_of_le before h, List.cons_append]

/-- **Where an item of the input comes to stand**: behind everything that stood in front of it and does not rank
    above it.  Nothing else moves when it is taken out. -/
theorem sort_middle (rank : α → ρ) (a : α) (back : List α) : ∀ front : List α,
    ∃ before after, sort (upTo rank) (front ++ back) = before ++ after ∧
      sort (upTo rank) (front ++ a :: back) = before ++ a :: after ∧
      ∀ b ∈ front, rank b ≤ rank a → b ∈ before
  | [] => by
    obtain ⟨before, after, hrest, hsort, -⟩ := sort_cons_split rank a back
    exact ⟨before, after, hrest, hsort, by simp⟩
  | c :: front => by
    obtain ⟨before, after, hrest, hsort, hfront⟩ := sort_middle rank a back front
    have hsorted := sort_pairwise rank (front ++ a :: back)
    rw [hsort] at hsorted
    obtain ⟨-, htail, hcross⟩ := List.pairwise_append.mp hsorted
    have hafter := (List.pairwise_cons.mp htail).1
    by_cases hca : rank c ≤ rank a
    · -- `c` goes in front of `a`, and so into the part before it
      have hins (rest : List α) (h : ∀ b ∈ rest, rank c ≤ rank b) :
          insertInto (upTo rank) c (before ++ rest) = insertInto (upTo rank) c before ++ rest :=
        insertInto_append_of_le before h
      have hle : ∀ b ∈ after, rank c ≤ rank b := fun b hb => le_trans hca (hafter b hb)
      have hmem : ∀ b, b ∈ insertInto (upTo rank) c before ↔ b = c ∨ b ∈ before := fun b =>
        (insertInto_perm _ c before).mem_iff.trans List.mem_cons
      refine ⟨insertInto (upTo rank) c before, after, ?_, ?_, ?_⟩
      · show insertInto _ c (sort _ (front ++ back)) = _
        rw [hrest, hins after hle]
      · show insertInto _ c (sort _ (front ++ a :: back)) = _
        rw [hsort, hins (a :: after)]
        intro b hb
        rcases List.mem_cons.mp hb with rfl | hb
        · exact hca
        · exact hle b hb
      · intro b hb hba
        rcases List.mem_cons.mp hb with rfl | hb
        · exact (hmem b).mpr (.inl rfl)
        · exact (hmem b).mpr (.inr (hfront b hb hba))
    · -- `c` goes past `a`, and past everything in front of it
      have hpast : ∀ b ∈ before, rank b < rank c := fun b hb =>
        lt_of_le_of_lt (hcross b hb a List.mem_cons_self) (not_le.mp hca)
      refine ⟨before, insertInto (upTo rank) c after, ?_, ?_, ?_⟩
      · show insertInto _ c (sort _ (front ++ back)) = _
        rw [hrest, insertInto_append after before hpast]
      · show insertInto _ c (sort _ (front ++ a :: back)) = _
        rw [hsort, insertInto_append (a :: after) before hpast, insertInto_of_not_le hca]
      · intro b hb hba
        rcases List.mem_cons.mp hb with rfl | hb
        · exact absurd hba hca
        · exact hfront b hb hba

/-! ## Equals keep their order -/

theorem insertInto_map (f : β → α) (b : β) : ∀ items : List β,
    (insertInto (upTo (rank ∘ f)) b items).map f = insertInto (upTo rank) (f b) (items.map f)
  | [] => rfl
  | c :: items => by
    by_cases h : (rank ∘ f) b ≤ (rank ∘ f) c
    · rw [insertInto_of_le h]
      exact (insertInto_of_le (show rank (f b) ≤ rank (f c) from h) (items.map f)).symm
    · rw [insertInto_of_not_le h, List.map_cons, insertInto_map f b items]
      exact (insertInto_of_not_le (show ¬ rank (f b) ≤ rank (f c) from h) (items.map f)).symm

/-- To sort by the rank of what a function makes of the items is to apply the function first. -/
theorem sort_map (f : β → α) : ∀ items : List β,
    (sort (upTo (rank ∘ f)) items).map f = sort (upTo rank) (items.map f)
  | [] => rfl
  | b :: items => by
    show (insertInto _ b (sort _ items)).map f = insertInto _ (f b) (sort _ (items.map f))
    rw [insertInto_map, sort_map f items]

/-- **Equals keep their order**: what holds from front to back in the input holds from front to back in the
    output among items of equal rank. -/
theorem sort_stable (rank : α → ρ) {kept : α → α → Prop} : ∀ {items : List α},
    items.Pairwise kept →
    (sort (upTo rank) items).Pairwise fun a b => rank a < rank b ∨ rank a = rank b ∧ kept a b
  | [], _ => List.Pairwise.nil
  | a :: items, h => by
    obtain ⟨ha, hitems⟩ := List.pairwise_cons.mp h
    obtain ⟨before, after, hrest, hsort, hbefore, hafter⟩ := sort_cons_split rank a items
    have hold := sort_stable rank hitems
    rw [hrest] at hold
    obtain ⟨hfirst, hlast, hcross⟩ := List.pairwise_append.mp hold
    have hkept : ∀ b ∈ after, kept a b := fun b hb =>
      ha b ((mem_sort_upTo rank).mp (hrest ▸ List.mem_append_right before hb))
    rw [hsort]
    refine List.pairwise_append.mpr ⟨hfirst, List.pairwise_cons.mpr ⟨?_, hlast⟩, ?_⟩
    · intro b hb
      rcases lt_or_eq_of_le (hafter b hb) with hlt | heq
      · exact .inl hlt
      · exact .inr ⟨heq, hkept b hb⟩
    · intro b hb c hc
      rcases List.mem_cons.mp hc with rfl | hc
      · exact .inl (hbefore b hb)
      · exact hcross b hb c hc

/-! ## Leaving items out -/

/-- An item goes to the front of what does not rank below it. -/
theorem insertInto_front {rest : List α} (h : ∀ b ∈ rest, rank a ≤ rank b) :
    insertInto (upTo rank) a rest = a :: rest := insertInto_append_of_le [] h

/-- What is in order already stays as it is. -/
theorem sort_eq_self (rank : α → ρ) : ∀ {items : List α},
    (items.Pairwise fun a b => rank a ≤ rank b) → sort (upTo rank) items = items
  | [], _ => rfl
  | a :: items, h => by
    obtain ⟨ha, hitems⟩ := List.pairwise_cons.mp h
    show insertInto _ a (sort _ items) = _
    rw [sort_eq_self rank hitems, insertInto_front ha]

/-- **Leaving items out** before sorting or after it is the same. -/
theorem sort_filter (rank : α → ρ) (p : α → Bool) : ∀ items : List α,
    sort (upTo rank) (items.filter p) = (sort (upTo rank) items).filter p
  | [] => rfl
  | a :: items => by
    obtain ⟨before, after, hrest, hsort, hbefore, hafter⟩ := sort_cons_split rank a items
    have hleft := sort_filter rank p items
    rw [hrest, List.filter_append] at hleft
    rw [hsort, List.filter_append]
    by_cases ha : p a = true
    · have hfirst : ∀ b ∈ before.filter p, rank b < rank a := fun b hb =>
        hbefore b (List.mem_filter.mp hb).1
      have hlast : ∀ b ∈ after.filter p, rank a ≤ rank b := fun b hb =>
        hafter b (List.mem_filter.mp hb).1
      rw [List.filter_cons_of_pos ha, List.filter_cons_of_pos ha]
      show insertInto _ a (sort _ (items.filter p)) = _
      rw [hleft, insertInto_append _ _ hfirst, insertInto_front hlast]
    · rw [List.filter_cons_of_neg ha, List.filter_cons_of_neg ha, hleft]

/-- The items of one rank stand as they stood. -/
theorem sort_level {p : α → Bool} {items : List α}
    (h : ∀ a ∈ items.filter p, ∀ b ∈ items.filter p, rank a = rank b) :
    (sort (upTo rank) items).filter p = items.filter p := by
  have hlevel : (items.filter p).Pairwise fun a b => rank a ≤ rank b :=
    List.pairwise_of_forall_mem_list fun a ha b hb => le_of_eq (h a ha b hb)
  rw [← sort_filter, sort_eq_self rank hlevel]

end Sorted

/-- Where nothing that is left in stands behind something that is left out, what is left in is the front part. -/
theorem filter_prefix {α : Type} {p : α → Bool} : ∀ {items : List α},
    (items.Pairwise fun a b => p b = true → p a = true) → items.filter p <+: items
  | [], _ => List.prefix_refl []
  | a :: items, h => by
    obtain ⟨ha, hitems⟩ := List.pairwise_cons.mp h
    by_cases hp : p a = true
    · rw [List.filter_cons_of_pos hp, List.prefix_cons_inj]
      exact filter_prefix hitems
    · have hnone : items.filter p = [] :=
        List.filter_eq_nil_iff.mpr fun b hb hpb => hp (ha b hb hpb)
      rw [List.filter_cons_of_neg hp, hnone]
      exact List.nil_prefix

/-! ## Echoes -/

section Echoes

variable {α β κ : Type} [LinearOrder κ] {items others : List α}

/-- The second list is the first one, or it has one more item, somewhere behind an equal one. -/
inductive Echoed : List α → List α → Prop
  | same {items : List α} : Echoed items items
  | again {front back : List α} {a : α} (h : a ∈ front) : Echoed (front ++ back) (front ++ a :: back)

/-- An echo is still one in what is seen of the items. -/
theorem Echoed.filterMap (view : α → Option β) (h : Echoed items others) :
    Echoed (items.filterMap view) (others.filterMap view) := by
  cases h with
  | same => exact .same
  | @again front back a ha =>
    rw [List.filterMap_append, List.filterMap_append]
    cases hview : view a with
    | none =>
      rw [List.filterMap_cons_none hview]
      exact .same
    | some b =>
      rw [List.filterMap_cons_some hview]
      exact .again (List.mem_filterMap.mpr ⟨a, ha, hview⟩)

theorem Echoed.map (f : α → β) (h : Echoed items others) : Echoed (items.map f) (others.map f) := by
  have hsome := h.filterMap fun a => some (f a)
  rwa [List.filterMap_eq_map'] at hsome

theorem Echoed.mem_iff {a : α} (h : Echoed items others) : a ∈ others ↔ a ∈ items := by
  cases h with
  | same => exact Iff.rfl
  | @again front back b hb =>
    simp only [List.mem_append, List.mem_cons]
    constructor
    · rintro (ha | rfl | ha)
      · exact .inl ha
      · exact .inl hb
      · exact .inr ha
    · rintro (ha | ha)
      · exact .inl ha
      · exact .inr (.inr ha)

/-- An echo is not the first of the least. -/
theorem Echoed.least? {key : α → κ} (h : Echoed items others) :
    least? (below key) others = least? (below key) items := by
  cases h with
  | same => rfl
  | @again front back a ha =>
    cases front with
    | nil => nomatch ha
    | cons b front =>
      -- the best of what is in front of the echo is not above the item that it repeats
      have hbest : IsFirstLeast key (b :: front) _ := least?_eq_some_iff.mp rfl
      have hkeep : ¬ below key a
          (front.foldl (fun best c => if below key c best then c else best) b) = true := by
        rw [decide_eq_true_iff]
        exact not_lt.mpr (hbest.le ha)
      simp only [List.cons_append, Order.least?, List.foldl_append, List.foldl_cons, if_neg hkeep]

end Echoes

end DriveAdvisory.Order
