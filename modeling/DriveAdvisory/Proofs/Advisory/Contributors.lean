/-
  Who contributed, and what they said.

  An advisory names the skills behind it and joins their reasons, each once.  The two lists are made by one walk
  along the ordered proposals that keeps first occurrences, of names in one case and of trimmed reasons in the
  other.  Both are described without the walk and without the sort: every proposal has a `place` (its rank, its
  skill, and where it stands in the input), and a text stands in the list where the least place of those who show
  it stands among the others (`firstOccurrences_places`).

  For that the proposals are sorted together with their positions in the input.  Positions increase along the
  input, so a stable sort puts the places in strictly increasing order (`placed_pairwise`), and along such a list
  the first occurrence of a text is the least place that shows it.

  For names the position hardly counts, since proposals of one rank and one name show the same name, and the least
  arrival decides.  For reasons it does count: two runs of one skill may give two reasons.
-/
import DriveAdvisory.Proofs.Advisory.Redundancy
import Mathlib.Order.Bounds.Basic

namespace DriveAdvisory.Merge

/-! ## First occurrences -/

/-- What is kept is everything that was not met before. -/
theorem mem_firstOccurrences_iff {r : String} : ∀ {texts seen : List String},
    r ∈ firstOccurrences seen texts ↔ r ∈ texts ∧ r ∉ seen
  | [], _ => by simp [firstOccurrences]
  | t :: texts, seen => by
    by_cases ht : t ∈ seen
    · rw [firstOccurrences_of_mem ht, mem_firstOccurrences_iff, List.mem_cons]
      constructor
      · rintro ⟨hr, hseen⟩
        exact ⟨.inr hr, hseen⟩
      · rintro ⟨rfl | hr, hseen⟩
        · exact absurd ht hseen
        · exact ⟨hr, hseen⟩
    · rw [firstOccurrences_of_not_mem ht, List.mem_cons, mem_firstOccurrences_iff, List.mem_cons,
        List.mem_cons, not_or]
      constructor
      · rintro (rfl | ⟨hr, -, hseen⟩)
        · exact ⟨.inl rfl, ht⟩
        · exact ⟨.inr hr, hseen⟩
      · rintro ⟨rfl | hr, hseen⟩
        · exact .inl rfl
        · by_cases hrt : r = t
          · exact .inl hrt
          · exact .inr ⟨hr, hrt, hseen⟩

theorem nodup_firstOccurrences : ∀ texts seen : List String, (firstOccurrences seen texts).Nodup
  | [], _ => List.nodup_nil
  | t :: texts, seen => by
    by_cases ht : t ∈ seen
    · rw [firstOccurrences_of_mem ht]
      exact nodup_firstOccurrences texts seen
    · rw [firstOccurrences_of_not_mem ht, List.nodup_cons]
      refine ⟨?_, nodup_firstOccurrences texts (t :: seen)⟩
      intro h
      exact (mem_firstOccurrences_iff.mp h).2 List.mem_cons_self

/-! ## Marks -/

section Marks

variable {κ : Type} [LinearOrder κ] {r s t : String} {k l : κ}

/-- The marks that a text has. -/
def marksOf (marks : List (String × κ)) (text : String) : Set κ := {k | (text, k) ∈ marks}

/-- A mark in front of the others is the least one of its text. -/
theorem isLeast_marksOf_head {marks : List (String × κ)} (h : ∀ m ∈ marks, k < m.2) :
    IsLeast (marksOf ((t, k) :: marks) t) k := by
  refine ⟨List.mem_cons_self, ?_⟩
  intro l hl
  rcases List.mem_cons.mp hl with he | hl
  · exact le_of_eq (Prod.mk.inj he).2.symm
  · exact le_of_lt (h (t, l) hl)

omit [LinearOrder κ] in
/-- And it does not count for another text. -/
theorem marksOf_cons_of_ne {marks : List (String × κ)} (h : r ≠ t) :
    marksOf ((t, k) :: marks) r = marksOf marks r := by
  ext l
  show (r, l) ∈ (t, k) :: marks ↔ (r, l) ∈ marks
  simp only [List.mem_cons, Prod.mk.injEq, h, false_and, false_or]

/-- Where the marks increase, every text that occurs has a least one. -/
theorem exists_isLeast_marksOf : ∀ {marks : List (String × κ)},
    (marks.Pairwise fun m n => m.2 < n.2) → r ∈ marks.map Prod.fst → ∃ k, IsLeast (marksOf marks r) k
  | [], _, h => absurd h List.not_mem_nil
  | (t, k) :: marks, hmarks, h => by
    obtain ⟨hhead, htail⟩ := List.pairwise_cons.mp hmarks
    by_cases hrt : r = t
    · subst hrt
      exact ⟨k, isLeast_marksOf_head hhead⟩
    · have hr : r ∈ marks.map Prod.fst := (List.mem_cons.mp h).resolve_left hrt
      rw [marksOf_cons_of_ne hrt]
      exact exists_isLeast_marksOf htail hr

/-- **First occurrences come in the order of their least marks**, where the marks increase. -/
theorem firstOccurrences_pairwise : ∀ {marks : List (String × κ)} {seen : List String},
    (marks.Pairwise fun m n => m.2 < n.2) →
    (firstOccurrences seen (marks.map Prod.fst)).Pairwise fun r s =>
      ∃ k l, IsLeast (marksOf marks r) k ∧ IsLeast (marksOf marks s) l ∧ k < l
  | [], _, _ => List.Pairwise.nil
  | (t, k) :: marks, seen, hmarks => by
    obtain ⟨hhead, htail⟩ := List.pairwise_cons.mp hmarks
    -- what is said of texts other than `t` is said of the marks behind it
    have hlift (seen' : List String) (ht : t ∈ seen') :
        (firstOccurrences seen' (marks.map Prod.fst)).Pairwise fun r s => ∃ k' l,
          IsLeast (marksOf ((t, k) :: marks) r) k' ∧ IsLeast (marksOf ((t, k) :: marks) s) l ∧
            k' < l := by
      refine (firstOccurrences_pairwise htail).imp_of_mem ?_
      intro r s hr hs h
      have hne : ∀ u ∈ firstOccurrences seen' (marks.map Prod.fst), u ≠ t := fun u hu he =>
        (mem_firstOccurrences_iff.mp hu).2 (he ▸ ht)
      rw [marksOf_cons_of_ne (hne r hr), marksOf_cons_of_ne (hne s hs)]
      exact h
    rw [List.map_cons]
    by_cases ht : t ∈ seen
    · rw [firstOccurrences_of_mem ht]
      exact hlift seen ht
    · rw [firstOccurrences_of_not_mem ht]
      refine List.pairwise_cons.mpr ⟨?_, hlift (t :: seen) List.mem_cons_self⟩
      intro s hs
      obtain ⟨hin, hnew⟩ := mem_firstOccurrences_iff.mp hs
      have hst : s ≠ t := fun he => hnew (he ▸ List.mem_cons_self)
      obtain ⟨l, hl⟩ := exists_isLeast_marksOf htail hin
      refine ⟨k, l, isLeast_marksOf_head hhead, ?_, hhead (s, l) hl.1⟩
      rw [marksOf_cons_of_ne hst]
      exact hl

end Marks

/-! ## Places -/

variable {proposals : List Proposal} {p : Proposal}

/-- A rank, a skill, and a position in the input. -/
abbrev Place : Type := (Nat ×ₗ String) ×ₗ Nat

/-- The place of a proposal at a position. -/
def place (x : Proposal × Nat) : Place := toLex (arrivalKey x.1, x.2)

/-- The places of the proposals that show a text. -/
def placesOf (view : Proposal → Option String) (proposals : List Proposal) (text : String) :
    Set Place :=
  {k | ∃ i p, proposals[i]? = some p ∧ view p = some text ∧ place (p, i) = k}

/-- The proposals with their positions in the input, in the order of arrival. -/
def placed (proposals : List Proposal) : List (Proposal × Nat) :=
  Order.sort (Order.upTo (arrivalKey ∘ Prod.fst)) proposals.zipIdx

theorem map_placed (proposals : List Proposal) : (placed proposals).map Prod.fst = ordered proposals := by
  rw [placed, Order.sort_map, ordered_eq, List.zipIdx_map_fst]

theorem mem_placed {x : Proposal × Nat} : x ∈ placed proposals ↔ proposals[x.2]? = some x.1 := by
  rw [placed, Order.mem_sort, List.mem_zipIdx_iff_getElem?]

/-- **The places increase** along the ordered proposals. -/
theorem placed_pairwise (proposals : List Proposal) :
    (placed proposals).Pairwise fun x y => place x < place y := by
  have hpositions : proposals.zipIdx.Pairwise fun x y => x.2 < y.2 := by
    rw [← List.pairwise_map, List.zipIdx_map_snd]
    exact List.pairwise_lt_range'
  refine (Order.sort_stable (arrivalKey ∘ Prod.fst) hpositions).imp ?_
  intro x y h
  exact Prod.Lex.toLex_lt_toLex.mpr h

/-- The texts that a view shows of the ordered proposals, with their places. -/
def shown (view : Proposal → Option String) (proposals : List Proposal) : List (String × Place) :=
  (placed proposals).filterMap fun x => (view x.1).map (·, place x)

theorem map_shown (view : Proposal → Option String) (proposals : List Proposal) :
    (shown view proposals).map Prod.fst = (ordered proposals).filterMap view := by
  rw [shown, List.map_filterMap, ← map_placed, List.filterMap_map]
  congr 1
  funext x
  rw [Function.comp_apply]
  cases view x.1 <;> rfl

theorem shown_pairwise (view : Proposal → Option String) (proposals : List Proposal) :
    (shown view proposals).Pairwise fun m n => m.2 < n.2 := by
  refine List.pairwise_filterMap.mpr ((placed_pairwise proposals).imp ?_)
  intro x y h m hm n hn
  obtain ⟨-, -, rfl⟩ := Option.map_eq_some_iff.mp hm
  obtain ⟨-, -, rfl⟩ := Option.map_eq_some_iff.mp hn
  exact h

theorem marksOf_shown (view : Proposal → Option String) (proposals : List Proposal) (text : String) :
    marksOf (shown view proposals) text = placesOf view proposals text := by
  ext k
  constructor
  · intro h
    obtain ⟨x, hx, he⟩ := List.mem_filterMap.mp h
    obtain ⟨u, hu, hmark⟩ := Option.map_eq_some_iff.mp he
    obtain ⟨rfl, hplace⟩ := Prod.mk.inj hmark
    exact ⟨x.2, x.1, mem_placed.mp hx, hu, hplace⟩
  · rintro ⟨i, p, hp, hview, rfl⟩
    refine List.mem_filterMap.mpr ⟨(p, i), mem_placed.mpr hp, ?_⟩
    simp [hview]

/-- **What is kept of a view** are the texts that it shows, each once, in the order of their least places. -/
theorem firstOccurrences_places (view : Proposal → Option String) (proposals : List Proposal) :
    (firstOccurrences [] ((ordered proposals).filterMap view)).Pairwise fun r s =>
      ∃ k l, IsLeast (placesOf view proposals r) k ∧ IsLeast (placesOf view proposals s) l ∧
        k < l := by
  rw [← map_shown]
  simpa only [marksOf_shown] using firstOccurrences_pairwise (shown_pairwise view proposals)

theorem mem_firstOccurrences_view {view : Proposal → Option String} {text : String} :
    text ∈ firstOccurrences [] ((ordered proposals).filterMap view) ↔
      ∃ p ∈ proposals, view p = some text := by
  rw [mem_firstOccurrences_iff, List.mem_filterMap]
  simp only [ordered, Order.mem_sort, List.not_mem_nil, not_false_eq_true, and_true]

/-! ## The books -/

theorem contributor_eq_some_iff {name : String} :
    contributor p = some name ↔ p.isEmpty = false ∧ p.skill = name := by
  unfold contributor
  cases p.isEmpty <;> simp

theorem trimmed?_eq_some_iff {text inner : String} :
    Text.trimmed? text = some inner ↔ Text.trim text = inner ∧ inner ≠ "" := by
  unfold Text.trimmed?
  by_cases h : Text.trim text = ""
  · simp only [h, if_pos, reduceCtorEq, false_iff, not_and, not_not]
    exact fun he => he.symm
  · simp only [h, if_neg, not_false_eq_true, Option.some.injEq]
    constructor
    · rintro rfl
      exact ⟨rfl, h⟩
    · exact And.left

theorem voice_eq_some_iff {text : String} :
    voice p = some text ↔ p.isEmpty = false ∧ Text.trim p.reason = text ∧ text ≠ "" := by
  unfold voice
  cases p.isEmpty <;> simp [trimmed?_eq_some_iff]

/-- The arrivals of the contributors of a name. -/
def arrivalsOf (proposals : List Proposal) (name : String) : Set (Nat ×ₗ String) :=
  {k | ∃ p ∈ proposals, p.isEmpty = false ∧ p.skill = name ∧ arrivalKey p = k}

/-- A least place of a name has its least arrival. -/
theorem isLeast_arrivalsOf {name : String} {k : Place}
    (h : IsLeast (placesOf contributor proposals name) k) :
    IsLeast (arrivalsOf proposals name) (ofLex k).1 := by
  obtain ⟨⟨i, p, hp, hname, rfl⟩, hleast⟩ := h
  obtain ⟨hspeaks, hskill⟩ := contributor_eq_some_iff.mp hname
  refine ⟨⟨p, List.mem_of_getElem? hp, hspeaks, hskill, rfl⟩, ?_⟩
  rintro l ⟨q, hq, hqspeaks, hqskill, rfl⟩
  obtain ⟨j, hj⟩ := List.mem_iff_getElem?.mp hq
  have hle := hleast ⟨j, q, hj, contributor_eq_some_iff.mpr ⟨hqspeaks, hqskill⟩, rfl⟩
  rcases Prod.Lex.toLex_le_toLex.mp hle with hlt | ⟨heq, -⟩
  · exact le_of_lt hlt
  · exact le_of_eq heq

/-- The names come in the order of their least arrivals. -/
theorem skills_pairwise (proposals : List Proposal) :
    (skills (ordered proposals)).Pairwise fun a b => ∃ k l, IsLeast (arrivalsOf proposals a) k ∧
      IsLeast (arrivalsOf proposals b) l ∧ k < l := by
  rw [skills_eq]
  have hnodup := nodup_firstOccurrences ((ordered proposals).filterMap contributor) []
  refine (hnodup.and (firstOccurrences_places contributor proposals)).imp ?_
  rintro a b ⟨hne, k, l, hk, hl, hlt⟩
  have hfirst := isLeast_arrivalsOf hk
  have hsecond := isLeast_arrivalsOf hl
  refine ⟨_, _, hfirst, hsecond, ?_⟩
  rcases Prod.Lex.lt_iff.mp hlt with h | ⟨heq, -⟩
  · exact h
  · -- of one arrival there is only one name
    obtain ⟨p, -, -, rfl, hp⟩ := hfirst.1
    obtain ⟨q, -, -, rfl, hq⟩ := hsecond.1
    have hkey : arrivalKey p = arrivalKey q := hp.trans (heq.trans hq.symm)
    exact absurd (Prod.mk.inj (toLex.injective hkey)).2 hne

/-- **What an advisory owes to those who contributed.** -/
structure Booked (proposals : List Proposal) (merged : Advisory) : Prop where
  /-- No skill is named twice. -/
  skills_nodup : merged.skills.Nodup
  /-- Exactly those are named that spoke about an axis. -/
  mem_skills_iff : ∀ name, name ∈ merged.skills ↔
    ∃ p ∈ proposals, p.isEmpty = false ∧ p.skill = name
  /-- A skill comes where its least rank puts it, names telling equal ranks apart. -/
  skills_order : merged.skills.Pairwise fun a b => ∃ k l, IsLeast (arrivalsOf proposals a) k ∧
    IsLeast (arrivalsOf proposals b) l ∧ k < l
  /-- The reason is made of the trimmed reasons of those that spoke about an axis and have one, each once, where
      the first of those who give it stands. -/
  reason : ∃ parts, merged.reason = Text.join "; " parts ∧ parts.Nodup ∧
    (∀ text, text ∈ parts ↔
      text ≠ "" ∧ ∃ p ∈ proposals, p.isEmpty = false ∧ Text.trim p.reason = text) ∧
    parts.Pairwise fun r s => ∃ k l, IsLeast (placesOf voice proposals r) k ∧
      IsLeast (placesOf voice proposals s) l ∧ k < l

theorem booked_merge (policy : MergePolicy) (proposals : List Proposal) :
    Booked proposals (merge policy proposals) where
  skills_nodup := by
    show (skills (ordered proposals)).Nodup
    rw [skills_eq]
    exact nodup_firstOccurrences _ []
  mem_skills_iff name := by
    show name ∈ skills (ordered proposals) ↔ _
    rw [skills_eq, mem_firstOccurrences_view]
    simp only [contributor_eq_some_iff]
  skills_order := skills_pairwise proposals
  reason := by
    refine ⟨reasons (ordered proposals), rfl, ?_, ?_, ?_⟩
    · rw [reasons_eq]
      exact nodup_firstOccurrences _ []
    · intro text
      rw [reasons_eq, mem_firstOccurrences_view]
      simp only [voice_eq_some_iff]
      constructor
      · rintro ⟨p, hp, hspeaks, htext, hne⟩
        exact ⟨hne, p, hp, hspeaks, htext⟩
      · rintro ⟨hne, p, hp, hspeaks, htext⟩
        exact ⟨p, hp, hspeaks, htext, hne⟩
    · rw [reasons_eq]
      exact firstOccurrences_places voice proposals

/-- **The books are right**, and whoever speaks about no axis does not show in them, nor anywhere else. -/
theorem merge_booked (policy : MergePolicy) (proposals : List Proposal) :
    Booked proposals (merge policy proposals) ∧
      merge policy (contributors proposals) = merge policy proposals :=
  ⟨booked_merge policy proposals, merge_contributors policy proposals⟩

end DriveAdvisory.Merge
