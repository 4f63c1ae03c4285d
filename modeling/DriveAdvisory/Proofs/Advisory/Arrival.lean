/-
  How far the order of arrival matters.

  Proposals are put in the order of rank and skill before anything else is done with them, so their order
  of arrival is left to decide between proposals of ONE skill, made in one cycle.  It does decide in three
  places, and `Settled` names them:

  * the speed   winners that agree on all that is compared may still lie at different distances;
  * the lane    a tie that points one way has one text, that of the proposal that arrived first;
  * the reasons are joined in the order of arrival, and joining is not commutative.

  The alert and the list of skills are the same for every order.  `merge_perm_iff` says that these three are
  all there is: a list of proposals is merged to one advisory, however it is permuted, EXACTLY if it is
  settled.  Where every skill speaks once it is (`settled_of_nodup`).  One direction puts a winner to the front of the input, where it is picked; the other follows the
  exchanges of neighbours that two sorted permutations differ by.
-/
import DriveAdvisory.Proofs.Advisory.Precedence
import Mathlib.Data.List.Nodup

namespace DriveAdvisory

/-! ## Joined texts -/

namespace Text

variable {separator a b : String}

/-- What stands in front of a text in a joined list does not depend on the text. -/
theorem join_append (separator : String) : ∀ front : List String,
    ∃ start, ∀ text rest,
      join separator (front ++ text :: rest) = start ++ join separator (text :: rest)
  | [] => ⟨"", fun text rest => by simp⟩
  | head :: front => by
    obtain ⟨start, h⟩ := join_append separator front
    refine ⟨head ++ separator ++ start, ?_⟩
    intro text rest
    have hcons : join separator (head :: (front ++ text :: rest))
        = head ++ separator ++ join separator (front ++ text :: rest) := by
      cases front <;> rfl
    rw [List.cons_append, hcons, h]
    simp only [String.append_assoc]

/-- Nor does what stands behind it. -/
theorem join_cons (separator : String) (rest : List String) :
    ∃ tail, ∀ text, join separator (text :: rest) = text ++ tail := by
  cases rest with
  | nil => exact ⟨"", fun text => by simp [join]⟩
  | cons next rest =>
    exact ⟨separator ++ join separator (next :: rest), fun text => String.append_assoc⟩

/-- Two neighbours of a joined list can change places exactly if they commute. -/
theorem join_swap_iff (front rest : List String) :
    join separator (front ++ a :: b :: rest) = join separator (front ++ b :: a :: rest) ↔
      a ++ separator ++ b = b ++ separator ++ a := by
  obtain ⟨start, hstart⟩ := join_append separator front
  obtain ⟨tail, htail⟩ := join_cons separator rest
  have hpair (x y : String) :
      join separator (x :: y :: rest) = x ++ separator ++ y ++ tail := by
    show x ++ separator ++ join separator (y :: rest) = _
    rw [htail, ← String.append_assoc]
  rw [hstart, hstart, String.append_right_inj, hpair, hpair, String.append_left_inj]

end Text

namespace Merge

/-! ## First occurrences -/

variable {texts seen others front rest : List String} {r s : String}

theorem firstOccurrences_of_mem (h : r ∈ seen) :
    firstOccurrences seen (r :: rest) = firstOccurrences seen rest := by
  rw [firstOccurrences, if_pos (List.contains_iff_mem.mpr h)]

theorem firstOccurrences_of_not_mem (h : r ∉ seen) :
    firstOccurrences seen (r :: rest) = r :: firstOccurrences (r :: seen) rest := by
  rw [firstOccurrences, if_neg fun hc => h (List.contains_iff_mem.mp hc)]

/-- Of the texts that were met before it matters only which they are. -/
theorem firstOccurrences_congr : ∀ (texts : List String) {seen others : List String},
    (∀ t, t ∈ seen ↔ t ∈ others) → firstOccurrences seen texts = firstOccurrences others texts
  | [], _, _, _ => rfl
  | t :: texts, seen, others, h => by
    by_cases ht : t ∈ seen
    · rw [firstOccurrences_of_mem ht, firstOccurrences_of_mem ((h t).mp ht)]
      exact firstOccurrences_congr texts h
    · rw [firstOccurrences_of_not_mem ht, firstOccurrences_of_not_mem (mt (h t).mpr ht)]
      refine congrArg (t :: ·) (firstOccurrences_congr texts ?_)
      intro u
      simp only [List.mem_cons, h]

/-- What was gone through counts as met. -/
theorem firstOccurrences_append (rest : List String) : ∀ front seen : List String,
    firstOccurrences seen (front ++ rest)
      = firstOccurrences seen front ++ firstOccurrences (front ++ seen) rest
  | [], _ => rfl
  | t :: front, seen => by
    by_cases ht : t ∈ seen
    · rw [List.cons_append, firstOccurrences_of_mem ht, firstOccurrences_of_mem ht,
        firstOccurrences_append rest front seen]
      refine congrArg (firstOccurrences seen front ++ ·) (firstOccurrences_congr rest ?_)
      intro u
      simp only [List.cons_append, List.mem_cons, List.mem_append]
      constructor
      · exact Or.inr
      · rintro (rfl | hu)
        · exact .inr ht
        · exact hu
    · rw [List.cons_append, firstOccurrences_of_not_mem ht, firstOccurrences_of_not_mem ht,
        firstOccurrences_append rest front (t :: seen), List.cons_append]
      refine congrArg (t :: firstOccurrences (t :: seen) front ++ ·) (firstOccurrences_congr rest ?_)
      intro u
      simp only [List.cons_append, List.mem_cons, List.mem_append]
      exact or_left_comm

/-- Neighbours one of which was met before, or that are one text, can change places. -/
theorem firstOccurrences_swap (h : r ∈ seen ∨ s ∈ seen ∨ r = s) :
    firstOccurrences seen (r :: s :: rest) = firstOccurrences seen (s :: r :: rest) := by
  rcases h with h | h | rfl
  · rw [firstOccurrences_of_mem h]
    by_cases hs : s ∈ seen
    · rw [firstOccurrences_of_mem hs, firstOccurrences_of_mem hs, firstOccurrences_of_mem h]
    · rw [firstOccurrences_of_not_mem hs, firstOccurrences_of_not_mem hs,
        firstOccurrences_of_mem (List.mem_cons_of_mem s h)]
  · rw [firstOccurrences_of_mem h]
    by_cases hr : r ∈ seen
    · rw [firstOccurrences_of_mem hr, firstOccurrences_of_mem hr, firstOccurrences_of_mem h]
    · rw [firstOccurrences_of_not_mem hr, firstOccurrences_of_not_mem hr,
        firstOccurrences_of_mem (List.mem_cons_of_mem r h)]
  · rfl

/-- New neighbours are both kept, in their order, and what follows is the same for either order. -/
theorem firstOccurrences_pair (hr : r ∉ seen) (hs : s ∉ seen) (hne : r ≠ s) :
    firstOccurrences seen (r :: s :: rest) = r :: s :: firstOccurrences (r :: s :: seen) rest := by
  have hs' : s ∉ r :: seen := by
    rw [List.mem_cons, not_or]
    exact ⟨hne.symm, hs⟩
  rw [firstOccurrences_of_not_mem hr, firstOccurrences_of_not_mem hs']
  refine congrArg (r :: s :: ·) (firstOccurrences_congr rest ?_)
  intro u
  simp only [List.mem_cons]
  exact or_left_comm

/-- **Two neighbours of what is said** can change places exactly if one of them was said before or the two
    commute. -/
theorem joined_swap_iff {separator : String} :
    Text.join separator (firstOccurrences [] (front ++ r :: s :: rest))
        = Text.join separator (firstOccurrences [] (front ++ s :: r :: rest)) ↔
      r ∈ front ∨ s ∈ front ∨ r ++ separator ++ s = s ++ separator ++ r := by
  rw [firstOccurrences_append, firstOccurrences_append, List.append_nil]
  -- the two are told apart only if both are new and different
  by_cases hseen : r ∈ front ∨ s ∈ front ∨ r = s
  · rw [firstOccurrences_swap hseen]
    refine iff_of_true rfl ?_
    rcases hseen with h | h | rfl
    · exact .inl h
    · exact .inr (.inl h)
    · exact .inr (.inr rfl)
  · obtain ⟨hr, hs, hne⟩ : r ∉ front ∧ s ∉ front ∧ r ≠ s := by
      simpa only [not_or] using hseen
    have htail : firstOccurrences (s :: r :: front) rest = firstOccurrences (r :: s :: front) rest :=
      firstOccurrences_congr rest fun u => by
        simp only [List.mem_cons]
        exact or_left_comm
    rw [firstOccurrences_pair hr hs hne, firstOccurrences_pair hs hr hne.symm, htail,
      Text.join_swap_iff]
    simp only [hr, hs, false_or]

/-! ## What is said -/

/-- What a proposal says for itself, if it speaks about an axis and has a reason. -/
def voice (p : Proposal) : Option String := if !p.isEmpty then Text.trimmed? p.reason else none

/-- The skill that a proposal names as a contributor. -/
def contributor (p : Proposal) : Option String := if !p.isEmpty then some p.skill else none

theorem reasons_eq (proposals : List Proposal) :
    reasons proposals = firstOccurrences [] (proposals.filterMap voice) := by
  rw [reasons, contributors, List.filterMap_filter]
  rfl

theorem skills_eq (proposals : List Proposal) :
    skills proposals = firstOccurrences [] (proposals.filterMap contributor) := by
  rw [skills, contributors, ← List.filterMap_eq_map, List.filterMap_filter]
  rfl

/-- All that is said, as one text. -/
def said (proposals : List Proposal) : String := Text.join "; " (reasons proposals)

/-- `r` is what `p` says, and nobody who arrives earlier says it. -/
structure Speaks (proposals : List Proposal) (p : Proposal) (r : String) : Prop where
  mem : p ∈ proposals
  voice_eq : voice p = some r
  unsaid : ∀ o ∈ proposals, arrivalKey o < arrivalKey p → voice o ≠ some r

/-- Those who arrive together, with something new to say each, say the same in either order. -/
def Unanimous (proposals : List Proposal) : Prop :=
  ∀ p r q s, Speaks proposals p r → Speaks proposals q s → arrivalKey p = arrivalKey q →
    r ++ "; " ++ s = s ++ "; " ++ r

/-- Neighbours of one arrival who can change places in what is said. -/
theorem said_swap_iff {before after : List Proposal} {p q : Proposal} (hp : voice p = some r)
    (hq : voice q = some s) :
    said (before ++ p :: q :: after) = said (before ++ q :: p :: after) ↔
      r ∈ before.filterMap voice ∨ s ∈ before.filterMap voice ∨ r ++ "; " ++ s = s ++ "; " ++ r := by
  rw [said, said, reasons_eq, reasons_eq, List.filterMap_append, List.filterMap_append,
    List.filterMap_cons_some hp, List.filterMap_cons_some hq, List.filterMap_cons_some hq,
    List.filterMap_cons_some hp]
  exact joined_swap_iff

/-- A neighbour who says nothing can change places with any other. -/
theorem filterMap_swap {β : Type} {view : Proposal → Option β} {before after : List Proposal}
    {p q : Proposal} (h : view p = none ∨ view q = none ∨ view p = view q) :
    (before ++ p :: q :: after).filterMap view = (before ++ q :: p :: after).filterMap view := by
  rw [List.filterMap_append, List.filterMap_append]
  refine congrArg (before.filterMap view ++ ·) ?_
  rcases h with h | h | h
  · simp only [List.filterMap_cons, h]
  · simp only [List.filterMap_cons, h]
  · simp only [List.filterMap_cons, h]

/-- The arrivals in order, an exchange later. -/
theorem arrivals_of_swapped {items others : List Proposal}
    (h : Order.Swapped arrivalKey items others)
    (hsorted : items.Pairwise fun p q => arrivalKey p ≤ arrivalKey q) :
    others.Pairwise fun p q => arrivalKey p ≤ arrivalKey q := by
  have hmap := List.pairwise_map.mpr hsorted
  rw [h.map_eq] at hmap
  exact List.pairwise_map.mp hmap

/-- **A property of the ordered proposals that no exchange changes** is the same for every order of the
    input. -/
theorem ordered_perm {γ : Type} (f : List Proposal → γ) {proposals others : List Proposal}
    (hf : ∀ items items', items.Perm proposals →
      (items.Pairwise fun p q => arrivalKey p ≤ arrivalKey q) →
      Order.Swapped arrivalKey items items' → f items = f items')
    (hperm : others.Perm proposals) : f (ordered others) = f (ordered proposals) := by
  have hswaps := Order.sort_swaps arrivalKey hperm
  rw [← ordered_eq, ← ordered_eq] at hswaps
  -- along the exchanges the list stays a sorted permutation of the input
  have hrun : ∀ items, Relation.ReflTransGen (Order.Swapped arrivalKey) (ordered others) items →
      items.Perm proposals ∧ (items.Pairwise fun p q => arrivalKey p ≤ arrivalKey q) ∧
        f (ordered others) = f items := by
    intro items h
    induction h with
    | refl =>
      refine ⟨(Order.sort_perm _ others).trans hperm, ?_, rfl⟩
      rw [ordered_eq]
      exact Order.sort_pairwise arrivalKey others
    | tail _ hstep ih =>
      obtain ⟨hp, hsorted, heq⟩ := ih
      exact ⟨hstep.perm.symm.trans hp, arrivals_of_swapped hstep hsorted,
        heq.trans (hf _ _ hp hsorted hstep)⟩
  exact (hrun _ hswaps).2.2

/-- The contributors are the same for every order: those who may change places are of one skill. -/
theorem skills_perm {proposals others : List Proposal} (hperm : others.Perm proposals) :
    skills (ordered others) = skills (ordered proposals) := by
  refine ordered_perm skills ?_ hperm
  intro items items' _ _ hswap
  obtain ⟨before, p, q, after, rfl, rfl, hkey⟩ := hswap.split
  have hskill : p.skill = q.skill := (Prod.mk.inj (toLex.injective hkey)).2
  rw [skills_eq, skills_eq, filterMap_swap]
  by_cases hp : p.isEmpty = true
  · exact .inl (by simp [contributor, hp])
  · by_cases hq : q.isEmpty = true
    · exact .inr (.inl (by simp [contributor, hq]))
    · exact .inr (.inr (by simp [contributor, hp, hq, hskill]))

/-- **One exchange** does not change what unanimous proposals say. -/
theorem Unanimous.said_swap {proposals items items' : List Proposal} (h : Unanimous proposals)
    (hperm : items.Perm proposals)
    (hsorted : items.Pairwise fun p q => arrivalKey p ≤ arrivalKey q)
    (hswap : Order.Swapped arrivalKey items items') : said items = said items' := by
  obtain ⟨before, p, q, after, rfl, rfl, hkey⟩ := hswap.split
  cases hp : voice p with
  | none => rw [said, said, reasons_eq, reasons_eq, filterMap_swap (.inl hp)]
  | some r =>
    cases hq : voice q with
    | none => rw [said, said, reasons_eq, reasons_eq, filterMap_swap (.inr (.inl hq))]
    | some s =>
      rw [said_swap_iff hp hq]
      by_cases hr : r ∈ before.filterMap voice
      · exact .inl hr
      by_cases hs : s ∈ before.filterMap voice
      · exact .inr (.inl hs)
      -- what neither was said by anyone in front was said by nobody who arrives earlier
      have hearlier : ∀ o ∈ proposals, arrivalKey o < arrivalKey p → o ∈ before :=
        fun o ho => Order.mem_before_of_lt hsorted (hperm.mem_iff.mpr ho)
      refine .inr (.inr (h p r q s ⟨?_, hp, ?_⟩ ⟨?_, hq, ?_⟩ hkey))
      · exact hperm.mem_iff.mp (by simp)
      · intro o ho hlt hsays
        exact hr (List.mem_filterMap.mpr ⟨o, hearlier o ho hlt, hsays⟩)
      · exact hperm.mem_iff.mp (by simp)
      · intro o ho hlt hsays
        exact hs (List.mem_filterMap.mpr ⟨o, hearlier o ho (hkey ▸ hlt), hsays⟩)

/-- Two who arrive together commute if the order of the input does not show: each is put to the front of it
    in turn, and nobody who comes before them in the ordered list says what they say. -/
theorem Speaks.commute {proposals : List Proposal} {p q : Proposal} (hp : Speaks proposals p r)
    (hq : Speaks proposals q s) (hkey : arrivalKey p = arrivalKey q) (hpq : p ≠ q)
    (h : ∀ others : List Proposal, others.Perm proposals →
      said (ordered others) = said (ordered proposals)) : r ++ "; " ++ s = s ++ "; " ++ r := by
  -- the input with `p` and `q` in front, in either order
  have hmem : q ∈ proposals.erase p := (List.mem_erase_of_ne (Ne.symm hpq)).mpr hq.mem
  have hfront : (p :: q :: (proposals.erase p).erase q).Perm proposals :=
    ((List.perm_cons_erase hmem).symm.cons p).trans (List.perm_cons_erase hp.mem).symm
  have hback := (List.Perm.swap p q ((proposals.erase p).erase q)).trans hfront
  obtain ⟨before, after, -, hsort, hsort', hbefore⟩ :=
    Order.sort_pair_split hkey ((proposals.erase p).erase q)
  have hsame := (h _ hfront).trans (h _ hback).symm
  rw [ordered_eq, ordered_eq, hsort, hsort', said_swap_iff hp.voice_eq hq.voice_eq] at hsame
  have hin : ∀ o ∈ before, o ∈ proposals := by
    intro o ho
    rw [← hfront.mem_iff, ← Order.mem_sort_upTo arrivalKey, hsort]
    exact List.mem_append_left _ ho
  rcases hsame with hr | hs | hsame
  · obtain ⟨o, ho, hsays⟩ := List.mem_filterMap.mp hr
    exact absurd hsays (hp.unsaid o (hin o ho) (hbefore o ho))
  · obtain ⟨o, ho, hsays⟩ := List.mem_filterMap.mp hs
    exact absurd hsays (hq.unsaid o (hin o ho) (hkey ▸ hbefore o ho))
  · exact hsame

/-- **What is said is the same for every order** exactly if the proposals are unanimous. -/
theorem said_perm_iff {proposals : List Proposal} :
    (∀ others : List Proposal, others.Perm proposals →
      said (ordered others) = said (ordered proposals)) ↔ Unanimous proposals := by
  constructor
  · intro h p r q s hp hq hkey
    by_cases hpq : p = q
    · have hrs : some r = some s := hp.voice_eq.symm.trans (hpq ▸ hq.voice_eq)
      rw [Option.some.inj hrs]
    · exact hp.commute hq hkey hpq h
  · intro h others hperm
    exact ordered_perm said (fun _ _ hp hsorted hswap => h.said_swap hp hsorted hswap) hperm

/-! ## Who wins -/

section Winner

variable {β κ γ : Type} [LinearOrder κ]

/-- **What is made of a pick is the same for every order** exactly if it is the same for all winners:
    each of them is picked when it arrives first. -/
theorem pick_perm_iff (view : Proposal → Option β) (key : β → κ) (proposals : List Proposal)
    (f : Option β → γ) :
    (∀ others : List Proposal, others.Perm proposals →
      f (pick view key others) = f (pick view key proposals)) ↔
    ∀ p b q c, IsWinner view key proposals p b → IsWinner view key proposals q c →
      f (some b) = f (some c) := by
  have hfront : ∀ p b, IsWinner view key proposals p b →
      ∃ others : List Proposal, others.Perm proposals ∧ pick view key others = some b := by
    intro p b hp
    have hperm := List.perm_cons_erase hp.mem
    exact ⟨_, hperm.symm, pick_of_front (hp.perm hperm)⟩
  constructor
  · intro h p b q c hp hq
    obtain ⟨others, hperm, hpick⟩ := hfront p b hp
    obtain ⟨others', hperm', hpick'⟩ := hfront q c hq
    rw [← hpick, ← hpick', h others hperm, h others' hperm']
  · intro h others hperm
    cases hpick : pick view key others with
    | none =>
      have hnone := pick_eq_none_iff.mp hpick
      rw [pick_eq_none_iff.mpr fun p hp => hnone p (hperm.mem_iff.mpr hp)]
    | some b =>
      obtain ⟨p, hp⟩ := winner_of_pick hpick
      cases hpick' : pick view key proposals with
      | none =>
        have hnone := pick_eq_none_iff.mp hpick' p (hperm.mem_iff.mp hp.mem)
        rw [hp.contends] at hnone
        nomatch hnone
      | some c =>
        obtain ⟨q, hq⟩ := winner_of_pick hpick'
        exact h p b q c (hp.perm hperm) hq

end Winner

variable {policy : MergePolicy} {proposals others : List Proposal}

/-- The winning speeds lie at one distance. -/
def SpeedSettled (proposals : List Proposal) : Prop :=
  ∀ p b q c, IsWinner speedContender speedKey proposals p b →
    IsWinner speedContender speedKey proposals q c → b.2.ahead = c.2.ahead

theorem speed_perm_iff :
    (∀ others : List Proposal, others.Perm proposals →
      speed (ordered others) = speed (ordered proposals)) ↔ SpeedSettled proposals := by
  simp only [speed_ordered_eq]
  rw [pick_perm_iff _ _ _ fun o => (o.map fun b : Nat × SpeedProposal => b.2.axis).getD {}]
  constructor
  · intro h p b q c hp hq
    exact congrArg SpeedAxis.ahead (h p b q c hp hq)
  · intro h p b q c hp hq
    obtain ⟨⟨ht, hconf⟩, -, hsource⟩ := key_inj.mp (hp.key_eq hq).1
    show b.2.axis = c.2.axis
    rw [SpeedProposal.axis, SpeedProposal.axis, Binary.eq_of_orderKey ht, Binary.eq_of_orderKey hconf,
      hsource, h p b q c hp hq]

/-! ## The alert -/

/-- The alert a proposal contends with, if it does. -/
def alertContender (policy : MergePolicy) (p : Proposal) : Option (Nat × AlertProposal) :=
  (p.alert.map (p.rank, ·)).filter (eligible policy ·.2.confidence)

/-- The alert axis that the winner makes. -/
def shownAlert (policy : MergePolicy) (a : AlertProposal) : AlertAxis :=
  { a.axis with text := Text.cut policy.alertLimit a.text }

theorem alert_ordered_eq (policy : MergePolicy) (proposals : List Proposal) :
    alert policy (ordered proposals) =
      ((pick (alertContender policy) alertKey proposals).map (shownAlert policy ·.2)).getD {} := by
  have hcontenders : alertContenders policy (ordered proposals)
      = (ordered proposals).filterMap (alertContender policy) := List.filter_filterMap
  rw [alert, alertPrecedence_eq, hcontenders, pick]
  split
  · rename_i hpick; rw [hpick]; rfl
  · rename_i hpick; rw [hpick]; rfl

theorem level_inj {a b : Tier} (h : a.level = b.level) : a = b := by
  cases a <;> cases b <;> first | rfl | nomatch h

/-- The alert is the same for every order: its key leaves nothing of an alert out. -/
theorem alert_perm (policy : MergePolicy) (hperm : others.Perm proposals) :
    alert policy (ordered others) = alert policy (ordered proposals) := by
  rw [alert_ordered_eq, alert_ordered_eq]
  refine (pick_perm_iff _ _ _ fun o =>
    (o.map fun b : Nat × AlertProposal => shownAlert policy b.2).getD {}).mpr ?_ others hperm
  intro p b q c hp hq
  obtain ⟨⟨htier, hconf⟩, -, htext⟩ := key_inj.mp (hp.key_eq hq).1
  have htier' : b.2.tier = c.2.tier := level_inj (by omega)
  show shownAlert policy b.2 = shownAlert policy c.2
  rw [shownAlert, shownAlert, AlertProposal.axis, AlertProposal.axis, Binary.eq_of_orderKey hconf,
    htier', htext]

/-! ## The lane -/

/-- The lane a proposal contends with, if it does. -/
def laneContender (policy : MergePolicy) (p : Proposal) : Option (Nat × LaneProposal) :=
  (p.lane.map (p.rank, ·)).filter (eligible policy ·.2.confidence)

/-- The lane a proposal contends with, if its confidence is the highest. -/
def tiedLane (policy : MergePolicy) (top : Single) (p : Proposal) : Option (Nat × LaneProposal) :=
  (laneContender policy p).filter (·.2.confidence.eqv top)

/-- The highest confidence that contends for the lane. -/
def laneTop? (policy : MergePolicy) (proposals : List Proposal) : Option Single :=
  topConfidence? (laneContenders policy proposals)

theorem laneContenders_eq (policy : MergePolicy) (proposals : List Proposal) :
    laneContenders policy proposals = proposals.filterMap (laneContender policy) :=
  List.filter_filterMap

/-- A number is as far down as it is high in the total order. -/
theorem topConfidence?_eq (contenders : List (Nat × LaneProposal)) :
    topConfidence? contenders =
      Order.least? (Order.below fun x : Single => -x.orderKey) (contenders.map (·.2.confidence)) := by
  have hless : (fun a b : Single => a.totalCompare b == .gt)
      = Order.below fun x : Single => -x.orderKey := by
    funext a b
    rw [Bool.eq_iff_iff, beq_iff_eq, decide_eq_true_iff, Binary.totalCompare, compare_gt_iff_gt]
    show b.orderKey < a.orderKey ↔ -a.orderKey < -b.orderKey
    omega
  rw [topConfidence?, hless]

theorem laneTop?_perm (policy : MergePolicy) (hperm : others.Perm proposals) :
    laneTop? policy others = laneTop? policy proposals := by
  rw [laneTop?, laneTop?, topConfidence?_eq, topConfidence?_eq, laneContenders_eq, laneContenders_eq]
  refine Order.least?_perm ?_ ((hperm.filterMap _).map _)
  intro x y h
  exact Binary.eq_of_orderKey (by simpa using h)

/-- Those that tie for the lane point one way. -/
def Agreed (policy : MergePolicy) (top : Single) (proposals : List Proposal) : Prop :=
  ∀ p ∈ proposals, ∀ b, tiedLane policy top p = some b →
    ∀ q ∈ proposals, ∀ c, tiedLane policy top q = some c → c.2.side = b.2.side

theorem agreed_perm {top : Single} (hperm : others.Perm proposals) :
    Agreed policy top others ↔ Agreed policy top proposals := by
  simp only [Agreed, hperm.mem_iff]

/-- The lane axis of a dispute. -/
def disputed (top : Single) : LaneAxis :=
  { active := true, side := .none, reason := conflictReason, confidence := top }

theorem lane_of_no_top (h : laneTop? policy proposals = none) :
    lane policy (ordered proposals) = {} := by
  have htop : topConfidence? (laneContenders policy (ordered proposals)) = none :=
    (laneTop?_perm policy (Order.sort_perm _ proposals)).trans h
  simp only [lane, htop]

/-- What the lane comes to when there is a highest confidence. -/
theorem lane_of_top {top : Single} (h : laneTop? policy proposals = some top) :
    lane policy (ordered proposals) =
      (pick (tiedLane policy top) Prod.fst proposals).elim {} fun winner =>
        if ((ordered proposals).filterMap (tiedLane policy top)).all (·.2.side == winner.2.side) then
          winner.2.axis
        else disputed top := by
  have htop : topConfidence? (laneContenders policy (ordered proposals)) = some top :=
    (laneTop?_perm policy (Order.sort_perm _ proposals)).trans h
  have htied : (laneContenders policy (ordered proposals)).filter (·.2.confidence.eqv top)
      = (ordered proposals).filterMap (tiedLane policy top) := by
    rw [laneContenders_eq]
    exact List.filter_filterMap
  have hpick : Order.least? (fun a b : Nat × LaneProposal => decide (a.1 < b.1))
      ((ordered proposals).filterMap (tiedLane policy top))
      = pick (tiedLane policy top) Prod.fst proposals := rfl
  simp only [lane, htop, htied, hpick]
  cases pick (tiedLane policy top) Prod.fst proposals <;> rfl

/-- All that tie point where the winner points exactly if they agree. -/
theorem all_side_iff {top : Single} {b : Nat × LaneProposal}
    (h : pick (tiedLane policy top) Prod.fst proposals = some b) :
    ((ordered proposals).filterMap (tiedLane policy top)).all (·.2.side == b.2.side) = true ↔
      Agreed policy top proposals := by
  obtain ⟨p, hp⟩ := winner_of_pick h
  rw [List.all_eq_true]
  constructor
  · intro hall q hq c hc o ho d hd
    have hside : ∀ q ∈ proposals, ∀ c, tiedLane policy top q = some c → c.2.side = b.2.side := by
      intro q hq c hc
      exact beq_iff_eq.mp (hall c (List.mem_filterMap.mpr ⟨q, Order.mem_sort.mpr hq, hc⟩))
    rw [hside q hq c hc, hside o ho d hd]
  · intro hagreed c hc
    obtain ⟨q, hq, hview⟩ := List.mem_filterMap.mp hc
    exact beq_iff_eq.mpr (hagreed p hp.mem b hp.contends q (Order.mem_sort.mp hq) c hview)

theorem lane_of_agreed {top : Single} (h : laneTop? policy proposals = some top)
    (hagreed : Agreed policy top proposals) : lane policy (ordered proposals) =
      ((pick (tiedLane policy top) Prod.fst proposals).map (·.2.axis)).getD {} := by
  rw [lane_of_top h]
  cases hpick : pick (tiedLane policy top) Prod.fst proposals with
  | none => rfl
  | some b => exact if_pos ((all_side_iff hpick).mpr hagreed)

theorem lane_of_disputed {top : Single} (h : laneTop? policy proposals = some top)
    (hdisputed : ¬ Agreed policy top proposals) :
    lane policy (ordered proposals) = disputed top := by
  rw [lane_of_top h]
  cases hpick : pick (tiedLane policy top) Prod.fst proposals with
  | none =>
    have hnone := pick_eq_none_iff.mp hpick
    refine absurd ?_ hdisputed
    intro p hp b hb
    rw [hnone p hp] at hb
    nomatch hb
  | some b => exact if_neg (mt (all_side_iff hpick).mp hdisputed)

/-- Where those that tie agree, the lane is the same for every order exactly if all winners bring one
    proposal. -/
theorem lane_perm_iff_of_agreed {top : Single} (htop : laneTop? policy proposals = some top)
    (hagreed : Agreed policy top proposals) :
    (∀ others : List Proposal, others.Perm proposals →
      lane policy (ordered others) = lane policy (ordered proposals)) ↔
    ∀ p b q c, IsWinner (tiedLane policy top) Prod.fst proposals p b →
      IsWinner (tiedLane policy top) Prod.fst proposals q c → b.2 = c.2 := by
  -- agreement does not depend on the order, so only the pick is left
  have hlane : ∀ others : List Proposal, others.Perm proposals → lane policy (ordered others) =
      ((pick (tiedLane policy top) Prod.fst others).map (·.2.axis)).getD {} := by
    intro others hperm
    exact lane_of_agreed ((laneTop?_perm policy hperm).trans htop) ((agreed_perm hperm).mpr hagreed)
  have hpick := pick_perm_iff (tiedLane policy top) Prod.fst proposals fun o =>
    (o.map fun b : Nat × LaneProposal => b.2.axis).getD {}
  rw [hlane proposals (List.Perm.refl _)]
  constructor
  · intro h p b q c hp hq
    have haxis : b.2.axis = c.2.axis := by
      refine hpick.mp ?_ p b q c hp hq
      intro others hperm
      rw [← hlane others hperm]
      exact h others hperm
    rw [LaneProposal.axis, LaneProposal.axis, LaneAxis.mk.injEq] at haxis
    rw [LaneProposal.mk.injEq]
    exact haxis.2
  · intro h others hperm
    rw [hlane others hperm]
    refine hpick.mpr ?_ others hperm
    intro p b q c hp hq
    show b.2.axis = c.2.axis
    rw [h p b q c hp hq]

/-- Those who win a tie that points one way bring one proposal. -/
def LaneSettled (policy : MergePolicy) (proposals : List Proposal) : Prop :=
  ∀ top, laneTop? policy proposals = some top → Agreed policy top proposals →
    ∀ p b q c, IsWinner (tiedLane policy top) Prod.fst proposals p b →
      IsWinner (tiedLane policy top) Prod.fst proposals q c → b.2 = c.2

theorem lane_perm_iff :
    (∀ others : List Proposal, others.Perm proposals →
      lane policy (ordered others) = lane policy (ordered proposals)) ↔
    LaneSettled policy proposals := by
  cases htop : laneTop? policy proposals with
  | none =>
    refine iff_of_true ?_ ?_
    · intro others hperm
      rw [lane_of_no_top htop, lane_of_no_top ((laneTop?_perm policy hperm).trans htop)]
    · intro top h
      rw [htop] at h
      nomatch h
  | some top =>
    by_cases hagreed : Agreed policy top proposals
    · rw [lane_perm_iff_of_agreed htop hagreed]
      constructor
      · intro h top' htop' _
        obtain rfl : top = top' := Option.some.inj (htop.symm.trans htop')
        exact h
      · intro h
        exact h top htop hagreed
    · -- a dispute is one for every order, and it has one axis
      refine iff_of_true ?_ ?_
      · intro others hperm
        rw [lane_of_disputed htop hagreed, lane_of_disputed ((laneTop?_perm policy hperm).trans htop)
          (mt (agreed_perm hperm).mp hagreed)]
      · intro top' htop' hagreed'
        obtain rfl : top = top' := Option.some.inj (htop.symm.trans htop')
        exact absurd hagreed' hagreed

/-! ## The whole advisory -/

/-- Nothing is left for the order of arrival to decide. -/
structure Settled (policy : MergePolicy) (proposals : List Proposal) : Prop where
  speed : SpeedSettled proposals
  lane : LaneSettled policy proposals
  reason : Unanimous proposals

/-- Where every skill speaks once, nothing is left to decide. -/
theorem settled_of_nodup (policy : MergePolicy) (h : (proposals.map arrivalKey).Nodup) :
    Settled policy proposals := by
  have hsame : ∀ p ∈ proposals, ∀ q ∈ proposals, arrivalKey p = arrivalKey q → p = q :=
    fun p hp q hq => List.inj_on_of_nodup_map h hp hq
  refine ⟨?_, ?_, ?_⟩
  · intro p b q c hp hq
    obtain rfl := hsame p hp.mem q hq.mem (hp.key_eq hq).2
    rw [Option.some.inj (hp.contends.symm.trans hq.contends)]
  · intro top _ _ p b q c hp hq
    obtain rfl := hsame p hp.mem q hq.mem (hp.key_eq hq).2
    rw [Option.some.inj (hp.contends.symm.trans hq.contends)]
  · intro p r q s hp hq hkey
    obtain rfl := hsame p hp.mem q hq.mem hkey
    rw [Option.some.inj (hp.voice_eq.symm.trans hq.voice_eq)]

/-- **Merging does not depend on the order of its input** exactly if the proposals are settled, and they are where every
    skill speaks once. -/
theorem merge_perm_iff (policy : MergePolicy) (proposals : List Proposal) :
    ((∀ others : List Proposal, others.Perm proposals → merge policy others = merge policy proposals) ↔
      Settled policy proposals) ∧
    ((proposals.map arrivalKey).Nodup → Settled policy proposals) := by
  refine ⟨⟨?_, ?_⟩, settled_of_nodup policy⟩
  · intro h
    exact {
      speed := speed_perm_iff.mp fun others hperm => congrArg Advisory.speed (h others hperm)
      lane := lane_perm_iff.mp fun others hperm => congrArg Advisory.lane (h others hperm)
      reason := said_perm_iff.mp fun others hperm => congrArg Advisory.reason (h others hperm) }
  · intro h others hperm
    have hspeed := speed_perm_iff.mpr h.speed others hperm
    have hlane := lane_perm_iff.mpr h.lane others hperm
    have halert := alert_perm policy hperm
    have hskills := skills_perm hperm
    have hreason := said_perm_iff.mpr h.reason others hperm
    simp only [said] at hreason
    simp only [merge, hspeed, hlane, halert, hskills, hreason]

/-- One skill, run twice in a cycle, that sees two things in the way. -/
def truck : Proposal :=
  { skill := "set_speed_advisory", rank := 2, reason := "slow truck"
    speed := some ⟨20, "engine", 0.75, 100⟩, lane := some ⟨.left, "truck on the right", 0.5⟩ }

def debris : Proposal :=
  { skill := "set_speed_advisory", rank := 2, reason := "debris"
    speed := some ⟨20, "engine", 0.75, 250⟩, lane := some ⟨.left, "debris on the right", 0.5⟩ }

/-- The proposal that arrives first sets the distance, the text of the lane and the order of the
    reasons. -/
theorem merge_truck_debris : [debris, truck].Perm [truck, debris] ∧
    (merge {} [debris, truck]).speed ≠ (merge {} [truck, debris]).speed ∧
    (merge {} [debris, truck]).lane ≠ (merge {} [truck, debris]).lane ∧
    (merge {} [debris, truck]).reason ≠ (merge {} [truck, debris]).reason := by
  refine ⟨.swap _ _ _, ?_, ?_, ?_⟩
  · decide +kernel
  · decide +kernel
  · decide +kernel

end Merge
end DriveAdvisory
