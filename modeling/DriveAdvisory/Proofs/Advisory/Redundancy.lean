/-
  Proposals that can be left out.

  An engine that asks for one thing twice, or for something that comes to nothing, should not be heard more loudly
  for it.  A proposal is `Redundant` where it speaks about no axis, or where the same was proposed in front of it.
  In the order of arrival it still stands behind the proposal that it repeats, because those two have one rank and
  one skill and a stable sort does not exchange them.  So each part of the merge sees the same list with an echo in
  it (`Order.Echoed`), and no part listens to echoes: not a search for the first of the least, not a walk that
  keeps first occurrences, not a question about all that tie.

  From one proposal left out (`Redundant.merge_eq`) it is an induction to many:

  * `merge_contributors`        what speaks about no axis can go;
  * `merge_append_of_subset`    what is said again afterwards can go.
-/
import DriveAdvisory.Proofs.Advisory.Arrival
import DriveAdvisory.Proofs.Order.Stability

namespace DriveAdvisory

theorem Proposal.isEmpty_iff {p : Proposal} :
    p.isEmpty = true ↔ p.speed = none ∧ p.lane = none ∧ p.alert = none := by
  simp only [Proposal.isEmpty, Bool.and_eq_true, Option.isNone_iff_eq_none, and_assoc]

namespace Merge

variable {policy : MergePolicy} {front back proposals others : List Proposal} {p : Proposal}

/-! ## What a redundant proposal shows -/

/-- The proposal speaks about no axis, or stands in the list already. -/
def Redundant (front : List Proposal) (p : Proposal) : Prop := p.isEmpty = true ∨ p ∈ front

/-- It stays redundant when the proposals are put in the order of arrival, and nothing else moves. -/
theorem Redundant.ordered (back : List Proposal) (h : Redundant front p) : ∃ before after,
    ordered (front ++ back) = before ++ after ∧
      ordered (front ++ p :: back) = before ++ p :: after ∧ Redundant before p := by
  obtain ⟨before, after, hrest, hall, hfront⟩ := Order.sort_middle arrivalKey p back front
  refine ⟨before, after, (ordered_eq _).trans hrest, (ordered_eq _).trans hall, ?_⟩
  rcases h with hempty | hmem
  · exact .inl hempty
  · exact .inr (hfront p hmem (le_refl _))

section View

variable {β κ : Type} [LinearOrder κ] {view : Proposal → Option β}

/-- Nothing is seen of a proposal that speaks about no axis. -/
def Overlooks (view : Proposal → Option β) : Prop := ∀ p : Proposal, p.isEmpty = true → view p = none

/-- Whatever overlooks the empty proposals hears of a redundant one no more than an echo. -/
theorem Redundant.echoed (back : List Proposal) (hview : Overlooks view) (h : Redundant front p) :
    Order.Echoed ((front ++ back).filterMap view) ((front ++ p :: back).filterMap view) := by
  rcases h with hempty | hmem
  · rw [List.filterMap_append, List.filterMap_append, List.filterMap_cons_none (hview p hempty)]
    exact .same
  · exact (Order.Echoed.again hmem).filterMap view

theorem Redundant.echoed_ordered (back : List Proposal) (hview : Overlooks view)
    (h : Redundant front p) : Order.Echoed ((Merge.ordered (front ++ back)).filterMap view)
      ((Merge.ordered (front ++ p :: back)).filterMap view) := by
  obtain ⟨before, after, hrest, hall, hbefore⟩ := h.ordered back
  rw [hrest, hall]
  exact hbefore.echoed after hview

theorem Redundant.pick_eq (back : List Proposal) (hview : Overlooks view) (key : β → κ)
    (h : Redundant front p) : pick view key (front ++ p :: back) = pick view key (front ++ back) :=
  (h.echoed_ordered back hview).least?

end View

theorem overlooks_speed : Overlooks speedContender := by
  intro p hp
  rw [speedContender, (Proposal.isEmpty_iff.mp hp).1]
  rfl

theorem overlooks_lane (policy : MergePolicy) : Overlooks (laneContender policy) := by
  intro p hp
  rw [laneContender, (Proposal.isEmpty_iff.mp hp).2.1]
  rfl

theorem overlooks_tied (policy : MergePolicy) (top : Single) : Overlooks (tiedLane policy top) := by
  intro p hp
  rw [tiedLane, overlooks_lane policy p hp]
  rfl

theorem overlooks_alert (policy : MergePolicy) : Overlooks (alertContender policy) := by
  intro p hp
  rw [alertContender, (Proposal.isEmpty_iff.mp hp).2.2]
  rfl

theorem overlooks_contributor : Overlooks contributor := by
  intro p hp
  rw [contributor, hp]
  rfl

theorem overlooks_voice : Overlooks voice := by
  intro p hp
  rw [voice, hp]
  rfl

/-! ## Part by part -/

theorem Redundant.speed_eq (back : List Proposal) (h : Redundant front p) :
    speed (Merge.ordered (front ++ p :: back)) = speed (Merge.ordered (front ++ back)) := by
  rw [speed_ordered_eq, speed_ordered_eq, h.pick_eq back overlooks_speed]

theorem Redundant.alert_eq (policy : MergePolicy) (back : List Proposal) (h : Redundant front p) :
    alert policy (Merge.ordered (front ++ p :: back)) =
      alert policy (Merge.ordered (front ++ back)) := by
  rw [alert_ordered_eq, alert_ordered_eq, h.pick_eq back (overlooks_alert policy)]

theorem agreed_iff_filterMap {top : Single} : Agreed policy top proposals ↔
    ∀ b ∈ proposals.filterMap (tiedLane policy top), ∀ c ∈ proposals.filterMap (tiedLane policy top),
      c.2.side = b.2.side := by
  simp only [Agreed, List.mem_filterMap]
  constructor
  · rintro h b ⟨p, hp, hb⟩ c ⟨q, hq, hc⟩
    exact h p hp b hb q hq c hc
  · intro h p hp b hb q hq c hc
    exact h b ⟨p, hp, hb⟩ c ⟨q, hq, hc⟩

/-- The lane depends on the highest confidence, on whether those that tie for it agree, and on which of them is
    picked. -/
theorem lane_congr (htop : laneTop? policy others = laneTop? policy proposals)
    (hagreed : ∀ top, Agreed policy top others ↔ Agreed policy top proposals)
    (hpick : ∀ top, pick (tiedLane policy top) Prod.fst others =
      pick (tiedLane policy top) Prod.fst proposals) :
    lane policy (Merge.ordered others) = lane policy (Merge.ordered proposals) := by
  cases hp : laneTop? policy proposals with
  | none => rw [lane_of_no_top hp, lane_of_no_top (htop.trans hp)]
  | some top =>
    by_cases h : Agreed policy top proposals
    · rw [lane_of_agreed hp h, lane_of_agreed (htop.trans hp) ((hagreed top).mpr h), hpick top]
    · rw [lane_of_disputed hp h, lane_of_disputed (htop.trans hp) (mt (hagreed top).mp h)]

theorem Redundant.lane_eq (policy : MergePolicy) (back : List Proposal) (h : Redundant front p) :
    lane policy (Merge.ordered (front ++ p :: back)) =
      lane policy (Merge.ordered (front ++ back)) := by
  refine lane_congr ?_ ?_ ?_
  · rw [laneTop?, laneTop?, topConfidence?_eq, topConfidence?_eq, laneContenders_eq,
      laneContenders_eq]
    exact ((h.echoed back (overlooks_lane policy)).map _).least?
  · intro top
    have hmem := fun b => (h.echoed back (overlooks_tied policy top)).mem_iff (a := b)
    simp only [agreed_iff_filterMap, hmem]
  · intro top
    exact h.pick_eq back (overlooks_tied policy top) Prod.fst

/-- An echo is no first occurrence. -/
theorem firstOccurrences_echoed {texts echoing : List String} (h : Order.Echoed texts echoing) :
    firstOccurrences [] echoing = firstOccurrences [] texts := by
  cases h with
  | same => rfl
  | @again front back text htext =>
    have hseen : text ∈ front ++ [] := List.mem_append_left [] htext
    rw [firstOccurrences_append, firstOccurrences_append, firstOccurrences_of_mem hseen]

theorem Redundant.skills_eq (back : List Proposal) (h : Redundant front p) :
    skills (Merge.ordered (front ++ p :: back)) = skills (Merge.ordered (front ++ back)) := by
  rw [Merge.skills_eq, Merge.skills_eq,
    firstOccurrences_echoed (h.echoed_ordered back overlooks_contributor)]

theorem Redundant.reasons_eq (back : List Proposal) (h : Redundant front p) :
    reasons (Merge.ordered (front ++ p :: back)) = reasons (Merge.ordered (front ++ back)) := by
  rw [Merge.reasons_eq, Merge.reasons_eq,
    firstOccurrences_echoed (h.echoed_ordered back overlooks_voice)]

/-! ## The whole advisory -/

/-- **A redundant proposal can be left out.** -/
theorem Redundant.merge_eq (policy : MergePolicy) (back : List Proposal) (h : Redundant front p) :
    merge policy (front ++ p :: back) = merge policy (front ++ back) := by
  simp only [merge, h.speed_eq back, h.lane_eq policy back, h.alert_eq policy back, h.skills_eq back,
    h.reasons_eq back]

/-- Proposals that speak about no axis can be left out, wherever they stand. -/
theorem merge_append_contributors (policy : MergePolicy) : ∀ back front : List Proposal,
    merge policy (front ++ contributors back) = merge policy (front ++ back)
  | [], _ => rfl
  | p :: back, front => by
    by_cases hp : p.isEmpty = true
    · have hskip : contributors (p :: back) = contributors back :=
        List.filter_cons_of_neg (by simp [hp])
      have hout : merge policy (front ++ p :: back) = merge policy (front ++ back) :=
        Redundant.merge_eq policy back (.inl hp)
      rw [hskip, hout]
      exact merge_append_contributors policy back front
    · have hkeep : contributors (p :: back) = p :: contributors back :=
        List.filter_cons_of_pos (by simp [hp])
      have hrest := merge_append_contributors policy back (front ++ [p])
      rw [hkeep]
      simpa only [List.append_assoc, List.singleton_append] using hrest

/-- **Whoever speaks about no axis has no influence.** -/
theorem merge_contributors (policy : MergePolicy) (proposals : List Proposal) :
    merge policy (contributors proposals) = merge policy proposals :=
  merge_append_contributors policy proposals []

/-- **Repeating proposals changes nothing.** -/
theorem merge_append_of_subset (policy : MergePolicy) {proposals : List Proposal} :
    ∀ {repeats : List Proposal}, (∀ p ∈ repeats, p ∈ proposals) →
      merge policy (proposals ++ repeats) = merge policy proposals
  | [], _ => by rw [List.append_nil]
  | p :: repeats, h => by
    have hout : merge policy (proposals ++ p :: repeats) = merge policy (proposals ++ repeats) :=
      Redundant.merge_eq policy repeats (.inr (h p List.mem_cons_self))
    rw [hout]
    exact merge_append_of_subset policy fun q hq => h q (List.mem_cons_of_mem p hq)

theorem merge_append_of_subset_truck : (∀ p ∈ [debris, debris, truck], p ∈ [truck, debris]) ∧
    merge {} ([truck, debris] ++ [debris, debris, truck]) = merge {} [truck, debris] :=
  ⟨by simp, merge_append_of_subset {} (by simp)⟩

end Merge
end DriveAdvisory
