/-
  What merging picks, filtering lets through.

  A lane or an alert is asked for its confidence twice: merging looks at the bare number, filtering at the number
  held to `[0, 1]`, and each has a least confidence and a limit for texts of its own.  Settings hand the same two
  to both (`Settings.limits`, `Settings.cycle?`), and the check sees to it that the least confidence is not above
  certainty.  That is enough (`Limits.Admits`): holding a confidence cannot push it below a bound that it reached
  (`Admits.gate?_eq`), and a text that was cut to one limit is not cut again.

  So nothing is lost between the two, and a proposal that was passed over was passed over for one that is
  published (`Settings.passedOn_of_validate`).
-/
import DriveAdvisory.Proofs.Advisory.Alert
import DriveAdvisory.Proofs.Advisory.Lane
import DriveAdvisory.Proofs.Advisory.Projection
import DriveAdvisory.Proofs.Settings.Enforceable

namespace DriveAdvisory

/-! ## Who may win -/

namespace Merge

variable {policy : MergePolicy} {proposals : List Proposal}

/-- Some proposal may win the alert. -/
def AlertOffered (policy : MergePolicy) (proposals : List Proposal) : Prop :=
  ∃ p ∈ proposals, ∃ a, p.alert = some a ∧ a.confidence.isFinite = true ∧
    policy.minConfidence ≤ a.confidence

/-- **The merged lane** is off where nothing may win it, and has the confidence of something that may where
    it is on, also if it is the lane of a dispute. -/
theorem lane_cases (policy : MergePolicy) (proposals : List Proposal) :
    (lane policy (ordered proposals) = {} ∧ ¬ LaneOffered policy proposals) ∨
    ((lane policy (ordered proposals)).active = true ∧
      eligible policy (lane policy (ordered proposals)).confidence = true ∧
      LaneOffered policy proposals) := by
  have harbitrated := arbitrated_lane policy proposals
  by_cases hoffered : LaneOffered policy proposals
  · right
    obtain ⟨p, l, hbid⟩ := hoffered.exists_bid
    obtain ⟨top, htop, -⟩ := harbitrated.decided p l hbid
    -- in a dispute the confidence is the highest one, and that is somebody's
    by_cases hagreed : Agreed policy top proposals
    · obtain ⟨q, m, hq, -, hlane⟩ := htop.lane_of_agreed hagreed
      rw [hlane]
      exact ⟨rfl, eligible_iff.mpr ⟨hq.finite, hq.enough⟩, hoffered⟩
    · rw [lane_of_disputed htop.laneTop?_eq hagreed]
      obtain ⟨q, m, hq, rfl⟩ := htop.reached
      exact ⟨rfl, eligible_iff.mpr ⟨hq.finite, hq.enough⟩, hoffered⟩
  · left
    exact ⟨harbitrated.nobody fun p l hbid => hoffered hbid.offered, hoffered⟩

/-- **The merged alert** is off where nothing may win it, and where it is on it is what the winner says, as
    far as there is room for it. -/
theorem alert_cases (policy : MergePolicy) (proposals : List Proposal) :
    (alert policy (ordered proposals) = {} ∧ ¬ AlertOffered policy proposals) ∨
    ∃ a, alert policy (ordered proposals) = shownAlert policy a ∧
      eligible policy a.confidence = true ∧ AlertOffered policy proposals := by
  rcases alert_unbeaten policy proposals with ⟨hoff, hnobody⟩ | ⟨p, a, hwins, hshown⟩
  · left
    refine ⟨hoff, ?_⟩
    rintro ⟨p, hp, a, halert, hfinite, henough⟩
    exact hnobody p a ⟨hp, halert, hfinite, henough⟩
  · right
    exact ⟨a, hshown, eligible_iff.mpr ⟨hwins.finite, hwins.enough⟩, p, hwins.mem, a,
      hwins.proposes, hwins.finite, hwins.enough⟩

end Merge

/-! ## Who passes -/

namespace Limits

variable {limits : Limits} {policy : MergePolicy} {proposals : List Proposal}

/-- The limits ask for nothing that a merge by the policy has not asked for. -/
structure Admits (limits : Limits) (policy : MergePolicy) : Prop where
  minConfidence : limits.minConfidence = policy.minConfidence
  le_one : limits.minConfidence ≤ 1
  alertLimit : policy.alertLimit ≤ limits.alertLimit

/-- What may win passes the gate, with its confidence held. -/
theorem Admits.gate?_eq (h : limits.Admits policy) {confidence : Single}
    (helig : Merge.eligible policy confidence = true) :
    limits.gate? true confidence = some (confidence.clamp 0 1) := by
  obtain ⟨hfinite, hleast⟩ := Merge.eligible_iff.mp helig
  have hunit : unitConfidence confidence = confidence.clamp 0 1 := if_pos hfinite
  rw [← h.minConfidence] at hleast
  have hheld := le_unitConfidence h.le_one hfinite hleast
  rw [← hunit, gate?_eq_some_iff]
  exact ⟨rfl, (Binary.not_lt (Binary.not_isNaN_of_le_right hheld)
    (Binary.not_isNaN_of_le_left hheld)).mpr hheld, rfl⟩

theorem clamp_zero : (0 : Single).clamp 0 1 = 0 := by decide

/-- The merged lane passes as it is, but for its confidence. -/
theorem Admits.filterLane_lane (h : limits.Admits policy) (proposals : List Proposal) :
    limits.filterLane (Merge.lane policy (Merge.ordered proposals)) =
      { Merge.lane policy (Merge.ordered proposals) with
        confidence := (Merge.lane policy (Merge.ordered proposals)).confidence.clamp 0 1 } := by
  rcases Merge.lane_cases policy proposals with ⟨hoff, -⟩ | ⟨hactive, helig, -⟩
  · rw [hoff]
    show ({} : LaneAxis) = { confidence := (0 : Single).clamp 0 1 }
    rw [clamp_zero]
  · simp only [filterLane, hactive, h.gate?_eq helig]

/-- The merged alert passes as it is, but for its confidence. -/
theorem Admits.filterAlert_alert (h : limits.Admits policy) (proposals : List Proposal) :
    limits.filterAlert (Merge.alert policy (Merge.ordered proposals)) =
      { Merge.alert policy (Merge.ordered proposals) with
        confidence := (Merge.alert policy (Merge.ordered proposals)).confidence.clamp 0 1 } := by
  rcases Merge.alert_cases policy proposals with ⟨hoff, -⟩ | ⟨a, hshown, helig, -⟩
  · rw [hoff]
    show ({} : AlertAxis) = { confidence := (0 : Single).clamp 0 1 }
    rw [clamp_zero]
  · rw [hshown]
    have hcut : Text.cut limits.alertLimit (Text.cut policy.alertLimit a.text)
        = Text.cut policy.alertLimit a.text :=
      Text.cut_of_size_le (Nat.le_trans (Text.size_cut_le _ _) h.alertLimit)
    show limits.filterAlert { a.axis with text := Text.cut policy.alertLimit a.text } = _
    simp only [filterAlert, AlertProposal.axis, h.gate?_eq helig, hcut]
    rfl

/-- What becomes of the proposals for the lane and the alert. -/
structure PassedOn (policy : MergePolicy) (proposals : List Proposal) (merged out : Advisory) :
    Prop where
  /-- What was merged is published, with its confidence held. -/
  lane : out.lane = { merged.lane with confidence := merged.lane.confidence.clamp 0 1 }
  alert : out.alert = { merged.alert with confidence := merged.alert.confidence.clamp 0 1 }
  /-- Where something might have won, something is published. -/
  lane_active_iff : out.lane.active = true ↔ Merge.LaneOffered policy proposals
  alert_active_iff : out.alert.active = true ↔ Merge.AlertOffered policy proposals

theorem Admits.passedOn (h : limits.Admits policy) (proposals : List Proposal)
    (reference : Option Single) : PassedOn policy proposals (merge policy proposals)
      (limits.enforce (merge policy proposals) reference) := by
  have hlane := h.filterLane_lane proposals
  have halert := h.filterAlert_alert proposals
  refine ⟨hlane, halert, ?_, ?_⟩
  · show (limits.filterLane (Merge.lane policy (Merge.ordered proposals))).active = true ↔ _
    rw [hlane]
    rcases Merge.lane_cases policy proposals with ⟨hoff, hnone⟩ | ⟨hactive, -, hoffered⟩
    · rw [hoff]
      exact iff_of_false nofun hnone
    · exact iff_of_true hactive hoffered
  · show (limits.filterAlert (Merge.alert policy (Merge.ordered proposals))).active = true ↔ _
    rw [halert]
    rcases Merge.alert_cases policy proposals with ⟨hoff, hnone⟩ | ⟨a, hshown, -, hoffered⟩
    · rw [hoff]
      exact iff_of_false nofun hnone
    · rw [hshown]
      exact iff_of_true rfl hoffered

end Limits

/-! ## Settings -/

namespace Settings

variable {s : Settings}

/-- Settings that pass the check filter by what they merge by. -/
theorem Passes.admits (h : s.Passes) :
    s.limits.Admits { minConfidence := s.minConfidence } where
  minConfidence := rfl
  le_one := h.minConfidence.2
  alertLimit := Nat.le_refl _

/-- **What merging picks is published**, for all settings that pass the check and have a highest speed. -/
theorem passedOn_of_validate (h : s.validate = .ok ()) (hspeed : s.maxSpeed.isNaN = false) :
    ∃ cycle, s.cycle? = .ok cycle ∧ ∀ proposals reference, ∃ out,
      s.limits.enforce? (merge cycle.policy proposals) reference = some out ∧
      Limits.PassedOn cycle.policy proposals (merge cycle.policy proposals) out := by
  have hpasses := validate_eq_ok_iff.mp h
  obtain ⟨timeout, hcycle⟩ := hpasses.cycle?_eq
  have hpos : 0 < s.limits.maxSpeed :=
    (Binary.not_le hspeed Binary.isNaN_zero).mp fun hle => hpasses.speeds (.inl hle)
  refine ⟨_, hcycle, ?_⟩
  intro proposals reference
  exact ⟨_, Limits.enforce?_eq_some hpos _ reference, hpasses.admits.passedOn proposals reference⟩

/-- Settings that let nothing but certainty through. -/
def certain : Settings := { minConfidence := 1 }

/-- More than certain, and no number at all. -/
def beyondCertain : List Proposal :=
  [{ skill := "gap", lane := some ⟨.left, "gap", 7⟩ },
    { skill := "noise", rank := 1, lane := some ⟨.right, "noise", Binary.nan⟩
      alert := some ⟨"noise", .critical, Binary.nan⟩ }]

theorem passedOn_of_validate_certain :
    certain.validate = .ok () ∧ certain.maxSpeed.isNaN = false ∧
    ∃ cycle, certain.cycle? = .ok cycle ∧ ∃ out,
      certain.limits.enforce? (merge cycle.policy beyondCertain) none = some out ∧
      Limits.PassedOn cycle.policy beyondCertain (merge cycle.policy beyondCertain) out := by
  have hpasses : Passes certain := { passes_default with minConfidence := by decide +kernel }
  have h : certain.validate = .ok () := validate_eq_ok_iff.mpr hpasses
  have hspeed : certain.maxSpeed.isNaN = false := by decide +kernel
  obtain ⟨cycle, hcycle, hpassed⟩ := passedOn_of_validate h hspeed
  exact ⟨h, hspeed, cycle, hcycle, hpassed beyondCertain none⟩

end Settings
end DriveAdvisory
