/-
  The filter as a projection: it changes nothing in what is safe, and what it publishes is safe.

  What it is for an advisory to be safe is said of its axes, with no reference to the filter (`Safe`).  The filter
  is then followed along one axis at a time: a safe target is held as it is, a trusted confidence passes as it is,
  a short text is not cut.

  Two places need care:

  * where the reference lies more than a step above the highest speed, the floor lies above that speed as well, and
    the only safe target is the highest speed itself.  The filter does replace it, by a number that is equal to it,
    and equal positive numbers are the same (`SafeTarget.holdSpeed_eq`);
  * `-0` metres ahead become `0`, and so do the zeros of an inactive axis.  These are equal but not the same, so
    what is safe is kept up to `eqv` and what has been filtered once is kept to the bit.
-/
import DriveAdvisory.Proofs.Advisory.Enforcement

namespace DriveAdvisory

/-! ## Equal axes -/

theorem SpeedAxis.eqv_iff {a b : SpeedAxis} : a.eqv b = true ↔
    a.active = b.active ∧ a.target.eqv b.target = true ∧ a.source = b.source ∧
      a.confidence.eqv b.confidence = true ∧ a.ahead.eqv b.ahead = true := by
  simp only [SpeedAxis.eqv, Bool.and_eq_true, beq_iff_eq, and_assoc]

theorem LaneAxis.eqv_iff {a b : LaneAxis} : a.eqv b = true ↔
    a.active = b.active ∧ a.side = b.side ∧ a.reason = b.reason ∧
      a.confidence.eqv b.confidence = true := by
  simp only [LaneAxis.eqv, Bool.and_eq_true, beq_iff_eq, and_assoc]

theorem AlertAxis.eqv_iff {a b : AlertAxis} : a.eqv b = true ↔
    a.active = b.active ∧ a.text = b.text ∧ a.tier = b.tier ∧
      a.confidence.eqv b.confidence = true := by
  simp only [AlertAxis.eqv, Bool.and_eq_true, beq_iff_eq, and_assoc]

theorem Advisory.eqv_iff {a b : Advisory} : a.eqv b = true ↔
    a.speed.eqv b.speed = true ∧ a.lane.eqv b.lane = true ∧ a.alert.eqv b.alert = true ∧
      a.skills = b.skills ∧ a.reason = b.reason := by
  simp only [Advisory.eqv, Bool.and_eq_true, beq_iff_eq, and_assoc]

theorem SpeedAxis.eqv_symm {a b : SpeedAxis} (h : a.eqv b = true) : b.eqv a = true := by
  obtain ⟨hactive, htarget, hsource, hconfidence, hahead⟩ := SpeedAxis.eqv_iff.mp h
  exact SpeedAxis.eqv_iff.mpr ⟨hactive.symm, Binary.eqv_symm htarget, hsource.symm,
    Binary.eqv_symm hconfidence, Binary.eqv_symm hahead⟩

theorem LaneAxis.eqv_symm {a b : LaneAxis} (h : a.eqv b = true) : b.eqv a = true := by
  obtain ⟨hactive, hside, hreason, hconfidence⟩ := LaneAxis.eqv_iff.mp h
  exact LaneAxis.eqv_iff.mpr ⟨hactive.symm, hside.symm, hreason.symm, Binary.eqv_symm hconfidence⟩

theorem AlertAxis.eqv_symm {a b : AlertAxis} (h : a.eqv b = true) : b.eqv a = true := by
  obtain ⟨hactive, htext, htier, hconfidence⟩ := AlertAxis.eqv_iff.mp h
  exact AlertAxis.eqv_iff.mpr ⟨hactive.symm, htext.symm, htier.symm, Binary.eqv_symm hconfidence⟩

theorem SpeedAxis.eqv_trans {a b c : SpeedAxis} (hab : a.eqv b = true) (hbc : b.eqv c = true) :
    a.eqv c = true := by
  obtain ⟨hactive, htarget, hsource, hconfidence, hahead⟩ := SpeedAxis.eqv_iff.mp hab
  obtain ⟨hactive', htarget', hsource', hconfidence', hahead'⟩ := SpeedAxis.eqv_iff.mp hbc
  exact SpeedAxis.eqv_iff.mpr ⟨hactive.trans hactive', Binary.eqv_trans htarget htarget',
    hsource.trans hsource', Binary.eqv_trans hconfidence hconfidence', Binary.eqv_trans hahead hahead'⟩

theorem LaneAxis.eqv_trans {a b c : LaneAxis} (hab : a.eqv b = true) (hbc : b.eqv c = true) :
    a.eqv c = true := by
  obtain ⟨hactive, hside, hreason, hconfidence⟩ := LaneAxis.eqv_iff.mp hab
  obtain ⟨hactive', hside', hreason', hconfidence'⟩ := LaneAxis.eqv_iff.mp hbc
  exact LaneAxis.eqv_iff.mpr ⟨hactive.trans hactive', hside.trans hside', hreason.trans hreason',
    Binary.eqv_trans hconfidence hconfidence'⟩

theorem AlertAxis.eqv_trans {a b c : AlertAxis} (hab : a.eqv b = true) (hbc : b.eqv c = true) :
    a.eqv c = true := by
  obtain ⟨hactive, htext, htier, hconfidence⟩ := AlertAxis.eqv_iff.mp hab
  obtain ⟨hactive', htext', htier', hconfidence'⟩ := AlertAxis.eqv_iff.mp hbc
  exact AlertAxis.eqv_iff.mpr ⟨hactive.trans hactive', htext.trans htext', htier.trans htier',
    Binary.eqv_trans hconfidence hconfidence'⟩

namespace Limits

variable {limits : Limits} {reference : Option Single}

/-! ## Safe advisories -/

/-- The confidence that an active axis needs. -/
structure Trusted (limits : Limits) (confidence : Single) : Prop where
  least_le : limits.minConfidence ≤ confidence
  le_one : confidence ≤ 1

/-- A speed within the limits, and not too far below the reference. -/
structure SafeTarget (limits : Limits) (reference : Option Single) (target : Single) : Prop where
  finite : target.isFinite = true
  nonneg : 0 ≤ target
  le_maxSpeed : target ≤ limits.maxSpeed
  floor_le : ∀ r, reference = some r → r.isFinite = true →
    (r - limits.maxStep).min limits.maxSpeed ≤ target

structure SafeSpeed (limits : Limits) (reference : Option Single) (axis : SpeedAxis) : Prop where
  inactive : axis.active = false → axis.eqv {} = true
  trusted : axis.active = true → Trusted limits axis.confidence
  target : axis.active = true → SafeTarget limits reference axis.target
  ahead : axis.active = true → 0 ≤ axis.ahead

structure SafeLane (limits : Limits) (axis : LaneAxis) : Prop where
  inactive : axis.active = false → axis.eqv {} = true
  trusted : axis.active = true → Trusted limits axis.confidence

structure SafeAlert (limits : Limits) (axis : AlertAxis) : Prop where
  inactive : axis.active = false → axis.eqv {} = true
  trusted : axis.active = true → Trusted limits axis.confidence
  text : axis.active = true → Text.size axis.text ≤ limits.alertLimit

/-- An advisory that keeps to the limits: inactive axes stand at their defaults, active ones in their ranges. -/
structure Safe (limits : Limits) (reference : Option Single) (a : Advisory) : Prop where
  speed : SafeSpeed limits reference a.speed
  lane : SafeLane limits a.lane
  alert : SafeAlert limits a.alert

/-! ## Safety is a matter of numbers, not of bits -/

theorem Trusted.of_eqv {c c' : Single} (h : Trusted limits c) (heqv : c.eqv c' = true) :
    Trusted limits c' := by
  obtain ⟨hle, hge⟩ := Binary.eqv_iff.mp heqv
  exact ⟨Binary.le_trans h.least_le hle, Binary.le_trans hge h.le_one⟩

theorem SafeTarget.of_eqv {t t' : Single} (h : SafeTarget limits reference t)
    (heqv : t.eqv t' = true) : SafeTarget limits reference t' := by
  obtain ⟨hle, hge⟩ := Binary.eqv_iff.mp heqv
  constructor
  case finite => exact Binary.isFinite_of_between h.finite h.finite hle hge
  case nonneg => exact Binary.le_trans h.nonneg hle
  case le_maxSpeed => exact Binary.le_trans hge h.le_maxSpeed
  case floor_le =>
    intro r hr hfin
    exact Binary.le_trans (h.floor_le r hr hfin) hle

theorem SafeSpeed.of_eqv {a b : SpeedAxis} (h : SafeSpeed limits reference a)
    (heqv : a.eqv b = true) : SafeSpeed limits reference b := by
  obtain ⟨hactive, htarget, -, hconfidence, hahead⟩ := SpeedAxis.eqv_iff.mp heqv
  constructor
  case inactive =>
    intro hoff
    exact SpeedAxis.eqv_trans (SpeedAxis.eqv_symm heqv) (h.inactive (hactive.trans hoff))
  case trusted =>
    intro hon
    exact (h.trusted (hactive.trans hon)).of_eqv hconfidence
  case target =>
    intro hon
    exact (h.target (hactive.trans hon)).of_eqv htarget
  case ahead =>
    intro hon
    exact Binary.le_trans (h.ahead (hactive.trans hon)) (Binary.eqv_iff.mp hahead).1

theorem SafeLane.of_eqv {a b : LaneAxis} (h : SafeLane limits a) (heqv : a.eqv b = true) :
    SafeLane limits b := by
  obtain ⟨hactive, -, -, hconfidence⟩ := LaneAxis.eqv_iff.mp heqv
  constructor
  case inactive =>
    intro hoff
    exact LaneAxis.eqv_trans (LaneAxis.eqv_symm heqv) (h.inactive (hactive.trans hoff))
  case trusted =>
    intro hon
    exact (h.trusted (hactive.trans hon)).of_eqv hconfidence

theorem SafeAlert.of_eqv {a b : AlertAxis} (h : SafeAlert limits a) (heqv : a.eqv b = true) :
    SafeAlert limits b := by
  obtain ⟨hactive, htext, -, hconfidence⟩ := AlertAxis.eqv_iff.mp heqv
  constructor
  case inactive =>
    intro hoff
    exact AlertAxis.eqv_trans (AlertAxis.eqv_symm heqv) (h.inactive (hactive.trans hoff))
  case trusted =>
    intro hon
    exact (h.trusted (hactive.trans hon)).of_eqv hconfidence
  case text =>
    intro hon
    rw [← htext]
    exact h.text (hactive.trans hon)

theorem Safe.of_eqv {a b : Advisory} (h : Safe limits reference a) (heqv : a.eqv b = true) :
    Safe limits reference b := by
  obtain ⟨hspeed, hlane, halert, -, -⟩ := Advisory.eqv_iff.mp heqv
  exact ⟨h.speed.of_eqv hspeed, h.lane.of_eqv hlane, h.alert.of_eqv halert⟩

/-! ## What is published is safe -/

theorem speed_default_eqv : SpeedAxis.eqv {} {} = true := by decide

theorem lane_default_eqv : LaneAxis.eqv {} {} = true := by decide

theorem alert_default_eqv : AlertAxis.eqv {} {} = true := by decide

theorem Enforced.safe {merged out : Advisory} (h : Enforced limits reference merged out)
    (hspeed : out.speed.active = true → out.speed.target.isFinite = true) :
    Safe limits reference out := by
  constructor
  case speed =>
    constructor
    case inactive =>
      intro hoff
      rw [h.speed.inactive hoff]
      exact speed_default_eqv
    case trusted =>
      intro hon
      exact ⟨h.speed.gated.least_le hon, h.speed.gated.le_one hon⟩
    case target =>
      intro hon
      have hheld := h.speed.held hon
      exact ⟨hspeed hon, hheld.nonneg, hheld.le_maxSpeed, hheld.floor_le⟩
    case ahead =>
      intro hon
      exact (h.speed.ahead hon).2
  case lane =>
    constructor
    case inactive =>
      intro hoff
      rw [h.lane.inactive hoff]
      exact lane_default_eqv
    case trusted =>
      intro hon
      exact ⟨h.lane.gated.least_le hon, h.lane.gated.le_one hon⟩
  case alert =>
    constructor
    case inactive =>
      intro hoff
      rw [h.alert.inactive hoff]
      exact alert_default_eqv
    case trusted =>
      intro hon
      exact ⟨h.alert.gated.least_le hon, h.alert.gated.le_one hon⟩
    case text =>
      intro hon
      exact (h.alert.text hon).2

theorem Sound.safe_enforce (h : limits.Sound) (reference : Option Single) (merged : Advisory) :
    Safe limits reference (limits.enforce merged reference) := by
  have henforced : Enforced limits reference merged (limits.enforce merged reference) := {
    speed := h.speedEnforced reference merged.speed
    lane := h.laneEnforced merged.lane
    alert := h.alertEnforced merged.alert
    contributors := ⟨rfl, rfl⟩ }
  apply henforced.safe
  intro hon
  obtain ⟨hfinite, haxis⟩ := filterSpeed_of_active hon
  show (limits.filterSpeed reference merged.speed).target.isFinite = true
  rw [haxis]
  exact h.isFinite_holdSpeed reference hfinite

/-! ## What is safe is kept -/

theorem isFinite_one : (1 : Single).isFinite = true := by decide

/-- A trusted confidence is held as it is. -/
theorem Sound.unitConfidence_eq (h : limits.Sound) {confidence : Single}
    (ht : Trusted limits confidence) : unitConfidence confidence = confidence := by
  have hnonneg : 0 ≤ confidence := Binary.le_trans h.minConfidence_nonneg ht.least_le
  have hfinite := Binary.isFinite_of_between isFinite_zero isFinite_one hnonneg ht.le_one
  rw [unitConfidence, if_pos hfinite]
  exact Binary.clamp_of_mem hnonneg ht.le_one

/-- An active axis with a trusted confidence passes the gate with it. -/
theorem Sound.gate?_eq (h : limits.Sound) {confidence : Single} (ht : Trusted limits confidence) :
    limits.gate? true confidence = some confidence := by
  have hunit := h.unitConfidence_eq ht
  rw [gate?_eq_some_iff, hunit]
  refine ⟨rfl, ?_, rfl⟩
  exact (Binary.not_lt (Binary.not_isNaN_of_le_left ht.le_one)
    (Binary.not_isNaN_of_le_left ht.least_le)).mpr ht.least_le

/-- A safe target is held as it is. -/
theorem SafeTarget.holdSpeed_eq {target : Single} (hs : SafeTarget limits reference target)
    (h : limits.Usable) : limits.holdSpeed reference target = target := by
  have hclamp : target.clamp 0 limits.maxSpeed = target :=
    Binary.clamp_of_mem hs.nonneg hs.le_maxSpeed
  rcases h.holdSpeed_cases reference hs.finite with ⟨he, -⟩ | ⟨floor, hf, hlt, he⟩
  · rw [he, hclamp]
  · obtain ⟨r, hr, hfin, rfl⟩ := floor?_eq_some_iff.mp hf
    have hfloor := hs.floor_le r hr hfin
    have hmax := Binary.not_isNaN_of_le_right hs.le_maxSpeed
    rw [hclamp] at hlt
    rw [he]
    rcases Binary.min_cases (h.floor_number hf) hmax with ⟨hm, -⟩ | ⟨hm, -⟩
    · -- a target that is not below the floor is not raised to it
      rw [hm] at hfloor
      have hcontra := Binary.lt_of_lt_of_le hlt hfloor
      exact absurd (Binary.le_refl_iff.mpr (Binary.not_isNaN_of_isFinite hs.finite))
        ((Binary.not_le (Binary.not_isNaN_of_isFinite hs.finite)
          (Binary.not_isNaN_of_isFinite hs.finite)).mpr hcontra)
    · -- the floor is beyond the cap, and the target is at the cap
      rw [hm] at hfloor ⊢
      exact Binary.eq_of_eqv_of_pos h.maxSpeed_pos (Binary.eqv_iff.mpr ⟨hfloor, hs.le_maxSpeed⟩)

theorem gate?_of_inactive (limits : Limits) (confidence : Single) :
    limits.gate? false confidence = none := rfl

/-- An active safe speed is kept, but for the sign of a zero ahead. -/
theorem SafeSpeed.filterSpeed_eq {axis : SpeedAxis} (hs : SafeSpeed limits reference axis)
    (h : limits.Sound) (ha : axis.active = true) :
    limits.filterSpeed reference axis = { axis with ahead := (0 : Single).max axis.ahead } := by
  have htarget := hs.target ha
  have hheld := htarget.holdSpeed_eq h.toUsable
  obtain ⟨active, target, source, confidence, ahead⟩ := axis
  obtain rfl : active = true := ha
  simp only [filterSpeed, h.gate?_eq (hs.trusted rfl), htarget.finite, if_true, hheld]

theorem SafeLane.filterLane_eq {axis : LaneAxis} (hs : SafeLane limits axis) (h : limits.Sound)
    (ha : axis.active = true) : limits.filterLane axis = axis := by
  obtain ⟨active, side, reason, confidence⟩ := axis
  obtain rfl : active = true := ha
  simp only [filterLane, h.gate?_eq (hs.trusted rfl)]

theorem SafeAlert.filterAlert_eq {axis : AlertAxis} (hs : SafeAlert limits axis) (h : limits.Sound)
    (ha : axis.active = true) : limits.filterAlert axis = axis := by
  have htext := Text.cut_of_size_le (hs.text ha)
  obtain ⟨active, text, tier, confidence⟩ := axis
  obtain rfl : active = true := ha
  simp only [filterAlert, h.gate?_eq (hs.trusted rfl)]
  rw [htext]

theorem SafeSpeed.filterSpeed_eqv {axis : SpeedAxis} (hs : SafeSpeed limits reference axis)
    (h : limits.Sound) : (limits.filterSpeed reference axis).eqv axis = true := by
  cases ha : axis.active with
  | false =>
    have hoff : limits.filterSpeed reference axis = {} := by
      rw [filterSpeed, ha, gate?_of_inactive]
    rw [hoff]
    exact SpeedAxis.eqv_symm (hs.inactive ha)
  | true =>
    have htarget := Binary.not_isNaN_of_isFinite (hs.target ha).finite
    have hconfidence := Binary.not_isNaN_of_le_left (hs.trusted ha).le_one
    rw [hs.filterSpeed_eq h ha, SpeedAxis.eqv_iff]
    exact ⟨rfl, Binary.eqv_self_iff.mpr htarget, rfl, Binary.eqv_self_iff.mpr hconfidence,
      Binary.eqv_max_zero (hs.ahead ha)⟩

theorem SafeLane.filterLane_eqv {axis : LaneAxis} (hs : SafeLane limits axis) (h : limits.Sound) :
    (limits.filterLane axis).eqv axis = true := by
  cases ha : axis.active with
  | false =>
    have hoff : limits.filterLane axis = {} := by
      rw [filterLane, ha, gate?_of_inactive]
    rw [hoff]
    exact LaneAxis.eqv_symm (hs.inactive ha)
  | true =>
    have hconfidence := Binary.not_isNaN_of_le_left (hs.trusted ha).le_one
    rw [hs.filterLane_eq h ha, LaneAxis.eqv_iff]
    exact ⟨rfl, rfl, rfl, Binary.eqv_self_iff.mpr hconfidence⟩

theorem SafeAlert.filterAlert_eqv {axis : AlertAxis} (hs : SafeAlert limits axis)
    (h : limits.Sound) : (limits.filterAlert axis).eqv axis = true := by
  cases ha : axis.active with
  | false =>
    have hoff : limits.filterAlert axis = {} := by
      rw [filterAlert, ha, gate?_of_inactive]
    rw [hoff]
    exact AlertAxis.eqv_symm (hs.inactive ha)
  | true =>
    have hconfidence := Binary.not_isNaN_of_le_left (hs.trusted ha).le_one
    rw [hs.filterAlert_eq h ha, AlertAxis.eqv_iff]
    exact ⟨rfl, rfl, rfl, Binary.eqv_self_iff.mpr hconfidence⟩

/-- **A safe advisory** comes out equal to itself. -/
theorem Safe.enforce_eqv {a : Advisory} (hs : Safe limits reference a) (h : limits.Sound) :
    (limits.enforce a reference).eqv a = true :=
  Advisory.eqv_iff.mpr ⟨hs.speed.filterSpeed_eqv h, hs.lane.filterLane_eqv h,
    hs.alert.filterAlert_eqv h, rfl, rfl⟩

/-! ## Filtering twice -/

theorem Sound.filterSpeed_filterSpeed (h : limits.Sound) (reference : Option Single)
    (axis : SpeedAxis) (hs : SafeSpeed limits reference (limits.filterSpeed reference axis)) :
    limits.filterSpeed reference (limits.filterSpeed reference axis) =
      limits.filterSpeed reference axis := by
  cases ha : (limits.filterSpeed reference axis).active with
  | false =>
    rw [filterSpeed_of_inactive ha]
    rfl
  | true =>
    rw [hs.filterSpeed_eq h ha, (filterSpeed_of_active ha).2, Binary.max_zero_max_zero]

theorem Sound.filterLane_filterLane (h : limits.Sound) (axis : LaneAxis)
    (hs : SafeLane limits (limits.filterLane axis)) :
    limits.filterLane (limits.filterLane axis) = limits.filterLane axis := by
  cases ha : (limits.filterLane axis).active with
  | false =>
    rw [filterLane_of_inactive ha]
    rfl
  | true => exact hs.filterLane_eq h ha

theorem Sound.filterAlert_filterAlert (h : limits.Sound) (axis : AlertAxis)
    (hs : SafeAlert limits (limits.filterAlert axis)) :
    limits.filterAlert (limits.filterAlert axis) = limits.filterAlert axis := by
  cases ha : (limits.filterAlert axis).active with
  | false =>
    rw [filterAlert_of_inactive ha]
    rfl
  | true => exact hs.filterAlert_eq h ha

theorem Sound.enforce_enforce (h : limits.Sound) (reference : Option Single) (merged : Advisory) :
    limits.enforce (limits.enforce merged reference) reference = limits.enforce merged reference := by
  have hs := h.safe_enforce reference merged
  have hspeed := h.filterSpeed_filterSpeed reference merged.speed hs.speed
  have hlane := h.filterLane_filterLane merged.lane hs.lane
  have halert := h.filterAlert_filterAlert merged.alert hs.alert
  simp only [enforce, hspeed, hlane, halert]

/-! ## The projection -/

/-- What makes the filter a projection onto the safe advisories. -/
structure Projects (limits : Limits) (reference : Option Single) : Prop where
  /-- What it publishes is safe. -/
  safe : ∀ merged, ∃ out, limits.enforce? merged reference = some out ∧ Safe limits reference out
  /-- What is safe comes out equal to itself, and nothing else does. -/
  keeps : ∀ a, Safe limits reference a ↔
    ∃ out, limits.enforce? a reference = some out ∧ out.eqv a = true
  /-- What it has published it publishes again, to the bit. -/
  idempotent : ∀ merged, ∃ once, limits.enforce? merged reference = some once ∧
    limits.enforce? once reference = some once ∧ once.eqv once = true

/-- **The filter projects** onto the safe advisories, by any reference. -/
theorem Sound.projects (h : limits.Sound) (reference : Option Single) : Projects limits reference := by
  have hsome := fun a => enforce?_eq_some h.maxSpeed_pos a reference
  constructor
  case safe =>
    intro merged
    exact ⟨limits.enforce merged reference, hsome merged, h.safe_enforce reference merged⟩
  case keeps =>
    intro a
    constructor
    · intro ha
      exact ⟨limits.enforce a reference, hsome a, ha.enforce_eqv h⟩
    · rintro ⟨out, hout, heqv⟩
      obtain rfl : limits.enforce a reference = out := Option.some.inj ((hsome a).symm.trans hout)
      exact (h.safe_enforce reference a).of_eqv heqv
  case idempotent =>
    intro merged
    have htwice := h.enforce_enforce reference merged
    have heqv := (h.safe_enforce reference merged).enforce_eqv h
    rw [htwice] at heqv
    refine ⟨limits.enforce merged reference, hsome merged, ?_, heqv⟩
    rw [hsome, htwice]

/-- The limits of a fresh configuration, and a reference more than a step beyond the cap. -/
theorem projects_fresh : Limits.Sound {} ∧ Projects {} (some 100) := by
  exact ⟨sound_fresh, Sound.projects sound_fresh (some 100)⟩

end Limits

end DriveAdvisory
