/-
  What the limits guarantee of every advisory that is published.

  `Limits.enforce` decides three axes, and each decision has two halves: the GATE, which is the same for
  all three and looks at the confidence alone, and what is done to the axis once it has passed.  The halves
  are specified apart, one lemma each, and put together at the end:

  * `gate?_eq_some_iff`   an axis passes if it was active and its held confidence is not below the least;
  * `holdSpeed_cases`     a target is clamped, or raised to the floor that the reference sets;
  * `enforce?_enforced`   the advisory that comes out, compared with the one that went in (`Enforced`).

  The last one covers every advisory, whatever its numbers: NaNs, infinities and values that an inactive
  axis carries along are inputs like any other.  It asks of the limits what a configuration is checked for
  (`Limits.Sound`), and under the same conditions `enforce?` always has a value.
-/
import DriveAdvisory.Advisory.Safety
import DriveAdvisory.Proofs.Number.Rounding

namespace DriveAdvisory.Limits

/-- There is room for a speed and for a step. -/
structure Usable (limits : Limits) : Prop where
  maxSpeed_pos : 0 < limits.maxSpeed
  maxStep_pos : 0 < limits.maxStep

/-- What a configuration's limits are checked for. -/
structure Sound (limits : Limits) : Prop extends Usable limits where
  minConfidence_nonneg : 0 ≤ limits.minConfidence
  minConfidence_le_one : limits.minConfidence ≤ 1

variable {limits : Limits} {reference : Option Single}

/-- `[0, maxSpeed]` is an interval. -/
theorem Usable.bounds (h : limits.Usable) : Binary.Bounds 0 limits.maxSpeed :=
  Binary.le_of_lt h.maxSpeed_pos

/-! ## The gate -/

theorem zero_le_one : (0 : Single) ≤ 1 := by decide

theorem isFinite_zero : (0 : Single).isFinite = true := by decide

/-- A held confidence lies between nothing and certainty. -/
theorem unitConfidence_bounds (confidence : Single) :
    0 ≤ unitConfidence confidence ∧ unitConfidence confidence ≤ 1 := by
  rw [unitConfidence]
  split
  · rename_i h
    have hn := Binary.not_isNaN_of_isFinite h
    exact ⟨Binary.low_le_clamp zero_le_one hn, Binary.clamp_le_high zero_le_one hn⟩
  · exact ⟨Binary.le_refl_iff.mpr Binary.isNaN_zero, zero_le_one⟩

/-- Holding a confidence to `[0, 1]` does not push it below a bound that it reached. -/
theorem le_unitConfidence {least confidence : Single} (hone : least ≤ 1)
    (hfin : confidence.isFinite = true) (h : least ≤ confidence) :
    least ≤ unitConfidence confidence := by
  rw [unitConfidence, if_pos hfin]
  exact Binary.le_clamp zero_le_one h hone

theorem gate?_eq_some_iff {active : Bool} {confidence held : Single} :
    limits.gate? active confidence = some held ↔ active = true ∧
      ¬ unitConfidence confidence < limits.minConfidence ∧ held = unitConfidence confidence := by
  rw [gate?]
  cases active with
  | false => simp
  | true =>
    by_cases h : unitConfidence confidence < limits.minConfidence
    · simp [h]
    · simp [h, eq_comm]

/-- What the gate owes an axis.  `admissible` is what the axis has to bring besides its confidence; what
    is not finite counts as no confidence at all, so it passes only where none is asked for. -/
structure Gated (limits : Limits) (wasActive admissible : Bool) (before : Single) (active : Bool)
    (after : Single) : Prop where
  was_active : active = true → wasActive = true
  least_le : active = true → limits.minConfidence ≤ after
  le_one : active = true → after ≤ 1
  held : active = true → after = unitConfidence before
  active_iff : active = true ↔
    wasActive = true ∧ admissible = true ∧ limits.minConfidence ≤ unitConfidence before
  stays : wasActive = true → admissible = true → before.isFinite = true →
    limits.minConfidence ≤ before → active = true

/-- An axis that is active exactly if it passed the gate and was admissible, and then has the held
    confidence, is gated. -/
theorem Sound.gated (h : limits.Sound) {wasActive admissible active : Bool} {before after : Single}
    (hactive : active = true ↔ (limits.gate? wasActive before).isSome = true ∧ admissible = true)
    (hafter : active = true → after = unitConfidence before) :
    Gated limits wasActive admissible before active after := by
  have hunit := unitConfidence_bounds before
  have hleast : ¬ unitConfidence before < limits.minConfidence ↔
      limits.minConfidence ≤ unitConfidence before :=
    Binary.not_lt (Binary.not_isNaN_of_le_left hunit.2)
      (Binary.not_isNaN_of_le_left h.minConfidence_le_one)
  have hiff : active = true ↔
      wasActive = true ∧ admissible = true ∧ limits.minConfidence ≤ unitConfidence before := by
    rw [hactive, Option.isSome_iff_exists]
    constructor
    · rintro ⟨⟨held, hg⟩, hadm⟩
      obtain ⟨hwas, hpass, -⟩ := gate?_eq_some_iff.mp hg
      exact ⟨hwas, hadm, hleast.mp hpass⟩
    · rintro ⟨hwas, hadm, hle⟩
      exact ⟨⟨_, gate?_eq_some_iff.mpr ⟨hwas, hleast.mpr hle, rfl⟩⟩, hadm⟩
  exact {
    was_active := fun ha => (hiff.mp ha).1
    least_le := fun ha => by rw [hafter ha]; exact (hiff.mp ha).2.2
    le_one := fun ha => by rw [hafter ha]; exact hunit.2
    held := hafter
    active_iff := hiff
    stays := fun hwas hadm hfin hle =>
      hiff.mpr ⟨hwas, hadm, le_unitConfidence h.minConfidence_le_one hfin hle⟩ }

/-! ## The speed -/

theorem floor?_eq_some_iff {floor : Single} : limits.floor? reference = some floor ↔
    ∃ r, reference = some r ∧ r.isFinite = true ∧ floor = r - limits.maxStep := by
  rw [floor?, Option.map_eq_some_iff]
  constructor
  · rintro ⟨r, hr, rfl⟩
    obtain ⟨hsome, hfin⟩ := Option.filter_eq_some_iff.mp hr
    exact ⟨r, hsome, hfin, rfl⟩
  · rintro ⟨r, hsome, hfin, rfl⟩
    exact ⟨r, Option.filter_eq_some_iff.mpr ⟨hsome, hfin⟩, rfl⟩

/-- A floor is a number: a step below something finite. -/
theorem Usable.floor_number (h : limits.Usable) {floor : Single}
    (hf : limits.floor? reference = some floor) : floor.isNaN = false := by
  obtain ⟨r, -, hfin, rfl⟩ := floor?_eq_some_iff.mp hf
  exact Binary.not_isNaN_of_le_left (Binary.sub_le_self hfin h.maxStep_pos)

/-- **The two ways of a target**: it is clamped and not below any floor, or it would be below one and is
    set to that floor, capped.  The floor is positive then, so nothing holds it above zero. -/
theorem Usable.holdSpeed_cases (h : limits.Usable) (reference : Option Single) {target : Single}
    (ht : target.isFinite = true) :
    (limits.holdSpeed reference target = target.clamp 0 limits.maxSpeed ∧
      ∀ floor, limits.floor? reference = some floor →
        floor ≤ target.clamp 0 limits.maxSpeed) ∨
    (∃ floor, limits.floor? reference = some floor ∧ target.clamp 0 limits.maxSpeed < floor ∧
      limits.holdSpeed reference target = floor.min limits.maxSpeed) := by
  have hclamp := Binary.low_le_clamp h.bounds (Binary.not_isNaN_of_isFinite ht)
  cases hf : limits.floor? reference with
  | none =>
    left
    refine ⟨by simp only [holdSpeed, hf], ?_⟩
    intro floor hsome
    nomatch hsome
  | some floor =>
    have hfloor := h.floor_number hf
    by_cases hlt : target.clamp 0 limits.maxSpeed < floor
    · right
      refine ⟨floor, rfl, hlt, ?_⟩
      -- the floor lies above a clamped target, and so above zero
      have hpos : 0 < floor.min limits.maxSpeed := by
        rcases Binary.min_cases hfloor (Binary.not_isNaN_of_le_right h.bounds) with ⟨he, -⟩ | ⟨he, -⟩
        · rw [he]; exact Binary.lt_of_le_of_lt hclamp hlt
        · rw [he]; exact h.maxSpeed_pos
      simp only [holdSpeed, hf, if_pos hlt]
      exact Binary.max_zero_of_pos hpos
    · left
      refine ⟨by simp only [holdSpeed, hf, if_neg hlt], ?_⟩
      intro floor' hsome
      obtain rfl : floor = floor' := Option.some.inj hsome
      exact (Binary.not_lt (Binary.not_isNaN_of_le_right hclamp) hfloor).mp hlt

/-- What a published speed owes the one that was asked for. -/
structure Held (limits : Limits) (reference : Option Single) (asked held : Single) : Prop where
  nonneg : 0 ≤ held
  le_maxSpeed : held ≤ limits.maxSpeed
  floor_le : ∀ r, reference = some r → r.isFinite = true →
    (r - limits.maxStep).min limits.maxSpeed ≤ held
  clamped : (∀ r, reference = some r → r.isFinite = true →
      ¬ asked.clamp 0 limits.maxSpeed < r - limits.maxStep) →
    held = asked.clamp 0 limits.maxSpeed
  raised : ∀ r, reference = some r → r.isFinite = true →
    asked.clamp 0 limits.maxSpeed < r - limits.maxStep →
    held = (r - limits.maxStep).min limits.maxSpeed

theorem Usable.held (h : limits.Usable) (reference : Option Single) {target : Single}
    (ht : target.isFinite = true) :
    Held limits reference target (limits.holdSpeed reference target) := by
  have hn := Binary.not_isNaN_of_isFinite ht
  have hmax := Binary.not_isNaN_of_le_right h.bounds
  rcases h.holdSpeed_cases reference ht with ⟨he, hfloor⟩ | ⟨floor, hf, hlt, he⟩
  · rw [he]
    have hsome : ∀ r, reference = some r → r.isFinite = true →
        limits.floor? reference = some (r - limits.maxStep) :=
      fun r hr hfin => floor?_eq_some_iff.mpr ⟨r, hr, hfin, rfl⟩
    refine ⟨Binary.low_le_clamp h.bounds hn, Binary.clamp_le_high h.bounds hn, ?_, fun _ => rfl, ?_⟩
    · intro r hr hfin
      have hf := hsome r hr hfin
      exact Binary.le_trans (Binary.min_le_left (h.floor_number hf) hmax) (hfloor _ hf)
    · intro r hr hfin hlt
      -- the clamped target is not below any floor here
      have hf := hsome r hr hfin
      have hclamp := Binary.not_isNaN_of_le_right (Binary.low_le_clamp h.bounds hn)
      exact absurd hlt ((Binary.not_lt hclamp (h.floor_number hf)).mpr (hfloor _ hf))
  · have hfloor := h.floor_number hf
    have hpos : 0 ≤ floor.min limits.maxSpeed := by
      rcases Binary.min_cases hfloor hmax with ⟨hm, -⟩ | ⟨hm, -⟩
      · rw [hm]
        exact Binary.le_of_lt (Binary.lt_of_le_of_lt (Binary.low_le_clamp h.bounds hn) hlt)
      · rw [hm]; exact h.bounds
    obtain ⟨r, hr, hfin, rfl⟩ := floor?_eq_some_iff.mp hf
    rw [he]
    refine ⟨hpos, Binary.min_le_right hfloor hmax, ?_, ?_, ?_⟩
    · intro r' hr' _
      obtain rfl : r = r' := Option.some.inj (hr.symm.trans hr')
      exact Binary.le_refl_iff.mpr (Binary.not_isNaN_of_le_right hpos)
    · intro hno
      exact absurd hlt (hno r hr hfin)
    · intro r' hr' _ _
      obtain rfl : r = r' := Option.some.inj (hr.symm.trans hr')
      rfl

/-- What is published for a finite target is finite, also where nothing caps it. -/
theorem Usable.isFinite_holdSpeed (h : limits.Usable) (reference : Option Single) {target : Single}
    (ht : target.isFinite = true) : (limits.holdSpeed reference target).isFinite = true := by
  rcases h.holdSpeed_cases reference ht with ⟨he, -⟩ | ⟨floor, hf, -, he⟩
  · rw [he]
    exact Binary.isFinite_clamp h.bounds isFinite_zero ht
  · -- between zero and the reference, which is finite where it sets a floor
    have hnonneg := (h.held reference ht).nonneg
    have hfloor := h.floor_number hf
    obtain ⟨r, -, hfin, rfl⟩ := floor?_eq_some_iff.mp hf
    have hle : (r - limits.maxStep).min limits.maxSpeed ≤ r :=
      Binary.le_trans (Binary.min_le_left hfloor (Binary.not_isNaN_of_le_right h.bounds))
        (Binary.sub_le_self hfin h.maxStep_pos)
    rw [he] at hnonneg ⊢
    exact Binary.isFinite_of_between isFinite_zero hfin hnonneg hle

/-! ## The axes -/

theorem filterSpeed_active_iff {axis : SpeedAxis} :
    (limits.filterSpeed reference axis).active = true ↔
      (limits.gate? axis.active axis.confidence).isSome = true ∧ axis.target.isFinite = true := by
  rw [filterSpeed]
  split
  · rename_i hg; simp [hg]
  · rename_i hg
    split
    · rename_i ht; simp [hg, ht]
    · rename_i ht; simp [ht]

/-- An inactive speed axis stands at its default. -/
theorem filterSpeed_of_inactive {axis : SpeedAxis}
    (h : (limits.filterSpeed reference axis).active = false) :
    limits.filterSpeed reference axis = {} := by
  rw [filterSpeed] at h ⊢
  split
  · rfl
  · rename_i hg
    rw [hg] at h
    split
    · rename_i ht
      simp [ht] at h
    · rfl

/-- An active speed axis holds its target, and keeps its source. -/
theorem filterSpeed_of_active {axis : SpeedAxis}
    (h : (limits.filterSpeed reference axis).active = true) :
    axis.target.isFinite = true ∧ limits.filterSpeed reference axis =
      { active := true, target := limits.holdSpeed reference axis.target, source := axis.source
        confidence := unitConfidence axis.confidence, ahead := (0 : Single).max axis.ahead } := by
  obtain ⟨hg, ht⟩ := filterSpeed_active_iff.mp h
  obtain ⟨held, hg⟩ := Option.isSome_iff_exists.mp hg
  obtain ⟨-, -, rfl⟩ := gate?_eq_some_iff.mp hg
  refine ⟨ht, ?_⟩
  simp only [filterSpeed, hg, ht, if_true]

/-- An active axis with a finite target passes if its confidence does. -/
theorem filterSpeed_passes_iff {axis : SpeedAxis} (ha : axis.active = true)
    (ht : axis.target.isFinite = true) : (limits.filterSpeed reference axis).active = true ↔
      ¬ unitConfidence axis.confidence < limits.minConfidence := by
  rw [filterSpeed_active_iff, Option.isSome_iff_exists]
  constructor
  · rintro ⟨⟨held, hg⟩, -⟩
    exact (gate?_eq_some_iff.mp hg).2.1
  · intro hpass
    exact ⟨⟨_, gate?_eq_some_iff.mpr ⟨ha, hpass, rfl⟩⟩, ht⟩

theorem filterLane_active_iff {axis : LaneAxis} : (limits.filterLane axis).active = true ↔
    (limits.gate? axis.active axis.confidence).isSome = true := by
  rw [filterLane]
  split
  · rename_i hg; simp [hg]
  · rename_i hg
    rw [hg, (gate?_eq_some_iff.mp hg).1]
    simp

theorem filterLane_of_inactive {axis : LaneAxis} (h : (limits.filterLane axis).active = false) :
    limits.filterLane axis = {} := by
  rw [filterLane] at h ⊢
  split
  · rfl
  · rename_i hg
    rw [hg, (gate?_eq_some_iff.mp hg).1] at h
    nomatch h

theorem filterLane_of_active {axis : LaneAxis} (h : (limits.filterLane axis).active = true) :
    limits.filterLane axis = { axis with confidence := unitConfidence axis.confidence } := by
  obtain ⟨held, hg⟩ := Option.isSome_iff_exists.mp (filterLane_active_iff.mp h)
  obtain ⟨-, -, rfl⟩ := gate?_eq_some_iff.mp hg
  simp only [filterLane, hg]

theorem filterAlert_active_iff {axis : AlertAxis} : (limits.filterAlert axis).active = true ↔
    (limits.gate? axis.active axis.confidence).isSome = true := by
  rw [filterAlert]
  split
  · rename_i hg; simp [hg]
  · rename_i hg; simp [hg]

theorem filterAlert_of_inactive {axis : AlertAxis}
    (h : (limits.filterAlert axis).active = false) : limits.filterAlert axis = {} := by
  rw [filterAlert] at h ⊢
  split
  · rfl
  · rename_i hg
    rw [hg] at h
    nomatch h

theorem filterAlert_of_active {axis : AlertAxis} (h : (limits.filterAlert axis).active = true) :
    limits.filterAlert axis =
      { active := true, text := Text.cut limits.alertLimit axis.text, tier := axis.tier
        confidence := unitConfidence axis.confidence } := by
  obtain ⟨held, hg⟩ := Option.isSome_iff_exists.mp (filterAlert_active_iff.mp h)
  obtain ⟨-, -, rfl⟩ := gate?_eq_some_iff.mp hg
  simp only [filterAlert, hg]

/-! ## The whole advisory -/

/-- Where the bounds of a speed are an interval, every advisory can be filtered. -/
theorem enforce?_eq_some (h : 0 < limits.maxSpeed) (merged : Advisory) (reference : Option Single) :
    limits.enforce? merged reference = some (limits.enforce merged reference) := by
  rw [enforce?, if_neg]
  intro hno
  exact hno.2 (Binary.le_of_lt h)

/-- What a published speed axis owes the merged one. -/
structure SpeedEnforced (limits : Limits) (reference : Option Single) (merged out : SpeedAxis) :
    Prop where
  inactive : out.active = false → out = {}
  gated : Gated limits merged.active merged.target.isFinite merged.confidence out.active out.confidence
  held : out.active = true → Held limits reference merged.target out.target
  source : out.active = true → out.source = merged.source
  ahead : out.active = true → out.ahead.isNaN = false ∧ 0 ≤ out.ahead

/-- What a published lane axis owes the merged one. -/
structure LaneEnforced (limits : Limits) (merged out : LaneAxis) : Prop where
  inactive : out.active = false → out = {}
  gated : Gated limits merged.active true merged.confidence out.active out.confidence
  kept : out.active = true → out.side = merged.side ∧ out.reason = merged.reason

/-- What a published alert axis owes the merged one. -/
structure AlertEnforced (limits : Limits) (merged out : AlertAxis) : Prop where
  inactive : out.active = false → out = {}
  gated : Gated limits merged.active true merged.confidence out.active out.confidence
  text : out.active = true →
    out.text.toList <+: merged.text.toList ∧ Text.size out.text ≤ limits.alertLimit
  tier : out.active = true → out.tier = merged.tier

/-- What a published advisory owes the merged one and the limits. -/
structure Enforced (limits : Limits) (reference : Option Single) (merged out : Advisory) : Prop where
  speed : SpeedEnforced limits reference merged.speed out.speed
  lane : LaneEnforced limits merged.lane out.lane
  alert : AlertEnforced limits merged.alert out.alert
  contributors : out.skills = merged.skills ∧ out.reason = merged.reason

theorem Sound.speedEnforced (h : limits.Sound) (reference : Option Single) (axis : SpeedAxis) :
    SpeedEnforced limits reference axis (limits.filterSpeed reference axis) where
  inactive := filterSpeed_of_inactive
  gated := h.gated filterSpeed_active_iff fun ha => by rw [(filterSpeed_of_active ha).2]
  held ha := by
    obtain ⟨ht, he⟩ := filterSpeed_of_active ha
    rw [he]
    exact h.held reference ht
  source ha := by rw [(filterSpeed_of_active ha).2]
  ahead ha := by
    rw [(filterSpeed_of_active ha).2]
    have hle := Binary.zero_le_max axis.ahead
    exact ⟨Binary.not_isNaN_of_le_right hle, hle⟩

theorem Sound.laneEnforced (h : limits.Sound) (axis : LaneAxis) :
    LaneEnforced limits axis (limits.filterLane axis) where
  inactive := filterLane_of_inactive
  gated := h.gated (filterLane_active_iff.trans (by simp))
    fun ha => by rw [filterLane_of_active ha]
  kept ha := by
    rw [filterLane_of_active ha]
    exact ⟨rfl, rfl⟩

theorem Sound.alertEnforced (h : limits.Sound) (axis : AlertAxis) :
    AlertEnforced limits axis (limits.filterAlert axis) where
  inactive := filterAlert_of_inactive
  gated := h.gated (filterAlert_active_iff.trans (by simp))
    fun ha => by rw [filterAlert_of_active ha]
  text ha := by
    rw [filterAlert_of_active ha]
    show (Text.cut limits.alertLimit axis.text).toList <+: axis.text.toList ∧ _
    rw [Text.toList_cut]
    exact ⟨List.take_prefix _ _, Text.size_cut_le _ _⟩
  tier ha := by rw [filterAlert_of_active ha]

/-- **What is published keeps to the limits**, whatever was merged and whatever the reference is. -/
theorem enforce?_enforced (h : limits.Sound) (merged : Advisory) (reference : Option Single) :
    ∃ out, limits.enforce? merged reference = some out ∧
      Enforced limits reference merged out := by
  refine ⟨_, enforce?_eq_some h.maxSpeed_pos merged reference, ?_⟩
  exact {
    speed := h.speedEnforced reference merged.speed
    lane := h.laneEnforced merged.lane
    alert := h.alertEnforced merged.alert
    contributors := ⟨rfl, rfl⟩ }

/-- An advisory no cycle would make: the target is far above the cap and its confidence above
    certainty, the lane's confidence is a NaN, and the alert is off but carries a text along. -/
def wild : Advisory :=
  { speed := { active := true, target := 200, source := "wild", confidence := 7, ahead := Binary.nan }
    lane := { active := true, side := .left, reason := "wild", confidence := Binary.nan }
    alert := { active := false, text := "stale", tier := .critical, confidence := 1 } }

/-- The limits of a fresh configuration are sound. -/
theorem sound_fresh : Limits.Sound {} where
  maxSpeed_pos := by decide
  maxStep_pos := by decide
  minConfidence_nonneg := by decide
  minConfidence_le_one := by decide

/-- The limits of a fresh configuration, and a reference beyond the cap. -/
theorem enforce?_enforced_wild : Limits.Sound {} ∧
    ∃ out, Limits.enforce? {} wild (some 100) = some out ∧
      Enforced {} (some 100) wild out := by
  exact ⟨sound_fresh, enforce?_enforced sound_fresh wild (some 100)⟩

end DriveAdvisory.Limits
