/-
  Which settings the safety limits can be enforced with.

  Settings are checked once, and from then on the filter takes their limits at their word.  What it needs is
  an interval `[0, maxSpeed]` to hold speeds to, and a step that can be taken away from a reference.  The check
  asks for less: it refuses `maxSpeed ≤ 0` and `maxStep ≤ 0`, and a NaN is on neither side of a comparison.

  * `validate_eq_ok_iff`             the check as the list of what it asks for;
  * `enforceable_iff_of_validate`    of the settings that pass it, the enforceable ones are those whose two
    speeds are numbers.  An infinite speed or step is one, and does no harm.

  The two NaNs do different damage: without a number to hold speeds to the filter has no value at all, and
  without one to step by it goes on, its step limit switched off (`validate_nan`).
-/
import DriveAdvisory.Proofs.Advisory.Enforcement
import DriveAdvisory.Settings.Basic

namespace DriveAdvisory

/-! ## What is relied on -/

/-- What the planner relies on in a published speed. -/
structure Limits.SpeedKept (limits : Limits) (reference : Option Single) (speed : SpeedAxis) :
    Prop where
  nonneg : speed.active = true → 0 ≤ speed.target
  le_maxSpeed : speed.active = true → speed.target ≤ limits.maxSpeed
  withinStep : speed.active = true → ∀ r, reference = some r → r.isFinite = true → 0 ≤ r →
    r ≤ limits.maxSpeed → r - limits.maxStep ≤ speed.target

/-- Every advisory can be filtered, against every reference, and its speed can be relied on. -/
def Limits.Enforceable (limits : Limits) : Prop :=
  ∀ merged reference, ∃ out, limits.enforce? merged reference = some out ∧
    limits.SpeedKept reference out.speed

/-- With room for a speed and a step, the floor of a reference under the cap is the whole step. -/
theorem Limits.Usable.enforceable {limits : Limits} (h : limits.Usable) : limits.Enforceable := by
  intro merged reference
  refine ⟨_, enforce?_eq_some h.maxSpeed_pos merged reference, ?_⟩
  have hheld : (limits.filterSpeed reference merged.speed).active = true →
      Held limits reference merged.speed.target
        (limits.filterSpeed reference merged.speed).target := by
    intro ha
    obtain ⟨ht, he⟩ := filterSpeed_of_active ha
    rw [he]
    exact h.held reference ht
  refine ⟨fun ha => (hheld ha).nonneg, fun ha => (hheld ha).le_maxSpeed, ?_⟩
  intro ha r hr hfin _ hcap
  have hfloor := (hheld ha).floor_le r hr hfin
  have hstep : r - limits.maxStep ≤ limits.maxSpeed :=
    Binary.le_trans (Binary.sub_le_self hfin h.maxStep_pos) hcap
  rwa [Binary.min_eq_left hstep] at hfloor

/-- A stop, asked for with certainty. -/
def stopping : Advisory := { speed := { active := true, confidence := 1 } }

/-- A stop passes the gate, unless more than certainty is asked for. -/
theorem Limits.filterSpeed_stopping {limits : Limits} (h : limits.minConfidence ≤ 1)
    (reference : Option Single) : (limits.filterSpeed reference stopping.speed).active = true := by
  have hunit : unitConfidence 1 = 1 := by decide +kernel
  have htarget : stopping.speed.target.isFinite = true := by decide +kernel
  refine (filterSpeed_passes_iff rfl htarget).mpr ?_
  show ¬ unitConfidence 1 < limits.minConfidence
  rw [hunit, Binary.not_lt (by decide) (Binary.not_isNaN_of_le_left h)]
  exact h

/-- Without a number to hold it to, a stop cannot be filtered. -/
theorem Limits.enforce?_stopping {limits : Limits} (h : limits.minConfidence ≤ 1)
    (hspeed : limits.maxSpeed.isNaN = true) (reference : Option Single) :
    limits.enforce? stopping reference = none := by
  have hactive := filterSpeed_active_iff.mp (filterSpeed_stopping h reference)
  have hholds : limits.holdsSpeed stopping.speed = true := by
    rw [holdsSpeed, hactive.1, hactive.2]
    rfl
  refine if_pos ⟨hholds, ?_⟩
  intro hb
  rw [Binary.not_isNaN_of_le_right hb] at hspeed
  nomatch hspeed

namespace Settings

variable {s : Settings}

/-! ## The check -/

section

variable {α β : Type} {x : Except Fault α} {rest : Except Fault β} {b : β} {c : Prop} [Decidable c]
  {fault : Fault}

/-- A check goes on behind a condition if the condition holds. -/
theorem unless_eq_ok_iff :
    (do { unless c do { throw fault }; rest }) = .ok b ↔ c ∧ rest = .ok b := by
  by_cases h : c
  · simp only [h, if_true, true_and]
  · simp only [h, if_false, false_and, iff_false]
    intro he
    nomatch he

/-- A check goes on behind a value that it only looks at if there is one. -/
theorem discard_eq_ok_iff :
    (do { discard x; rest }) = .ok b ↔ x.isOk = true ∧ rest = .ok b := by
  cases x with
  | ok a => exact (and_iff_right rfl).symm
  | error f =>
    constructor
    · intro he
      nomatch he
    · rintro ⟨hok, -⟩
      nomatch hok

theorem isOk_iff : x.isOk = true ↔ ∃ a, x = .ok a := by
  cases x with
  | ok a => exact ⟨fun _ => ⟨a, rfl⟩, fun _ => rfl⟩
  | error f => exact ⟨nofun, nofun⟩

/-- A check ends with a refusal if its condition holds. -/
theorem refused_eq_ok_iff :
    (if c then throw fault else pure () : Except Fault Unit) = .ok () ↔ ¬ c := by
  by_cases h : c
  · rw [if_pos h]
    constructor
    · intro he
      nomatch he
    · intro hn
      exact absurd h hn
  · rw [if_neg h]
    exact iff_of_true rfl h

end

/-- What the check asks for. -/
structure Passes (s : Settings) : Prop where
  rate : s.rate.isFinite = true ∧ 0 < s.rate
  reasoningTimeout : s.reasoningTimeout?.isOk = true
  cycleDeadline : s.cycleDeadline?.isOk = true
  advisoryMaxAge : s.advisoryMaxAge?.isOk = true
  minConfidence : 0 ≤ s.minConfidence ∧ s.minConfidence ≤ 1
  /-- Nothing is said about NaNs here. -/
  speeds : ¬ (s.maxSpeed ≤ 0 ∨ s.maxStep ≤ 0)

theorem validate_eq_ok_iff : s.validate = .ok () ↔ s.Passes := by
  simp only [validate, unless_eq_ok_iff, discard_eq_ok_iff, refused_eq_ok_iff]
  constructor
  · rintro ⟨hrate, htimeout, hdeadline, hage, hconf, hspeeds⟩
    exact ⟨hrate, htimeout, hdeadline, hage, hconf, hspeeds⟩
  · rintro ⟨hrate, htimeout, hdeadline, hage, hconf, hspeeds⟩
    exact ⟨hrate, htimeout, hdeadline, hage, hconf, hspeeds⟩

/-- The settings of an empty file pass. -/
theorem passes_default : Passes {} where
  rate := by decide +kernel
  reasoningTimeout := by decide +kernel
  cycleDeadline := by decide +kernel
  advisoryMaxAge := by decide +kernel
  minConfidence := by decide +kernel
  speeds := by decide +kernel

/-! ## What passes it -/

/-- Cycles take over the confidence that was checked. -/
theorem Passes.cycle?_eq (h : s.Passes) : ∃ timeout,
    s.cycle? = .ok ⟨timeout, s.needsFrame, { minConfidence := s.minConfidence }⟩ := by
  obtain ⟨timeout, htimeout⟩ := isOk_iff.mp h.reasoningTimeout
  refine ⟨timeout, ?_⟩
  rw [cycle?, htimeout]
  rfl

/-- The ticker takes over the rate that was checked. -/
theorem Passes.ticker?_eq (h : s.Passes) : ∃ deadline maxAge,
    s.ticker? = .ok { rate := s.rate, deadline, maxAge } := by
  obtain ⟨deadline, hdeadline⟩ := isOk_iff.mp h.cycleDeadline
  obtain ⟨maxAge, hage⟩ := isOk_iff.mp h.advisoryMaxAge
  refine ⟨deadline, maxAge, ?_⟩
  rw [ticker?, hdeadline, hage]
  rfl

/-- **Settings that pass the check can be enforced exactly if their two speeds are numbers.** -/
theorem enforceable_iff_of_validate (h : s.validate = .ok ()) :
    s.limits.Enforceable ↔ s.maxSpeed.isNaN = false ∧ s.maxStep.isNaN = false := by
  obtain ⟨-, -, -, -, ⟨-, hconf⟩, hspeeds⟩ := validate_eq_ok_iff.mp h
  obtain ⟨hspeed, hstep⟩ := not_or.mp hspeeds
  have hpos : ∀ {x : Single}, x.isNaN = false → ¬ x ≤ 0 → 0 < x :=
    fun hx => (Binary.not_le hx Binary.isNaN_zero).mp
  constructor
  · intro henf
    have hspeedNaN : s.maxSpeed.isNaN = false := by
      rw [Bool.eq_false_iff]
      intro hNaN
      obtain ⟨out, hout, -⟩ := henf stopping none
      rw [Limits.enforce?_stopping hconf hNaN] at hout
      nomatch hout
    refine ⟨hspeedNaN, ?_⟩
    rw [Bool.eq_false_iff]
    intro hNaN
    -- a vehicle that stands is a reference, and a step below it is no number
    obtain ⟨out, hout, hkept⟩ := henf stopping (some 0)
    have hmax : 0 < s.limits.maxSpeed := hpos hspeedNaN hspeed
    obtain rfl : s.limits.enforce stopping (some 0) = out :=
      Option.some.inj ((Limits.enforce?_eq_some hmax stopping (some 0)).symm.trans hout)
    have hle := hkept.withinStep (Limits.filterSpeed_stopping hconf (some 0)) 0 rfl
      Limits.isFinite_zero (Binary.le_refl_iff.mpr Binary.isNaN_zero) (Binary.le_of_lt hmax)
    exact absurd (Binary.isNaN_sub 0 hNaN)
      (Bool.eq_false_iff.mp (Binary.not_isNaN_of_le_left hle))
  · rintro ⟨hspeedNaN, hstepNaN⟩
    exact Limits.Usable.enforceable ⟨hpos hspeedNaN hspeed, hpos hstepNaN hstep⟩

/-- Settings without a highest speed. -/
def unbounded : Settings := { maxSpeed := Binary.infinite false }

theorem enforceable_iff_of_validate_unbounded :
    unbounded.validate = .ok () ∧ unbounded.limits.Enforceable := by
  have h : unbounded.validate = .ok () := validate_eq_ok_iff.mpr {
    rate := by decide +kernel
    reasoningTimeout := by decide +kernel
    cycleDeadline := by decide +kernel
    advisoryMaxAge := by decide +kernel
    minConfidence := by decide +kernel
    speeds := by decide +kernel }
  exact ⟨h, (enforceable_iff_of_validate h).mpr (by decide +kernel)⟩

/-- The check lets both NaNs through.  With the one a stop is not filtered, with the other it is
    published at once, whatever is driven. -/
theorem validate_nan :
    Settings.validate { maxSpeed := Binary.nan } = .ok () ∧
    (Settings.limits { maxSpeed := Binary.nan }).enforce? stopping none = none ∧
    Settings.validate { maxStep := Binary.nan } = .ok () ∧
    ((Settings.limits { maxStep := Binary.nan }).enforce? stopping (some 40)).map
      (·.speed.target) = some 0 := by
  have hpasses : ∀ s : Settings, s = { maxSpeed := Binary.nan } ∨ s = { maxStep := Binary.nan } →
      s.validate = .ok () := by
    intro s hs
    rw [validate_eq_ok_iff]
    rcases hs with rfl | rfl <;> exact {
      rate := by decide +kernel
      reasoningTimeout := by decide +kernel
      cycleDeadline := by decide +kernel
      advisoryMaxAge := by decide +kernel
      minConfidence := by decide +kernel
      speeds := by decide +kernel }
  refine ⟨hpasses _ (.inl rfl), ?_, hpasses _ (.inr rfl), ?_⟩
  · decide +kernel
  · decide +kernel

end Settings
end DriveAdvisory
