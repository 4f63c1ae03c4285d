/-
  Speeds that are not heard.

  Of the lowest speeds the merge takes the one with the highest confidence, and the filter asks whether that
  confidence is enough.  They do not mean the same by a confidence that is no finite number: for the merge an
  infinity, or a NaN without a sign, is above all others, for the filter it is none at all.  So a proposal with
  such a confidence takes the axis from an equally slow one that would have passed, and then loses it
  (`shadowed_glare`).  Lane and alert have no such gap, for there what is not finite may not win.

  `Shadowed` names all that can hide a trusted proposal of the lowest speed, and `enforce?_merge_heard` says that
  there is nothing else.  Besides an overrated proposal it is a zero: two zeros are equally slow, but the merge
  looks at the negative one alone.
-/
import DriveAdvisory.Proofs.Advisory.Precedence

namespace DriveAdvisory

/-! ## Confidences -/

namespace Limits

variable {limits : Limits} {confidence : Single}

/-- The confidence is a number that the limits do not find too low. -/
def Trusts (limits : Limits) (confidence : Single) : Prop :=
  confidence.isFinite = true ∧ limits.minConfidence ≤ confidence

/-- The gate stops every confidence that is not trusted, unless it asks for none. -/
theorem Sound.passes_iff (h : limits.Sound) :
    ¬ unitConfidence confidence < limits.minConfidence ↔
      limits.minConfidence ≤ 0 ∨ limits.Trusts confidence := by
  have hunit := unitConfidence_bounds confidence
  rw [Binary.not_lt (Binary.not_isNaN_of_le_right hunit.1)
    (Binary.not_isNaN_of_le_left h.minConfidence_le_one)]
  constructor
  · intro hle
    by_cases hfinite : confidence.isFinite = true
    · rw [unitConfidence, if_pos hfinite] at hle
      rcases Binary.clamp_cases zero_le_one (Binary.not_isNaN_of_isFinite hfinite) with
        ⟨he, -⟩ | ⟨-, hone⟩ | ⟨he, -⟩
      · left
        rwa [he] at hle
      · exact .inr ⟨hfinite, Binary.le_trans h.minConfidence_le_one hone⟩
      · right
        rw [he] at hle
        exact ⟨hfinite, hle⟩
    · left
      rwa [unitConfidence, if_neg hfinite] at hle
  · rintro (hnone | ⟨hfinite, hle⟩)
    · exact Binary.le_trans hnone hunit.1
    · exact le_unitConfidence h.minConfidence_le_one hfinite hle

end Limits

namespace Merge

variable {limits : Limits} {proposals : List Proposal} {p : Proposal} {s : SpeedProposal}
  {lowest target confidence other : Single}

/-- The confidence is no finite number, and yet above all of them in the total order. -/
def Overrated (confidence : Single) : Prop :=
  confidence.isFinite = false ∧ confidence.negative = false

/-- What is above an overrated confidence is one itself. -/
theorem Overrated.not_isFinite (h : Overrated confidence)
    (hle : confidence.orderKey ≤ other.orderKey) : other.isFinite = false := by
  obtain ⟨hinfinite, hpositive⟩ := h
  rw [← Bool.not_eq_true, Binary.isFinite_iff] at hinfinite ⊢
  unfold Binary.orderKey at hle
  cases hother : other.negative <;> simp [hpositive, hother] at hle <;> omega

/-- What is above a finite confidence is finite as well, or overrated. -/
theorem isFinite_or_overrated (hfinite : confidence.isFinite = true)
    (hle : confidence.orderKey ≤ other.orderKey) : other.isFinite = true ∨ Overrated other := by
  by_cases hother : other.isFinite = true
  · exact .inl hother
  · refine .inr ⟨Bool.eq_false_iff.mpr hother, ?_⟩
    rw [Binary.isFinite_iff] at hfinite hother
    unfold Binary.orderKey at hle
    cases hn : other.negative with
    | false => rfl
    | true => cases hc : confidence.negative <;> simp [hn, hc] at hle <;> omega

/-- Equal numbers that are not the same are the two zeros. -/
theorem zeros_of_eqv (heqv : target.eqv lowest = true) (hle : lowest.orderKey ≤ target.orderKey)
    (hne : target ≠ lowest) : lowest = Binary.zero true ∧ target = Binary.zero false := by
  obtain ⟨h₁, h₂⟩ := Binary.eqv_iff.mp heqv
  have hrank := Int.le_antisymm (Binary.le_iff.mp h₁).2.2 (Binary.le_iff.mp h₂).2.2
  have hkey : target.orderKey ≠ lowest.orderKey := fun h => hne (Binary.eq_of_orderKey h)
  obtain ⟨tn, tm, ht⟩ := target
  obtain ⟨ln, lm, hl⟩ := lowest
  have hfields : tn = false ∧ ln = true ∧ tm = 0 ∧ lm = 0 := by
    cases tn <;> cases ln <;> simp [Binary.orderKey, Binary.rank] at hrank hkey hle ⊢ <;> omega
  obtain ⟨rfl, rfl, rfl, rfl⟩ := hfields
  exact ⟨rfl, rfl⟩

/-! ## The lowest target -/

/-- Somebody asks for the target with the confidence. -/
def Asked (proposals : List Proposal) (target confidence : Single) : Prop :=
  ∃ p ∈ proposals, ∃ s, p.speed = some s ∧ s.target = target ∧ s.confidence = confidence

/-- `lowest` is the lowest of the finite targets, and of two zeros the negative one. -/
structure LowestTarget (proposals : List Proposal) (lowest : Single) : Prop where
  finite : lowest.isFinite = true
  asked : ∃ confidence, Asked proposals lowest confidence
  first : ∀ target confidence, Asked proposals target confidence → target.isFinite = true →
    lowest.totalCompare target ≠ .gt

theorem FirstSpeed.asked (h : FirstSpeed proposals p s) : Asked proposals s.target s.confidence :=
  ⟨p, h.mem, s, h.proposes, rfl, rfl⟩

theorem FirstSpeed.target_eq (h : FirstSpeed proposals p s) (hlowest : LowestTarget proposals lowest) :
    s.target = lowest := by
  obtain ⟨confidence, q, hq, t, ht, rfl, -⟩ := hlowest.asked
  have hkey := not_lt.mpr (h.first q hq t ht hlowest.finite)
  rw [speedKey, speedKey, key_lt_iff] at hkey
  have hle : s.target.orderKey ≤ t.target.orderKey := by
    by_contra hgt
    exact hkey (.inl (.inl (not_le.mp hgt)))
  have hge := Binary.totalCompare_ne_gt_iff.mp (hlowest.first _ _ h.asked h.finite)
  exact Binary.eq_of_orderKey (le_antisymm hle hge)

/-- No equal target is asked for with a higher confidence than that of the first speed. -/
theorem FirstSpeed.confidence_le (h : FirstSpeed proposals p s)
    (hasked : Asked proposals s.target confidence) :
    confidence.orderKey ≤ s.confidence.orderKey := by
  obtain ⟨q, hq, t, ht, htarget, rfl⟩ := hasked
  have hkey := not_lt.mpr (h.first q hq t ht (htarget ▸ h.finite))
  rw [speedKey, speedKey, key_lt_iff] at hkey
  by_contra hgt
  exact hkey (.inl (.inr ⟨congrArg Binary.orderKey htarget, not_le.mp hgt⟩))

/-! ## Shadows -/

/-- What hides a proposal for `target` from the filter, where nothing slower is asked for. -/
inductive Shadowed (limits : Limits) (proposals : List Proposal) (lowest target : Single) : Prop
  /-- The same is asked for with a confidence that is none. -/
  | overrated {confidence : Single} (hasked : Asked proposals lowest confidence)
    (hover : Overrated confidence)
  /-- It is a positive zero, and a negative one is asked for as well, but by nobody who is trusted. -/
  | negativeZero (hlowest : lowest = Binary.zero true) (htarget : target = Binary.zero false)
    (hweak : ∀ confidence, Asked proposals lowest confidence → ¬ limits.Trusts confidence)

/-- The first speed has the confidence of somebody trusted, unless that is shadowed. -/
theorem FirstSpeed.trusts_iff (h : FirstSpeed proposals p s) (hlowest : LowestTarget proposals lowest)
    (hasked : Asked proposals target confidence) (hequal : target.eqv lowest = true)
    (htrusts : limits.Trusts confidence) :
    limits.Trusts s.confidence ↔ ¬ Shadowed limits proposals lowest target := by
  have hfirst : Asked proposals lowest s.confidence := h.target_eq hlowest ▸ h.asked
  have hbest : ∀ c, Asked proposals lowest c → c.orderKey ≤ s.confidence.orderKey := by
    intro c hc
    exact h.confidence_le (h.target_eq hlowest ▸ hc)
  constructor
  · rintro hs (⟨hc, hover⟩ | ⟨-, -, hweak⟩)
    · have hfinite := hs.1
      rw [hover.not_isFinite (hbest _ hc)] at hfinite
      nomatch hfinite
    · exact hweak s.confidence hfirst hs
  · intro hclear
    -- where the lowest target is not the proposal's own, it is a zero that somebody trusted asks for too
    obtain ⟨c, hc, htrusted⟩ : ∃ c, Asked proposals lowest c ∧ limits.Trusts c := by
      by_cases hsame : target = lowest
      · exact ⟨confidence, hsame ▸ hasked, htrusts⟩
      · by_contra hnone
        have hfinite : target.isFinite = true := by
          obtain ⟨h₁, h₂⟩ := Binary.eqv_iff.mp hequal
          exact Binary.isFinite_of_between hlowest.finite hlowest.finite h₂ h₁
        have hle := Binary.totalCompare_ne_gt_iff.mp (hlowest.first target _ hasked hfinite)
        obtain ⟨hnegative, hpositive⟩ := zeros_of_eqv hequal hle hsame
        exact hclear (.negativeZero hnegative hpositive fun c hc htrusted => hnone ⟨c, hc, htrusted⟩)
    rcases isFinite_or_overrated htrusted.1 (hbest c hc) with hfinite | hover
    · refine ⟨hfinite, Binary.le_trans htrusted.2 ?_⟩
      exact Binary.le_of_orderKey_le (Binary.not_isNaN_of_isFinite htrusted.1)
        (Binary.not_isNaN_of_isFinite hfinite) (hbest c hc)
    · exact absurd (.overrated hfirst hover) hclear

/-- **A trusted proposal of the lowest speed is heard** exactly if it is not shadowed, or if no confidence is
    asked for at all. -/
theorem enforce?_merge_heard (h : limits.Sound) (policy : MergePolicy)
    (reference : Option Single) (hlowest : LowestTarget proposals lowest)
    (hasked : Asked proposals target confidence) (hequal : target.eqv lowest = true)
    (htrusts : limits.Trusts confidence) :
    ∃ out, limits.enforce? (merge policy proposals) reference = some out ∧
      (out.speed.active = true ↔
        limits.minConfidence ≤ 0 ∨ ¬ Shadowed limits proposals lowest target) := by
  refine ⟨_, Limits.enforce?_eq_some h.maxSpeed_pos (merge policy proposals) reference, ?_⟩
  show (limits.filterSpeed reference (speed (ordered proposals))).active = true ↔ _
  rcases speed_ordered_cases proposals with ⟨-, hnone⟩ | ⟨p, s, hfirst, he⟩
  · obtain ⟨c, q, hq, t, ht, rfl, -⟩ := hlowest.asked
    have hfinite := hlowest.finite
    rw [hnone q hq t ht] at hfinite
    nomatch hfinite
  · rw [he, Limits.filterSpeed_passes_iff rfl hfirst.finite]
    show ¬ Limits.unitConfidence s.confidence < limits.minConfidence ↔ _
    rw [h.passes_iff, hfirst.trusts_iff hlowest hasked hequal htrusts]

/-- A speed that somebody is sure of, and the same with a confidence that was too large a number. -/
def glare (confidence : Single) : List Proposal :=
  [{ skill := "set_speed_advisory", rank := 5, speed := some ⟨20, "cones", 0.75, 200⟩ },
    { skill := "set_speed_advisory", rank := 5, speed := some ⟨20, "glare", confidence, 200⟩ }]

theorem asked_glare_iff {c : Single} :
    Asked (glare c) target confidence ↔ target = 20 ∧ (confidence = 0.75 ∨ confidence = c) := by
  simp only [Asked, glare, List.mem_cons, List.not_mem_nil, or_false]
  constructor
  · rintro ⟨p, rfl | rfl, s, hs, rfl, rfl⟩
    · obtain rfl := Option.some.inj hs
      exact ⟨rfl, .inl rfl⟩
    · obtain rfl := Option.some.inj hs
      exact ⟨rfl, .inr rfl⟩
  · rintro ⟨rfl, rfl | rfl⟩
    · exact ⟨_, .inl rfl, _, rfl, rfl, rfl⟩
    · exact ⟨_, .inr rfl, _, rfl, rfl, rfl⟩

theorem lowestTarget_glare (c : Single) : LowestTarget (glare c) 20 where
  finite := by decide +kernel
  asked := ⟨0.75, asked_glare_iff.mpr ⟨rfl, .inl rfl⟩⟩
  first target confidence hasked _ := by
    rw [(asked_glare_iff.mp hasked).1, Binary.totalCompare_ne_gt_iff]

/-- An infinity below all numbers takes nothing from anybody. -/
theorem enforce?_merge_heard_glare : Limits.Sound {} ∧
    LowestTarget (glare (Binary.infinite true)) 20 ∧
    Asked (glare (Binary.infinite true)) 20 0.75 ∧ Limits.Trusts {} 0.75 ∧
    ∃ out, Limits.enforce? {} (merge {} (glare (Binary.infinite true))) (some 25) = some out ∧
      out.speed.active = true := by
  have hasked : Asked (glare (Binary.infinite true)) 20 0.75 := asked_glare_iff.mpr ⟨rfl, .inl rfl⟩
  have htrusts : Limits.Trusts {} 0.75 := ⟨by decide +kernel, by decide +kernel⟩
  have hlowest := lowestTarget_glare (Binary.infinite true)
  refine ⟨Limits.sound_fresh, hlowest, hasked, htrusts, ?_⟩
  obtain ⟨out, hout, hiff⟩ := enforce?_merge_heard Limits.sound_fresh {} (some 25) hlowest hasked
    (by decide +kernel) htrusts
  refine ⟨out, hout, hiff.mpr (.inr ?_)⟩
  rintro (⟨hc, hover⟩ | ⟨hzero, -, -⟩)
  · rcases (asked_glare_iff.mp hc).2 with rfl | rfl
    · exact absurd hover.1 (by decide +kernel)
    · exact absurd hover.2 (by decide +kernel)
  · exact absurd hzero (by decide +kernel)

/-- One above all numbers takes the axis from a proposal that would have passed. -/
theorem shadowed_glare : Limits.Sound {} ∧ LowestTarget (glare (Binary.infinite false)) 20 ∧
    Asked (glare (Binary.infinite false)) 20 0.75 ∧ Limits.Trusts {} 0.75 ∧
    ∃ out, Limits.enforce? {} (merge {} (glare (Binary.infinite false))) (some 25) = some out ∧
      out.speed.active = false := by
  refine ⟨Limits.sound_fresh, lowestTarget_glare _, asked_glare_iff.mpr ⟨rfl, .inl rfl⟩,
    ⟨by decide +kernel, by decide +kernel⟩, _,
    Limits.enforce?_eq_some Limits.sound_fresh.maxSpeed_pos _ _, ?_⟩
  decide +kernel

end Merge
end DriveAdvisory
