/-
  Which quotients are rounded to a magnitude.

  A magnitude and the next one stand for two multiples of one power of two that follow each other (`quanta_next`).
  Between them rounding is what it is between two whole numbers: the nearer one is taken, and of two equally near
  ones the even one (`nearest_between`).  So a magnitude is what everything is rounded to that reaches less than
  half-way to its neighbours, or just half-way if the magnitude is even (`nearest_of_covers`).  The decimals of a
  number's text are chosen from there.
-/
import DriveAdvisory.Proofs.Number.Quotient
import Mathlib.Tactic.Ring

namespace DriveAdvisory.BinaryFormat

variable (f : BinaryFormat)

/-- A magnitude and the next one stand for neighbouring multiples of a power of two. -/
theorem quanta_next (m : Nat) : ∃ step significand,
    m = step * 2 ^ f.fractionBits + significand ∧ significand < 2 ^ (f.fractionBits + 1) ∧
      (step = 0 ∨ 2 ^ f.fractionBits ≤ significand) ∧
      f.quanta m = significand * 2 ^ step ∧ f.quanta (m + 1) = (significand + 1) * 2 ^ step := by
  have hsplit := Nat.div_add_mod m (2 ^ f.fractionBits)
  have hmod : m % 2 ^ f.fractionBits < 2 ^ f.fractionBits := Nat.mod_lt _ (Nat.two_pow_pos _)
  have hdouble : 2 ^ (f.fractionBits + 1) = 2 ^ f.fractionBits + 2 ^ f.fractionBits := by
    rw [Nat.pow_succ]
    omega
  cases hs : m / 2 ^ f.fractionBits with
  | zero =>
    -- below the first exponent step a magnitude counts itself, and so does the first one above
    rw [hs, Nat.mul_zero, Nat.zero_add] at hsplit
    rw [hsplit] at hmod
    have hnext : m + 1 ≤ 2 ^ f.fractionBits := hmod
    refine ⟨0, m, by omega, by omega, .inl rfl, ?_, ?_⟩
    · rw [f.quanta_of_lt hmod, Nat.pow_zero, Nat.mul_one]
    · rw [Nat.pow_zero, Nat.mul_one]
      rcases Nat.lt_or_eq_of_le hnext with hlt | heq
      · exact f.quanta_of_lt hlt
      · have hstep := f.quanta_of_step 0 (Nat.two_pow_pos f.fractionBits)
        rw [Nat.zero_add, Nat.one_mul, Nat.add_zero, Nat.pow_zero, Nat.mul_one] at hstep
        rw [heq, hstep]
  | succ step =>
    rw [hs, Nat.mul_comm] at hsplit
    have hnext : m % 2 ^ f.fractionBits + 1 ≤ 2 ^ f.fractionBits := hmod
    rw [Nat.add_mul, Nat.one_mul] at hsplit
    refine ⟨step, 2 ^ f.fractionBits + m % 2 ^ f.fractionBits, by omega, by omega,
      .inr (Nat.le_add_right _ _), ?_, ?_⟩
    · have := f.quanta_of_step step hmod
      rwa [Nat.add_mul, Nat.one_mul, hsplit] at this
    · rcases Nat.lt_or_eq_of_le hnext with hlt | heq
      · have := f.quanta_of_step step hlt
        rwa [Nat.add_mul, Nat.one_mul, ← Nat.add_assoc, hsplit] at this
      · -- the significand is full, so the next one is a power of two with one more zero
        have hstep := f.quanta_of_step (step + 1) (Nat.two_pow_pos f.fractionBits)
        have hm : (step + 1 + 1) * 2 ^ f.fractionBits + 0 = m + 1 := by
          rw [Nat.add_mul, Nat.add_mul, Nat.one_mul]
          omega
        rw [hm, Nat.add_zero] at hstep
        rw [hstep, Nat.add_assoc, heq]
        ring

theorem quanta_lt_quanta_succ (m : Nat) : f.quanta m < f.quanta (m + 1) := by
  obtain ⟨step, significand, -, -, -, hquanta, hnext⟩ := f.quanta_next m
  rw [hquanta, hnext]
  exact Nat.mul_lt_mul_of_pos_right (Nat.lt_succ_self _) (Nat.two_pow_pos _)

/-- As many digits are dropped of a whole number as there are behind its significand. -/
theorem dropped_eq {n step significand : Nat} (hfits : significand < 2 ^ (f.fractionBits + 1))
    (hleading : step = 0 ∨ 2 ^ f.fractionBits ≤ significand) (hlow : significand * 2 ^ step ≤ n)
    (hhigh : n < (significand + 1) * 2 ^ step) : f.dropped n = step := by
  have hle : bitLength n ≤ f.fractionBits + 1 + step := by
    refine bitLength_le_of_lt (Nat.lt_of_lt_of_le hhigh ?_)
    rw [Nat.pow_add]
    exact Nat.mul_le_mul_right _ hfits
  have hge : step = 0 ∨ f.fractionBits + step < bitLength n := by
    refine hleading.imp_right fun hlead => lt_bitLength_of_le (Nat.le_trans ?_ hlow)
    rw [Nat.pow_add]
    exact Nat.mul_le_mul_right _ hlead
  unfold dropped
  omega

/-- A magnitude is even exactly if its significand is. -/
theorem even_iff (hfraction : 0 < f.fractionBits) (step significand : Nat) :
    (step * 2 ^ f.fractionBits + significand) % 2 = 0 ↔ significand % 2 = 0 := by
  obtain ⟨bits, hbits⟩ := Nat.exists_eq_succ_of_ne_zero (Nat.ne_of_gt hfraction)
  have heven : step * 2 ^ f.fractionBits = 2 * (step * 2 ^ bits) := by
    rw [hbits, Nat.pow_succ]
    ring
  omega

/-- **Between a magnitude and the next one** rounding takes the nearer one, and half-way the even one. -/
theorem nearest_between (hfraction : 0 < f.fractionBits) {m num den : Nat} (hd : 0 < den)
    (hm : m < f.infinity) (hlow : f.quanta m * den ≤ num) (hhigh : num < f.quanta (m + 1) * den) :
    f.nearest num den =
      if 2 * num < (f.quanta m + f.quanta (m + 1)) * den then m
      else if (f.quanta m + f.quanta (m + 1)) * den < 2 * num then m + 1
      else if m % 2 = 0 then m else m + 1 := by
  obtain ⟨step, significand, hsplit, hfits, hleading, hquanta, hnext⟩ := f.quanta_next m
  rw [hquanta] at hlow
  rw [hnext] at hhigh
  have hmiddle : (f.quanta m + f.quanta (m + 1)) * den =
      2 * (significand * (den * 2 ^ step)) + den * 2 ^ step := by
    rw [hquanta, hnext]
    ring
  -- `step` digits are dropped, wherever between the two the quotient lies
  have hdropped : f.dropped (num / den) = step := f.dropped_eq hfits hleading
    ((Nat.le_div_iff_mul_le hd).mpr hlow) ((Nat.div_lt_iff_lt_mul hd).mpr hhigh)
  have hlow' : significand * (den * 2 ^ step) ≤ num := by
    rwa [Nat.mul_comm den, ← Nat.mul_assoc]
  have hhigh' : num < significand * (den * 2 ^ step) + den * 2 ^ step := by
    have hshape : (significand + 1) * 2 ^ step * den =
        significand * (den * 2 ^ step) + den * 2 ^ step := by ring
    rwa [hshape] at hhigh
  have hwhole : num / (den * 2 ^ step) = significand := by
    apply Nat.div_eq_of_lt_le
    · exact hlow'
    · rwa [Nat.succ_mul]
  have hrest : num % (den * 2 ^ step) = num - significand * (den * 2 ^ step) := by
    have := Nat.div_add_mod num (den * 2 ^ step)
    rw [hwhole, Nat.mul_comm] at this
    omega
  have hparity : m % 2 = 0 ↔ significand % 2 = 0 := by
    rw [hsplit]
    exact f.even_iff hfraction step significand
  rw [nearest_eq, hdropped, hmiddle]
  unfold roundHalfEven
  dsimp only
  rw [hwhole, hrest]
  generalize significand * (den * 2 ^ step) = low at *
  generalize den * 2 ^ step = gap at *
  generalize step * 2 ^ f.fractionBits = start at *
  have hdown : Nat.min (start + significand) f.infinity = m := by
    rw [← hsplit]
    exact Nat.min_eq_left (Nat.le_of_lt hm)
  have hup : Nat.min (start + (significand + 1)) f.infinity = m + 1 := by
    rw [← Nat.add_assoc, ← hsplit]
    exact Nat.min_eq_left hm
  have hless : 2 * (num - low) < gap ↔ 2 * num < 2 * low + gap := by omega
  have hmore : gap < 2 * (num - low) ↔ 2 * low + gap < 2 * num := by omega
  rw [if_congr hless rfl rfl, if_congr hmore rfl rfl]
  split
  · exact hdown
  · split
    · exact hup
    · by_cases heven : m % 2 = 0
      · rw [if_pos heven, if_pos (hparity.mp heven), hdown]
      · rw [if_neg heven, if_neg (mt hparity.mpr heven), hup]

/-- A quotient reaches less than half-way to the neighbours of a magnitude, or just half-way if it is even. -/
structure Covers (m num den : Nat) : Prop where
  above : (f.quanta m + f.quanta (m - 1)) * den < 2 * num ∨
    m % 2 = 0 ∧ (f.quanta m + f.quanta (m - 1)) * den = 2 * num
  below : 2 * num < (f.quanta m + f.quanta (m + 1)) * den ∨
    m % 2 = 0 ∧ 2 * num = (f.quanta m + f.quanta (m + 1)) * den

/-- **What a magnitude covers** is rounded to it. -/
theorem nearest_of_covers (hfraction : 0 < f.fractionBits) {m num den : Nat} (hd : 0 < den)
    (hpos : 0 < m) (hm : m < f.infinity) (h : f.Covers m num den) : f.nearest num den = m := by
  have habove := h.above
  have hbelow := h.below
  obtain ⟨p, rfl⟩ : ∃ p, m = p + 1 := ⟨m - 1, by omega⟩
  rw [Nat.add_sub_cancel] at habove
  have hsum : (f.quanta (p + 1) + f.quanta p) * den = (f.quanta p + f.quanta (p + 1)) * den := by
    rw [Nat.add_comm (f.quanta p)]
  rw [hsum] at habove
  have hless := Nat.mul_lt_mul_of_pos_right (f.quanta_lt_quanta_succ p) hd
  have hmore := Nat.mul_lt_mul_of_pos_right (f.quanta_lt_quanta_succ (p + 1)) hd
  rw [Nat.add_mul] at habove hbelow
  rcases Nat.lt_or_ge num (f.quanta (p + 1) * den) with hside | hside
  · -- the quotient lies below the magnitude, in the upper half of what is there
    rw [f.nearest_between hfraction hd (by omega) (by omega) hside, Nat.add_mul]
    rw [if_neg (by omega)]
    split
    · rfl
    · rw [if_neg (by omega)]
  · -- it lies above, in the lower half
    rw [f.nearest_between hfraction hd hm hside (by omega), Nat.add_mul]
    split
    · rfl
    · rw [if_neg (by omega), if_pos (by omega)]

end DriveAdvisory.BinaryFormat
