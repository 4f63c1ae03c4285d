/-
  Rounding is monotone and fixes what it can represent.

  These two facts are all that a bound on a rounded result needs: if the exact result lies below a number of
  the format, so does the rounded one.  They are proved for `BinaryFormat.nearest` and read off for the
  operations, of which only the subtraction of a positive number is needed here:

  * `nearest_mono`     a greater quotient is rounded to a magnitude at least as great;
  * `nearest_quanta`   a quotient that IS a magnitude is rounded to that magnitude;
  * `sub_le_self`      taking away something positive leaves no more than there was.

  Monotony has one hard case, two quotients with different numbers of digits to drop.  The shorter one then
  rounds to at most a full significand (`roundHalfEven_le`), the longer one to at least half of that
  (`le_roundHalfEven`), and the exponent step between them pays for the difference.
-/
import DriveAdvisory.Proofs.Number.Order
import Mathlib.Algebra.Group.Nat.Defs

namespace DriveAdvisory

/-! ## Binary digits -/

theorem lt_two_pow_bitLength (n : Nat) : n < 2 ^ bitLength n := by
  rw [bitLength]
  split
  · omega
  · exact Nat.lt_log2_self

theorem two_pow_le_of_bitLength {n k : Nat} (h : k < bitLength n) : 2 ^ k ≤ n := by
  rw [bitLength] at h
  split at h
  · omega
  · rename_i hn
    exact Nat.le_trans (Nat.pow_le_pow_right (by omega) (by omega)) (Nat.log2_self_le hn)

theorem bitLength_le_of_lt {n k : Nat} (h : n < 2 ^ k) : bitLength n ≤ k := by
  rcases Nat.lt_or_ge k (bitLength n) with hk | hk
  · exact absurd (two_pow_le_of_bitLength hk) (by omega)
  · exact hk

theorem lt_bitLength_of_le {n k : Nat} (h : 2 ^ k ≤ n) : k < bitLength n := by
  rcases Nat.lt_or_ge k (bitLength n) with hk | hk
  · exact hk
  · have h₁ := lt_two_pow_bitLength n
    have h₂ : 2 ^ bitLength n ≤ 2 ^ k := Nat.pow_le_pow_right (by omega) hk
    omega

theorem bitLength_mono {m n : Nat} (h : m ≤ n) : bitLength m ≤ bitLength n :=
  bitLength_le_of_lt (Nat.lt_of_le_of_lt h (lt_two_pow_bitLength n))

/-! ## The nearest integer -/

/-- Rounding goes to one of the two neighbours. -/
theorem roundHalfEven_cases (num den : Nat) :
    (roundHalfEven num den = num / den ∧ 2 * (num % den) ≤ den) ∨
      (roundHalfEven num den = num / den + 1 ∧ den ≤ 2 * (num % den)) := by
  unfold roundHalfEven
  dsimp only
  split
  · exact .inl ⟨rfl, by omega⟩
  · split
    · exact .inr ⟨rfl, by omega⟩
    · split
      · exact .inl ⟨rfl, by omega⟩
      · exact .inr ⟨rfl, by omega⟩

/-- An exact quotient is its own nearest integer. -/
theorem roundHalfEven_mul (n : Nat) {den : Nat} (hd : 0 < den) :
    roundHalfEven (n * den) den = n := by
  unfold roundHalfEven
  dsimp only
  rw [Nat.mul_mod_left, if_pos (by omega), Nat.mul_div_cancel _ hd]

theorem roundHalfEven_mono {m n : Nat} (den : Nat) (h : m ≤ n) :
    roundHalfEven m den ≤ roundHalfEven n den := by
  have hdiv : m / den ≤ n / den := Nat.div_le_div_right h
  have hm := Nat.div_add_mod m den
  have hn := Nat.div_add_mod n den
  rcases Nat.lt_or_eq_of_le hdiv with hlt | heq
  · -- different whole parts: the lower one rounds up to the higher one at most
    rcases roundHalfEven_cases m den with ⟨hr, -⟩ | ⟨hr, -⟩ <;>
      rcases roundHalfEven_cases n den with ⟨hs, -⟩ | ⟨hs, -⟩ <;> omega
  · -- the same whole part: the rests decide, and they are in order
    have hrest : m % den ≤ n % den := by rw [heq] at hm; omega
    unfold roundHalfEven
    dsimp only
    rw [heq]
    split <;> split <;> (try split) <;> (try split) <;> (try split) <;> omega

/-- What is below a multiple of the denominator rounds to that multiple at most. -/
theorem roundHalfEven_le {num den k : Nat} (hd : 0 < den) (h : num ≤ k * den) :
    roundHalfEven num den ≤ k := by
  have := roundHalfEven_mono den h
  rwa [roundHalfEven_mul k hd] at this

/-- What is above a multiple of the denominator rounds to that multiple at least. -/
theorem le_roundHalfEven {num den k : Nat} (hd : 0 < den) (h : k * den ≤ num) :
    k ≤ roundHalfEven num den := by
  have := roundHalfEven_mono den h
  rwa [roundHalfEven_mul k hd] at this

/-! ## The nearest magnitude -/

namespace BinaryFormat

variable (f : BinaryFormat)

/-- How many digits of a quotient do not fit a significand. -/
def dropped (quotient : Nat) : Nat := bitLength quotient - (f.fractionBits + 1)

theorem nearest_eq (num den : Nat) :
    f.nearest num den = Nat.min
      (f.dropped (num / den) * 2 ^ f.fractionBits
        + roundHalfEven num (den * 2 ^ f.dropped (num / den))) f.infinity := rfl

theorem nearest_le_infinity (num den : Nat) : f.nearest num den ≤ f.infinity := Nat.min_le_right _ _

/-- The significand that is left of a quotient is at most a full one. -/
theorem roundHalfEven_dropped_le (num : Nat) {den : Nat} (hd : 0 < den) :
    roundHalfEven num (den * 2 ^ f.dropped (num / den)) ≤ 2 * 2 ^ f.fractionBits := by
  have hpos : 0 < den * 2 ^ f.dropped (num / den) := Nat.mul_pos hd (Nat.two_pow_pos _)
  apply roundHalfEven_le hpos
  have hlt : num / den < 2 ^ (f.dropped (num / den) + (f.fractionBits + 1)) :=
    Nat.lt_of_lt_of_le (lt_two_pow_bitLength _)
      (Nat.pow_le_pow_right (by omega) (by unfold dropped; omega))
  have hnum : num < 2 ^ (f.dropped (num / den) + (f.fractionBits + 1)) * den :=
    (Nat.div_lt_iff_lt_mul hd).mp hlt
  rw [Nat.pow_add, Nat.pow_succ] at hnum
  have hshape : 2 ^ f.dropped (num / den) * (2 ^ f.fractionBits * 2) * den
      = 2 * 2 ^ f.fractionBits * (den * 2 ^ f.dropped (num / den)) := by ac_rfl
  omega

/-- If digits are dropped, the significand that is left has its leading digit. -/
theorem le_roundHalfEven_dropped {num den : Nat} (hd : 0 < den) (h : 0 < f.dropped (num / den)) :
    2 ^ f.fractionBits ≤ roundHalfEven num (den * 2 ^ f.dropped (num / den)) := by
  apply le_roundHalfEven (Nat.mul_pos hd (Nat.two_pow_pos _))
  have hle : 2 ^ (f.dropped (num / den) + f.fractionBits) ≤ num / den :=
    two_pow_le_of_bitLength (by unfold dropped at h ⊢; omega)
  have hnum : 2 ^ (f.dropped (num / den) + f.fractionBits) * den ≤ num :=
    (Nat.le_div_iff_mul_le hd).mp hle
  rw [Nat.pow_add] at hnum
  have hshape : 2 ^ f.fractionBits * (den * 2 ^ f.dropped (num / den))
      = 2 ^ f.dropped (num / den) * 2 ^ f.fractionBits * den := by ac_rfl
  omega

/-- **Rounding is monotone**, for a fixed denominator. -/
theorem nearest_mono {m n den : Nat} (hd : 0 < den) (h : m ≤ n) :
    f.nearest m den ≤ f.nearest n den := by
  have hdrop : f.dropped (m / den) ≤ f.dropped (n / den) := by
    have := bitLength_mono (Nat.div_le_div_right h (c := den))
    unfold dropped; omega
  have hsum : f.dropped (m / den) * 2 ^ f.fractionBits
        + roundHalfEven m (den * 2 ^ f.dropped (m / den))
      ≤ f.dropped (n / den) * 2 ^ f.fractionBits
        + roundHalfEven n (den * 2 ^ f.dropped (n / den)) := by
    rcases Nat.lt_or_eq_of_le hdrop with hlt | heq
    · have hm := f.roundHalfEven_dropped_le m hd
      have hdigits : 0 < f.dropped (n / den) := by omega
      have hn := f.le_roundHalfEven_dropped hd hdigits
      have hstep : (f.dropped (m / den) + 1) * 2 ^ f.fractionBits
          ≤ f.dropped (n / den) * 2 ^ f.fractionBits := Nat.mul_le_mul_right _ hlt
      rw [Nat.succ_mul] at hstep
      omega
    · rw [heq]
      have := roundHalfEven_mono (den * 2 ^ f.dropped (n / den)) h
      omega
  rw [nearest_eq, nearest_eq]
  exact Nat.le_min.mpr ⟨Nat.le_trans (Nat.min_le_left _ _) hsum, Nat.min_le_right _ _⟩

/-- A magnitude below the first exponent step counts itself. -/
theorem quanta_of_lt {m : Nat} (h : m < 2 ^ f.fractionBits) : f.quanta m = m := by
  have hstep : m / Nat.pow 2 f.fractionBits = 0 := Nat.div_eq_of_lt h
  unfold quanta
  dsimp only
  rw [if_pos hstep]
  exact Nat.mod_eq_of_lt h

/-- A magnitude with an exponent counts its significand, shifted. -/
theorem quanta_of_step (step : Nat) {fraction : Nat} (h : fraction < 2 ^ f.fractionBits) :
    f.quanta ((step + 1) * 2 ^ f.fractionBits + fraction)
      = (2 ^ f.fractionBits + fraction) * 2 ^ step := by
  have hpos : 0 < 2 ^ f.fractionBits := Nat.two_pow_pos _
  have hdiv : ((step + 1) * 2 ^ f.fractionBits + fraction) / Nat.pow 2 f.fractionBits = step + 1 := by
    show ((step + 1) * 2 ^ f.fractionBits + fraction) / 2 ^ f.fractionBits = step + 1
    rw [Nat.mul_comm, Nat.mul_add_div hpos, Nat.div_eq_of_lt h, Nat.add_zero]
  have hmod : ((step + 1) * 2 ^ f.fractionBits + fraction) % Nat.pow 2 f.fractionBits = fraction := by
    show ((step + 1) * 2 ^ f.fractionBits + fraction) % 2 ^ f.fractionBits = fraction
    rw [Nat.mul_comm, Nat.mul_add_mod, Nat.mod_eq_of_lt h]
  unfold quanta
  dsimp only
  rw [hdiv, hmod, if_neg (by omega), Nat.add_sub_cancel]
  rfl

/-- **Rounding fixes what it can represent**: as many quanta as a magnitude stands for, over any
    denominator, are rounded to that magnitude. -/
theorem nearest_quanta {m den : Nat} (hd : 0 < den) (h : m ≤ f.infinity) :
    f.nearest (f.quanta m * den) den = m := by
  have hsplit := Nat.div_add_mod m (2 ^ f.fractionBits)
  have hmod : m % 2 ^ f.fractionBits < 2 ^ f.fractionBits := Nat.mod_lt _ (Nat.two_pow_pos _)
  rw [nearest_eq, Nat.mul_div_cancel _ hd]
  cases hs : m / 2 ^ f.fractionBits with
  | zero =>
    -- no exponent: nothing is dropped
    have hm : m < 2 ^ f.fractionBits := by rw [hs] at hsplit; omega
    have hdrop : f.dropped (f.quanta m) = 0 := by
      have := bitLength_le_of_lt (show f.quanta m < 2 ^ f.fractionBits by rwa [f.quanta_of_lt hm])
      unfold dropped; omega
    rw [hdrop, f.quanta_of_lt hm, Nat.pow_zero, Nat.mul_one, roundHalfEven_mul m hd, Nat.zero_mul,
      Nat.zero_add]
    exact Nat.min_eq_left h
  | succ step =>
    -- `step` digits are dropped, all of them zeros
    rw [hs, Nat.mul_comm] at hsplit
    have hq : f.quanta m = (2 ^ f.fractionBits + m % 2 ^ f.fractionBits) * 2 ^ step := by
      have := f.quanta_of_step step hmod
      rwa [hsplit] at this
    have hlow : 2 ^ (f.fractionBits + step) ≤ f.quanta m := by
      rw [hq, Nat.pow_add]; exact Nat.mul_le_mul_right _ (by omega)
    have hhigh : f.quanta m < 2 ^ (f.fractionBits + 1 + step) := by
      rw [hq, Nat.pow_add, Nat.pow_succ]
      exact Nat.mul_lt_mul_of_pos_right (by omega) (Nat.two_pow_pos _)
    have hdrop : f.dropped (f.quanta m) = step := by
      have h₁ := lt_bitLength_of_le hlow
      have h₂ := bitLength_le_of_lt hhigh
      unfold dropped; omega
    have hexact : f.quanta m * den
        = (2 ^ f.fractionBits + m % 2 ^ f.fractionBits) * (den * 2 ^ step) := by
      rw [hq]; ac_rfl
    rw [hdrop, hexact, roundHalfEven_mul _ (Nat.mul_pos hd (Nat.two_pow_pos _))]
    have hm : step * 2 ^ f.fractionBits + (2 ^ f.fractionBits + m % 2 ^ f.fractionBits) = m := by
      rw [Nat.succ_mul] at hsplit; omega
    rw [hm]
    exact Nat.min_eq_left h

theorem quanta_pos {m : Nat} (h : 0 < m) : 0 < f.quanta m := by
  have hsplit := Nat.div_add_mod m (2 ^ f.fractionBits)
  have hmod : m % 2 ^ f.fractionBits < 2 ^ f.fractionBits := Nat.mod_lt _ (Nat.two_pow_pos _)
  cases hs : m / 2 ^ f.fractionBits with
  | zero =>
    rw [f.quanta_of_lt (by rw [hs] at hsplit; omega)]
    exact h
  | succ step =>
    rw [hs, Nat.mul_comm] at hsplit
    rw [← hsplit, f.quanta_of_step step hmod]
    exact Nat.mul_pos (by have := Nat.two_pow_pos f.fractionBits; omega) (Nat.two_pow_pos _)

end BinaryFormat

/-! ## Sums -/

namespace Binary

variable {f : BinaryFormat} {x y : Binary f}

/-- The rank of the number nearest to an integer count of quanta. -/
def nearestRank (f : BinaryFormat) (n : Int) : Int :=
  if n < 0 then -(f.nearest n.natAbs 1 : Int) else f.nearest n.natAbs 1

theorem nearestRank_mono {m n : Int} (h : m ≤ n) : nearestRank f m ≤ nearestRank f n := by
  unfold nearestRank
  split <;> split
  · have hle : f.nearest n.natAbs 1 ≤ f.nearest m.natAbs 1 := f.nearest_mono (by omega) (by omega)
    omega
  · omega
  · omega
  · have hle : f.nearest m.natAbs 1 ≤ f.nearest n.natAbs 1 := f.nearest_mono (by omega) (by omega)
    omega

/-- A number that is not a NaN is the nearest one to its own value. -/
theorem nearestRank_units (h : x.isNaN = false) : nearestRank f x.units = x.rank := by
  have hfix : f.nearest (f.quanta x.magnitude) 1 = x.magnitude := by
    have := f.nearest_quanta Nat.one_pos (isNaN_eq_false_iff.mp h)
    rwa [Nat.mul_one] at this
  rw [nearestRank, units, rank]
  cases hn : x.negative with
  | false =>
    have hsign : ¬ (f.quanta x.magnitude : Int) < 0 := by omega
    simp only [Bool.false_eq_true, if_false, if_neg hsign, Int.natAbs_natCast, hfix]
  | true =>
    rcases Nat.eq_zero_or_pos (f.quanta x.magnitude) with hq | hq
    · have hm : x.magnitude = 0 := by
        rcases Nat.eq_zero_or_pos x.magnitude with h₀ | h₀
        · exact h₀
        · have := f.quanta_pos h₀; omega
      rw [hq, hm] at *
      simp [nearest_zero]
    · simp [hfix]; omega

theorem isNaN_ofQuanta (negative : Bool) (num den : Nat) :
    (ofQuanta negative num den : Binary f).isNaN = false := by
  rw [isNaN_eq_false_iff]; exact Nat.min_le_right _ _

theorem magnitude_ofQuanta (negative : Bool) (num den : Nat) :
    (ofQuanta negative num den : Binary f).magnitude = f.nearest num den :=
  Nat.min_eq_left (f.nearest_le_infinity num den)

/-- The sum of two finite numbers is the number nearest to the exact sum. -/
theorem rank_add (hx : x.isFinite = true) (hy : y.isFinite = true) :
    (x.add y).isNaN = false ∧ (x.add y).rank = nearestRank f (x.units + y.units) := by
  have hxm := isFinite_iff.mp hx
  have hym := isFinite_iff.mp hy
  have hsum : x.add y = ofQuanta
      (if x.units + y.units = 0 then x.negative && y.negative else decide (x.units + y.units < 0))
      (x.units + y.units).natAbs 1 := by
    rw [add, if_neg (by simp [not_isNaN_of_isFinite, hx, hy]),
      if_neg (by simp [isInfinite]; omega), if_neg (by simp [isInfinite]; omega)]
  rw [hsum]
  refine ⟨isNaN_ofQuanta _ _ _, ?_⟩
  rw [rank, magnitude_ofQuanta, nearestRank]
  show (if (if x.units + y.units = 0 then x.negative && y.negative
    else decide (x.units + y.units < 0)) then _ else _) = _
  by_cases h₀ : x.units + y.units = 0
  · rw [if_pos h₀, h₀]
    simp [nearest_zero]
  · rw [if_neg h₀]
    simp

theorem units_neg (x : Binary f) : x.neg.units = -x.units := by
  cases h : x.negative <;> simp [units, neg, h]

/-- Taking away a NaN leaves a NaN. -/
theorem isNaN_sub (x : Binary f) (hy : y.isNaN = true) : (x - y).isNaN = true := by
  have hneg : y.neg.isNaN = true := hy
  show (x.add y.neg).isNaN = true
  rw [add, if_pos (by simp [hneg])]
  -- the NaN of the operation is the greatest magnitude, and `y` lies above infinity already
  have hle : f.infinity < y.magnitude := of_decide_eq_true hy
  have hlt := y.magnitude_lt
  exact decide_eq_true (show f.infinity < Nat.pow 2 f.width - 1 by omega)

/-- **Taking away leaves no more**: a finite number less a positive one, which may be infinite, is a
    number and at most what it was. -/
theorem sub_le_self (hx : x.isFinite = true) (hy : 0 < y) : x - y ≤ x := by
  have hxNaN := not_isNaN_of_isFinite hx
  have hyNaN := (zero_lt_iff.mp hy).1
  obtain ⟨hsign, -⟩ := pos_fields hy
  show x.add y.neg ≤ x
  by_cases hfin : y.isFinite = true
  · have hnegfin : y.neg.isFinite = true := hfin
    obtain ⟨hNaN, hrank⟩ := rank_add hx hnegfin
    refine le_iff.mpr ⟨hNaN, hxNaN, ?_⟩
    have hunits : x.units + y.neg.units ≤ x.units := by
      have hnonneg : 0 ≤ y.units := by rw [units, hsign]; simp
      rw [units_neg]
      omega
    calc (x.add y.neg).rank
        = nearestRank f (x.units + y.neg.units) := hrank
      _ ≤ nearestRank f x.units := nearestRank_mono hunits
      _ = x.rank := nearestRank_units hxNaN
  · -- the difference is minus infinity
    have hinf : y.magnitude = f.infinity := by
      rw [isFinite_iff] at hfin
      have := isNaN_eq_false_iff.mp hyNaN
      omega
    have hxm := isFinite_iff.mp hx
    have hdiff : x.add y.neg = y.neg := by
      rw [add, if_neg (by simp [hxNaN]; exact hyNaN), if_neg (by simp [isInfinite]; omega),
        if_pos (by simp [isInfinite, neg, hinf])]
    rw [hdiff]
    refine le_iff.mpr ⟨hyNaN, hxNaN, ?_⟩
    have hx' := isFinite_iff_rank.mp hx
    have hrank : y.neg.rank = -(f.infinity : Int) := by
      rw [rank]; simp [neg, hsign, hinf]
    omega

end Binary
end DriveAdvisory
