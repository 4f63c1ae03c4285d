/-
  Quotients: the greater the divisor, the less is left, also after rounding.

  `nearest_mono` compares quotients of one denominator, and those of one numerator are brought to one: rounding
  does not notice a common factor of both sides (`nearest_scale`), so two denominators can each be multiplied by
  the other.  From there it is a short way to floats (`reciprocal_anti`).
-/
import DriveAdvisory.Proofs.Number.Rounding

namespace DriveAdvisory

/-- A common factor of both sides is not noticed. -/
theorem roundHalfEven_scale (num den : Nat) {k : Nat} (hk : 0 < k) :
    roundHalfEven (num * k) (den * k) = roundHalfEven num den := by
  have hless : ∀ a b : Nat, a * k < b * k ↔ a < b := fun a b => Nat.mul_lt_mul_right hk
  have hbelow := hless (2 * (num % den)) den
  have habove := hless den (2 * (num % den))
  rw [Nat.mul_assoc] at hbelow habove
  unfold roundHalfEven
  dsimp only
  simp only [Nat.mul_div_mul_right num den hk, Nat.mul_mod_mul_right, hbelow, habove]

namespace BinaryFormat

variable (f : BinaryFormat)

theorem nearest_scale (num den : Nat) {k : Nat} (hk : 0 < k) :
    f.nearest (num * k) (den * k) = f.nearest num den := by
  have hshape : ∀ d : Nat, den * k * 2 ^ d = den * 2 ^ d * k := fun d => by ac_rfl
  rw [nearest_eq, nearest_eq, Nat.mul_div_mul_right num den hk, hshape, roundHalfEven_scale _ _ hk]

/-- **The greater the divisor**, the less is left. -/
theorem nearest_anti (num : Nat) {d e : Nat} (hd : 0 < d) (h : d ≤ e) :
    f.nearest num e ≤ f.nearest num d := by
  have he : 0 < e := Nat.lt_of_lt_of_le hd h
  calc f.nearest num e = f.nearest (num * d) (e * d) := (f.nearest_scale num e hd).symm
    _ ≤ f.nearest (num * e) (e * d) := f.nearest_mono (Nat.mul_pos he hd) (Nat.mul_le_mul_left num h)
    _ = f.nearest (num * e) (d * e) := by rw [Nat.mul_comm e d]
    _ = f.nearest num d := f.nearest_scale num d he

/-- A greater magnitude stands for more quanta: rounding takes both back, and it is monotone. -/
theorem quanta_mono {m n : Nat} (hn : n ≤ f.infinity) (h : m ≤ n) : f.quanta m ≤ f.quanta n := by
  have hback : ∀ k ≤ f.infinity, f.nearest (f.quanta k) 1 = k := by
    intro k hk
    have := f.nearest_quanta Nat.one_pos hk
    rwa [Nat.mul_one] at this
  rcases Nat.lt_or_ge (f.quanta n) (f.quanta m) with hlt | hge
  · have hle := f.nearest_mono Nat.one_pos (Nat.le_of_lt hlt)
    rw [hback n hn, hback m (Nat.le_trans h hn)] at hle
    obtain rfl : m = n := Nat.le_antisymm h hle
    exact Nat.le_refl _
  · exact hge

end BinaryFormat

namespace Binary

variable {f : BinaryFormat} {x y z : Binary f}

/-- What lies above a number is at least its neighbour. -/
theorem le_of_lt_next (hz : z.isNaN = false) (hnext : z.rank = x.rank + 1) (h : x < y) : z ≤ y := by
  obtain ⟨-, hy, hr⟩ := lt_iff.mp h
  exact le_iff.mpr ⟨hz, hy, by omega⟩

/-- Numbers that are not below zero are in the order of their sizes. -/
theorem size_mono (hx : 0 ≤ x) (h : x ≤ y) : x.size ≤ y.size := by
  obtain ⟨-, -, hnonneg⟩ := le_iff.mp hx
  obtain ⟨-, hy, hr⟩ := le_iff.mp h
  rw [rank_zero] at hnonneg
  apply f.quanta_mono (isNaN_eq_false_iff.mp hy)
  unfold rank at hnonneg hr
  cases hxn : x.negative <;> cases hyn : y.negative <;> simp [hxn, hyn] at hnonneg hr <;> omega

theorem size_pos (h : 0 < x) : 0 < x.size := by
  obtain ⟨-, hm⟩ := pos_fields h
  exact f.quanta_pos hm

/-- The reciprocal of a rate. -/
theorem reciprocal_eq {r : Double} (hpos : 0 < r) (hfin : r.isFinite = true) :
    1 / r = ofQuanta false (double.one * double.one) r.size := by
  obtain ⟨hsign, hm⟩ := pos_fields hpos
  have hNaN := not_isNaN_of_isFinite hfin
  have hinf : r.isInfinite = false := beq_eq_false_iff_ne.mpr (Nat.ne_of_lt (isFinite_iff.mp hfin))
  have hzero : r.isZero = false := beq_eq_false_iff_ne.mpr (Nat.ne_of_gt hm)
  have honeNaN : (1 : Double).isNaN = false := by decide +kernel
  have honeInf : (1 : Double).isInfinite = false := by decide +kernel
  have honeSign : (1 : Double).negative = false := by decide +kernel
  have honeSize : (1 : Double).size = double.one := by decide +kernel
  show div 1 r = _
  simp only [div, hNaN, hinf, hzero, hsign, honeNaN, honeInf, honeSign, honeSize, Bool.or_self,
    Bool.false_eq_true, if_false, bne_self_eq_false]

/-- The higher the rate, the shorter the time. -/
theorem reciprocal_anti {r s : Double} (hpos : 0 < r) (hfin : s.isFinite = true) (h : r ≤ s) :
    1 / s ≤ 1 / r := by
  have hposs : 0 < s := lt_of_lt_of_le hpos h
  have hfinr := isFinite_of_between (by decide +kernel) hfin (le_of_lt hpos) h
  have hsize := size_mono (le_of_lt hpos) h
  rw [reciprocal_eq hpos hfinr, reciprocal_eq hposs hfin]
  refine le_iff.mpr ⟨isNaN_ofQuanta _ _ _, isNaN_ofQuanta _ _ _, ?_⟩
  have hle := double.nearest_anti (double.one * double.one) (size_pos hpos) hsize
  rw [← magnitude_ofQuanta false, ← magnitude_ofQuanta false] at hle
  exact Int.ofNat_le.mpr hle

end Binary
end DriveAdvisory
