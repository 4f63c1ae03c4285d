/-
  A share of a number.

  Taking a share of a positive number, a product with something above zero and at most one, gives no negative number
  and none above the whole.  In exact arithmetic there is nothing to say; here the product is rounded, and rounding
  could carry it above the whole.  It does not, because the whole is a number of the format itself: it is fixed by
  rounding (`nearest_quanta`), and rounding is monotone (`nearest_mono`).  An infinite whole is its own share.
-/
import DriveAdvisory.Proofs.Number.Quotient

namespace DriveAdvisory.Binary

variable {f : BinaryFormat} {x share : Binary f}

/-- A number is at most the larger one of it and anything, which may be a NaN. -/
theorem le_max_left (y : Binary f) (hx : x.isNaN = false) : x ≤ x.max y := by
  rw [max, if_neg (by simp [hx])]
  by_cases h : x < y
  · rw [if_pos h]
    exact le_of_lt h
  · rw [if_neg h]
    exact le_refl_iff.mpr hx

/-- The product of two positive numbers, the second one finite. -/
theorem mul_of_pos (hx : 0 < x) (hs : 0 < share) (hfin : share.isFinite = true) :
    x * share = if x.isInfinite then x else ofQuanta false (x.size * share.size) f.one := by
  obtain ⟨hxsign, -⟩ := pos_fields hx
  obtain ⟨hsign, hmagnitude⟩ := pos_fields hs
  have hxNaN := (zero_lt_iff.mp hx).1
  have hNaN := not_isNaN_of_isFinite hfin
  have hinf : share.isInfinite = false :=
    beq_eq_false_iff_ne.mpr (Nat.ne_of_lt (isFinite_iff.mp hfin))
  have hzero : share.isZero = false := beq_eq_false_iff_ne.mpr (Nat.ne_of_gt hmagnitude)
  show mul x share = _
  rw [mul, hxsign, hsign, hxNaN, hNaN, hinf, hzero]
  cases hxinf : x.isInfinite with
  | false => rfl
  | true =>
    obtain ⟨xn, xm, hxm⟩ := x
    obtain rfl : xn = false := hxsign
    obtain rfl : xm = f.infinity := beq_iff_eq.mp hxinf
    rfl

/-- **A share is not negative and no more than the whole.** -/
theorem mul_share (hx : 0 < x) (hs : 0 < share) (hfin : share.isFinite = true)
    (hone : share.size ≤ f.one) : 0 ≤ x * share ∧ x * share ≤ x := by
  have hxNaN := (zero_lt_iff.mp hx).1
  rw [mul_of_pos hx hs hfin]
  split
  · exact ⟨le_of_lt hx, le_refl_iff.mpr hxNaN⟩
  · have hNaN := isNaN_ofQuanta (f := f) false (x.size * share.size) f.one
    have hrank : (ofQuanta false (x.size * share.size) f.one : Binary f).rank =
        f.nearest (x.size * share.size) f.one :=
      congrArg Int.ofNat (magnitude_ofQuanta false (x.size * share.size) f.one)
    have hwhole : f.nearest (x.size * share.size) f.one ≤ x.magnitude :=
      calc f.nearest (x.size * share.size) f.one
          ≤ f.nearest (x.size * f.one) f.one :=
            f.nearest_mono f.one_pos (Nat.mul_le_mul_left x.size hone)
        _ = x.magnitude := f.nearest_quanta f.one_pos (isNaN_eq_false_iff.mp hxNaN)
    have hxrank : x.rank = x.magnitude := by rw [rank, (pos_fields hx).1]; rfl
    refine ⟨le_iff.mpr ⟨isNaN_zero, hNaN, ?_⟩, le_iff.mpr ⟨hNaN, hxNaN, ?_⟩⟩
    · rw [hrank, rank_zero]
      exact Int.natCast_nonneg _
    · rw [hrank, hxrank]
      exact Int.ofNat_le.mpr hwhole

/-- A share in single precision. -/
theorem single_mul_share {x share : Single} (hx : 0 < x) (hs : 0 < share) (hone : share ≤ 1) :
    0 ≤ x * share ∧ x * share ≤ x := by
  have hsize : share.size ≤ single.one := by
    have h := size_mono (le_of_lt hs) hone
    rwa [show (1 : Single).size = single.one by decide +kernel] at h
  have hfin : share.isFinite = true :=
    isFinite_of_between (by decide +kernel) (by decide +kernel) (le_of_lt hs) hone
  exact mul_share hx hs hfin hsize

end DriveAdvisory.Binary
