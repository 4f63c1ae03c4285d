/-
  The numeric order of floating point numbers, and what `min`, `max` and `clamp` make of it.

  `lt` and `le` refuse NaNs and otherwise compare ranks, so a statement about the order is one about
  integers as soon as both sides are known to be numbers.  Everything here is that reduction
  (`lt_iff`, `le_iff`) followed by integer arithmetic.

  Three places need care:

  * a comparison says that its sides are numbers, but its failure says nothing: a NaN is neither less
    nor not less.  `not_lt` therefore asks for two numbers;
  * a clamped number is one of three: itself or an end of the interval (`clamp_cases`).  What lies between
    two finite numbers is finite (`isFinite_of_between`), even where the upper end is infinity;
  * `0` is positive zero, and its negative twin is as great: `0 ≤ x` holds of both.
-/
import DriveAdvisory.Number.Binary

namespace DriveAdvisory.Binary

variable {f : BinaryFormat} {x y z low high : Binary f}

/-! ## The order is the order of ranks -/

theorem lt_iff : x < y ↔ x.isNaN = false ∧ y.isNaN = false ∧ x.rank < y.rank := by
  show (!x.isNaN && !y.isNaN && decide (x.rank < y.rank)) = true ↔ _
  simp [and_assoc]

theorem le_iff : x ≤ y ↔ x.isNaN = false ∧ y.isNaN = false ∧ x.rank ≤ y.rank := by
  show (!x.isNaN && !y.isNaN && decide (x.rank ≤ y.rank)) = true ↔ _
  simp [and_assoc]

/-- A number is at most itself, and nothing else is. -/
theorem le_refl_iff : x ≤ x ↔ x.isNaN = false := by
  constructor
  · intro h; exact (le_iff.mp h).1
  · intro h; exact le_iff.mpr ⟨h, h, Int.le_refl _⟩

theorem le_trans (hxy : x ≤ y) (hyz : y ≤ z) : x ≤ z := by
  obtain ⟨hx, -, h₁⟩ := le_iff.mp hxy
  obtain ⟨-, hz, h₂⟩ := le_iff.mp hyz
  exact le_iff.mpr ⟨hx, hz, by omega⟩

theorem le_of_lt (h : x < y) : x ≤ y := by
  obtain ⟨hx, hy, hr⟩ := lt_iff.mp h
  exact le_iff.mpr ⟨hx, hy, by omega⟩

theorem lt_of_le_of_lt (hxy : x ≤ y) (hyz : y < z) : x < z := by
  obtain ⟨hx, -, h₁⟩ := le_iff.mp hxy
  obtain ⟨-, hz, h₂⟩ := lt_iff.mp hyz
  exact lt_iff.mpr ⟨hx, hz, by omega⟩

theorem lt_of_lt_of_le (hxy : x < y) (hyz : y ≤ z) : x < z := by
  obtain ⟨hx, -, h₁⟩ := lt_iff.mp hxy
  obtain ⟨-, hz, h₂⟩ := le_iff.mp hyz
  exact lt_iff.mpr ⟨hx, hz, by omega⟩

/-- Of two numbers, one that is not less is at least as great. -/
theorem not_lt (hx : x.isNaN = false) (hy : y.isNaN = false) : ¬ x < y ↔ y ≤ x := by
  constructor
  · intro h
    refine le_iff.mpr ⟨hy, hx, ?_⟩
    have hr : ¬ x.rank < y.rank := fun hr => h (lt_iff.mpr ⟨hx, hy, hr⟩)
    omega
  · intro h hlt
    have h₁ := (le_iff.mp h).2.2
    have h₂ := (lt_iff.mp hlt).2.2
    omega

/-- Of two numbers, one that is not at most the other is greater. -/
theorem not_le (hx : x.isNaN = false) (hy : y.isNaN = false) : ¬ x ≤ y ↔ y < x := by
  constructor
  · intro h
    refine lt_iff.mpr ⟨hy, hx, ?_⟩
    have hr : ¬ x.rank ≤ y.rank := fun hr => h (le_iff.mpr ⟨hx, hy, hr⟩)
    omega
  · intro h hle
    have h₁ := (lt_iff.mp h).2.2
    have h₂ := (le_iff.mp hle).2.2
    omega

/-- Numbers are equal that are in order both ways. -/
theorem eqv_iff : x.eqv y = true ↔ x ≤ y ∧ y ≤ x := by
  rw [le_iff, le_iff]
  show (!x.isNaN && !y.isNaN && decide (x.rank = y.rank)) = true ↔ _
  rw [Bool.and_eq_true, Bool.and_eq_true, Bool.not_eq_true', Bool.not_eq_true', decide_eq_true_iff]
  constructor
  · rintro ⟨⟨hx, hy⟩, hr⟩
    exact ⟨⟨hx, hy, by omega⟩, hy, hx, by omega⟩
  · rintro ⟨⟨hx, hy, h₁⟩, -, -, h₂⟩
    exact ⟨⟨hx, hy⟩, by omega⟩

theorem eqv_symm (h : x.eqv y = true) : y.eqv x = true := by
  obtain ⟨hxy, hyx⟩ := eqv_iff.mp h
  exact eqv_iff.mpr ⟨hyx, hxy⟩

theorem eqv_trans (hxy : x.eqv y = true) (hyz : y.eqv z = true) : x.eqv z = true := by
  obtain ⟨hxy, hyx⟩ := eqv_iff.mp hxy
  obtain ⟨hyz, hzy⟩ := eqv_iff.mp hyz
  exact eqv_iff.mpr ⟨le_trans hxy hyz, le_trans hzy hyx⟩

/-- A number is equal to itself, and nothing else is. -/
theorem eqv_self_iff : x.eqv x = true ↔ x.isNaN = false := by
  rw [eqv_iff, and_self, le_refl_iff]

theorem not_isNaN_of_le_left (h : x ≤ y) : x.isNaN = false := (le_iff.mp h).1

theorem not_isNaN_of_le_right (h : x ≤ y) : y.isNaN = false := (le_iff.mp h).2.1

/-! ## Finite numbers -/

theorem isFinite_iff : x.isFinite = true ↔ x.magnitude < f.infinity := decide_eq_true_iff

theorem isNaN_eq_false_iff : x.isNaN = false ↔ x.magnitude ≤ f.infinity := by
  rw [isNaN, decide_eq_false_iff_not]; omega

theorem not_isNaN_of_isFinite (h : x.isFinite = true) : x.isNaN = false := by
  rw [isFinite_iff] at h
  rw [isNaN_eq_false_iff]; omega

/-- The finite numbers are those strictly between the infinities. -/
theorem isFinite_iff_rank :
    x.isFinite = true ↔ -(f.infinity : Int) < x.rank ∧ x.rank < f.infinity := by
  rw [isFinite_iff, rank]
  split <;> constructor <;> intro h <;> omega

theorem isFinite_of_between (hx : x.isFinite = true) (hz : z.isFinite = true) (hxy : x ≤ y)
    (hyz : y ≤ z) : y.isFinite = true := by
  have h₁ := (le_iff.mp hxy).2.2
  have h₂ := (le_iff.mp hyz).2.2
  rw [isFinite_iff_rank] at hx hz ⊢
  omega

/-! ## Zero -/

/-- Nothing is rounded in zero. -/
theorem nearest_zero (den : Nat) : f.nearest 0 den = 0 := by
  have hround : ∀ d, roundHalfEven 0 d = 0 := by
    intro d
    rcases Nat.eq_zero_or_pos d with h | h <;> simp [roundHalfEven, h]
  simp [BinaryFormat.nearest, bitLength, hround]

theorem ofNat_zero : (0 : Binary f) = zero false := by
  show ofMagnitude false (f.nearest (0 * f.one) 1) = zero false
  rw [Nat.zero_mul, nearest_zero]
  simp [ofMagnitude, zero]

@[simp] theorem rank_zero : (0 : Binary f).rank = 0 := by rw [ofNat_zero]; rfl

@[simp] theorem isNaN_zero : (0 : Binary f).isNaN = false := by
  rw [ofNat_zero, isNaN_eq_false_iff]; exact Nat.zero_le _

theorem zero_lt_iff : 0 < x ↔ x.isNaN = false ∧ 0 < x.rank := by
  rw [lt_iff, rank_zero]; simp

/-- A positive number has no sign and is not zero. -/
theorem pos_fields (h : 0 < x) : x.negative = false ∧ 0 < x.magnitude := by
  have hr := (zero_lt_iff.mp h).2
  rw [rank] at hr
  cases hn : x.negative with
  | false => rw [if_neg (by simp [hn])] at hr; exact ⟨rfl, by omega⟩
  | true => rw [if_pos hn] at hr; omega

/-- Equal numbers are the same number, unless one of them is the negative zero. -/
theorem eq_of_eqv (hx : x ≠ zero true) (hy : y ≠ zero true) (h : x.eqv y = true) : x = y := by
  obtain ⟨hle, hge⟩ := eqv_iff.mp h
  have hrank : x.rank = y.rank := Int.le_antisymm (le_iff.mp hle).2.2 (le_iff.mp hge).2.2
  obtain ⟨xn, xm, hxm⟩ := x
  obtain ⟨yn, ym, hym⟩ := y
  have hxz : xn = true → xm ≠ 0 := by rintro rfl rfl; exact hx rfl
  have hyz : yn = true → ym ≠ 0 := by rintro rfl rfl; exact hy rfl
  have hfields : xn = yn ∧ xm = ym := by
    cases xn <;> cases yn <;> simp [rank] at hrank hxz hyz ⊢ <;> omega
  obtain ⟨rfl, rfl⟩ := hfields
  rfl

/-- Equal positive numbers are the same; only of zero there are two. -/
theorem eq_of_eqv_of_pos (h : 0 < x) (hxy : x.eqv y = true) : x = y := by
  have hne {z : Binary f} (hz : 0 < z) : z ≠ zero true := by
    rintro rfl
    nomatch (pos_fields hz).1
  exact eq_of_eqv (hne h) (hne (lt_of_lt_of_le h (eqv_iff.mp hxy).1)) hxy

/-! ## `max` and `min` -/

/-- The larger of zero and anything is at least zero, also when the other side is a NaN. -/
theorem zero_le_max (x : Binary f) : 0 ≤ (0 : Binary f).max x := by
  rw [max, if_neg (by simp)]
  split
  · rename_i h; exact le_of_lt h
  · exact le_refl_iff.mpr isNaN_zero

/-- Nothing is changed in a positive number by holding it above zero. -/
theorem max_zero_of_pos (h : 0 < x) : (0 : Binary f).max x = x := by
  rw [max, if_neg (by simp), if_pos h]

/-- A number that is not below zero stays equal to itself when it is held above it. -/
theorem eqv_max_zero (h : 0 ≤ x) : ((0 : Binary f).max x).eqv x = true := by
  have hx := not_isNaN_of_le_right h
  rw [max, if_neg (by simp)]
  by_cases hpos : 0 < x
  · rw [if_pos hpos]
    exact eqv_self_iff.mpr hx
  · rw [if_neg hpos]
    exact eqv_iff.mpr ⟨h, (not_lt isNaN_zero hx).mp hpos⟩

/-- Once held above zero, a number stays as it is. -/
theorem max_zero_max_zero (x : Binary f) :
    (0 : Binary f).max ((0 : Binary f).max x) = (0 : Binary f).max x := by
  by_cases hpos : 0 < x
  · rw [max_zero_of_pos hpos, max_zero_of_pos hpos]
  · have hzero : (0 : Binary f).max x = 0 := by
      rw [max, if_neg (by simp), if_neg hpos]
    rw [hzero, max, if_neg (by simp), ite_self]

/-- The smaller of two numbers is the first or the second. -/
theorem min_cases (hx : x.isNaN = false) (hy : y.isNaN = false) :
    (x.min y = x ∧ x ≤ y) ∨ (x.min y = y ∧ y ≤ x) := by
  rw [min, if_neg (by simp [hx])]
  by_cases h : y < x
  · rw [if_pos h]; exact .inr ⟨rfl, le_of_lt h⟩
  · rw [if_neg h]; exact .inl ⟨rfl, (not_lt hy hx).mp h⟩

theorem min_le_left (hx : x.isNaN = false) (hy : y.isNaN = false) : x.min y ≤ x := by
  rcases min_cases hx hy with ⟨h, -⟩ | ⟨h, hle⟩
  · rw [h]; exact le_refl_iff.mpr hx
  · rw [h]; exact hle

theorem min_le_right (hx : x.isNaN = false) (hy : y.isNaN = false) : x.min y ≤ y := by
  rcases min_cases hx hy with ⟨h, hle⟩ | ⟨h, -⟩
  · rw [h]; exact hle
  · rw [h]; exact le_refl_iff.mpr hy

/-- The first of two numbers in order is the smaller one. -/
theorem min_eq_left (h : x ≤ y) : x.min y = x := by
  obtain ⟨hx, hy, hr⟩ := le_iff.mp h
  rw [min, if_neg (by simp [hx]), if_neg]
  intro hlt
  have := (lt_iff.mp hlt).2.2
  omega

/-! ## `clamp` -/

/-- A clamped number is the lower end, the upper end, or itself, each for its reason. -/
theorem clamp_cases (hb : Bounds low high) (hx : x.isNaN = false) :
    (x.clamp low high = low ∧ x ≤ low) ∨ (x.clamp low high = high ∧ high ≤ x) ∨
      (x.clamp low high = x ∧ low ≤ x ∧ x ≤ high) := by
  obtain ⟨hlow, hhigh, hr⟩ := le_iff.mp hb
  by_cases h₁ : x < low
  · have hin : ¬ high < low := by rw [not_lt hhigh hlow]; exact hb
    left
    rw [clamp, if_pos h₁, if_neg hin]
    exact ⟨rfl, le_of_lt h₁⟩
  · have hge : low ≤ x := (not_lt hx hlow).mp h₁
    rw [clamp, if_neg h₁]
    by_cases h₂ : high < x
    · rw [if_pos h₂]; exact .inr (.inl ⟨rfl, le_of_lt h₂⟩)
    · rw [if_neg h₂]; exact .inr (.inr ⟨rfl, hge, (not_lt hhigh hx).mp h₂⟩)

/-- Nothing is changed in a number of the interval, not even the sign of a zero. -/
theorem clamp_of_mem (hlow : low ≤ x) (hhigh : x ≤ high) : x.clamp low high = x := by
  have hx := not_isNaN_of_le_left hhigh
  have h₁ : ¬ x < low := (not_lt hx (not_isNaN_of_le_left hlow)).mpr hlow
  have h₂ : ¬ high < x := (not_lt (not_isNaN_of_le_right hhigh) hx).mpr hhigh
  rw [clamp, if_neg h₁, if_neg h₂]

theorem low_le_clamp (hb : Bounds low high) (hx : x.isNaN = false) : low ≤ x.clamp low high := by
  rcases clamp_cases hb hx with ⟨h, -⟩ | ⟨h, -⟩ | ⟨h, hge, -⟩
  · rw [h]; exact le_refl_iff.mpr (not_isNaN_of_le_left hb)
  · rw [h]; exact hb
  · rw [h]; exact hge

theorem clamp_le_high (hb : Bounds low high) (hx : x.isNaN = false) : x.clamp low high ≤ high := by
  rcases clamp_cases hb hx with ⟨h, -⟩ | ⟨h, -⟩ | ⟨h, -, hle⟩
  · rw [h]; exact hb
  · rw [h]; exact le_refl_iff.mpr (not_isNaN_of_le_right hb)
  · rw [h]; exact hle

/-- Clamping a finite number gives a finite one, although the upper end may be infinite. -/
theorem isFinite_clamp (hb : Bounds low high) (hlow : low.isFinite = true)
    (hx : x.isFinite = true) : (x.clamp low high).isFinite = true := by
  rcases clamp_cases hb (not_isNaN_of_isFinite hx) with ⟨h, -⟩ | ⟨h, hle⟩ | ⟨h, -⟩
  · rw [h]; exact hlow
  · rw [h]; exact isFinite_of_between hlow hx hb hle
  · rw [h]; exact hx

/-- What is at least a bound below the upper end is still so after clamping. -/
theorem le_clamp (hb : Bounds low high) (hyx : y ≤ x) (hyh : y ≤ high) :
    y ≤ x.clamp low high := by
  rcases clamp_cases hb (not_isNaN_of_le_right hyx) with ⟨h, hle⟩ | ⟨h, -⟩ | ⟨h, -⟩
  · rw [h]; exact le_trans hyx hle
  · rw [h]; exact hyh
  · rw [h]; exact hyx

/-- Clamping keeps numbers in order. -/
theorem clamp_mono (hb : Bounds low high) (h : x ≤ y) : x.clamp low high ≤ y.clamp low high := by
  obtain ⟨hx, hy, -⟩ := le_iff.mp h
  rcases clamp_cases hb hx with ⟨he, -⟩ | ⟨he, hle⟩ | ⟨he, -, hle⟩
  · rw [he]; exact low_le_clamp hb hy
  · rw [he]; exact le_clamp hb (le_trans hle h) (le_refl_iff.mpr (not_isNaN_of_le_right hb))
  · rw [he]; exact le_clamp hb h hle

end DriveAdvisory.Binary
