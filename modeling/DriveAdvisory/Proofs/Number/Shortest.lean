/-
  The shortest decimal of a number is read back.

  What is written is a point of a decimal grid that the number covers (`Binary.covers_of_hits`), so it is rounded to
  that number.  What is left to see is that one of the grids that are tried has such a point: the last of them is
  so fine that its unit fits between the number and its lower neighbour (`unit_le_gap`), and then the point next
  below the number is one (`gridPoint?_ne_none`).

  Powers of ten and of two are compared by `10 ^ 3 < 2 ^ 10` and `2 ^ 93 < 10 ^ 28`, which is near enough: the grids
  that are tried go some twenty places further than they have to.
-/
import DriveAdvisory.Number.Shortest
import DriveAdvisory.Proofs.Number.Conversion
import DriveAdvisory.Proofs.Number.Nearest

namespace DriveAdvisory

/-! ## Powers of ten -/

/-- The whole part of a power of ten. -/
def tenUp (exponent : Int) : Nat := if 0 ≤ exponent then 10 ^ exponent.natAbs else 1

/-- What a power of ten is divided by. -/
def tenDown (exponent : Int) : Nat := if 0 ≤ exponent then 1 else 10 ^ exponent.natAbs

theorem tenUp_pos (exponent : Int) : 0 < tenUp exponent := by
  unfold tenUp
  split
  · exact Nat.pow_pos (by decide)
  · decide

theorem tenDown_pos (exponent : Int) : 0 < tenDown exponent := by
  unfold tenDown
  split
  · decide
  · exact Nat.pow_pos (by decide)

theorem ten_pow_le_two_pow {e k : Nat} (h : 10 * e ≤ 3 * k) : 10 ^ e ≤ 2 ^ k := by
  rw [← Nat.pow_le_pow_iff_left (show 3 ≠ 0 by decide)]
  calc (10 ^ e) ^ 3 = (10 ^ 3) ^ e := Nat.pow_right_comm 10 e 3
    _ ≤ (2 ^ 10) ^ e := Nat.pow_le_pow_left (by decide) e
    _ = 2 ^ (10 * e) := (Nat.pow_mul 2 10 e).symm
    _ ≤ 2 ^ (3 * k) := Nat.pow_le_pow_right (by decide) h
    _ = (2 ^ k) ^ 3 := by rw [Nat.mul_comm, Nat.pow_mul]

theorem two_pow_le_ten_pow {e k : Nat} (h : 28 * k ≤ 93 * e) : 2 ^ k ≤ 10 ^ e := by
  rw [← Nat.pow_le_pow_iff_left (show 28 ≠ 0 by decide)]
  calc (2 ^ k) ^ 28 = 2 ^ (28 * k) := by rw [Nat.mul_comm, Nat.pow_mul]
    _ ≤ 2 ^ (93 * e) := Nat.pow_le_pow_right (by decide) h
    _ = (2 ^ 93) ^ e := Nat.pow_mul 2 93 e
    _ ≤ (10 ^ 28) ^ e := Nat.pow_le_pow_left (by decide) e
    _ = (10 ^ e) ^ 28 := Nat.pow_right_comm 10 28 e

/-! ## Points of a grid -/

section Grid

variable (tie : TieRule) (one lower value upper : Nat) (closed : Bool) (exponent : Int)

/-- The unit of a grid, over `tenDown`. -/
def gridUnit : Nat := tenUp exponent * (2 * one)

/-- The multiple of the unit is no zero and lies between the bounds, or on one of them if they count. -/
def hits (n : Nat) : Bool :=
  n != 0 && (decide (lower * tenDown exponent < n * gridUnit one exponent) &&
      decide (n * gridUnit one exponent < upper * tenDown exponent)
    || closed && (n * gridUnit one exponent == lower * tenDown exponent
      || n * gridUnit one exponent == upper * tenDown exponent))

/-- Only the neighbours of the value are looked at, and one that hits is taken if there is one. -/
theorem gridPoint?_cases :
    (gridPoint? tie one lower value upper closed exponent = none ∧
      hits one lower upper closed exponent (value * tenDown exponent / gridUnit one exponent) = false) ∨
    ∃ n, gridPoint? tie one lower value upper closed exponent = some n ∧
      hits one lower upper closed exponent n = true := by
  have hdown : (if 0 ≤ exponent then 1 else Nat.pow 10 exponent.natAbs) = tenDown exponent := rfl
  have hup : (if 0 ≤ exponent then Nat.pow 10 exponent.natAbs else 1) = tenUp exponent := rfl
  -- folded first, so that the only conditions left to split on compare the two distances
  simp only [gridPoint?, hdown, hup]
  split
  · next hbelow _ => exact .inl ⟨rfl, hbelow⟩
  · next hbelow _ => exact .inr ⟨_, rfl, hbelow⟩
  · next _ habove => exact .inr ⟨_, rfl, habove⟩
  · next hbelow habove =>
    right
    split
    · exact ⟨_, rfl, hbelow⟩
    · split
      · exact ⟨_, rfl, habove⟩
      · cases tie with
        | up => exact ⟨_, rfl, habove⟩
        | even =>
          dsimp only
          split
          · exact ⟨_, rfl, hbelow⟩
          · exact ⟨_, rfl, habove⟩

variable {one lower value upper exponent}

/-- If the unit fits between the lower bound and the value, the point next below the value hits. -/
theorem gridPoint?_ne_none (hone : 0 < one) (hlow : lower < value) (hhigh : value < upper)
    (hunit : gridUnit one exponent ≤ (value - lower) * tenDown exponent) :
    gridPoint? tie one lower value upper closed exponent ≠ none := by
  rcases gridPoint?_cases tie one lower value upper closed exponent with ⟨-, hmiss⟩ | ⟨n, hn, -⟩
  · have hdown := tenDown_pos exponent
    have hpos : 0 < gridUnit one exponent := Nat.mul_pos (tenUp_pos exponent) (by omega)
    have hless := Nat.mul_lt_mul_of_pos_right hlow hdown
    have hmore := Nat.mul_lt_mul_of_pos_right hhigh hdown
    rw [Nat.sub_mul] at hunit
    have hrest := Nat.div_add_mod (value * tenDown exponent) (gridUnit one exponent)
    have hsmall := Nat.mod_lt (value * tenDown exponent) hpos
    rw [Nat.mul_comm] at hrest
    unfold hits at hmiss
    -- the point is less than a unit below the value, and the lower bound a unit at least
    generalize value * tenDown exponent / gridUnit one exponent = below at *
    have hbelow : below ≠ 0 := by
      rintro rfl
      omega
    have hinside : lower * tenDown exponent < below * gridUnit one exponent ∧
        below * gridUnit one exponent < upper * tenDown exponent := by omega
    simp [hbelow, hinside] at hmiss
  · rw [hn]
    exact Option.some_ne_none n

/-- A grid is found if one of those that are tried has a point, and then it is that grid's point. -/
theorem firstGridPoint_eq_some {point? : Int → Option Nat} {count i : Nat} (start : Int) (hi : i < count)
    (h : point? (start - i) ≠ none) : ∃ d, firstGridPoint point? count start = some d ∧
      point? d.exponent = some d.digits := by
  induction count generalizing i start with
  | zero => exact absurd hi (Nat.not_lt_zero i)
  | succ count ih =>
    rw [firstGridPoint]
    cases hfirst : point? start with
    | some digits => exact ⟨⟨digits, start⟩, rfl, hfirst⟩
    | none =>
      cases i with
      | zero => exact absurd (by rwa [Int.natCast_zero, Int.sub_zero]) h
      | succ i =>
        refine ih (start - 1) (Nat.lt_of_succ_lt_succ hi) ?_
        rwa [show start - 1 - (i : Int) = start - (i + 1 : Nat) by omega]

end Grid

/-! ## Decimals -/

theorem BinaryFormat.one_eq (f : BinaryFormat) : f.one = 2 ^ f.quantumShift := rfl

namespace Binary

variable {f : BinaryFormat}

theorem ofDecimal_eq (negative : Bool) (digits : Nat) (exponent : Int) :
    (ofDecimal negative digits exponent : Binary f) =
      ofQuanta negative (digits * tenUp exponent * f.one) (tenDown exponent) := by
  unfold ofDecimal tenUp tenDown
  by_cases h : exponent < 0
  · rw [if_pos h, if_neg (by omega), if_neg (by omega), Nat.mul_one]
    rfl
  · rw [if_neg h, if_pos (by omega), if_pos (by omega)]
    rfl

/-- A point that hits is covered by the magnitude. -/
theorem covers_of_hits {m n : Nat} {exponent : Int} (hm : 0 < m)
    (h : hits f.one (f.quanta m + f.quanta (m - 1)) (f.quanta m + f.quanta (m + 1)) (m % 2 == 0) exponent n
      = true) : n ≠ 0 ∧ f.Covers m (n * tenUp exponent * f.one) (tenDown exponent) := by
  have hpoint : n * gridUnit f.one exponent = 2 * (n * tenUp exponent * f.one) := by
    unfold gridUnit
    ring
  have hbounds : f.quanta m + f.quanta (m - 1) < f.quanta m + f.quanta (m + 1) := by
    have hbelow := f.quanta_lt_quanta_succ (m - 1)
    have habove := f.quanta_lt_quanta_succ m
    rw [Nat.sub_add_cancel hm] at hbelow
    omega
  have hdown := Nat.mul_lt_mul_of_pos_right hbounds (tenDown_pos exponent)
  unfold hits at h
  rw [hpoint] at h
  simp only [Bool.and_eq_true, Bool.or_eq_true, bne_iff_ne, decide_eq_true_eq, beq_iff_eq] at h
  obtain ⟨hzero, ⟨hlow, hhigh⟩ | ⟨heven, hlow | hhigh⟩⟩ := h
  · exact ⟨hzero, .inl hlow, .inl hhigh⟩
  · exact ⟨hzero, .inr ⟨heven, hlow.symm⟩, .inl (hlow ▸ hdown)⟩
  · exact ⟨hzero, .inl (hhigh ▸ hdown), .inr ⟨heven, hhigh⟩⟩

end Binary

/-! ## The shortest decimal -/

namespace Double

variable {x : Double}

theorem bitLength_size_le (h : x.isFinite = true) : bitLength x.size ≤ 2098 := by
  obtain ⟨significand, shift, hquanta, hfits, hshift⟩ := double.quanta_cases x.magnitude
  have hm : x.magnitude < 2047 * 2 ^ double.fractionBits := Binary.isFinite_iff.mp h
  have hstep : x.magnitude / 2 ^ double.fractionBits < 2047 :=
    (Nat.div_lt_iff_lt_mul (Nat.two_pow_pos _)).mpr hm
  have hlt : x.size < 2 ^ (53 + shift) :=
    calc x.size = significand * 2 ^ shift := hquanta
      _ < 2 ^ 53 * 2 ^ shift := Nat.mul_lt_mul_of_pos_right hfits (Nat.two_pow_pos _)
      _ = 2 ^ (53 + shift) := (Nat.pow_add 2 53 shift).symm
  exact Nat.le_trans (bitLength_le_of_lt hlt) (by omega)

/-- A number is a full significand of its gaps at most. -/
theorem size_le_gaps (hpos : 0 < x.magnitude) :
    x.size ≤ 2 ^ 53 * (x.size - double.quanta (x.magnitude - 1)) := by
  obtain ⟨step, significand, -, hfits, -, hquanta, hnext⟩ := double.quanta_next (x.magnitude - 1)
  rw [Nat.sub_add_cancel hpos] at hnext
  have hsize : x.size = (significand + 1) * 2 ^ step := hnext
  rw [hquanta, hsize, Nat.succ_mul, Nat.add_sub_cancel_left, ← Nat.succ_mul]
  exact Nat.mul_le_mul_right _ hfits

/-- The first grid that is tried. -/
def startPlace (x : Double) : Int :=
  ((bitLength x.size : Int) - double.quantumShift) * 30103 / 100000 + 2

/-- The last grid that is tried is fine enough. -/
theorem unit_le_gap (hfin : x.isFinite = true) (hpos : 0 < x.magnitude) :
    gridUnit double.one (x.startPlace - 39) ≤
      (x.size - double.quanta (x.magnitude - 1)) * tenDown (x.startPlace - 39) := by
  have hlength := bitLength_size_le hfin
  have hlow : 2 ^ bitLength x.size ≤ 2 ^ 54 * (x.size - double.quanta (x.magnitude - 1)) := by
    have hpositive := lt_bitLength_of_le (n := x.size) (k := 0) (double.quanta_pos hpos)
    have hlead := two_pow_le_of_bitLength (n := x.size) (k := bitLength x.size - 1) (by omega)
    have hgaps := size_le_gaps hpos
    have hdouble : 2 ^ bitLength x.size = 2 * 2 ^ (bitLength x.size - 1) := by
      rw [← Nat.pow_succ', Nat.succ_eq_add_one, Nat.sub_add_cancel hpositive]
    omega
  have hone := double.one_eq
  have hshift : double.quantumShift = 1074 := by decide +kernel
  unfold startPlace gridUnit
  rw [hone]
  generalize bitLength x.size = length at *
  generalize x.size - double.quanta (x.magnitude - 1) = gap at *
  generalize double.quantumShift = shift at *
  refine Nat.le_of_mul_le_mul_left ?_ (Nat.two_pow_pos 54)
  generalize hplace : ((length : Int) - shift) * 30103 / 100000 + 2 - 39 = place
  unfold tenUp tenDown
  split
  · -- the unit is a power of ten, and far below the number
    have hten : 10 ^ place.natAbs ≤ 2 ^ (length - (shift + 55)) := ten_pow_le_two_pow (by omega)
    calc 2 ^ 54 * (10 ^ place.natAbs * (2 * 2 ^ shift))
        ≤ 2 ^ 54 * (2 ^ (length - (shift + 55)) * (2 * 2 ^ shift)) := by gcongr
      _ = 2 ^ (length - (shift + 55) + (shift + 55)) := by ring
      _ = 2 ^ length := by rw [Nat.sub_add_cancel (by omega)]
      _ ≤ 2 ^ 54 * (gap * 1) := by rwa [Nat.mul_one]
  · -- the unit is a fraction, so small that the number is many of them
    have hten : 2 ^ (shift + 55 - length) ≤ 10 ^ place.natAbs := two_pow_le_ten_pow (by omega)
    calc 2 ^ 54 * (1 * (2 * 2 ^ shift)) = 2 ^ (shift + 55) := by ring
      _ ≤ 2 ^ (length + (shift + 55 - length)) := Nat.pow_le_pow_right (by decide) (by omega)
      _ = 2 ^ length * 2 ^ (shift + 55 - length) := Nat.pow_add 2 _ _
      _ ≤ 2 ^ 54 * gap * 10 ^ place.natAbs := Nat.mul_le_mul hlow hten
      _ = 2 ^ 54 * (gap * 10 ^ place.natAbs) := Nat.mul_assoc _ _ _

/-- **The shortest decimal** of a number that is not zero is not zero either, and it is rounded to that number. -/
theorem ofDecimal_shortest (tie : TieRule) (hfin : x.isFinite = true) (hpos : 0 < x.magnitude) :
    (x.shortest tie).digits ≠ 0 ∧
      Binary.ofDecimal x.negative (x.shortest tie).digits (x.shortest tie).exponent = x := by
  have hm := Binary.isFinite_iff.mp hfin
  have hbelow := double.quanta_lt_quanta_succ (x.magnitude - 1)
  have habove := double.quanta_lt_quanta_succ x.magnitude
  rw [Nat.sub_add_cancel hpos] at hbelow
  have hgap := unit_le_gap hfin hpos
  rw [show x.size - double.quanta (x.magnitude - 1) =
    2 * x.size - (x.size + double.quanta (x.magnitude - 1)) by omega] at hgap
  have hlow : x.size + double.quanta (x.magnitude - 1) < 2 * x.size := by
    unfold Binary.size
    omega
  have hhigh : 2 * x.size < x.size + double.quanta (x.magnitude + 1) := by
    unfold Binary.size
    omega
  have hfound := gridPoint?_ne_none tie (x.magnitude % 2 == 0) double.one_pos hlow hhigh hgap
  obtain ⟨d, hd, hpoint⟩ := firstGridPoint_eq_some x.startPlace (show 39 < 40 by decide) hfound
  have hshortest : x.shortest tie = d := congrArg (fun found : Option Decimal => found.getD ⟨0, 0⟩) hd
  rcases gridPoint?_cases tie double.one (x.size + double.quanta (x.magnitude - 1)) (2 * x.size)
    (x.size + double.quanta (x.magnitude + 1)) (x.magnitude % 2 == 0) d.exponent
    with ⟨hnone, -⟩ | ⟨n, hn, hhits⟩
  · nomatch hnone.symm.trans hpoint
  · -- the grid's point is the decimal that was chosen, so the number covers it
    obtain rfl := Option.some.inj (hn.symm.trans hpoint)
    obtain ⟨hzero, hcovers⟩ := Binary.covers_of_hits hpos hhits
    rw [hshortest]
    refine ⟨hzero, ?_⟩
    rw [Binary.ofDecimal_eq]
    exact Binary.ofQuanta_eq
      (double.nearest_of_covers (by decide) (tenDown_pos _) hpos hm hcovers)

end Double

end DriveAdvisory
