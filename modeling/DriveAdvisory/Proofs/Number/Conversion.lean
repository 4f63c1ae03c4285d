/-
  A wider format holds every number of a narrower one.

  A finite magnitude stands for a significand with some zeros after it.  In a wider format there is a magnitude
  for the same value (`exists_quanta`), so widening rounds nothing, and narrowing again gives the number back
  (`convert_widened`).  What makes a format wider is three facts about its widths, and they are all that is asked
  (`Widens`).
-/
import DriveAdvisory.Proofs.Number.Rounding

namespace DriveAdvisory

namespace BinaryFormat

variable {f g : BinaryFormat}

/-- A finite magnitude stands for a significand, shifted. -/
theorem quanta_cases (f : BinaryFormat) (m : Nat) : ∃ significand shift,
    f.quanta m = significand * 2 ^ shift ∧ significand < 2 ^ (f.fractionBits + 1) ∧
      shift = m / 2 ^ f.fractionBits - 1 := by
  have hsplit := Nat.div_add_mod m (2 ^ f.fractionBits)
  have hmod : m % 2 ^ f.fractionBits < 2 ^ f.fractionBits := Nat.mod_lt _ (Nat.two_pow_pos _)
  cases hs : m / 2 ^ f.fractionBits with
  | zero =>
    have hm : m < 2 ^ f.fractionBits := by rw [hs] at hsplit; omega
    refine ⟨m, 0, ?_, ?_, rfl⟩
    · rw [f.quanta_of_lt hm, Nat.pow_zero, Nat.mul_one]
    · rw [Nat.pow_succ]
      omega
  | succ step =>
    rw [hs, Nat.mul_comm] at hsplit
    refine ⟨2 ^ f.fractionBits + m % 2 ^ f.fractionBits, step, ?_, ?_, rfl⟩
    · have := f.quanta_of_step step hmod
      rwa [hsplit] at this
    · rw [Nat.pow_succ]
      omega

/-- A value that fits a significand is a magnitude. -/
theorem quanta_of_fits (g : BinaryFormat) {q : Nat} (h : q < 2 ^ (g.fractionBits + 1)) :
    g.quanta q = q := by
  rw [Nat.pow_succ] at h
  rcases Nat.lt_or_ge q (2 ^ g.fractionBits) with hlow | hhigh
  · exact g.quanta_of_lt hlow
  · have hstep := g.quanta_of_step 0 (show q - 2 ^ g.fractionBits < 2 ^ g.fractionBits by omega)
    rw [Nat.zero_add, Nat.one_mul, Nat.pow_zero, Nat.mul_one, Nat.add_sub_cancel' hhigh] at hstep
    exact hstep

/-- A significand with any shift is the value of a magnitude, if there are exponents enough. -/
theorem exists_quanta (g : BinaryFormat) (shift : Nat) {significand : Nat}
    (h : significand < 2 ^ (g.fractionBits + 1)) :
    ∃ m, g.quanta m = significand * 2 ^ shift ∧
      m < (g.dropped (significand * 2 ^ shift) + 2) * 2 ^ g.fractionBits := by
  generalize hq : significand * 2 ^ shift = q
  have hbits : bitLength q ≤ g.fractionBits + 1 + shift := by
    refine bitLength_le_of_lt ?_
    rw [← hq, Nat.pow_add]
    exact Nat.mul_lt_mul_of_pos_right h (Nat.two_pow_pos _)
  cases hd : g.dropped q with
  | zero =>
    have hfits : q < 2 ^ (g.fractionBits + 1) :=
      Nat.lt_of_lt_of_le (lt_two_pow_bitLength q)
        (Nat.pow_le_pow_right (by omega) (by unfold dropped at hd; omega))
    refine ⟨q, g.quanta_of_fits hfits, ?_⟩
    rw [Nat.pow_succ] at hfits
    omega
  | succ d =>
    have hlength : bitLength q = g.fractionBits + 1 + (d + 1) := by unfold dropped at hd; omega
    -- the digits that are dropped are all zeros
    obtain ⟨zeros, rfl⟩ := Nat.exists_eq_add_of_le (show d + 1 ≤ shift by omega)
    have hexact : significand * 2 ^ zeros * 2 ^ (d + 1) = q := by
      rw [Nat.mul_assoc, ← Nat.pow_add, Nat.add_comm zeros]
      exact hq
    have hhigh : significand * 2 ^ zeros < 2 ^ (g.fractionBits + 1) := by
      have hlt := lt_two_pow_bitLength q
      rw [hlength, ← hexact, Nat.pow_add 2 (g.fractionBits + 1)] at hlt
      exact Nat.lt_of_mul_lt_mul_right hlt
    have hlow : 2 ^ g.fractionBits ≤ significand * 2 ^ zeros := by
      have hle := two_pow_le_of_bitLength (show g.fractionBits + (d + 1) < bitLength q by omega)
      rw [← hexact, Nat.pow_add] at hle
      exact Nat.le_of_mul_le_mul_right hle (Nat.two_pow_pos _)
    rw [Nat.pow_succ] at hhigh
    generalize significand * 2 ^ zeros = r at hexact hhigh hlow
    refine ⟨(d + 1 + 1) * 2 ^ g.fractionBits + (r - 2 ^ g.fractionBits), ?_, ?_⟩
    · rw [g.quanta_of_step (d + 1) (by omega), Nat.add_sub_cancel' hlow, hexact]
    · rw [Nat.succ_mul (d + 1 + 1)]
      omega

/-- A format is wider than another one: its significands are as long, its quantum is smaller by a power of two,
    and its exponents reach farther. -/
structure Widens (f g : BinaryFormat) (shift : Nat) : Prop where
  fraction : f.fractionBits ≤ g.fractionBits
  exponent : 2 ≤ f.exponentBits ∧ f.exponentBits ≤ g.exponentBits
  quantum : g.quantumShift = f.quantumShift + shift
  range : f.fractionBits + 2 ^ f.exponentBits + shift ≤ g.fractionBits + 2 ^ g.exponentBits

theorem widens_single : Widens single double 925 where
  fraction := by decide
  exponent := by decide
  quantum := by decide
  range := by decide

theorem widens_double : Widens double double 0 where
  fraction := Nat.le_refl _
  exponent := by decide
  quantum := rfl
  range := Nat.le_refl _

theorem Widens.one {shift : Nat} (h : Widens f g shift) : g.one = f.one * 2 ^ shift := by
  rw [BinaryFormat.one, h.quantum]
  exact Nat.pow_add 2 f.quantumShift shift

/-- A wider format has a finite magnitude for every finite value. -/
theorem Widens.exists_quanta {shift : Nat} (h : Widens f g shift) {m : Nat} (hm : m < f.infinity) :
    ∃ m', m' < g.infinity ∧ g.quanta m' = f.quanta m * 2 ^ shift := by
  obtain ⟨significand, step, hquanta, hfits, hstep⟩ := f.quanta_cases m
  have hwide : significand < 2 ^ (g.fractionBits + 1) :=
    Nat.lt_of_lt_of_le hfits (Nat.pow_le_pow_right (by omega) (Nat.succ_le_succ h.fraction))
  obtain ⟨m', hm', hbound⟩ := g.exists_quanta (step + shift) hwide
  have hvalue : significand * 2 ^ (step + shift) = f.quanta m * 2 ^ shift := by
    rw [Nat.pow_add, ← Nat.mul_assoc, ← hquanta]
  refine ⟨m', ?_, hm'.trans hvalue⟩
  -- the wider format drops fewer digits than it has exponents
  have hdropped : g.dropped (significand * 2 ^ (step + shift)) + 3 ≤ 2 ^ g.exponentBits := by
    have hlength : bitLength (significand * 2 ^ (step + shift)) ≤
        f.fractionBits + 1 + (step + shift) := by
      refine bitLength_le_of_lt ?_
      rw [Nat.pow_add 2 (f.fractionBits + 1)]
      exact Nat.mul_lt_mul_of_pos_right hfits (Nat.two_pow_pos _)
    have hsteps : m / 2 ^ f.fractionBits < 2 ^ f.exponentBits - 1 :=
      (Nat.div_lt_iff_lt_mul (Nat.two_pow_pos _)).mpr hm
    have hfour : 2 ^ 2 ≤ 2 ^ f.exponentBits := Nat.pow_le_pow_right (by omega) h.exponent.1
    have hmore : 2 ^ f.exponentBits ≤ 2 ^ g.exponentBits :=
      Nat.pow_le_pow_right (by omega) h.exponent.2
    have hrange := h.range
    unfold dropped
    omega
  calc m' < (g.dropped (significand * 2 ^ (step + shift)) + 2) * 2 ^ g.fractionBits := hbound
    _ ≤ (2 ^ g.exponentBits - 1) * 2 ^ g.fractionBits := Nat.mul_le_mul_right _ (by omega)

end BinaryFormat

namespace Binary

variable {f g : BinaryFormat} {x : Binary f} {shift : Nat}

theorem convert_of_isFinite (h : x.isFinite = true) :
    (x.convert : Binary g) = ofQuanta x.negative (x.size * g.one) f.one := by
  have hm := isFinite_iff.mp h
  rw [convert, if_neg (by simp [not_isNaN_of_isFinite h]), if_neg (by simp [isInfinite]; omega)]

theorem ofQuanta_eq {num den : Nat} (h : f.nearest num den = x.magnitude) :
    (ofQuanta x.negative num den : Binary f) = x := by
  have hm := magnitude_ofQuanta (f := f) x.negative num den
  rw [h] at hm
  obtain ⟨negative, magnitude, hlt⟩ := x
  exact Binary.mk.injEq .. |>.mpr ⟨rfl, hm⟩

theorem convert_of_isInfinite {x : Binary f} (h : x.isInfinite = true) :
    (x.convert : Binary g) = infinite x.negative := by
  have hm : x.magnitude = f.infinity := eq_of_beq h
  have hnan : x.isNaN = false := isNaN_eq_false_iff.mpr (Nat.le_of_eq hm)
  rw [convert, if_neg (by rw [hnan]; exact Bool.false_ne_true), if_pos h]

theorem eq_infinite (h : x.isInfinite = true) : x = infinite x.negative := by
  obtain ⟨negative, magnitude, hlt⟩ := x
  obtain rfl : magnitude = f.infinity := eq_of_beq h
  rfl

theorem eq_zero (h : x.isZero = true) : x = zero x.negative := by
  obtain ⟨negative, magnitude, hlt⟩ := x
  obtain rfl : magnitude = 0 := eq_of_beq h
  rfl

/-- A number that is neither NaN nor an infinity is finite. -/
theorem isFinite_of_not (hnan : ¬ x.isNaN = true) (hinfinite : ¬ x.isInfinite = true) :
    x.isFinite = true := by
  have hle := isNaN_eq_false_iff.mp (eq_false_of_ne_true hnan)
  have hne : x.magnitude ≠ f.infinity := fun heq => hinfinite (beq_iff_eq.mpr heq)
  exact isFinite_iff.mpr (Nat.lt_of_le_of_ne hle hne)

/-- A finite number stays what it is in its own format. -/
theorem convert_self (h : x.isFinite = true) : (x.convert : Binary f) = x := by
  rw [convert_of_isFinite h]
  exact ofQuanta_eq (f.nearest_quanta f.one_pos (Nat.le_of_lt (isFinite_iff.mp h)))

/-- Widening rounds nothing. -/
theorem convert_widens (hwide : BinaryFormat.Widens f g shift) (h : x.isFinite = true) :
    (x.convert : Binary g).isFinite = true ∧ (x.convert : Binary g).negative = x.negative ∧
      (x.convert : Binary g).size = x.size * 2 ^ shift := by
  obtain ⟨m, hfinite, hquanta⟩ := hwide.exists_quanta (isFinite_iff.mp h)
  have hvalue : x.size * g.one = g.quanta m * f.one := by
    rw [hwide.one, hquanta, size]
    ac_rfl
  have hmagnitude : (x.convert : Binary g).magnitude = m := by
    rw [convert_of_isFinite h, magnitude_ofQuanta, hvalue,
      g.nearest_quanta f.one_pos (Nat.le_of_lt hfinite)]
  refine ⟨isFinite_iff.mpr (hmagnitude ▸ hfinite), ?_, ?_⟩
  · rw [convert_of_isFinite h]
    rfl
  · rw [size, hmagnitude, hquanta, size]

/-- A number that was widened is narrowed to what it was. -/
theorem convert_widened (hwide : BinaryFormat.Widens f g shift) (h : x.isFinite = true) :
    ((x.convert : Binary g).convert : Binary f) = x := by
  obtain ⟨hfinite, hsign, hsize⟩ := convert_widens hwide h
  have hvalue : (x.convert : Binary g).size * f.one = x.size * g.one := by
    rw [hsize, hwide.one]
    ac_rfl
  rw [convert_of_isFinite hfinite, hsign, hvalue]
  exact ofQuanta_eq (f.nearest_quanta g.one_pos (Nat.le_of_lt (isFinite_iff.mp h)))

end Binary
end DriveAdvisory
