/-
  Which settings the ticker can tick with.

  What is checked is the rate, a positive finite number, and what the ticker goes by is the period, its reciprocal to
  the nearest nanosecond.  Between the two lie two ends that the check does not see: the period of a very low rate is
  longer than any span, and that of a very high one rounds to nothing, and a ticker cannot wait for either.

  The period falls with the rate (`Binary.reciprocal_anti`, `Duration.ofFloatSeconds_mono`), so each end is one rate,
  and one look at it and its neighbour tells where it is: the period is shorter than `2 ^ 64` seconds above
  `slowestRate`, and at least half a nanosecond up to `fastestRate`.  Of the settings that pass the check, those
  between the two are exactly the ones that the ticker can tick with (`runs_iff_of_validate`).
-/
import DriveAdvisory.Proofs.Number.Quotient
import DriveAdvisory.Proofs.Settings.Enforceable

namespace DriveAdvisory

/-! ## Spans of seconds -/

namespace Duration

/-- A number of seconds that is not below zero is a span if it is not too long for one. -/
theorem ofFloatSeconds_eq_ok_iff {x : Double} (hx : 0 ≤ x) {d : Duration} :
    ofFloatSeconds x = .ok d ↔ x.isFinite = true ∧
      roundHalfEven (x.size * 1000000000) double.one = d ∧ d ≤ longest := by
  have hNaN := Binary.not_isNaN_of_le_right hx
  have hneg : ¬ x < 0 := (Binary.not_lt hNaN Binary.isNaN_zero).mpr hx
  rw [ofFloatSeconds, if_neg (Bool.eq_false_iff.mp hNaN), if_neg hneg]
  by_cases hinf : x.isInfinite = true
  · have hfin : ¬ x.isFinite = true := by
      rw [Binary.isFinite_iff, beq_iff_eq.mp hinf]
      exact Nat.lt_irrefl _
    rw [if_pos hinf]
    exact ⟨nofun, fun h => absurd h.1 hfin⟩
  · have hfin : x.isFinite = true := by
      have hne : x.magnitude ≠ double.infinity := fun he => hinf (beq_iff_eq.mpr he)
      exact Binary.isFinite_iff.mpr (Nat.lt_of_le_of_ne (Binary.isNaN_eq_false_iff.mp hNaN) hne)
    rw [if_neg hinf]
    dsimp only
    split
    · rename_i hlong
      refine ⟨nofun, ?_⟩
      rintro ⟨-, rfl, hle⟩
      exact absurd hlong (Nat.not_lt.mpr hle)
    · rename_i hshort
      rw [Except.ok.injEq]
      constructor
      · rintro rfl
        exact ⟨hfin, rfl, Nat.not_lt.mp hshort⟩
      · exact fun h => h.2.1

/-- Fewer seconds are a span that is not longer. -/
theorem ofFloatSeconds_mono {x y : Double} (hx : 0 ≤ x) (hxy : x ≤ y) {e : Duration}
    (he : ofFloatSeconds y = .ok e) : ∃ d, ofFloatSeconds x = .ok d ∧ d ≤ e := by
  obtain ⟨hfin, rfl, hlong⟩ := (ofFloatSeconds_eq_ok_iff (Binary.le_trans hx hxy)).mp he
  have hfewer := roundHalfEven_mono double.one
    (Nat.mul_le_mul_right 1000000000 (Binary.size_mono hx hxy))
  have hfinite := Binary.isFinite_of_between (by decide +kernel) hfin hx hxy
  exact ⟨_, (ofFloatSeconds_eq_ok_iff hx).mpr ⟨hfinite, rfl, Nat.le_trans hfewer hlong⟩, hfewer⟩

end Duration

/-! ## Rates -/

namespace TickerSettings

/-- The ticker can wait from tick to tick: its period is a span, and not none at all. -/
def Ticks (t : TickerSettings) : Prop := ∃ d, t.period = .ok d ∧ 0 < d

/-- The period of this rate would be `2 ^ 64` seconds, one more than there are. -/
def slowestRate : Double := 1 / 18446744073709551616

/-- The period of this rate, in ticks per second, is half a nanosecond. -/
def fastestRate : Double := 2000000000

/-- The neighbours of the two rates. -/
def aboveSlowest : Double := ⟨false, slowestRate.magnitude + 1, by decide +kernel⟩

def aboveFastest : Double := ⟨false, fastestRate.magnitude + 1, by decide +kernel⟩

variable {t : TickerSettings}

theorem period_eq (hfin : t.rate.isFinite = true) (hpos : 0 < t.rate) :
    t.period = Duration.ofFloatSeconds (1 / t.rate) := by
  rw [period, if_pos ⟨hfin, hpos⟩]

/-- A rate that is not higher has a period that is not shorter. -/
theorem period_anti {r s : Double} (hpos : 0 < r) (hfin : s.isFinite = true) (h : r ≤ s)
    {d : Duration} (hd : Duration.ofFloatSeconds (1 / r) = .ok d) :
    ∃ e, Duration.ofFloatSeconds (1 / s) = .ok e ∧ e ≤ d := by
  have hnonneg : 0 ≤ 1 / s := by
    rw [Binary.reciprocal_eq (Binary.lt_of_lt_of_le hpos h) hfin]
    refine Binary.le_iff.mpr ⟨Binary.isNaN_zero, Binary.isNaN_ofQuanta _ _ _, ?_⟩
    rw [Binary.rank_zero]
    exact Int.natCast_nonneg _
  exact Duration.ofFloatSeconds_mono hnonneg (Binary.reciprocal_anti hpos hfin h) hd

/-- **The rates to tick by.** -/
theorem ticks_iff (hfin : t.rate.isFinite = true) (hpos : 0 < t.rate) :
    t.Ticks ↔ slowestRate < t.rate ∧ t.rate ≤ fastestRate := by
  have hNaN := Binary.not_isNaN_of_isFinite hfin
  rw [Ticks, period_eq hfin hpos]
  constructor
  · rintro ⟨d, hd, hsome⟩
    constructor
    · -- at the slowest rate there is no period, and a lower one would have a longer one
      rw [← Binary.not_le hNaN (by decide +kernel)]
      intro hslow
      obtain ⟨e, he, -⟩ := period_anti hpos (by decide +kernel) hslow hd
      obtain ⟨-, rfl, hle⟩ := (Duration.ofFloatSeconds_eq_ok_iff (by decide +kernel)).mp he
      exact absurd hle (by decide +kernel)
    · -- behind the fastest rate the period is none at all
      rw [← Binary.not_lt (by decide +kernel) hNaN]
      intro hfast
      have hnext : aboveFastest ≤ t.rate :=
        Binary.le_of_lt_next (by decide +kernel) (by decide +kernel) hfast
      have hzero : Duration.ofFloatSeconds (1 / aboveFastest) = .ok 0 :=
        (Duration.ofFloatSeconds_eq_ok_iff (by decide +kernel)).mpr (by decide +kernel)
      obtain ⟨e, he, hle⟩ := period_anti (by decide +kernel) hfin hnext hzero
      obtain rfl : d = e := Except.ok.inj (hd.symm.trans he)
      exact absurd hsome (Nat.not_lt.mpr hle)
  · rintro ⟨hslow, hfast⟩
    have hnext : aboveSlowest ≤ t.rate :=
      Binary.le_of_lt_next (by decide +kernel) (by decide +kernel) hslow
    have hlong : Duration.ofFloatSeconds (1 / aboveSlowest) = .ok 18446744073709547520000000000 :=
      (Duration.ofFloatSeconds_eq_ok_iff (by decide +kernel)).mpr (by decide +kernel)
    have hshort : Duration.ofFloatSeconds (1 / fastestRate) = .ok 1 :=
      (Duration.ofFloatSeconds_eq_ok_iff (by decide +kernel)).mpr (by decide +kernel)
    obtain ⟨d, hd, -⟩ := period_anti (by decide +kernel) hfin hnext hlong
    obtain ⟨e, he, hle⟩ := period_anti hpos (by decide +kernel) hfast hd
    obtain rfl : 1 = e := Except.ok.inj (hshort.symm.trans he)
    exact ⟨d, hd, hle⟩

end TickerSettings

/-! ## Settings -/

namespace Settings

variable {s : Settings}

/-- The program can run: there are settings for its cycles and its ticker, and it can tick by them. -/
def Runs (s : Settings) : Prop :=
  ∃ cycle ticker, s.cycle? = .ok cycle ∧ s.ticker? = .ok ticker ∧ ticker.Ticks

theorem Passes.runs_iff (h : s.Passes) :
    s.Runs ↔ TickerSettings.slowestRate < s.rate ∧ s.rate ≤ TickerSettings.fastestRate := by
  obtain ⟨timeout, hcycle⟩ := h.cycle?_eq
  obtain ⟨deadline, maxAge, hticker⟩ := h.ticker?_eq
  have hticks := TickerSettings.ticks_iff (t := { rate := s.rate, deadline, maxAge }) h.rate.1 h.rate.2
  rw [← hticks]
  constructor
  · rintro ⟨cycle, ticker, -, hticker', hrun⟩
    obtain rfl := Except.ok.inj (hticker.symm.trans hticker')
    exact hrun
  · intro hrun
    exact ⟨_, _, hcycle, hticker, hrun⟩

/-- **Settings that pass the check** are settings for cycles and for a ticker, and the ticker can tick by them
    exactly if their rate has a period. -/
theorem runs_iff_of_validate (h : s.validate = .ok ()) :
    s.cycle?.isOk = true ∧ s.ticker?.isOk = true ∧
      (s.Runs ↔ TickerSettings.slowestRate < s.rate ∧ s.rate ≤ TickerSettings.fastestRate) := by
  have hpasses := validate_eq_ok_iff.mp h
  obtain ⟨timeout, hcycle⟩ := hpasses.cycle?_eq
  obtain ⟨deadline, maxAge, hticker⟩ := hpasses.ticker?_eq
  exact ⟨isOk_iff.mpr ⟨_, hcycle⟩, isOk_iff.mpr ⟨_, hticker⟩, hpasses.runs_iff⟩

/-- With any rate that is finite and above zero, the settings of an empty file pass. -/
theorem passes_of_rate {rate : Double} (hfin : rate.isFinite = true) (hpos : 0 < rate) :
    Passes { rate } :=
  { passes_default with rate := ⟨hfin, hpos⟩ }

/-- At the fastest rate there is a period, of one nanosecond. -/
theorem runs_iff_of_validate_fastest :
    Settings.validate { rate := TickerSettings.fastestRate } = .ok () ∧
    Settings.Runs { rate := TickerSettings.fastestRate } := by
  have h : Settings.validate { rate := TickerSettings.fastestRate } = .ok () :=
    validate_eq_ok_iff.mpr (passes_of_rate (by decide +kernel) (by decide +kernel))
  exact ⟨h, (runs_iff_of_validate h).2.2.mpr (by decide +kernel)⟩

/-- The check lets rates through that are too low or too high to tick by.  The one has no period, the period of
    the other is nothing. -/
theorem validate_untimely :
    Settings.validate { rate := 1e-20 } = .ok () ∧ ¬ Settings.Runs { rate := 1e-20 } ∧
    (TickerSettings.period { rate := 1e-20 }).isOk = false ∧
    Settings.validate { rate := 1e10 } = .ok () ∧ ¬ Settings.Runs { rate := 1e10 } ∧
    TickerSettings.period { rate := 1e10 } = .ok 0 := by
  have hlow : Passes { rate := 1e-20 } := passes_of_rate (by decide +kernel) (by decide +kernel)
  have hhigh : Passes { rate := 1e10 } := passes_of_rate (by decide +kernel) (by decide +kernel)
  refine ⟨validate_eq_ok_iff.mpr hlow, ?_, by decide +kernel, validate_eq_ok_iff.mpr hhigh, ?_, ?_⟩
  · rw [hlow.runs_iff]
    decide +kernel
  · rw [hhigh.runs_iff]
    decide +kernel
  · rw [TickerSettings.period_eq (by decide +kernel) (by decide +kernel)]
    exact (Duration.ofFloatSeconds_eq_ok_iff (by decide +kernel)).mpr (by decide +kernel)

end Settings
end DriveAdvisory
