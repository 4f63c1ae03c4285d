/-
  Runs of digits.

  Readers take as many digits as there are, so a run is read whole if what follows it is no digit
  (`NoDigit`), whatever else it is.  Numbers written with zeros in front are such runs, and worth what was
  written (`digitsValue_padded`).
-/
import DriveAdvisory.Number.Reading
import DriveAdvisory.Text.Basic
import Mathlib.Algebra.Group.Nat.Defs
import Mathlib.Data.List.TakeDrop

namespace DriveAdvisory

/-! ## Reading a run -/

/-- No digit comes next. -/
def NoDigit (rest : List Char) : Prop := ∀ c ∈ rest.head?, c.isDigit = false

theorem noDigit_nil : NoDigit [] := nofun

theorem noDigit_cons {c : Char} (h : c.isDigit = false) (rest : List Char) : NoDigit (c :: rest) := by
  intro c' hc'
  obtain rfl := Option.mem_some.mp hc'
  exact h

theorem NoDigit.span {rest : List Char} (h : NoDigit rest) : spanDigits rest = ([], rest) := by
  rw [spanDigits, List.span_eq_takeWhile_dropWhile]
  cases rest with
  | nil => rfl
  | cons c more =>
    have hc : ¬ c.isDigit = true := by
      rw [h c rfl]
      exact Bool.false_ne_true
    rw [List.takeWhile_cons_of_neg hc, List.dropWhile_cons_of_neg hc]

/-- A run is read the same whatever follows that is no digit. -/
theorem spanDigits_append (cs : List Char) {rest : List Char} (h : NoDigit rest) :
    spanDigits (cs ++ rest) = ((spanDigits cs).1, (spanDigits cs).2 ++ rest) := by
  induction cs with
  | nil => exact h.span
  | cons c cs ih =>
    rw [spanDigits, spanDigits, List.span_eq_takeWhile_dropWhile,
      List.span_eq_takeWhile_dropWhile] at ih
    rw [spanDigits, spanDigits, List.span_eq_takeWhile_dropWhile, List.span_eq_takeWhile_dropWhile]
    by_cases hc : c.isDigit = true
    · rw [List.cons_append, List.takeWhile_cons_of_pos hc, List.dropWhile_cons_of_pos hc,
        List.takeWhile_cons_of_pos hc, List.dropWhile_cons_of_pos hc, (Prod.mk.inj ih).1,
        (Prod.mk.inj ih).2]
    · rw [List.cons_append, List.takeWhile_cons_of_neg hc, List.dropWhile_cons_of_neg hc,
        List.takeWhile_cons_of_neg hc, List.dropWhile_cons_of_neg hc, List.cons_append]

/-- Digits are read up to what follows them. -/
theorem spanDigits_digits {cs rest : List Char} (hcs : ∀ c ∈ cs, c.isDigit = true)
    (hrest : NoDigit rest) : spanDigits (cs ++ rest) = (cs, rest) := by
  have hend := hrest.span
  rw [spanDigits, List.span_eq_takeWhile_dropWhile] at hend
  rw [spanDigits, List.span_eq_takeWhile_dropWhile, List.takeWhile_append_of_pos hcs,
    List.dropWhile_append_of_pos hcs, (Prod.mk.inj hend).1, (Prod.mk.inj hend).2, List.append_nil]

/-! ## Writing a run -/

theorem digitsValue_eq (cs : List Char) : digitsValue cs = Nat.ofDigitChars 10 cs 0 := by
  rw [digitsValue, Nat.ofDigitChars_eq_foldl]
  congr 1
  funext sofar c
  rw [Nat.mul_comm]

namespace Text

theorem toList_repeated_zero (count : Nat) :
    (repeated count "0").toList = List.replicate count '0' := by
  induction count with
  | zero => rfl
  | succ count ih =>
    rw [repeated, String.toList_append, ih, List.replicate_succ]
    rfl

theorem toList_padded (width n : Nat) : (padded width n).toList =
    List.replicate (width - (Nat.toDigits 10 n).length) '0' ++ Nat.toDigits 10 n := by
  have hlength : (toString n).length = (Nat.toDigits 10 n).length := by
    rw [Nat.toString_eq_ofList_toDigits, String.length_ofList]
  rw [padded, hlength, String.toList_append, toList_repeated_zero, Nat.toString_eq_repr,
    Nat.toList_repr]

theorem isDigit_padded {width n : Nat} : ∀ c ∈ (padded width n).toList, c.isDigit = true := by
  intro c hc
  rw [toList_padded] at hc
  rcases List.mem_append.mp hc with hzero | hdigit
  · rw [(List.mem_replicate.mp hzero).2]
    rfl
  · exact Nat.isDigit_of_mem_toDigits (by decide) (by decide) hdigit

theorem padded_ne_nil (width n : Nat) : (padded width n).toList ≠ [] := by
  rw [toList_padded]
  exact List.append_ne_nil_of_right_ne_nil _ Nat.toDigits_ne_nil

/-- A number with room enough fills it. -/
theorem length_padded {width n : Nat} (hwidth : 0 < width) (h : n < 10 ^ width) :
    (padded width n).toList.length = width := by
  have hle := (Nat.length_toDigits_le_iff (b := 10) (by decide) hwidth).mpr h
  rw [toList_padded, List.length_append, List.length_replicate]
  omega

theorem digitsValue_padded (width n : Nat) : digitsValue (padded width n).toList = n := by
  rw [digitsValue_eq, toList_padded, Nat.ofDigitChars_append, Nat.ofDigitChars_replicate_zero,
    Nat.mul_zero, Nat.ofDigitChars_ten_toDigits]

end Text
end DriveAdvisory
