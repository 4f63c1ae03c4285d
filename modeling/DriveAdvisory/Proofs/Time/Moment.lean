/-
  A moment is read back from its text, in reports and in documents.

  The text is numbers with dividers between them, and the reader takes it apart number by number; each of the small
  lemmas is about one number and whatever follows it.  What is then left is arithmetic (`ofFields?_clock`): the
  date and the time of day make up the seconds again, and the sixtieth second of a minute is the leap second.
-/
import DriveAdvisory.Proofs.Number.Digits
import DriveAdvisory.Proofs.Time.Calendar

namespace DriveAdvisory.Moment

variable {rest : List Char}

/-- A moment as clocks show it: it lies in a year that can be told apart, and only the last second of a minute
    may be a leap second. -/
structure Valid (m : Moment) : Prop where
  inRange : m.isInRange = true
  nanos : m.nanos < 1000000000 ∨ m.seconds % 60 = 59 ∧ m.nanos < 2000000000

/-! ## Numbers -/

theorem digits?_append {limit : Nat} {cs : List Char} (hcs : ∀ c ∈ cs, c.isDigit = true)
    (hne : cs ≠ []) (hlength : cs.length ≤ limit) (hrest : NoDigit rest) :
    digits? limit (cs ++ rest) = some (digitsValue cs, rest) := by
  have hfront : ((cs ++ rest).take limit).takeWhile Char.isDigit = cs := by
    rw [List.take_append, List.take_of_length_le hlength]
    have hcut : NoDigit (rest.take (limit - cs.length)) := by
      cases rest with
      | nil => rw [List.take_nil]; exact noDigit_nil
      | cons c more =>
        cases limit - cs.length with
        | zero => exact noDigit_nil
        | succ k => exact hrest
    have hspan := spanDigits_digits hcs hcut
    rw [spanDigits, List.span_eq_takeWhile_dropWhile] at hspan
    exact (Prod.mk.inj hspan).1
  rw [digits?, hfront]
  simp [hne]

theorem isBlank_of_isDigit {c : Char} (h : c.isDigit = true) : Text.isBlank c = false := by
  have hbounds : 48 ≤ c.toNat ∧ c.toNat ≤ 57 := by
    simp only [Char.isDigit, Bool.and_eq_true, decide_eq_true_eq] at h
    exact h
  unfold Text.isBlank
  simp
  omega

theorem skipBlanks_cons {c : Char} (h : Text.isBlank c = false) (rest : List Char) :
    skipBlanks (c :: rest) = c :: rest :=
  List.dropWhile_cons_of_neg (by rw [h]; exact Bool.false_ne_true)

theorem skipBlanks_digits {cs : List Char} (hcs : ∀ c ∈ cs, c.isDigit = true) (hne : cs ≠ []) :
    skipBlanks (cs ++ rest) = cs ++ rest := by
  cases cs with
  | nil => exact absurd rfl hne
  | cons c more => exact skipBlanks_cons (isBlank_of_isDigit (hcs c List.mem_cons_self)) _

theorem number?_padded {n : Nat} (h : n < 100) (hrest : NoDigit rest) :
    number? ((Text.padded 2 n).toList ++ rest) = some (n, rest) := by
  rw [number?, skipBlanks_digits Text.isDigit_padded (Text.padded_ne_nil 2 n),
    digits?_append Text.isDigit_padded (Text.padded_ne_nil 2 n)
      (Nat.le_of_eq (Text.length_padded (by decide) h)) hrest, Text.digitsValue_padded]

theorem divider?_cons {c : Char} (h : Text.isBlank c = false) (rest : List Char) :
    divider? c (c :: rest) = some rest := by
  rw [divider?, skipBlanks_cons h]
  exact if_pos rfl

/-- A year without a sign has four digits at most. -/
theorem year?_unsigned {cs : List Char} (hcs : ∀ c ∈ cs, c.isDigit = true) (hne : cs ≠ [])
    (hlength : cs.length ≤ 4) (hrest : NoDigit rest) :
    year? (cs ++ rest) = some ((digitsValue cs : Int), rest) := by
  have hread := digits?_append hcs hne hlength hrest
  rw [year?, skipBlanks_digits hcs hne]
  split
  · rename_i heq
    cases cs with
    | nil => exact absurd rfl hne
    | cons c more =>
      obtain rfl := (List.cons.inj heq).1
      nomatch hcs '-' List.mem_cons_self
  · rename_i heq
    cases cs with
    | nil => exact absurd rfl hne
    | cons c more =>
      obtain rfl := (List.cons.inj heq).1
      nomatch hcs '+' List.mem_cons_self
  · rw [hread]
    rfl

theorem year?_minus {cs : List Char} (hcs : ∀ c ∈ cs, c.isDigit = true) (hne : cs ≠ [])
    (hrest : NoDigit rest) : year? ('-' :: (cs ++ rest)) = some (-(digitsValue cs : Int), rest) := by
  rw [year?, skipBlanks_cons rfl]
  show (digits? (cs ++ rest).length (cs ++ rest)).map _ = _
  rw [digits?_append hcs hne (by rw [List.length_append]; omega) hrest]
  rfl

theorem year?_plus {cs : List Char} (hcs : ∀ c ∈ cs, c.isDigit = true) (hne : cs ≠ [])
    (hrest : NoDigit rest) : year? ('+' :: (cs ++ rest)) = some ((digitsValue cs : Int), rest) := by
  rw [year?, skipBlanks_cons rfl]
  show (digits? (cs ++ rest).length (cs ++ rest)).map _ = _
  rw [digits?_append hcs hne (by rw [List.length_append]; omega) hrest]
  rfl

theorem year?_yearText (year : Int) (hrest : NoDigit rest) :
    year? ((yearText year).toList ++ rest) = some (year, rest) := by
  rw [yearText]
  split
  · rename_i hfour
    have hsmall : year.toNat < 10 ^ 4 := by omega
    rw [year?_unsigned Text.isDigit_padded (Text.padded_ne_nil 4 _)
      (Nat.le_of_eq (Text.length_padded (by decide) hsmall)) hrest, Text.digitsValue_padded,
      Int.toNat_of_nonneg hfour.1]
  · split
    · rename_i hneg
      rw [String.toList_append]
      show year? ('-' :: ((Text.padded 4 year.natAbs).toList ++ rest)) = _
      rw [year?_minus Text.isDigit_padded (Text.padded_ne_nil 4 _) hrest, Text.digitsValue_padded]
      congr 2
      omega
    · rename_i hpos
      rw [String.toList_append]
      show year? ('+' :: ((Text.padded 4 year.natAbs).toList ++ rest)) = _
      rw [year?_plus Text.isDigit_padded (Text.padded_ne_nil 4 _) hrest, Text.digitsValue_padded]
      congr 2
      omega

/-! ## The fraction of a second -/

theorem fraction?_padded {width n : Nat} (hwidth : 0 < width) (hnine : width ≤ 9) (h : n < 10 ^ width)
    (hrest : NoDigit rest) : fraction? ('.' :: ((Text.padded width n).toList ++ rest)) =
      some (n * Nat.pow 10 (9 - width), rest) := by
  have hdigits : ∀ c ∈ (Text.padded width n).toList, c.isDigit = true := Text.isDigit_padded
  have hlength := Text.length_padded hwidth h
  have hvalue := Text.digitsValue_padded width n
  have hne := Text.padded_ne_nil width n
  generalize (Text.padded width n).toList = cs at hdigits hlength hvalue hne ⊢
  rw [fraction?, spanDigits_digits hdigits hrest]
  dsimp only
  rw [List.take_of_length_le (by omega), hvalue, hlength]
  simp [hne]

theorem fraction?_fractionText {nanos : Nat} (h : nanos < 1000000000) (hrest : NoDigit rest)
    (hpoint : rest.head? ≠ some '.') :
    fraction? ((fractionText nanos).toList ++ rest) = some (nanos, rest) := by
  rw [fractionText]
  split
  · rename_i hzero
    rw [hzero, String.toList_empty, List.nil_append]
    unfold fraction?
    split
    · exact absurd rfl hpoint
    · rfl
  · split
    · rename_i hmillis
      rw [String.toList_append]
      show fraction? ('.' :: ((Text.padded 3 (nanos / 1000000)).toList ++ rest)) = _
      rw [fraction?_padded (by decide) (by decide) (by omega) hrest]
      congr 2
      show nanos / 1000000 * 1000000 = nanos
      omega
    · split
      · rename_i hmicros
        rw [String.toList_append]
        show fraction? ('.' :: ((Text.padded 6 (nanos / 1000)).toList ++ rest)) = _
        rw [fraction?_padded (by decide) (by decide) (by omega) hrest]
        congr 2
        show nanos / 1000 * 1000 = nanos
        omega
      · rw [String.toList_append]
        show fraction? ('.' :: ((Text.padded 9 nanos).toList ++ rest)) = _
        rw [fraction?_padded (by decide) (by decide) (by omega) hrest]
        congr 2
        show nanos * 1 = nanos
        omega

/-! ## Dates and times of day -/

theorem noDigit_dash (rest : List Char) : NoDigit ('-' :: rest) := noDigit_cons rfl rest

theorem noDigit_colon (rest : List Char) : NoDigit (':' :: rest) := noDigit_cons rfl rest

theorem divider?_dash (rest : List Char) : divider? '-' ('-' :: rest) = some rest :=
  divider?_cons rfl rest

theorem divider?_colon (rest : List Char) : divider? ':' (':' :: rest) = some rest :=
  divider?_cons rfl rest

theorem date?_written (year : Int) {month day : Nat} (hmonth : month < 100) (hday : day < 100)
    (hrest : NoDigit rest) :
    date? ((yearText year).toList ++ '-' :: ((Text.padded 2 month).toList
      ++ '-' :: ((Text.padded 2 day).toList ++ rest))) = some ((year, month, day), rest) := by
  simp only [date?, year?_yearText, number?_padded, hmonth, hday, hrest, noDigit_dash, divider?_dash,
    Option.bind_eq_bind, Option.bind_some]

theorem timeOfDay?_written {hour minute second nanos : Nat} (hhour : hour < 100)
    (hminute : minute < 100) (hsecond : second < 100) (hnanos : nanos < 1000000000)
    (hrest : NoDigit rest) (hpoint : rest.head? ≠ some '.') :
    timeOfDay? ((Text.padded 2 hour).toList ++ ':' :: ((Text.padded 2 minute).toList
      ++ ':' :: ((Text.padded 2 second).toList ++ ((fractionText nanos).toList ++ rest)))) =
      some ((hour, minute, second, nanos), rest) := by
  have hfraction : NoDigit ((fractionText nanos).toList ++ rest) := by
    rw [fractionText]
    split
    · rwa [String.toList_empty, List.nil_append]
    · split
      · rw [String.toList_append]
        exact noDigit_cons rfl _
      · split
        all_goals
          rw [String.toList_append]
          exact noDigit_cons rfl _
  simp only [timeOfDay?, number?_padded, hhour, hminute, hsecond, hfraction, noDigit_colon,
    divider?_colon, fraction?_fractionText hnanos hrest hpoint, Option.bind_eq_bind, Option.bind_some]

/-! ## Moments -/

theorem toList_clockText (m : Moment) : m.clockText.toList =
    (yearText (dateOfDay (m.seconds / 86400)).1).toList
      ++ '-' :: ((Text.padded 2 (dateOfDay (m.seconds / 86400)).2.1.toNat).toList
      ++ '-' :: ((Text.padded 2 (dateOfDay (m.seconds / 86400)).2.2.toNat).toList
      ++ 'T' :: ((Text.padded 2 ((m.seconds % 86400).toNat / 3600)).toList
      ++ ':' :: ((Text.padded 2 ((m.seconds % 86400).toNat / 60 % 60)).toList
      ++ ':' :: ((Text.padded 2 ((m.seconds % 86400).toNat % 60 + m.nanos / 1000000000)).toList
      ++ (fractionText (m.nanos % 1000000000)).toList))))) := by
  have hdash : "-".toList = ['-'] := rfl
  have hmark : "T".toList = ['T'] := rfl
  have hcolon : ":".toList = [':'] := rfl
  rw [clockText]
  simp only [String.toList_append, List.append_assoc, hdash, hmark, hcolon, List.cons_append,
    List.nil_append]

/-- The date and the time of day of a moment make it up again. -/
theorem ofFields?_clock {m : Moment} (h : m.Valid) :
    ofFields? (dateOfDay (m.seconds / 86400)).1 (dateOfDay (m.seconds / 86400)).2.1.toNat
      (dateOfDay (m.seconds / 86400)).2.2.toNat ((m.seconds % 86400).toNat / 3600)
      ((m.seconds % 86400).toNat / 60 % 60) ((m.seconds % 86400).toNat % 60 + m.nanos / 1000000000)
      (m.nanos % 1000000000) 0 = some m := by
  have hdate := dateOfDay_isDate (m.seconds / 86400)
  have hnumber := dayNumber_dateOfDay (m.seconds / 86400)
  have hrange := h.inRange
  rw [isInRange, Bool.and_eq_true, decide_eq_true_eq, decide_eq_true_eq] at hrange
  have hyear := dateOfDay_year hrange.1 hrange.2
  generalize dateOfDay (m.seconds / 86400) = date at hdate hnumber hyear ⊢
  obtain ⟨year, month, day⟩ := date
  obtain ⟨hmonth, hmonth', hday, hday'⟩ := hdate
  dsimp only at hmonth hmonth' hday hday' hnumber hyear ⊢
  have hnanos := h.nanos
  have hsecond : (m.seconds % 86400).toNat % 60 + m.nanos / 1000000000 ≤ 60 := by omega
  have hfields : ¬ (year < firstYear ∨ lastYear < year ∨ month.toNat < 1 ∨ 12 < month.toNat ∨
      day.toNat < 1 ∨ daysInMonth year month.toNat < day.toNat ∨
      23 < (m.seconds % 86400).toNat / 3600 ∨ 59 < (m.seconds % 86400).toNat / 60 % 60 ∨
      60 < (m.seconds % 86400).toNat % 60 + m.nanos / 1000000000) := by omega
  have hdays : dayNumber year month.toNat day.toNat = m.seconds / 86400 := by
    rw [Int.toNat_of_nonneg (by omega), Int.toNat_of_nonneg (by omega), hnumber]
  rw [ofFields?, if_neg hfields, hdays]
  -- only the last second of a minute can be a leap second
  have hmoment : ∀ leap, leap = (if (m.seconds % 86400).toNat % 60 + m.nanos / 1000000000 = 60
      then 1 else 0) → Moment.mk (m.seconds / 86400 * 86400
        + ((m.seconds % 86400).toNat / 3600 : Nat) * 3600
        + ((m.seconds % 86400).toNat / 60 % 60 : Nat) * 60
        + ((m.seconds % 86400).toNat % 60 + m.nanos / 1000000000 - leap : Nat) - 0)
      (m.nanos % 1000000000 + leap * 1000000000) = m := by
    intro leap hleap
    refine Moment.mk.injEq .. |>.mpr ⟨?_, ?_⟩
    · split at hleap <;> omega
    · split at hleap <;> omega
  dsimp only
  rw [hmoment _ rfl, if_pos h.inRange]

/-- What marks universal time does not matter. -/
theorem ofText?_clockText {m : Moment} (h : m.Valid) {mark : String} (hmark : NoDigit mark.toList)
    (hpoint : mark.toList.head? ≠ some '.') (hoffset : offset? (skipBlanks mark.toList) = some (0, [])) :
    ofText? (m.clockText ++ mark) = some m := by
  have hfields := ofFields?_clock h
  have hdate := dateOfDay_isDate (m.seconds / 86400)
  rw [ofText?, String.toList_append, toList_clockText]
  generalize dateOfDay (m.seconds / 86400) = date at hfields hdate ⊢
  obtain ⟨year, month, day⟩ := date
  obtain ⟨hmonth, hmonth', hday, hday'⟩ := hdate
  have hdays : daysInMonth year month.toNat ≤ 31 := daysInMonth_le year month.toNat
  dsimp only at hfields hmonth hmonth' hday hday' hdays ⊢
  have hnanos := h.nanos
  have htime : ∀ rest, NoDigit ('T' :: rest) := noDigit_cons rfl
  simp only [List.append_assoc, List.cons_append, Option.bind_eq_bind, Option.bind_some, timeMark?, hoffset,
    date?_written year (show month.toNat < 100 by omega) (show day.toNat < 100 by omega) (htime _),
    timeOfDay?_written (show (m.seconds % 86400).toNat / 3600 < 100 by omega)
      (show (m.seconds % 86400).toNat / 60 % 60 < 100 by omega)
      (show (m.seconds % 86400).toNat % 60 + m.nanos / 1000000000 < 100 by omega)
      (show m.nanos % 1000000000 < 1000000000 by omega) hmark hpoint]
  exact hfields

/-- **A moment is read back** from a report as well as from a document. -/
theorem ofText?_written {m : Moment} (h : m.Valid) :
    ofText? m.text = some m ∧ ofText? m.documentText = some m :=
  ⟨ofText?_clockText h (noDigit_cons rfl _) (by decide) (by decide),
    ofText?_clockText h (noDigit_cons rfl _) (by decide) (by decide)⟩

end DriveAdvisory.Moment
