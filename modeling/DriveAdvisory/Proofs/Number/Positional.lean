/-
  Decimals that are written out are read back.

  A number that is written out is a whole part and a fraction with a point between them (`Decimal.positional_eq`),
  and together they are the digits of the decimal, with zeros before or after them.  Neither changes what the
  decimal is rounded to, and neither do the two short cuts that spare a reader powers of ten that are too large or
  too small to matter (`Double.nearestDecimal_eq`).
-/
import DriveAdvisory.Proofs.Number.Digits
import DriveAdvisory.Proofs.Number.Shortest

namespace DriveAdvisory

/-! ## Digits of a number -/

/-- No number but zero is written with a zero in front. -/
theorem head?_toDigits {n : Nat} (h : n ≠ 0) : (Nat.toDigits 10 n).head? ≠ some '0' := by
  induction n using Nat.strongRecOn with
  | ind n ih =>
    rcases Nat.lt_or_ge n 10 with hsmall | hlarge
    · rw [Nat.toDigits_of_lt_base hsmall]
      simpa using h
    · have hfront := ih (n / 10) (by omega) (by omega)
      rw [Nat.toDigits_of_base_le (by decide) hlarge, List.head?_append]
      cases hhead : (Nat.toDigits 10 (n / 10)).head? with
      | none => exact absurd (List.head?_eq_none_iff.mp hhead) Nat.toDigits_ne_nil
      | some c =>
        rw [hhead] at hfront
        exact hfront

theorem digitsValue_toDigits (n : Nat) : digitsValue (Nat.toDigits 10 n) = n := by
  rw [digitsValue_eq, Nat.ofDigitChars_ten_toDigits]

/-- Zeros after the digits. -/
theorem digitsValue_append_zeros (cs : List Char) (count : Nat) :
    digitsValue (cs ++ List.replicate count '0') = digitsValue cs * 10 ^ count := by
  rw [digitsValue_eq, digitsValue_eq, Nat.ofDigitChars_append, Nat.ofDigitChars_replicate_zero,
    Nat.mul_comm]

/-! ## Short cuts -/

theorem BinaryFormat.nearest_of_small (f : BinaryFormat) {num den : Nat} (h : 2 * num < den) :
    f.nearest num den = 0 := by
  have hquotient : num / den = 0 := Nat.div_eq_of_lt (by omega)
  have hround : roundHalfEven num den = 0 := by
    unfold roundHalfEven
    dsimp only
    rw [Nat.mod_eq_of_lt (by omega), if_pos h, hquotient]
  have hdropped : f.dropped 0 = 0 := by
    rw [dropped, bitLength, if_pos rfl, Nat.zero_sub]
  rw [nearest_eq, hquotient, hdropped, Nat.pow_zero, Nat.mul_one, hround, Nat.zero_mul]
  exact Nat.zero_min _

theorem BinaryFormat.nearest_of_large (f : BinaryFormat) {num den : Nat} (hd : 0 < den)
    (h : f.quanta f.infinity * den ≤ num) : f.nearest num den = f.infinity := by
  have hle := f.nearest_mono hd h
  rw [f.nearest_quanta hd (Nat.le_refl _)] at hle
  exact Nat.le_antisymm (f.nearest_le_infinity num den) hle

/-- Infinity would be two to the power of half the exponents. -/
theorem BinaryFormat.quanta_infinity (f : BinaryFormat) (h : 2 ≤ f.exponentBits) :
    f.quanta f.infinity = 2 ^ 2 ^ (f.exponentBits - 1) * f.one := by
  have hdouble : 2 ^ f.exponentBits = 2 * 2 ^ (f.exponentBits - 1) := by
    rw [← Nat.pow_succ', Nat.succ_eq_add_one, Nat.sub_add_cancel (by omega)]
  have hhalf : 2 ^ 1 ≤ 2 ^ (f.exponentBits - 1) := Nat.pow_le_pow_right (by decide) (by omega)
  have hinfinity : f.infinity = (2 ^ f.exponentBits - 2 + 1) * 2 ^ f.fractionBits + 0 := by
    rw [Nat.add_zero, show 2 ^ f.exponentBits - 2 + 1 = 2 ^ f.exponentBits - 1 by omega]
    rfl
  have hshift : f.quantumShift = 2 ^ (f.exponentBits - 1) + f.fractionBits - 2 := rfl
  rw [hinfinity, f.quanta_of_step _ (Nat.two_pow_pos _), Nat.add_zero, f.one_eq, ← Nat.pow_add,
    ← Nat.pow_add]
  congr 1
  omega

namespace Double

section

variable {digits length : Nat} {exponent : Int}

/-- A decimal far below all digits is nothing. -/
theorem nearest_of_low (hupper : digits < 10 ^ length) (hplace : (length : Int) + exponent < -330) :
    double.nearest (digits * tenUp exponent * double.one) (tenDown exponent) = 0 := by
  have hshift : double.quantumShift = 1074 := by decide +kernel
  have hneg : ¬ 0 ≤ exponent := by omega
  apply double.nearest_of_small
  rw [tenUp, tenDown, if_neg hneg, if_neg hneg, double.one_eq, Nat.mul_one]
  calc 2 * (digits * 2 ^ double.quantumShift) = digits * 2 ^ (double.quantumShift + 1) := by ring
    _ < 10 ^ length * 2 ^ (double.quantumShift + 1) :=
      Nat.mul_lt_mul_of_pos_right hupper (Nat.two_pow_pos _)
    _ ≤ 10 ^ length * 10 ^ (exponent.natAbs - length) :=
      Nat.mul_le_mul_left _ (two_pow_le_ten_pow (by omega))
    _ = 10 ^ exponent.natAbs := by rw [← Nat.pow_add, Nat.add_sub_cancel' (by omega)]

/-- A decimal with its first digit far above all others is infinite. -/
theorem nearest_of_high (hlower : 10 ^ (length - 1) ≤ digits) (hpositive : 0 < length)
    (hplace : 311 < (length : Int) + exponent) :
    double.nearest (digits * tenUp exponent * double.one) (tenDown exponent) = double.infinity := by
  have hhalf : 2 ^ (double.exponentBits - 1) = 1024 := by decide
  apply double.nearest_of_large (tenDown_pos _)
  rw [double.quanta_infinity (by decide), Nat.mul_right_comm]
  apply Nat.mul_le_mul_right
  generalize 2 ^ (double.exponentBits - 1) = top at hhalf
  unfold tenUp tenDown
  split
  · calc 2 ^ top * 1 = 2 ^ top := Nat.mul_one _
      _ ≤ 10 ^ (length - 1 + exponent.natAbs) := two_pow_le_ten_pow (by omega)
      _ = 10 ^ (length - 1) * 10 ^ exponent.natAbs := Nat.pow_add 10 _ _
      _ ≤ digits * 10 ^ exponent.natAbs := Nat.mul_le_mul_right _ hlower
  · calc 2 ^ top * 10 ^ exponent.natAbs
        ≤ 10 ^ (length - 1 - exponent.natAbs) * 10 ^ exponent.natAbs :=
          Nat.mul_le_mul_right _ (two_pow_le_ten_pow (by omega))
      _ = 10 ^ (length - 1) := by rw [← Nat.pow_add, Nat.sub_add_cancel (by omega)]
      _ ≤ digits * 1 := by rwa [Nat.mul_one]

end

/-- **A decimal is rounded once**, wherever its digits stand. -/
theorem nearestDecimal_eq (negative : Bool) (digits : Nat) (exponent : Int) :
    nearestDecimal negative digits exponent = Binary.ofDecimal negative digits exponent := by
  have hlength : (toString digits).length = (Nat.toDigits 10 digits).length := by
    rw [Nat.toString_eq_ofList_toDigits, String.length_ofList]
  have hpositive : 0 < (Nat.toDigits 10 digits).length :=
    List.length_pos_iff.mpr Nat.toDigits_ne_nil
  unfold nearestDecimal
  dsimp only
  rw [hlength, Binary.ofDecimal_eq]
  split
  · rename_i hlow
    have hzero : double.nearest (digits * tenUp exponent * double.one) (tenDown exponent) = 0 := by
      rcases hlow with rfl | hplace
      · rw [Nat.zero_mul, Nat.zero_mul]
        exact double.nearest_of_small (by rw [Nat.mul_zero]; exact tenDown_pos _)
      · exact nearest_of_low
          ((Nat.length_toDigits_le_iff (by decide) hpositive).mp (Nat.le_refl _)) hplace
    exact (Binary.ofQuanta_eq (x := Binary.zero negative) hzero).symm
  · split
    · rename_i hnot hhigh
      have hlower : 10 ^ ((Nat.toDigits 10 digits).length - 1) ≤ digits := by
        rcases Nat.lt_or_ge digits (10 ^ ((Nat.toDigits 10 digits).length - 1)) with hless | hmore
        · rcases Nat.lt_or_ge 1 (Nat.toDigits 10 digits).length with hlong | hshort
          · have := (Nat.length_toDigits_le_iff (by decide) (by omega)).mpr hless
            omega
          · rw [Nat.sub_eq_zero_of_le hshort, Nat.pow_zero] at hless
            omega
        · exact hmore
      have hinfinite := nearest_of_high hlower hpositive hhigh
      exact (Binary.ofQuanta_eq (x := Binary.infinite negative) hinfinite).symm
    · rfl

theorem ofDecimal_zero (negative : Bool) (exponent : Int) :
    (Binary.ofDecimal negative 0 exponent : Double) = Binary.zero negative := by
  rw [← nearestDecimal_eq, nearestDecimal, if_pos (.inl rfl)]

end Double

/-! ## Decimals that are written out -/

/-- One more zero, behind the point. -/
theorem Binary.ofDecimal_tenths {f : BinaryFormat} (negative : Bool) (digits : Nat) {exponent : Int}
    (h : 0 ≤ exponent) :
    (ofDecimal negative (digits * 10 ^ exponent.natAbs * 10) (-1) : Binary f) =
      ofDecimal negative digits exponent := by
  have hup : tenUp exponent = 10 ^ exponent.natAbs := if_pos h
  have hdown : tenDown exponent = 1 := if_pos h
  have htenths : tenUp (-1) = 1 ∧ tenDown (-1) = 1 * 10 := ⟨rfl, rfl⟩
  rw [ofDecimal_eq, ofDecimal_eq, hup, hdown, htenths.1, htenths.2, Nat.mul_one,
    Nat.mul_right_comm (digits * 10 ^ exponent.natAbs)]
  unfold ofQuanta
  rw [f.nearest_scale _ 1 (by decide)]

/-- Digits on both sides of a point, without a zero in front that is not needed. -/
structure WrittenOut (whole fraction : List Char) : Prop where
  whole_digits : ∀ c ∈ whole, c.isDigit = true
  fraction_digits : ∀ c ∈ fraction, c.isDigit = true
  whole_ne_nil : whole ≠ []
  fraction_ne_nil : fraction ≠ []
  leading : whole.length = 1 ∨ whole.head? ≠ some '0'

theorem toList_zeros (count : Nat) : (zeros count).toList = List.replicate count '0' :=
  String.toList_ofList

theorem isDigit_zeros (count : Nat) : ∀ c ∈ List.replicate count '0', c.isDigit = true := by
  intro c hc
  rw [(List.mem_replicate.mp hc).2]
  rfl

theorem isDigit_toDigits {n : Nat} : ∀ c ∈ Nat.toDigits 10 n, c.isDigit = true :=
  fun _ hc => Nat.isDigit_of_mem_toDigits (by decide) (by decide) hc

/-- A whole number has its zeros before the point. -/
theorem writtenOut_whole {n : Nat} (h : n ≠ 0) (count : Nat) :
    WrittenOut (Nat.toDigits 10 n ++ List.replicate count '0') ['0'] where
  whole_digits c hc := (List.mem_append.mp hc).elim (isDigit_toDigits c) (isDigit_zeros _ c)
  fraction_digits := isDigit_zeros 1
  whole_ne_nil := List.append_ne_nil_of_left_ne_nil Nat.toDigits_ne_nil _
  fraction_ne_nil := List.cons_ne_nil _ _
  leading := by
    right
    have hhead := head?_toDigits h
    rw [List.head?_append]
    cases hfirst : (Nat.toDigits 10 n).head? with
    | none => exact absurd (List.head?_eq_none_iff.mp hfirst) Nat.toDigits_ne_nil
    | some c => rwa [hfirst] at hhead

theorem writtenOut_zero : WrittenOut ['0'] ['0'] where
  whole_digits := isDigit_zeros 1
  fraction_digits := isDigit_zeros 1
  whole_ne_nil := List.cons_ne_nil _ _
  fraction_ne_nil := List.cons_ne_nil _ _
  leading := .inl rfl

/-- A number of parts has zeros in front up to the point. -/
theorem writtenOut_parts {n places : Nat} (h : n ≠ 0) (hplaces : places ≠ 0) :
    let padded := List.replicate (places + 1 - (Nat.toDigits 10 n).length) '0' ++ Nat.toDigits 10 n
    WrittenOut (padded.take (padded.length - places)) (padded.drop (padded.length - places)) := by
  intro padded
  have hdigits : ∀ c ∈ padded, c.isDigit = true := fun c hc =>
    (List.mem_append.mp hc).elim (isDigit_zeros _ c) (isDigit_toDigits c)
  have hlength : padded.length =
      places + 1 - (Nat.toDigits 10 n).length + (Nat.toDigits 10 n).length := by
    rw [List.length_append, List.length_replicate]
  constructor
  case whole_digits => exact fun c hc => hdigits c (List.mem_of_mem_take hc)
  case fraction_digits => exact fun c hc => hdigits c (List.mem_of_mem_drop hc)
  case whole_ne_nil =>
    rw [← List.length_pos_iff, List.length_take]
    omega
  case fraction_ne_nil =>
    rw [← List.length_pos_iff, List.length_drop]
    omega
  case leading =>
    rw [List.length_take]
    rcases Nat.lt_or_ge places (Nat.toDigits 10 n).length with hlong | hshort
    · -- the digits reach before the point, so no zeros are put in front
      right
      have hpadded : padded = Nat.toDigits 10 n := by
        show List.replicate (places + 1 - (Nat.toDigits 10 n).length) '0' ++ _ = _
        rw [Nat.sub_eq_zero_of_le hlong, List.replicate_zero, List.nil_append]
      rw [List.head?_take, if_neg (by omega), hpadded]
      exact head?_toDigits h
    · left
      omega

/-- **A decimal that is written out** has its digits before and after a point, and is worth the same. -/
theorem Decimal.positional_eq (d : Decimal) (h : d.digits ≠ 0) : ∃ whole fraction,
    (d.positional ".0").toList = whole ++ '.' :: fraction ∧ WrittenOut whole fraction ∧
      ∀ negative, (Binary.ofDecimal negative (digitsValue (whole ++ fraction))
        (-(fraction.length : Int)) : Double) = Binary.ofDecimal negative d.digits d.exponent := by
  have hdigits : (toString d.digits).toList = Nat.toDigits 10 d.digits := by
    rw [Nat.toString_eq_ofList_toDigits, String.toList_ofList]
  have hcount : (toString d.digits).length = (Nat.toDigits 10 d.digits).length := by
    rw [← String.length_toList, hdigits]
  unfold positional
  dsimp only
  by_cases hwhole : 0 ≤ d.exponent
  · rw [if_pos hwhole]
    refine ⟨_, _, ?_, writtenOut_whole h d.exponent.natAbs, ?_⟩
    · rw [String.toList_append, String.toList_append, hdigits, toList_zeros]
      rfl
    · intro negative
      have hvalue : digitsValue (Nat.toDigits 10 d.digits ++ List.replicate d.exponent.natAbs '0' ++
          ['0']) = d.digits * 10 ^ d.exponent.natAbs * 10 := by
        have hzero := digitsValue_append_zeros (Nat.toDigits 10 d.digits) (d.exponent.natAbs + 1)
        rw [List.replicate_succ', ← List.append_assoc, digitsValue_toDigits, Nat.pow_succ,
          ← Nat.mul_assoc] at hzero
        exact hzero
      rw [hvalue]
      exact Binary.ofDecimal_tenths negative d.digits hwhole
  · have hpadded : (zeros (d.exponent.natAbs + 1 - (toString d.digits).length) ++
        toString d.digits).toList = List.replicate
          (d.exponent.natAbs + 1 - (Nat.toDigits 10 d.digits).length) '0' ++
            Nat.toDigits 10 d.digits := by
      rw [String.toList_append, toList_zeros, hdigits, hcount]
    rw [if_neg hwhole, hpadded]
    refine ⟨_, _, ?_, writtenOut_parts h (show d.exponent.natAbs ≠ 0 by omega), ?_⟩
    · rw [String.toList_append, String.toList_append, String.toList_ofList, String.toList_ofList,
        String.toList_ofList, List.append_assoc]
      rfl
    · intro negative
      have hvalue : digitsValue (List.replicate
          (d.exponent.natAbs + 1 - (Nat.toDigits 10 d.digits).length) '0' ++
            Nat.toDigits 10 d.digits) = d.digits := by
        rw [digitsValue_eq, Nat.ofDigitChars_append, Nat.ofDigitChars_replicate_zero, Nat.mul_zero,
          Nat.ofDigitChars_ten_toDigits]
      have hplaces (length : Nat) : -((d.exponent.natAbs + 1 - length + length -
          (d.exponent.natAbs + 1 - length + length - d.exponent.natAbs) : Nat) : Int) =
            d.exponent := by omega
      rw [List.take_append_drop, hvalue, List.length_drop, List.length_append,
        List.length_replicate, hplaces]

theorem toLower_of_isDigit {c : Char} (h : c.isDigit = true) : c.toLower = c := by
  rw [Char.isDigit, Bool.and_eq_true, decide_eq_true_eq, decide_eq_true_eq] at h
  unfold Char.toLower
  rw [dif_neg]
  rintro ⟨hupper, -⟩
  exact absurd (UInt32.le_trans hupper h.2) (by decide)

/-- A text that starts with a digit is no word. -/
theorem readDouble?_of_digit {first : Char} (h : first.isDigit = true) (negative : Bool)
    (rest : List Char) :
    readDouble? (String.ofList ((if negative then ['-'] else []) ++ first :: rest)) =
      readUnsigned? negative (first :: rest) := by
  have hword : ∀ letter {letters}, letter.isDigit = false →
      String.ofList ((first :: rest).map Char.toLower) ≠ String.ofList (letter :: letters) := by
    intro letter letters hletter heq
    obtain ⟨hhead, -⟩ := List.cons.inj (String.ofList_inj.mp heq)
    rw [← hhead, toLower_of_isDigit h, h] at hletter
    cases hletter
  have hplain : (if String.ofList ((first :: rest).map Char.toLower) = "inf" ∨
      String.ofList ((first :: rest).map Char.toLower) = "infinity" then
        some (Binary.infinite negative)
      else if String.ofList ((first :: rest).map Char.toLower) = "nan" then
        some { (Binary.nan : Double) with negative := negative }
      else readUnsigned? negative (first :: rest)) = readUnsigned? negative (first :: rest) := by
    rw [if_neg, if_neg]
    · exact hword 'n' rfl
    · exact fun hinfinite => hinfinite.elim (hword 'i' rfl) (hword 'i' rfl)
  unfold readDouble?
  rw [String.toList_ofList]
  cases negative with
  | true => exact hplain
  | false =>
    rw [if_neg Bool.false_ne_true, List.nil_append]
    split
    rename_i negative body hbody
    split at hbody
    · rename_i heq
      rw [(List.cons.inj heq).1] at h
      cases h
    · rename_i heq
      rw [(List.cons.inj heq).1] at h
      cases h
    · obtain ⟨rfl, rfl⟩ := Prod.mk.inj hbody
      exact hplain

/-- **A decimal that is written out is read** as what it is rounded to. -/
theorem readDouble?_writtenOut {whole fraction : List Char} (h : WrittenOut whole fraction)
    (negative : Bool) :
    readDouble? (String.ofList ((if negative then ['-'] else []) ++ (whole ++ '.' :: fraction))) =
      some (Binary.ofDecimal negative (digitsValue (whole ++ fraction)) (-(fraction.length : Int))) := by
  have hwhole : spanDigits (whole ++ '.' :: fraction) = (whole, '.' :: fraction) :=
    spanDigits_digits h.whole_digits (noDigit_cons rfl fraction)
  have hfraction : spanDigits fraction = (fraction, []) := by
    have := spanDigits_digits h.fraction_digits noDigit_nil
    rwa [List.append_nil] at this
  obtain ⟨first, more, rfl⟩ := List.exists_cons_of_ne_nil h.whole_ne_nil
  rw [List.cons_append, readDouble?_of_digit (h.whole_digits first List.mem_cons_self),
    ← List.cons_append]
  unfold readUnsigned?
  rw [hwhole]
  show (if (first :: more).isEmpty = true ∧ (spanDigits fraction).1.isEmpty = true then none
    else (readExponent? (spanDigits fraction).2).map fun exponent =>
      Double.nearestDecimal negative (digitsValue (first :: more ++ (spanDigits fraction).1))
        (exponent - (spanDigits fraction).1.length)) = _
  rw [hfraction, if_neg (fun hempty => nomatch hempty.1), readExponent?, Option.map_some,
    Int.zero_sub, Double.nearestDecimal_eq]

end DriveAdvisory
