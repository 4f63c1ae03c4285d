/-
  Plain values are read back.

  A bare value is one word, and which kind it is of depends on its characters.  Those of numbers are digits and
  points after an optional sign (`Numeral`), so they are no words of letters, no dates and no times of day; with a
  point they are no integers either.  A float's digits were chosen so that they round to it
  (`Double.ofDecimal_shortest`), and NaN has one text, so it is read back as the one NaN that a file knows.
-/
import DriveAdvisory.Proofs.Number.Positional
import DriveAdvisory.Proofs.Toml.Strings

namespace DriveAdvisory.Toml

/-- A run of characters ends where something else comes next. -/
theorem span_append {p : Char → Bool} {cs rest : List Char} (hcs : ∀ c ∈ cs, p c = true)
    (hrest : ∀ c ∈ rest.head?, p c = false) : (cs ++ rest).span p = (cs, rest) := by
  have hend : rest.takeWhile p = [] ∧ rest.dropWhile p = rest := by
    cases rest with
    | nil => exact ⟨rfl, rfl⟩
    | cons c more =>
      have hc : ¬ p c = true := by
        rw [hrest c rfl]
        exact Bool.false_ne_true
      exact ⟨List.takeWhile_cons_of_neg hc, List.dropWhile_cons_of_neg hc⟩
  rw [List.span_eq_takeWhile_dropWhile, List.takeWhile_append_of_pos hcs,
    List.dropWhile_append_of_pos hcs, hend.1, hend.2, List.append_nil]

/-! ## Digits in groups -/

theorem splitAt_of_not_mem {separator : Char} {cs : List Char} (h : separator ∉ cs) :
    Text.splitAt separator cs = [cs] := by
  induction cs with
  | nil => rfl
  | cons c cs ih =>
    have hc : c ≠ separator := fun heq => h (heq ▸ List.mem_cons_self)
    rw [Text.splitAt, if_neg hc, ih (fun hmem => h (List.mem_cons_of_mem c hmem))]

/-- Without underscores there is one group. -/
theorem readGrouped?_eq {digit : Char → Bool} {cs : List Char} (h : '_' ∉ cs) :
    readGrouped? digit cs = if cs ≠ [] ∧ cs.all digit = true then some cs else none := by
  unfold readGrouped?
  dsimp only
  rw [splitAt_of_not_mem h, List.all_cons, List.all_nil, Bool.and_true, List.flatten_cons,
    List.flatten_nil, List.append_nil]
  cases cs with
  | nil => rfl
  | cons c cs =>
    rw [List.isEmpty_cons, Bool.not_false, Bool.true_and]
    simp only [ne_eq, reduceCtorEq, not_false_eq_true, true_and]

theorem readGrouped?_digits {cs : List Char} (hne : cs ≠ []) (h : ∀ c ∈ cs, c.isDigit = true) :
    readGrouped? Char.isDigit cs = some cs := by
  rw [readGrouped?_eq (fun hmem => nomatch h _ hmem), if_pos ⟨hne, List.all_eq_true.mpr h⟩]

/-! ## Words -/

/-- A word is the text of a bare value. -/
structure Spells (word : List Char) (j : Json) : Prop where
  ne_nil : word ≠ []
  bare : ∀ c ∈ word, isWordChar c = true ∧ isQuote c = false ∧ c ≠ '[' ∧ c ≠ '\x7b'
  reads : readWord? word = some j

/-- What ends a bare value or starts another one. -/
def marks : List Char :=
  [' ', '\t', '\n', '\r', ',', ']', '\x7d', '#', '"', '\x27', '[', '\x7b']

theorem bare_of_not_mem {c : Char} (h : c ∉ marks) :
    isWordChar c = true ∧ isQuote c = false ∧ c ≠ '[' ∧ c ≠ '\x7b' := by
  simp only [marks, List.mem_cons, List.not_mem_nil, or_false, not_or] at h
  simp [isWordChar, isGap, isQuote, h]

theorem spells_letters (word : List Char) {j : Json} (hne : word ≠ [])
    (hbare : (word.all fun c => !marks.contains c) = true) (hread : readWord? word = some j) :
    Spells word j where
  ne_nil := hne
  bare c hc := bare_of_not_mem fun hmark => by
    have hc := List.all_eq_true.mp hbare c hc
    rw [List.contains_iff_mem.mpr hmark] at hc
    nomatch hc
  reads := hread

/-- A bare value is read up to the end of its line. -/
theorem Spells.readValue?_eq {word : List Char} {j : Json} (h : Spells word j) (depth : Nat)
    (rest : List Char) : readValue? depth (word ++ '\n' :: rest) = some (j, '\n' :: rest) := by
  have hspan : (word ++ '\n' :: rest).span isWordChar = (word, '\n' :: rest) := by
    refine span_append (fun c hc => (h.bare c hc).1) (fun c hc => ?_)
    obtain rfl := Option.mem_some.mp hc
    rfl
  have hbare : readBare? (word ++ '\n' :: rest) = some (j, '\n' :: rest) := by
    rw [readBare?, hspan]
    dsimp only
    rw [h.reads]
    rfl
  obtain ⟨c, more, rfl⟩ := List.exists_cons_of_ne_nil h.ne_nil
  obtain ⟨-, hquote, hlist, htable⟩ := h.bare c List.mem_cons_self
  rw [List.cons_append] at hbare ⊢
  rw [readValue?.eq_def]
  dsimp only
  rw [hquote, if_neg Bool.false_ne_true]
  split
  · exact absurd rfl hlist
  · exact absurd rfl hlist
  · exact absurd rfl htable
  · exact absurd rfl htable
  · exact hbare

/-- A bare value starts with no blank. -/
theorem Spells.skipGaps_eq {word : List Char} {j : Json} (h : Spells word j) (rest : List Char) :
    skipGaps (word ++ rest) = word ++ rest := by
  obtain ⟨c, more, rfl⟩ := List.exists_cons_of_ne_nil h.ne_nil
  have hword := (h.bare c List.mem_cons_self).1
  refine List.dropWhile_cons_of_neg fun hgap => ?_
  rw [isWordChar, hgap] at hword
  nomatch hword

/-! ## Numerals -/

/-- A sign, digits and points, a digit first. -/
structure Numeral (word : List Char) (negative : Bool) (body : List Char) : Prop where
  eq_append : word = (if negative then ['-'] else []) ++ body
  chars : ∀ c ∈ body, c.isDigit = true ∨ c = '.'
  leading : ∃ first more, body = first :: more ∧ first.isDigit = true

namespace Numeral

variable {word body : List Char} {negative : Bool}

theorem chars_word (h : Numeral word negative body) :
    ∀ c ∈ word, c.isDigit = true ∨ c = '.' ∨ c = '-' := by
  intro c hc
  rw [h.eq_append] at hc
  rcases List.mem_append.mp hc with hsign | hbody
  · cases negative with
    | true => exact .inr (.inr (List.mem_singleton.mp hsign))
    | false => nomatch hsign
  · exact (h.chars c hbody).imp_right .inl

/-- A character that numerals do not have. -/
theorem not_mem (h : Numeral word negative body) {c : Char}
    (hc : c.isDigit = false ∧ c ≠ '.' ∧ c ≠ '-') : c ∉ word := by
  intro hmem
  rcases h.chars_word c hmem with hdigit | hpoint | hdash
  · rw [hc.1] at hdigit
    nomatch hdigit
  · exact hc.2.1 hpoint
  · exact hc.2.2 hdash

theorem splitSign_eq (h : Numeral word negative body) : splitSign word = (negative, body) := by
  obtain ⟨first, more, rfl, hfirst⟩ := h.leading
  rw [h.eq_append]
  cases negative with
  | true => rfl
  | false =>
    show splitSign (first :: more) = _
    unfold splitSign
    split
    · rename_i heq
      rw [(List.cons.inj heq).1] at hfirst
      nomatch hfirst
    · rename_i heq
      rw [(List.cons.inj heq).1] at hfirst
      nomatch hfirst
    · rfl

theorem isTime_eq_false (h : Numeral word negative body) : isTime word = false := by
  have hcolon := h.not_mem (c := ':') (by decide)
  unfold isTime
  split
  · exact absurd (by simp) hcolon
  · rfl

theorem isDate_eq_false {cs : List Char} (h : '-' ∉ cs.tail) : isDate cs = false := by
  unfold isDate
  split
  · exact absurd (by simp) h
  · rfl

theorem spells (h : Numeral word negative body) {j : Json} (hread : readWord? word = some j) :
    Spells word j where
  ne_nil := by
    obtain ⟨first, more, rfl, -⟩ := h.leading
    rw [h.eq_append]
    exact List.append_ne_nil_of_right_ne_nil _ (List.cons_ne_nil _ _)
  bare c hc := bare_of_not_mem fun hmark => by
    have hmarks : (marks.all fun d => !d.isDigit && d != '.' && d != '-') = true := rfl
    have hforeign := List.all_eq_true.mp hmarks c hmark
    rw [Bool.and_eq_true, Bool.and_eq_true, Bool.not_eq_true', bne_iff_ne, bne_iff_ne] at hforeign
    exact h.not_mem ⟨hforeign.1.1, hforeign.1.2, hforeign.2⟩ hc
  reads := hread

/-- A sign is only in front. -/
theorem not_mem_tail (h : Numeral word negative body) : '-' ∉ word.tail := by
  have hbody : '-' ∉ body := fun hmem => by
    rcases h.chars _ hmem with hdigit | hpoint
    · nomatch hdigit
    · nomatch hpoint
  rw [h.eq_append]
  cases negative with
  | true => exact hbody
  | false => exact fun hmem => hbody (List.mem_of_mem_tail hmem)

theorem isMoment_eq_false (h : Numeral word negative body) : isMoment word = false := by
  have htake : '-' ∉ (word.take 10).tail := by
    cases word with
    | nil => exact List.not_mem_nil
    | cons c more => exact fun hmem => h.not_mem_tail (List.mem_of_mem_take hmem)
  rw [isMoment, h.isTime_eq_false, isDate_eq_false h.not_mem_tail, isDate_eq_false htake]
  rfl

/-- A numeral is an integer, or else a float. -/
theorem readWord?_eq (h : Numeral word negative body) : readWord? word =
    match readInteger? word with
    | some n => some (.number (.whole n))
    | none => (readFloat? word).map fun x => .number (.real x) := by
  have htrue : word ≠ "true".toList := fun heq => h.not_mem (c := 't') (by decide) (heq ▸ by decide)
  have hfalse : word ≠ "false".toList := fun heq => h.not_mem (c := 'f') (by decide) (heq ▸ by decide)
  rw [readWord?, if_neg htrue, if_neg hfalse, h.isMoment_eq_false]
  exact if_neg Bool.false_ne_true

/-- A numeral is no number in another base. -/
theorem readInteger?_eq (h : Numeral word negative body) : readInteger? word =
    ((readDecimal? body).map fun digits =>
      if negative then -(digitsValue digits : Int) else digitsValue digits).bind fun n =>
        if -9223372036854775808 ≤ n ∧ n ≤ 9223372036854775807 then some n else none := by
  unfold readInteger?
  split
  · exact absurd (by simp) (h.not_mem (c := 'x') (by decide))
  · exact absurd (by simp) (h.not_mem (c := 'o') (by decide))
  · exact absurd (by simp) (h.not_mem (c := 'b') (by decide))
  · rw [h.splitSign_eq]
    rfl

end Numeral

/-! ## Integers -/

theorem toList_toString_int (n : Int) : (toString n).toList =
    (if decide (n < 0) = true then ['-'] else []) ++ Nat.toDigits 10 n.natAbs := by
  cases n with
  | ofNat k =>
    show (Nat.repr k).toList = _
    rw [Nat.toList_repr, if_neg (by simp)]
    rfl
  | negSucc k =>
    show ("-" ++ Nat.repr (k + 1)).toList = _
    rw [String.toList_append, Nat.toList_repr, if_pos (by simp)]
    rfl

theorem numeral_int (n : Int) :
    Numeral (toString n).toList (decide (n < 0)) (Nat.toDigits 10 n.natAbs) where
  eq_append := toList_toString_int n
  chars c hc := .inl (isDigit_toDigits c hc)
  leading := by
    obtain ⟨first, more, hdigits⟩ := List.exists_cons_of_ne_nil (Nat.toDigits_ne_nil (n := n.natAbs) (b := 10))
    exact ⟨first, more, hdigits, isDigit_toDigits first (hdigits ▸ List.mem_cons_self)⟩

/-- Digits are a decimal if there is no zero in front, or no other digit. -/
theorem readDecimal?_digits {cs : List Char} (hne : cs ≠ []) (h : ∀ c ∈ cs, c.isDigit = true)
    (hleading : cs.length = 1 ∨ cs.head? ≠ some '0') : readDecimal? cs = some cs := by
  rw [readDecimal?, readGrouped?_digits hne h]
  exact if_neg fun hzero => hleading.elim hzero.1 fun hhead => hhead hzero.2

theorem spells_int {n : Int} (hlow : -9223372036854775808 ≤ n) (hhigh : n ≤ 9223372036854775807) :
    Spells (toString n).toList (.number (.whole n)) := by
  have hleading : (Nat.toDigits 10 n.natAbs).length = 1 ∨ (Nat.toDigits 10 n.natAbs).head? ≠ some '0' := by
    by_cases hzero : n.natAbs = 0
    · rw [hzero]
      exact .inl rfl
    · exact .inr (head?_toDigits hzero)
  have hvalue : (if decide (n < 0) = true then -(n.natAbs : Int) else n.natAbs) = n := by
    simp only [decide_eq_true_eq]
    split
    · omega
    · omega
  apply (numeral_int n).spells
  rw [(numeral_int n).readWord?_eq, (numeral_int n).readInteger?_eq,
    readDecimal?_digits Nat.toDigits_ne_nil isDigit_toDigits hleading, Option.map_some,
    digitsValue_toDigits, hvalue, Option.bind_some, if_pos ⟨hlow, hhigh⟩]

/-! ## Floats -/

theorem numeral_decimal {whole fraction : List Char} (h : WrittenOut whole fraction) (negative : Bool) :
    Numeral ((if negative then ['-'] else []) ++ (whole ++ '.' :: fraction)) negative
      (whole ++ '.' :: fraction) where
  eq_append := rfl
  chars c hc := by
    rcases List.mem_append.mp hc with hwhole | hrest
    · exact .inl (h.whole_digits c hwhole)
    · rcases List.mem_cons.mp hrest with hpoint | hfraction
      · exact .inr hpoint
      · exact .inl (h.fraction_digits c hfraction)
  leading := by
    obtain ⟨first, more, rfl⟩ := List.exists_cons_of_ne_nil h.whole_ne_nil
    exact ⟨first, _, rfl, h.whole_digits first List.mem_cons_self⟩

/-- A point is in no integer. -/
theorem readDecimal?_writtenOut {whole fraction : List Char} (h : WrittenOut whole fraction) :
    readDecimal? (whole ++ '.' :: fraction) = none := by
  have hgroup : '_' ∉ whole ++ '.' :: fraction := fun hmem => by
    rcases (numeral_decimal h false).chars _ hmem with hdigit | hpoint
    · nomatch hdigit
    · nomatch hpoint
  rw [readDecimal?, readGrouped?_eq hgroup, if_neg]
  · rfl
  · rintro ⟨-, hall⟩
    nomatch List.all_eq_true.mp hall '.' (List.mem_append_right _ List.mem_cons_self)

/-- No digit starts a power of ten. -/
theorem not_power_of_isDigit {c : Char} (h : c.isDigit = true) : (c != 'e' && c != 'E') = true := by
  rw [Bool.and_eq_true, bne_iff_ne, bne_iff_ne]
  constructor
  · rintro rfl
    nomatch h
  · rintro rfl
    nomatch h

theorem fitsFloatTail_digits {fraction : List Char} (hne : fraction ≠ [])
    (h : ∀ c ∈ fraction, c.isDigit = true) : fitsFloatTail ('.' :: fraction) = true := by
  have hpower : (fraction ++ []).span (fun c => c != 'e' && c != 'E') = (fraction, []) :=
    span_append (fun c hc => not_power_of_isDigit (h c hc)) nofun
  rw [List.append_nil] at hpower
  rw [fitsFloatTail, hpower]
  dsimp only
  rw [readGrouped?_digits hne h]
  rfl

/-- A decimal with a point is a float, unless it is too large for one. -/
theorem readFloat?_writtenOut {whole fraction : List Char} (h : WrittenOut whole fraction) (negative : Bool)
    {x : Double} (hx : Binary.ofDecimal negative (digitsValue (whole ++ fraction))
      (-(fraction.length : Int)) = x) (hfin : x.isInfinite = false) :
    readFloat? ((if negative then ['-'] else []) ++ (whole ++ '.' :: fraction)) = some x := by
  have hnumeral := numeral_decimal h negative
  have hspan : (whole ++ '.' :: fraction).span (fun c => c != '.' && c != 'e' && c != 'E') =
      (whole, '.' :: fraction) := by
    refine span_append (fun c hc => ?_) (fun c hc => ?_)
    · have hdigit := h.whole_digits c hc
      rw [Bool.and_assoc, not_power_of_isDigit hdigit, Bool.and_true, bne_iff_ne]
      rintro rfl
      nomatch hdigit
    · obtain rfl := Option.mem_some.mp hc
      rfl
  have htail := fitsFloatTail_digits h.fraction_ne_nil h.fraction_digits
  have hfilter : ((if negative then ['-'] else []) ++ (whole ++ '.' :: fraction)).filter (· != '_') =
      (if negative then ['-'] else []) ++ (whole ++ '.' :: fraction) :=
    List.filter_eq_self.mpr fun c hc => bne_iff_ne.mpr fun heq =>
      hnumeral.not_mem (c := '_') (by decide) (heq ▸ hc)
  -- the words for what is no finite number have no point
  have hword : ∀ letters : List Char, '.' ∉ letters → whole ++ '.' :: fraction ≠ letters :=
    fun letters hpoint heq => hpoint (heq ▸ List.mem_append_right _ List.mem_cons_self)
  rw [readFloat?, hnumeral.splitSign_eq]
  dsimp only
  rw [if_neg (hword _ (by decide)), if_neg (hword _ (by decide)), hspan]
  dsimp only
  rw [readDecimal?_digits h.whole_ne_nil h.whole_digits h.leading, if_pos ⟨rfl, htail⟩, hfilter,
    readDouble?_writtenOut h, hx, Option.filter_some, hfin, Bool.not_false, Bool.or_true, if_pos rfl]

/-- A decimal with a point is read as the float that it is rounded to. -/
theorem spells_decimal {whole fraction : List Char} (h : WrittenOut whole fraction) (negative : Bool)
    {x : Double} (hx : Binary.ofDecimal negative (digitsValue (whole ++ fraction))
      (-(fraction.length : Int)) = x) (hfin : x.isInfinite = false) :
    Spells ((if negative then ['-'] else []) ++ (whole ++ '.' :: fraction)) (.number (.real x)) := by
  have hnumeral := numeral_decimal h negative
  apply hnumeral.spells
  rw [hnumeral.readWord?_eq, hnumeral.readInteger?_eq, readDecimal?_writtenOut h,
    readFloat?_writtenOut h negative hx hfin]
  rfl

/-- **A float is read back**, and of the NaNs the one that a file knows. -/
theorem spells_text {x : Double} (hnan : x.isNaN = true → x = Binary.nan) :
    Spells (x.text floatLayout).toList (.number (.real x)) := by
  by_cases hx : x.isNaN = true
  · rw [hnan hx]
    exact spells_letters ['n', 'a', 'n'] (List.cons_ne_nil _ _) rfl rfl
  · by_cases hinfinite : x.isInfinite = true
    · rw [Binary.eq_infinite hinfinite]
      cases x.negative with
      | true => exact spells_letters ['-', 'i', 'n', 'f'] (List.cons_ne_nil _ _) rfl rfl
      | false => exact spells_letters ['i', 'n', 'f'] (List.cons_ne_nil _ _) rfl rfl
    · by_cases hzero : x.isZero = true
      · rw [Binary.eq_zero hzero]
        cases x.negative with
        | true => exact spells_decimal writtenOut_zero true (Double.ofDecimal_zero true _) rfl
        | false => exact spells_decimal writtenOut_zero false (Double.ofDecimal_zero false _) rfl
      · have hsign : (if x.negative then "-" else "").toList = if x.negative then ['-'] else [] := by
          split
          · rfl
          · rfl
        have hpos : x.magnitude ≠ 0 := fun heq => hzero (beq_iff_eq.mpr heq)
        obtain ⟨hdigits, hshortest⟩ := Double.ofDecimal_shortest .up
          (Binary.isFinite_of_not hx hinfinite) (Nat.pos_of_ne_zero hpos)
        obtain ⟨whole, fraction, htext, hwritten, hsame⟩ := (x.shortest .up).positional_eq hdigits
        have hlayout : x.text floatLayout =
            (if x.negative then "-" else "") ++ (x.shortest .up).positional ".0" := by
          unfold Binary.text
          rw [if_neg hx, if_neg hinfinite, if_neg hzero]
          exact congrArg _ (if_pos rfl)
        rw [hlayout, String.toList_append, hsign, htext]
        exact spells_decimal hwritten x.negative ((hsame x.negative).trans hshortest)
          (eq_false_of_ne_true hinfinite)

/-! ## Values -/

/-- What a file can hold as a plain value.  It knows one NaN. -/
def Plain : Json → Prop
  | .string _ => True
  | .bool _ => True
  | .number (.whole n) => -9223372036854775808 ≤ n ∧ n ≤ 9223372036854775807
  | .number (.real x) => x.isNaN = true → x = Binary.nan
  | _ => False

/-- **A plain value is read back** up to the end of its line, and no blank of it is taken for one before it. -/
theorem readValue?_valueText {j : Json} (h : Plain j) (depth : Nat) (rest : List Char) :
    readValue? depth (skipGaps ((valueText j).toList ++ '\n' :: rest)) = some (j, '\n' :: rest) := by
  have hword : ∀ {word}, Spells word j → (valueText j).toList = word →
      readValue? depth (skipGaps ((valueText j).toList ++ '\n' :: rest)) = some (j, '\n' :: rest) := by
    intro word hspells hword
    rw [hword, hspells.skipGaps_eq, hspells.readValue?_eq]
  cases j with
  | null => exact h.elim
  | array items => exact h.elim
  | object members => exact h.elim
  | bool b =>
    cases b with
    | true =>
      exact hword (spells_letters ['t', 'r', 'u', 'e'] (List.cons_ne_nil _ _) rfl rfl) rfl
    | false =>
      exact hword (spells_letters ['f', 'a', 'l', 's', 'e'] (List.cons_ne_nil _ _) rfl rfl) rfl
  | number n =>
    cases n with
    | whole n => exact hword (spells_int h.1 h.2) rfl
    | real x => exact hword (spells_text h) rfl
  | string s =>
    obtain ⟨mark, body, htext, hquote, hread⟩ :=
      shows_stringText s ('\n' :: rest) (by simp) (by simp)
    have hgap : ¬ isGap mark = true := by
      rw [isQuote, Bool.or_eq_true, beq_iff_eq, beq_iff_eq] at hquote
      rcases hquote with rfl | rfl
      · decide
      · decide
    show readValue? depth (skipGaps ((stringText s).toList ++ '\n' :: rest)) = _
    rw [htext, skipGaps, List.dropWhile_cons_of_neg hgap, readValue?.eq_def]
    dsimp only
    rw [if_pos hquote, hread]
    rfl

end DriveAdvisory.Toml
