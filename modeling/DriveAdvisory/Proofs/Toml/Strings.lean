/-
  Strings are read back, whatever quotes they stand between.

  A reader that is inside a string has just passed a run of its quote marks, and what it does next depends on how
  long the run is: too long a one closes the string.  So both proofs are by induction on the characters left, for
  every run that may stand right before them (`Quotes.within`): of characters that stand as they are no run is
  too long (`readStringRest?_raw`), and of characters with escapes each run is cut short by an escape before it
  is (`readStringRest?_escapedFrom`).
-/
import DriveAdvisory.Proofs.Json.Scalars
import DriveAdvisory.Toml.Printer
import DriveAdvisory.Toml.Reader

namespace DriveAdvisory.Toml

/-! ## Quotes -/

/-- How many marks close a string. -/
def Quotes.closing (q : Quotes) : Nat := if q.tripled then 3 else 1

/-- How many marks in a row may stand in a string. -/
def Quotes.within (q : Quotes) : Nat := if q.tripled then 2 else 0

section

variable {q : Quotes} {run fuel : Nat} {done rest : List Char} {c : Char}

/-- Of marks in a row, with something else after them, four are looked at. -/
theorem takeWhile_marks (hrest : rest.head? ≠ some q.mark) (hrun : run ≤ 4) :
    ((List.replicate run q.mark ++ rest).take 4).takeWhile (· == q.mark) =
      List.replicate run q.mark := by
  have hstop : (rest.take (4 - run)).takeWhile (· == q.mark) = [] := by
    rcases rest with _ | ⟨c, rest⟩
    · rw [List.take_nil, List.takeWhile_nil]
    · cases 4 - run with
      | zero => rfl
      | succ count =>
        have hc : ¬ (c == q.mark) = true := fun hc => hrest (congrArg some (eq_of_beq hc))
        rw [List.take_succ_cons]
        exact List.takeWhile_cons_of_neg hc
  rw [List.take_append, List.take_of_length_le (by rwa [List.length_replicate]),
    List.length_replicate, List.takeWhile_append_of_pos, hstop, List.append_nil]
  intro c hc
  exact beq_iff_eq.mpr (List.mem_replicate.mp hc).2

/-- Marks that close nothing are characters of the string. -/
theorem readStringRest?_marks (hrun : run ≤ q.within) (hc : c ≠ q.mark) :
    readStringRest? q (fuel + run) done (List.replicate run q.mark ++ c :: rest) =
      readStringRest? q fuel (List.replicate run q.mark ++ done) (c :: rest) := by
  have hrest : (c :: rest).head? ≠ some q.mark := fun heq => hc (Option.some.inj heq)
  induction run generalizing done with
  | zero => rfl
  | succ run ih =>
    unfold Quotes.within at hrun ih
    split at hrun
    · rename_i htripled
      rw [if_pos htripled] at ih
      rw [List.replicate_succ, List.cons_append, ← Nat.add_assoc, readStringRest?, if_pos rfl,
        if_pos htripled]
      dsimp only
      rw [takeWhile_marks hrest (by omega), List.length_replicate, if_pos (by omega), ih (by omega),
        ← List.replicate_succ, List.replicate_succ', List.append_assoc]
      rfl
    · exact absurd hrun (Nat.not_succ_le_zero run)

/-- As many marks as close a string do so, and those before them are its last characters. -/
theorem readStringRest?_closing (hrun : run ≤ q.within) (hrest : rest.head? ≠ some q.mark) :
    readStringRest? q (fuel + 1) done (List.replicate (run + q.closing) q.mark ++ rest) =
      some (String.ofList (done.reverse ++ List.replicate run q.mark), rest) := by
  unfold Quotes.within at hrun
  unfold Quotes.closing
  split at hrun
  · rename_i htripled
    rw [if_pos htripled, List.replicate_succ, List.cons_append, readStringRest?,
      if_pos rfl, if_pos htripled]
    dsimp only
    rw [takeWhile_marks hrest (by omega), List.length_replicate, if_neg (by omega),
      List.drop_replicate, List.drop_append_of_le_length (Nat.le_of_eq List.length_replicate.symm),
      List.drop_eq_nil_of_le (Nat.le_of_eq List.length_replicate), List.nil_append,
      Nat.add_sub_cancel, List.reverse_append, List.reverse_replicate]
  · rename_i hsingle
    obtain rfl := Nat.eq_zero_of_le_zero hrun
    rw [if_neg hsingle, Nat.zero_add, List.replicate_one, List.singleton_append, readStringRest?,
      if_pos rfl, if_neg hsingle, List.replicate_zero, List.append_nil]

/-- A character that means nothing else stands for itself. -/
theorem readStringRest?_plain (hmark : c ≠ q.mark) (hescape : c = '\\' → q.escapes = false)
    (hplain : isPlain c = true) :
    readStringRest? q (fuel + 1) done (c :: rest) = readStringRest? q fuel (c :: done) rest := by
  rw [readStringRest?, if_neg hmark, if_neg, if_pos hplain]
  rintro ⟨hback, hescapes⟩
  rw [hescape hback] at hescapes
  nomatch hescapes

/-- So does the end of a line between three quotes. -/
theorem readStringRest?_newline (hmark : '\n' ≠ q.mark) (htripled : q.tripled = true) :
    readStringRest? q (fuel + 1) done ('\n' :: rest) = readStringRest? q fuel ('\n' :: done) rest := by
  rw [readStringRest?, if_neg hmark, if_neg (fun hback => nomatch hback.1), if_neg (by decide),
    if_pos htripled]
  rfl

end

/-! ## Characters as they are -/

theorem isPlain_of_not_isControl {c : Char} (h : isControl c = false) (hline : c ≠ '\n') :
    isPlain c = true := by
  have hcontrol : ((decide (c.toNat < 0x20) && c != '\t' && c != '\n') || c.toNat == 0x7f) = false := h
  show (c == '\t' || (decide (0x20 ≤ c.toNat) && c.toNat != 0x7f)) = true
  simp only [Bool.or_eq_false_iff, Bool.and_eq_false_iff, Bool.or_eq_true, Bool.and_eq_true,
    decide_eq_false_iff_not, decide_eq_true_eq, bne_eq_false_iff_eq, bne_iff_ne, beq_iff_eq,
    beq_eq_false_iff_ne] at hcontrol ⊢
  obtain ⟨(hlow | htab) | hend, hdelete⟩ := hcontrol
  · exact .inr ⟨Nat.le_of_not_lt hlow, hdelete⟩
  · exact .inl htab
  · exact absurd hend hline

/-- What a run is counted with. -/
def countRun (mark : Char) : Nat × Nat → Char → Nat × Nat := fun (best, run) other =>
  if other = mark then (max best (run + 1), run + 1) else (best, 0)

theorem le_countRun (mark : Char) (cs : List Char) (best run : Nat) :
    best ≤ (cs.foldl (countRun mark) (best, run)).1 := by
  induction cs generalizing best run with
  | nil => exact Nat.le_refl best
  | cons c cs ih =>
    rw [List.foldl_cons, countRun]
    split
    · exact Nat.le_trans (Nat.le_max_left _ _) (ih _ _)
    · exact ih _ _

/-- A run and the character that ends it are the string's next characters. -/
theorem reverse_pushed (mark c : Char) (run : Nat) (done cs : List Char) :
    (c :: (List.replicate run mark ++ done)).reverse ++ List.replicate 0 mark ++ cs =
      done.reverse ++ List.replicate run mark ++ c :: cs := by
  simp only [List.reverse_cons, List.reverse_append, List.reverse_replicate, List.replicate_zero,
    List.append_nil, List.append_assoc, List.singleton_append]

/-- **A string as it is** is read up to its closing quotes. -/
theorem readStringRest?_raw {q : Quotes} (hescapes : q.escapes = false)
    {rest : List Char} (hrest : rest.head? ≠ some q.mark) (cs : List Char)
    (hplain : ∀ c ∈ cs, isPlain c = true ∨ (c = '\n' ∧ q.tripled = true)) :
    ∀ (best run fuel : Nat) (done : List Char), run ≤ best →
      (cs.foldl (countRun q.mark) (best, run)).1 ≤ q.within → run + cs.length < fuel →
      readStringRest? q fuel done
          (List.replicate run q.mark ++ (cs ++ (List.replicate q.closing q.mark ++ rest))) =
        some (String.ofList (done.reverse ++ List.replicate run q.mark ++ cs), rest) := by
  induction cs with
  | nil =>
    intro best run fuel done hbest hwithin hfuel
    obtain ⟨fuel, rfl⟩ := Nat.exists_eq_succ_of_ne_zero (Nat.ne_of_gt (Nat.zero_lt_of_lt hfuel))
    rw [List.nil_append, ← List.append_assoc, List.replicate_append_replicate,
      readStringRest?_closing (Nat.le_trans hbest hwithin) hrest, List.append_nil]
  | cons c cs ih =>
    intro best run fuel done hbest hwithin hfuel
    have hrun : run ≤ q.within :=
      Nat.le_trans hbest (Nat.le_trans (le_countRun q.mark _ best run) hwithin)
    rw [List.foldl_cons, countRun] at hwithin
    rw [List.length_cons] at hfuel
    have ih := ih (fun c hc => hplain c (List.mem_cons_of_mem _ hc))
    by_cases hc : c = q.mark
    · -- the run goes on, and nothing is read yet
      rw [if_pos hc] at hwithin
      have := ih (max best (run + 1)) (run + 1) fuel done (Nat.le_max_right _ _) hwithin (by omega)
      rw [hc]
      rw [List.replicate_succ', List.append_assoc, List.append_assoc, List.append_assoc] at this
      rw [List.append_assoc]
      exact this
    · -- the run ends here, so its marks are read and then this character
      obtain ⟨fuel, rfl⟩ : ∃ less, fuel = less + 1 + run := ⟨fuel - 1 - run, by omega⟩
      rw [if_neg hc] at hwithin
      have hnext := ih best 0 fuel (c :: (List.replicate run q.mark ++ done)) (Nat.zero_le _) hwithin
        (by omega)
      have hstep : readStringRest? q (fuel + 1) (List.replicate run q.mark ++ done)
          (c :: (cs ++ (List.replicate q.closing q.mark ++ rest))) =
            readStringRest? q fuel (c :: (List.replicate run q.mark ++ done))
              (cs ++ (List.replicate q.closing q.mark ++ rest)) := by
        rcases hplain c List.mem_cons_self with hc' | ⟨rfl, htripled⟩
        · exact readStringRest?_plain hc (fun _ => hescapes) hc'
        · exact readStringRest?_newline hc htripled
      rw [List.cons_append, readStringRest?_marks hrun hc, hstep]
      rw [reverse_pushed, List.replicate_zero, List.nil_append] at hnext
      exact hnext

/-! ## Characters with escapes -/

section

variable {tripled : Bool} {fuel : Nat} {done rest : List Char} {c : Char}

/-- A backslash that does not end its line makes the next characters one. -/
theorem readStringRest?_backslash {letter : Char} {more : List Char}
    (hgap : isGap letter = false) (hline : letter ≠ '\n' ∧ letter ≠ '\r')
    (h : readEscape? (letter :: more) = some (c, rest)) :
    readStringRest? ⟨'"', tripled⟩ (fuel + 1) done ('\\' :: letter :: more) =
      readStringRest? ⟨'"', tripled⟩ fuel (c :: done) rest := by
  have hfolded : (if tripled = true then afterFoldedLine? (letter :: more) else none) = none := by
    have hend : afterNewline? (letter :: more) = none := by
      unfold afterNewline?
      split
      · rename_i heq
        exact absurd (List.cons.inj heq).1 hline.1
      · rename_i heq
        exact absurd (List.cons.inj heq).1 hline.2
      · rfl
    rw [afterFoldedLine?, skipGaps, List.dropWhile_cons_of_neg (by rw [hgap]; decide), hend]
    exact ite_self none
  rw [readStringRest?, if_neg (by decide : '\\' ≠ '"'), if_pos ⟨rfl, rfl⟩]
  dsimp only
  rw [hfolded, h]
  rfl

/-- The digits of a control character's number, four of them. -/
def controlDigits (n : Nat) : List Char :=
  List.replicate (4 - (Nat.toDigits 16 n).length) '0' ++ (Nat.toDigits 16 n).map Char.toUpper

theorem controlDigits_spec : ∀ n < 128, (controlDigits n).length = 4 ∧
    ∃ places ∈ (controlDigits n).mapM Json.hexValue?, places.length = 4 ∧
      places.foldl (fun n digit => n * 16 + digit) 0 = n := by
  decide

theorem readNumbered?_control (h : c.toNat < 128) :
    readNumbered? 4 (controlDigits c.toNat ++ rest) = some (c, rest) := by
  obtain ⟨hlength, places, hplaces, hcount, hvalue⟩ := controlDigits_spec c.toNat h
  have htake : (controlDigits c.toNat ++ rest).take 4 = controlDigits c.toNat := by
    rw [List.take_append_of_le_length (Nat.le_of_eq hlength.symm),
      List.take_of_length_le (Nat.le_of_eq hlength)]
  have hdrop : (controlDigits c.toNat ++ rest).drop 4 = rest := List.drop_left' hlength
  have hvalid : (c.toNat).isValidChar := c.valid
  rw [readNumbered?, htake, Option.mem_def.mp hplaces]
  show (if places.length = 4 ∧ (places.foldl (fun n digit => n * 16 + digit) 0).isValidChar then
    some (Char.ofNat (places.foldl (fun n digit => n * 16 + digit) 0),
      (controlDigits c.toNat ++ rest).drop 4) else none) = _
  rw [hvalue, if_pos ⟨hcount, hvalid⟩, Char.ofNat_toNat, hdrop]

/-- A character is read from the way in which it stands between double quotes. -/
theorem readStringRest?_escaped (hc : c ≠ '"') :
    readStringRest? ⟨'"', tripled⟩ (fuel + 1) done ((escaped tripled c).toList ++ rest) =
      readStringRest? ⟨'"', tripled⟩ fuel (c :: done) rest := by
  unfold escaped
  split
  case h_3 =>
    cases tripled with
    | true => exact readStringRest?_newline (by decide) rfl
    | false => exact readStringRest?_backslash rfl (by decide) rfl
  case h_7 hbackspace htab hline hfeed hreturn hback =>
    split
    · rename_i hcontrol
      have htext : ("\\u" ++ Text.repeated (4 - (Text.hexDigits c.toNat).length) "0" ++
          String.ofList ((Text.hexDigits c.toNat).toList.map Char.toUpper)).toList =
            '\\' :: 'u' :: controlDigits c.toNat := by
        rw [String.toList_append, String.toList_append, String.toList_ofList,
          Text.toList_repeated_zero, Text.hexDigits, String.length_ofList, String.toList_ofList,
          String.toList_ofList, List.append_assoc]
        rfl
      have hlow : c.toNat < 128 := by
        simp [isControl] at hcontrol
        omega
      rw [htext]
      exact readStringRest?_backslash rfl (by decide) (readNumbered?_control hlow)
    · rename_i hcontrol
      rw [Char.toString, String.toList_singleton, List.singleton_append]
      exact readStringRest?_plain hc (fun heq => absurd heq hback)
        (isPlain_of_not_isControl (eq_false_of_ne_true hcontrol) hline)
  all_goals exact readStringRest?_backslash rfl (by decide) rfl

/-- What a character is written as starts with no quote, and only a line end starts with one. -/
theorem escaped_eq_cons (tripled : Bool) (hc : c ≠ '"') : ∃ first more, (escaped tripled c).toList = first :: more ∧
    first ≠ '"' ∧ first ≠ '\r' ∧ (first = '\n' → c = '\n') := by
  unfold escaped
  split
  case h_3 =>
    cases tripled with
    | true => exact ⟨_, _, rfl, by decide, by decide, fun _ => rfl⟩
    | false => exact ⟨_, _, rfl, by decide, by decide, fun _ => rfl⟩
  case h_7 hbackspace htab hline hfeed hreturn hback =>
    split
    · exact ⟨'\\', _, by rw [String.toList_append, String.toList_append]; rfl, by decide, by decide, nofun⟩
    · exact ⟨c, [], String.toList_singleton c, hc, hreturn, id⟩
  all_goals exact ⟨_, _, rfl, by decide, by decide, nofun⟩

/-- One quote more would close the string. -/
theorem toList_escapedFrom_full {run : Nat} (h : (Quotes.mk '"' tripled).within ≤ run) (cs : List Char) :
    (escapedFrom tripled run ('"' :: cs)).toList =
      '\\' :: '"' :: (escapedFrom tripled 0 cs).toList := by
  have hfull : (if tripled = true then 2 else 0) ≤ run := h
  rw [escapedFrom, if_pos rfl, if_pos hfull, String.toList_append]
  rfl

theorem toList_escapedFrom_quote {run : Nat} (h : run < (Quotes.mk '"' tripled).within)
    (cs : List Char) : (escapedFrom tripled run ('"' :: cs)).toList =
      '"' :: (escapedFrom tripled (run + 1) cs).toList := by
  have hroom : ¬ (if tripled = true then 2 else 0) ≤ run := Nat.not_le_of_lt h
  rw [escapedFrom, if_pos rfl, if_neg hroom, String.toList_append]
  rfl

theorem toList_escapedFrom_cons (hc : c ≠ '"') (run : Nat) (cs : List Char) :
    (escapedFrom tripled run (c :: cs)).toList =
      (escaped tripled c).toList ++ (escapedFrom tripled 0 cs).toList := by
  rw [escapedFrom, if_neg hc, String.toList_append]

/-- **A string with escapes** is read up to its closing quotes. -/
theorem readStringRest?_escapedFrom (tripled : Bool) (hrest : rest.head? ≠ some '"') (cs : List Char) :
    ∀ (run fuel : Nat) (done : List Char), run ≤ (Quotes.mk '"' tripled).within →
      run + cs.length < fuel →
      readStringRest? ⟨'"', tripled⟩ fuel done (List.replicate run '"' ++
          ((escapedFrom tripled run cs).toList ++
            (List.replicate (Quotes.mk '"' tripled).closing '"' ++ rest))) =
        some (String.ofList (done.reverse ++ List.replicate run '"' ++ cs), rest) := by
  generalize hclosed : List.replicate (Quotes.mk '"' tripled).closing '"' ++ rest = closed
  induction cs with
  | nil =>
    intro run fuel done hrun hfuel
    obtain ⟨fuel, rfl⟩ := Nat.exists_eq_succ_of_ne_zero (Nat.ne_of_gt (Nat.zero_lt_of_lt hfuel))
    rw [escapedFrom, List.append_nil, String.toList_empty, List.nil_append, ← hclosed,
      ← List.append_assoc, List.replicate_append_replicate]
    exact readStringRest?_closing (q := ⟨'"', tripled⟩) hrun hrest
  | cons c cs ih =>
    intro run fuel done hrun hfuel
    rw [List.length_cons] at hfuel
    by_cases hroom : c = '"' ∧ run < (Quotes.mk '"' tripled).within
    · -- a quote that may stand as it is only makes the run longer
      obtain ⟨rfl, hroom⟩ := hroom
      have hnext := ih (run + 1) fuel done hroom (by omega)
      rw [List.replicate_succ', List.append_assoc, ← List.append_assoc done.reverse,
        List.append_assoc _ ['"']] at hnext
      rw [toList_escapedFrom_quote hroom]
      exact hnext
    · -- the run ends here: at a quote with a backslash before it, or at another character
      obtain ⟨fuel, rfl⟩ : ∃ less, fuel = less + 1 + run := ⟨fuel - 1 - run, by omega⟩
      have hnext := ih 0 fuel (c :: (List.replicate run '"' ++ done)) (Nat.zero_le _) (by omega)
      rw [reverse_pushed, List.replicate_zero, List.nil_append] at hnext
      rw [← hnext]
      by_cases hc : c = '"'
      · subst hc
        have hfull : (Quotes.mk '"' tripled).within ≤ run :=
          Nat.le_of_not_lt fun hless => hroom ⟨rfl, hless⟩
        rw [toList_escapedFrom_full hfull]
        exact (readStringRest?_marks (q := ⟨'"', tripled⟩) hrun (show '\\' ≠ '"' by decide)).trans
          (readStringRest?_backslash rfl (by decide) rfl)
      · obtain ⟨first, more, htext, hfirst, -⟩ := escaped_eq_cons tripled hc
        rw [toList_escapedFrom_cons hc, List.append_assoc, ← readStringRest?_escaped hc, htext]
        exact readStringRest?_marks (q := ⟨'"', tripled⟩) hrun hfirst

/-- Every character takes a place at least. -/
theorem length_le_escapedFrom (tripled : Bool) (cs : List Char) :
    ∀ run, cs.length ≤ (escapedFrom tripled run cs).toList.length := by
  induction cs with
  | nil => exact fun _ => Nat.zero_le _
  | cons c cs ih =>
    intro run
    by_cases hc : c = '"'
    · subst hc
      rcases Nat.lt_or_ge run (Quotes.mk '"' tripled).within with hroom | hfull
      · have := ih (run + 1)
        rw [toList_escapedFrom_quote hroom, List.length_cons, List.length_cons]
        omega
      · have := ih 0
        rw [toList_escapedFrom_full hfull, List.length_cons, List.length_cons, List.length_cons]
        omega
    · obtain ⟨first, more, htext, -⟩ := escaped_eq_cons tripled hc
      have := ih 0
      rw [toList_escapedFrom_cons hc, htext, List.length_append, List.length_cons, List.length_cons]
      omega

end

/-! ## The four kinds of quotes -/

section

variable {mark : Char} {rest : List Char}

/-- One quote, and not three. -/
theorem readString?_single {body : List Char} (hbody : body.take 2 ≠ [mark, mark]) (allowed : Bool) :
    readString? mark allowed body = readStringRest? ⟨mark, false⟩ (body.length + 1) [] body := by
  unfold readString?
  split
  · rename_i a b inner
    rw [if_neg]
    rintro ⟨-, rfl, rfl⟩
    exact hbody rfl
  · rfl

/-- Three quotes, with the end of their line after them. -/
theorem readString?_tripled_lines (body : List Char) :
    readString? mark true (mark :: mark :: '\n' :: body) =
      readStringRest? ⟨mark, true⟩ (body.length + 1) [] body := by
  unfold readString?
  dsimp only
  rw [if_pos ⟨rfl, rfl, rfl⟩]
  rfl

/-- Three quotes with the string right after them. -/
theorem readString?_tripled {body : List Char} (hbody : body.head? ≠ some '\n' ∧ body.head? ≠ some '\r') :
    readString? mark true (mark :: mark :: body) =
      readStringRest? ⟨mark, true⟩ (body.length + 1) [] body := by
  have hend : afterNewline? body = none := by
    unfold afterNewline?
    split
    · exact absurd rfl hbody.1
    · exact absurd rfl hbody.2
    · rfl
  unfold readString?
  dsimp only
  rw [if_pos ⟨rfl, rfl, rfl⟩, hend]
  rfl

theorem take_two_ne (hrest : rest.head? ≠ some mark) : (mark :: rest).take 2 ≠ [mark, mark] := by
  rcases rest with _ | ⟨c, rest⟩
  · exact fun heq => nomatch heq
  · rintro heq
    exact hrest (congrArg List.head? (List.cons.inj heq).2)

/-- Between one quote on each side, with escapes. -/
theorem readString?_double (hrest : rest.head? ≠ some '"') (cs : List Char) :
    readString? '"' true ((escapedFrom false 0 cs).toList ++ '"' :: rest) =
      some (String.ofList cs, rest) := by
  have hread := readStringRest?_escapedFrom false hrest cs 0
    (((escapedFrom false 0 cs).toList ++ '"' :: rest).length + 1) [] (Nat.zero_le _) (by
      have := length_le_escapedFrom false cs 0
      rw [List.length_append]
      omega)
  rw [readString?_single]
  · exact hread
  · cases cs with
    | nil => exact take_two_ne hrest
    | cons c cs =>
      by_cases hc : c = '"'
      · subst hc
        rw [toList_escapedFrom_full (Nat.le_refl 0)]
        exact fun heq => nomatch heq
      · obtain ⟨first, more, htext, hfirst, -⟩ := escaped_eq_cons false hc
        rw [toList_escapedFrom_cons hc, htext]
        exact fun heq => hfirst (List.cons.inj heq).1

/-- Between three quotes on each side, with escapes. -/
theorem readString?_tripleDouble (hrest : rest.head? ≠ some '"') (cs : List Char) :
    readString? '"' true ('"' :: '"' :: ((if cs.contains '\n' then ['\n'] else []) ++
        ((escapedFrom true 0 cs).toList ++ '"' :: '"' :: '"' :: rest))) =
      some (String.ofList cs, rest) := by
  have hread := readStringRest?_escapedFrom true hrest cs 0
    (((escapedFrom true 0 cs).toList ++ '"' :: '"' :: '"' :: rest).length + 1) [] (Nat.zero_le _) (by
      have := length_le_escapedFrom true cs 0
      rw [List.length_append]
      omega)
  split
  · rw [List.singleton_append, readString?_tripled_lines]
    exact hread
  · rename_i hlines
    rw [List.nil_append, readString?_tripled]
    · exact hread
    · cases cs with
      | nil => exact ⟨nofun, nofun⟩
      | cons c cs =>
        by_cases hc : c = '"'
        · subst hc
          rw [toList_escapedFrom_quote (Nat.zero_lt_two : 0 < (Quotes.mk '"' true).within)]
          exact ⟨by simp, by simp⟩
        · obtain ⟨first, more, htext, -, hreturn, hline⟩ := escaped_eq_cons true hc
          rw [toList_escapedFrom_cons hc, htext]
          refine ⟨fun heq => hlines ?_, fun heq => hreturn (Option.some.inj heq)⟩
          rw [hline (Option.some.inj heq), List.contains_cons]
          rfl

variable {cs : List Char}

/-- Without control characters, only a line end does not stand for itself. -/
theorem plain_or_line (hcontrol : cs.any isControl = false) : ∀ c ∈ cs, isPlain c = true ∨ c = '\n' := by
  intro c hc
  by_cases hline : c = '\n'
  · exact .inr hline
  · exact .inl (isPlain_of_not_isControl
      (eq_false_of_ne_true (List.any_eq_false.mp hcontrol c hc)) hline)

/-- Between one quote on each side, as it is. -/
theorem readString?_raw (hrest : rest.head? ≠ some '\x27') (hcontrol : cs.any isControl = false)
    (hlines : cs.contains '\n' = false) (hrun : longestRun '\x27' cs = 0) :
    readString? '\x27' true (cs ++ '\x27' :: rest) = some (String.ofList cs, rest) := by
  have hplain : ∀ c ∈ cs, isPlain c = true ∨ (c = '\n' ∧ false = true) := by
    intro c hc
    rcases plain_or_line hcontrol c hc with hplain | rfl
    · exact .inl hplain
    · rw [List.contains_iff_mem.mpr hc] at hlines
      nomatch hlines
  have hread := readStringRest?_raw (q := ⟨'\x27', false⟩) rfl hrest cs hplain 0 0
    ((cs ++ '\x27' :: rest).length + 1) [] (Nat.le_refl 0) (Nat.le_of_eq hrun) (by
      rw [List.length_append]
      omega)
  rw [readString?_single]
  · exact hread
  · cases cs with
    | nil => exact take_two_ne hrest
    | cons c cs =>
      intro heq
      obtain rfl := (List.cons.inj heq).1
      exact absurd hrun (Nat.ne_of_gt (le_countRun '\x27' cs 1 1))

/-- Between three quotes on each side, as it is. -/
theorem readString?_tripleRaw (hrest : rest.head? ≠ some '\x27') (hcontrol : cs.any isControl = false)
    (hrun : longestRun '\x27' cs ≤ 2) :
    readString? '\x27' true ('\x27' :: '\x27' :: ((if cs.contains '\n' then ['\n'] else []) ++
        (cs ++ '\x27' :: '\x27' :: '\x27' :: rest))) = some (String.ofList cs, rest) := by
  have hplain : ∀ c ∈ cs, isPlain c = true ∨ (c = '\n' ∧ true = true) := fun c hc =>
    (plain_or_line hcontrol c hc).imp_right fun hline => ⟨hline, rfl⟩
  have hread := readStringRest?_raw (q := ⟨'\x27', true⟩) rfl hrest cs hplain 0 0
    ((cs ++ '\x27' :: '\x27' :: '\x27' :: rest).length + 1) [] (Nat.le_refl 0) hrun (by
      rw [List.length_append]
      omega)
  split
  · rw [List.singleton_append, readString?_tripled_lines]
    exact hread
  · rename_i hlines
    rw [List.nil_append, readString?_tripled]
    · exact hread
    · cases cs with
      | nil => exact ⟨nofun, nofun⟩
      | cons c cs =>
        refine ⟨fun heq => hlines ?_, fun heq => ?_⟩
        · rw [Option.some.inj heq, List.contains_cons]
          rfl
        · rw [Option.some.inj heq] at hcontrol
          nomatch hcontrol

end

/-- A text is a string between quotes, and what follows it is left. -/
def Shows (text s : String) (rest : List Char) : Prop :=
  ∃ mark body, text.toList ++ rest = mark :: body ∧ isQuote mark = true ∧
    readString? mark true body = some (s, rest)

/-- **A string is read back**, whatever follows its quotes that is no quote. -/
theorem shows_stringText (s : String) (rest : List Char)
    (hdouble : rest.head? ≠ some '"') (hsingle : rest.head? ≠ some '\x27') :
    Shows (stringText s) s rest := by
  have hend : String.ofList s.toList = s := String.ofList_toList
  have hstart : (if s.toList.contains '\n' = true then "\n" else "").toList =
      if s.toList.contains '\n' = true then ['\n'] else [] := by
    split
    · rfl
    · rfl
  have hescaped : Shows ("\"" ++ escapedFrom false 0 s.toList ++ "\"") s rest := by
    refine ⟨_, _, ?_, rfl, hend ▸ readString?_double hdouble s.toList⟩
    simp only [String.toList_append, List.append_assoc]
    rfl
  have htripleEscaped : Shows ("\"\"\"" ++ (if s.toList.contains '\n' = true then "\n" else "") ++
      escapedFrom true 0 s.toList ++ "\"\"\"") s rest := by
    refine ⟨_, _, ?_, rfl, hend ▸ readString?_tripleDouble hdouble s.toList⟩
    simp only [String.toList_append, List.append_assoc, hstart]
    rfl
  unfold stringText
  dsimp only
  split
  · exact hescaped
  · split
    · rename_i hraw
      simp only [Bool.and_eq_true, Bool.not_eq_true', decide_eq_true_eq] at hraw
      refine ⟨_, _, ?_, rfl, hend ▸ readString?_raw hsingle hraw.1.1 hraw.1.2 hraw.2⟩
      simp only [String.toList_append, List.append_assoc]
      rfl
    · split
      · exact htripleEscaped
      · split
        · rename_i hraw
          simp only [Bool.and_eq_true, Bool.not_eq_true', decide_eq_true_eq] at hraw
          refine ⟨_, _, ?_, rfl, hend ▸ readString?_tripleRaw hsingle hraw.1 hraw.2⟩
          simp only [String.toList_append, List.append_assoc, hstart]
          rfl
        · split
          · rename_i hlines
            rw [if_pos hlines] at htripleEscaped
            exact htripleEscaped
          · exact hescaped

end DriveAdvisory.Toml
