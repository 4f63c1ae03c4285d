/-
  Numbers and strings are read back from their texts.

  A string is, whatever its characters.  Of a number it depends on the rounding that the reader does, so
  `JsonNumber.ReadsBack` asks it of the number's text alone; inside a document the reader finds the same number,
  because nothing that may follow a value there can be taken for more of a number (`Ended`).
-/
import DriveAdvisory.Json.Printer
import DriveAdvisory.Json.Reader
import DriveAdvisory.Proofs.Number.Digits

namespace DriveAdvisory

/-- No number goes on here. -/
def Ended (rest : List Char) : Prop :=
  ∀ c ∈ rest.head?, c.isDigit = false ∧ c ≠ '.' ∧ c ≠ 'e' ∧ c ≠ 'E'

theorem ended_nil : Ended [] := nofun

theorem ended_cons {c : Char} {rest : List Char}
    (h : c.isDigit = false ∧ c ≠ '.' ∧ c ≠ 'e' ∧ c ≠ 'E') : Ended (c :: rest) := by
  intro c' hc'
  obtain rfl := Option.mem_some.mp hc'
  exact h

theorem Ended.noDigit {rest : List Char} (h : Ended rest) : NoDigit rest := fun c hc => (h c hc).1

namespace Json

variable {negative : Bool} {rest : List Char}

/-! ## Numbers -/

theorem readPower?_cons (c : Char) (more : List Char) : readPower? (c :: more) =
    let run := spanDigits (if c = '-' ∨ c = '+' then more else c :: more)
    if run.1.isEmpty then none else some (decide (c = '-'), digitsValue run.1, run.2) := by
  unfold readPower?
  split
  rename_i down rest heq
  split at heq
  · rename_i tail htail
    obtain ⟨rfl, rfl⟩ := List.cons.inj htail
    obtain ⟨rfl, rfl⟩ := Prod.mk.inj heq
    rfl
  · rename_i tail htail
    obtain ⟨rfl, rfl⟩ := List.cons.inj htail
    obtain ⟨rfl, rfl⟩ := Prod.mk.inj heq
    rfl
  · rename_i hminus hplus
    obtain ⟨rfl, rfl⟩ := Prod.mk.inj heq
    have hm : c ≠ '-' := fun h => hminus more (h ▸ rfl)
    have hp : c ≠ '+' := fun h => hplus more (h ▸ rfl)
    simp [hm, hp]

theorem readPower?_append {cs after : List Char} {down : Bool} {power : Nat}
    (hrest : Ended rest) (h : readPower? cs = some (down, power, after)) :
    readPower? (cs ++ rest) = some (down, power, after ++ rest) := by
  cases cs with
  | nil => nomatch h
  | cons c more =>
    have hinner : (if c = '-' ∨ c = '+' then more ++ rest else c :: (more ++ rest)) =
        (if c = '-' ∨ c = '+' then more else c :: more) ++ rest := by
      split <;> rfl
    rw [readPower?_cons] at h
    rw [List.cons_append, readPower?_cons, hinner, spanDigits_append _ hrest.noDigit]
    generalize (if c = '-' ∨ c = '+' then more else c :: more) = inner at h
    dsimp only at h ⊢
    split at h
    · nomatch h
    · rename_i hdigits
      rw [if_neg hdigits]
      simp only [Option.some.injEq, Prod.mk.injEq] at h ⊢
      obtain ⟨hdown, hpower, hafter⟩ := h
      exact ⟨hdown, hpower, by rw [hafter]⟩

theorem finish_append {s : Scaled} {cs after : List Char} {n : JsonNumber} (hrest : Ended rest)
    (h : readUnsignedNumber?.finish negative s cs = some (n, after)) :
    readUnsignedNumber?.finish negative s (cs ++ rest) = some (n, after ++ rest) := by
  cases cs with
  | nil =>
    obtain ⟨m, hm, heq⟩ := Option.map_eq_some_iff.mp h
    obtain ⟨rfl, rfl⟩ := Prod.mk.inj heq
    cases rest with
    | nil => exact h
    | cons c more =>
      obtain ⟨-, -, he, hE⟩ := hrest c rfl
      rw [List.nil_append, readUnsignedNumber?.finish, if_neg (by simp [he, hE]), hm]
      rfl
  | cons c more =>
    rw [List.cons_append]
    rw [readUnsignedNumber?.finish] at h ⊢
    split at h
    · rename_i hmark
      rw [if_pos hmark]
      obtain ⟨⟨down, power, tail⟩, hpower, hn⟩ := Option.bind_eq_some_iff.mp h
      obtain ⟨m, hm, heq⟩ := Option.bind_eq_some_iff.mp hn
      obtain ⟨rfl, rfl⟩ := Prod.mk.inj (Option.some.inj heq)
      rw [readPower?_append hrest hpower]
      simp [hm]
    · rename_i hmark
      rw [if_neg hmark]
      obtain ⟨m, hm, heq⟩ := Option.map_eq_some_iff.mp h
      obtain ⟨rfl, rfl⟩ := Prod.mk.inj heq
      rw [hm]
      rfl

theorem plain_append {whole : Scaled} {cs after : List Char} {n : JsonNumber} (rest : List Char)
    (h : readUnsignedNumber?.plain negative whole cs = some (n, after)) :
    readUnsignedNumber?.plain negative whole (cs ++ rest) = some (n, after ++ rest) := by
  unfold readUnsignedNumber?.plain at h ⊢
  split at h
  · rename_i hpower
    obtain ⟨m, hm, heq⟩ := Option.map_eq_some_iff.mp h
    obtain ⟨rfl, rfl⟩ := Prod.mk.inj heq
    rw [if_pos hpower, hm]
    rfl
  · rename_i hpower
    rw [if_neg hpower]
    split at h
    · rename_i hsign
      obtain ⟨rfl, rfl⟩ := Prod.mk.inj (Option.some.inj h)
      rw [if_pos hsign]
    · rename_i hsign
      rw [if_neg hsign]
      split at h
      · rename_i hbig
        obtain ⟨rfl, rfl⟩ := Prod.mk.inj (Option.some.inj h)
        rw [if_pos hbig]
      · rename_i hbig
        obtain ⟨rfl, rfl⟩ := Prod.mk.inj (Option.some.inj h)
        rw [if_neg hbig]

/-- A number is read from the front of a longer text as it is read alone. -/
theorem readUnsignedNumber?_append {cs after : List Char} {n : JsonNumber} (hrest : Ended rest)
    (h : readUnsignedNumber? negative cs = some (n, after)) :
    readUnsignedNumber? negative (cs ++ rest) = some (n, after ++ rest) := by
  unfold readUnsignedNumber? at h ⊢
  rw [spanDigits_append cs hrest.noDigit]
  generalize spanDigits cs = run at h ⊢
  obtain ⟨digits, tail⟩ := run
  dsimp only at h ⊢
  split at h
  · nomatch h
  · rename_i hdigits
    rw [if_neg hdigits]
    split at h
    · rename_i more
      show (if (spanDigits (more ++ rest)).1.isEmpty then none
        else readUnsignedNumber?.finish negative
          (takeFraction (takeWhole ⟨0, 0⟩ digits) (spanDigits (more ++ rest)).1)
          (spanDigits (more ++ rest)).2) = some (n, after ++ rest)
      rw [spanDigits_append more hrest.noDigit]
      split at h
      · nomatch h
      · rename_i hfraction
        rw [if_neg hfraction]
        exact finish_append hrest h
    · rename_i mark more hpoint
      rw [List.cons_append]
      split at h
      · rename_i hmark
        have := finish_append hrest h
        simpa [hpoint, hmark] using this
      · rename_i hmark
        have := plain_append rest h
        simpa [hpoint, hmark] using this
    · -- the digits were all there was: whatever comes now does not make more of them
      have hplain := plain_append rest h
      rw [List.nil_append] at hplain ⊢
      cases rest with
      | nil => exact hplain
      | cons c more =>
        obtain ⟨-, hpoint, he, hE⟩ := hrest c rfl
        simpa [hpoint, he, hE] using hplain

/-- No number starts with anything but a digit. -/
theorem readUnsignedNumber?_eq_none {c : Char} (h : c.isDigit = false) (rest : List Char) :
    readUnsignedNumber? negative (c :: rest) = none := by
  rw [readUnsignedNumber?, (noDigit_cons h rest).span]
  exact if_pos (.inl rfl)

/-- A number without a sign is a value. -/
theorem readValue?_unsigned {cs after : List Char} {n : JsonNumber}
    (h : readUnsignedNumber? false cs = some (n, after)) (depth : Nat) (outline : Outline) :
    readValue? depth outline cs = some (.number n, after) := by
  cases cs with
  | nil => nomatch h
  | cons c more =>
    have hdigit : c.isDigit = true := by
      rw [← Bool.not_eq_false]
      intro hno
      nomatch (readUnsignedNumber?_eq_none hno more).symm.trans h
    rw [readValue?.eq_def]
    dsimp only
    split
    -- only what starts like nothing else is taken for a number, and a digit does
    case h_8 =>
      rw [h]
      rfl
    all_goals nomatch hdigit

/-- A number is found in front of whatever ends it, at every depth. -/
theorem readValue?_number {cs after : List Char} {n : JsonNumber} (hrest : Ended rest)
    (h : readValue? 0 .all cs = some (.number n, after)) (depth : Nat) (outline : Outline) :
    readValue? depth outline (cs ++ rest) = some (.number n, after ++ rest) := by
  cases cs with
  | nil => rw [readValue?] at h; nomatch h
  | cons c more =>
    rw [List.cons_append]
    rw [readValue?.eq_def] at h ⊢
    dsimp only at h ⊢
    split at h
    · split at h <;> nomatch h
    · split at h <;> nomatch h
    · split at h <;> nomatch h
    · obtain ⟨s, -, hs⟩ := Option.map_eq_some_iff.mp h
      nomatch hs
    · obtain ⟨⟨m, tail⟩, hm, heq⟩ := Option.map_eq_some_iff.mp h
      obtain ⟨hnumber, rfl⟩ := Prod.mk.inj heq
      obtain rfl := Json.number.inj hnumber
      rw [readUnsignedNumber?_append hrest hm]
      rfl
    · nomatch h
    · nomatch h
    · obtain ⟨⟨m, tail⟩, hm, heq⟩ := Option.map_eq_some_iff.mp h
      obtain ⟨hnumber, rfl⟩ := Prod.mk.inj heq
      obtain rfl := Json.number.inj hnumber
      rw [← List.cons_append, readUnsignedNumber?_append hrest hm]
      rfl

/-! ## Strings -/

theorem toList_quoted (s : String) : (quoted s).toList =
    '"' :: (s.toList.flatMap (fun c => (escaped c).toList) ++ ['"']) := by
  have hfold : ∀ (cs : List Char) (done : String),
      (cs.foldl (fun done c => done ++ escaped c) done).toList =
        done.toList ++ cs.flatMap fun c => (escaped c).toList := by
    intro cs
    induction cs with
    | nil => simp
    | cons c cs ih =>
      intro done
      rw [List.foldl_cons, ih, String.toList_append, List.flatMap_cons, List.append_assoc]
  rw [quoted, String.toList_append, String.toList_append, hfold]
  rfl

theorem hexValue?_hexDigit : ∀ n < 16, hexValue? (hexDigit n) = some n := by decide

/-- The character that a control character's escape stands for. -/
theorem readEscapedUnit?_control {c : Char} (h : c.toNat < 0x20) (rest : List Char) :
    readEscapedUnit? ('0' :: '0' :: hexDigit (c.toNat / 16) :: hexDigit (c.toNat % 16) :: rest) =
      some (c, rest) := by
  have hunit : readUnit? ('0' :: '0' :: hexDigit (c.toNat / 16) :: hexDigit (c.toNat % 16) :: rest) =
      some (c.toNat, rest) := by
    rw [readUnit?, hexValue?_hexDigit (c.toNat / 16) (by omega),
      hexValue?_hexDigit (c.toNat % 16) (by omega)]
    show some (((0 * 16 + 0) * 16 + c.toNat / 16) * 16 + c.toNat % 16, rest) = some (c.toNat, rest)
    congr 2
    omega
  rw [readEscapedUnit?, hunit]
  simp only [bind, Option.bind]
  rw [if_neg (by omega), if_neg (by omega), Char.ofNat_toNat]

/-- A character is read from the way in which it stands between quotes. -/
theorem readStringRest?_escaped (fuel : Nat) (done : List Char) (c : Char) (rest : List Char) :
    readStringRest? (fuel + 1) done ((escaped c).toList ++ rest) =
      readStringRest? fuel (c :: done) rest := by
  unfold escaped
  split
  all_goals try rfl
  rename_i hquote hback _ _ _ _ _
  split
  · rename_i hcontrol
    rw [String.toList_append, String.toList_ofList, String.toList_ofList]
    show (readEscapedUnit? ('0' :: '0' :: hexDigit (c.toNat / 16) :: hexDigit (c.toNat % 16) :: rest)).bind
      _ = _
    rw [readEscapedUnit?_control hcontrol]
    rfl
  · rename_i hcontrol
    rw [Char.toString, String.toList_singleton, List.singleton_append, readStringRest?,
      if_neg hquote, if_neg hback, if_neg hcontrol]

/-- A string is read up to its closing quote. -/
theorem readStringRest?_quoted (cs rest : List Char) : ∀ (fuel : Nat) (done : List Char),
    cs.length < fuel →
    readStringRest? fuel done (cs.flatMap (fun c => (escaped c).toList) ++ '"' :: rest) =
      some (String.ofList (done.reverse ++ cs), rest) := by
  induction cs with
  | nil =>
    intro fuel done hfuel
    obtain ⟨fuel, rfl⟩ := Nat.exists_eq_succ_of_ne_zero (Nat.ne_of_gt hfuel)
    rw [List.append_nil]
    rfl
  | cons c cs ih =>
    intro fuel done hfuel
    obtain ⟨fuel, rfl⟩ := Nat.exists_eq_succ_of_ne_zero (Nat.ne_of_gt (Nat.zero_lt_of_lt hfuel))
    rw [List.flatMap_cons, List.append_assoc, readStringRest?_escaped,
      ih fuel (c :: done) (Nat.lt_of_succ_lt_succ hfuel), List.reverse_cons, List.append_assoc]
    rfl

theorem escaped_length_pos (c : Char) : 0 < (escaped c).toList.length := by
  unfold escaped
  split
  all_goals try decide
  split
  · simp
  · simp [Char.toString]

theorem length_le_flatMap_escaped (cs : List Char) :
    cs.length ≤ (cs.flatMap fun c => (escaped c).toList).length := by
  induction cs with
  | nil => exact Nat.le_refl _
  | cons c cs ih =>
    have := escaped_length_pos c
    rw [List.flatMap_cons, List.length_append, List.length_cons]
    omega

/-- A string is read back, and so is what follows it. -/
theorem readStringRest?_toList (s : String) (rest : List Char) :
    ∃ inner, (quoted s).toList ++ rest = '"' :: inner ∧
      readStringRest? (inner.length + 1) [] inner = some (s, rest) := by
  refine ⟨s.toList.flatMap (fun c => (escaped c).toList) ++ '"' :: rest, ?_, ?_⟩
  · rw [toList_quoted]
    simp
  · have := length_le_flatMap_escaped s.toList
    rw [readStringRest?_quoted _ _ _ _ (by rw [List.length_append, List.length_cons]; omega),
      List.reverse_nil, List.nil_append, String.ofList_toList]

end Json

/-- A number is read back from its text. -/
def JsonNumber.ReadsBack (n : JsonNumber) : Prop :=
  Json.readValue? 0 .all n.text.toList = some (.number n, [])

theorem JsonNumber.readsBack_of_unsigned {n : JsonNumber}
    (h : Json.readUnsignedNumber? false n.text.toList = some (n, [])) : n.ReadsBack :=
  Json.readValue?_unsigned h 0 .all

end DriveAdvisory
