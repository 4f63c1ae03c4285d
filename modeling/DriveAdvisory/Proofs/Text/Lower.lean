/-
  Texts that differ in case only.

  Two texts differ in the case of ASCII letters only if they are the same text once their capitals are small
  (`SameWords`).  Lower case does not tell them apart (`lower_congr`): what becomes of a character depends on
  the characters around it only by whether these have a case or may stand among letters, and a capital and its small
  letter agree in both.  Of a text that is ASCII throughout the lower case is the text with its capitals made small
  (`toList_lower`), so nothing else is lost.
-/
import DriveAdvisory.Text.Lower

namespace DriveAdvisory.Text

/-- The characters of a text, its ASCII capitals made small. -/
def small (text : String) : List Char := text.toList.map Char.toLower

/-- Every character of the text is one of ASCII. -/
def IsAscii (text : String) : Prop := ∀ c ∈ text.toList, c.toNat < 128

/-- Both say the same, or nothing, but for the case of ASCII letters. -/
def SameWords (a b : Option String) : Prop := a.map small = b.map small

/-! ## Characters -/

/-- What does not tell the capitals from their small letters does not see whether a character was made small. -/
theorem apply_toLower {β : Type} {f : Char → β}
    (h : ∀ n < 26, f (Char.ofNat (97 + n)) = f (Char.ofNat (65 + n))) (c : Char) :
    f c.toLower = f c := by
  by_cases hcapital : c.val ≥ 'A'.val ∧ c.val ≤ 'Z'.val
  · have hlow : 65 ≤ c.toNat := hcapital.1
    have hhigh : c.toNat ≤ 90 := hcapital.2
    obtain ⟨n, hn⟩ : ∃ n, c.toNat = 65 + n := ⟨c.toNat - 65, by omega⟩
    have hsmall : ∀ n < 26, (Char.ofNat (65 + n)).toLower = Char.ofNat (97 + n) := by decide
    have hc : c = Char.ofNat (65 + n) := by rw [← hn, Char.ofNat_toNat]
    rw [hc, hsmall n (by omega), h n (by omega)]
  · exact congrArg f (dif_neg hcapital)

theorem cased_toLower (c : Char) : cased.holds c.toLower = cased.holds c :=
  apply_toLower (by decide) c

theorem caseIgnorable_toLower (c : Char) : caseIgnorable.holds c.toLower = caseIgnorable.holds c :=
  apply_toLower (by decide) c

theorem lowerChar_toLower (c : Char) : lowerChar c.toLower = lowerChar c :=
  apply_toLower (by decide) c

theorem isBlank_toLower (c : Char) : isBlank c.toLower = isBlank c := apply_toLower (by decide) c

/-- The two characters with a rule of their own are no ASCII letters. -/
theorem toLower_eq_iff {c special : Char} (h : special = 'Σ' ∨ special = 'İ') :
    c.toLower = special ↔ c = special := by
  have hsees := apply_toLower (f := fun d => decide (d = special)) (by rcases h with rfl | rfl <;> decide) c
  simpa using hsees

/-! ## Texts -/

theorem casedAhead_map (cs : List Char) : casedAhead (cs.map Char.toLower) = casedAhead cs := by
  have hignored : caseIgnorable.holds ∘ Char.toLower = caseIgnorable.holds := funext caseIgnorable_toLower
  have hcased : cased.holds ∘ Char.toLower = cased.holds := funext cased_toLower
  rw [casedAhead, List.dropWhile_map, hignored, List.head?_map, Option.map_map, hcased, casedAhead]

/-- **Lower case** of a text whose capitals were made small is its lower case. -/
theorem lowerFrom_map (cs : List Char) : ∀ before : List Char,
    lowerFrom (before.map Char.toLower) (cs.map Char.toLower) = lowerFrom before cs := by
  induction cs with
  | nil => exact fun _ => rfl
  | cons c cs ih =>
    intro before
    have hnext := ih (c :: before)
    rw [List.map_cons] at hnext
    rw [List.map_cons, lowerFrom, lowerFrom, hnext, casedAhead_map, casedAhead_map, lowerChar_toLower]
    simp only [toLower_eq_iff (.inl rfl), toLower_eq_iff (.inr rfl)]

theorem lower_congr {a b : String} (h : small a = small b) : lower a = lower b := by
  have hsmall : ∀ text : String, lower text = String.ofList (lowerFrom [] (small text)) := fun text =>
    congrArg String.ofList (lowerFrom_map text.toList []).symm
  rw [hsmall a, hsmall b, h]

/-- Neither character with a rule of its own is one of ASCII. -/
theorem lowerFrom_of_ascii {cs : List Char} (h : ∀ c ∈ cs, c.toNat < 128) : ∀ before : List Char,
    lowerFrom before cs = cs.map Char.toLower := by
  induction cs with
  | nil => exact fun _ => rfl
  | cons c cs ih =>
    intro before
    have hc := h c List.mem_cons_self
    have hsigma : c ≠ 'Σ' := by
      rintro rfl
      exact absurd hc (by decide)
    have hdotted : c ≠ 'İ' := by
      rintro rfl
      exact absurd hc (by decide)
    have hnext := ih (fun d hd => h d (List.mem_cons_of_mem c hd)) (c :: before)
    rw [lowerFrom, if_neg hsigma, if_neg hdotted, hnext, lowerChar, if_pos hc]
    rfl

/-- **Lower case in ASCII** makes capitals small and leaves all else as it is. -/
theorem toList_lower {text : String} (h : IsAscii text) : (lower text).toList = small text := by
  rw [lower, String.toList_ofList]
  exact lowerFrom_of_ascii h []

/-- Making capitals small leaves the blanks at the ends what they are. -/
theorem small_trim (text : String) : small (trim text) =
    (((small text).dropWhile isBlank).reverse.dropWhile isBlank).reverse := by
  have hblank : isBlank ∘ Char.toLower = isBlank := funext isBlank_toLower
  rw [small, small, trim, String.toList_ofList, List.dropWhile_map, hblank, ← List.map_reverse,
    List.dropWhile_map, hblank, List.map_reverse]

theorem small_eq_nil_iff {text : String} : small text = [] ↔ text = "" := by
  rw [small, List.map_eq_nil_iff, String.toList_eq_nil_iff]

theorem trim_eq_empty_congr {a b : String} (h : small a = small b) : trim a = "" ↔ trim b = "" := by
  rw [← small_eq_nil_iff, ← small_eq_nil_iff, small_trim, small_trim, h]

theorem IsAscii.trim {text : String} (h : IsAscii text) : IsAscii (trim text) := by
  intro c hc
  rw [Text.trim, String.toList_ofList, List.mem_reverse] at hc
  have hback := (List.dropWhile_sublist _).mem hc
  exact h c ((List.dropWhile_sublist _).mem (List.mem_reverse.mp hback))

end DriveAdvisory.Text
