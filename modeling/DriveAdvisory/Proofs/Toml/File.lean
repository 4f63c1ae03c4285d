/-
  A file of plain values is read back.

  Every line is a statement that puts one value under a new key (`readStatements?_line`), so after the last line the
  table holds the members in their order (`readStatements?_lines`).  Keys are bare words, and none of their characters
  starts a header, a comment, a string or another line.
-/
import DriveAdvisory.Proofs.Toml.Values

namespace DriveAdvisory.Toml

/-! ## Lines -/

/-- A member on its line. -/
def lineOf (member : String × Json) : List Char :=
  member.1.toList ++ (" = ".toList ++ ((valueText member.2).toList ++ ['\n']))

theorem toList_text (members : List (String × Json)) :
    (text members).toList = members.flatMap lineOf := by
  have hfold : ∀ (members : List (String × Json)) (done : String),
      (members.foldl (fun done member =>
        done ++ member.1 ++ " = " ++ valueText member.2 ++ "\n") done).toList = done.toList ++ members.flatMap lineOf := by
    intro members
    induction members with
    | nil =>
      intro done
      rw [List.foldl_nil, List.flatMap_nil, List.append_nil]
    | cons member members ih =>
      intro done
      rw [List.foldl_cons, ih, List.flatMap_cons, lineOf]
      simp only [String.toList_append, List.append_assoc]
      rfl
  exact hfold members ""

/-! ## Keys -/

/-- A key that needs no quotes. -/
structure BareKey (key : String) : Prop where
  ne_nil : key.toList ≠ []
  chars : ∀ c ∈ key.toList, isKeyChar c = true

theorem ne_of_isKeyChar {c d : Char} (h : isKeyChar c = true) (hd : isKeyChar d = false) : c ≠ d := by
  rintro rfl
  rw [h] at hd
  nomatch hd

/-- A character of a key starts nothing else. -/
theorem skipGaps_key {c : Char} (h : isKeyChar c = true) (rest : List Char) :
    skipGaps (c :: rest) = c :: rest := by
  refine List.dropWhile_cons_of_neg ?_
  rw [isGap, beq_false_of_ne (ne_of_isKeyChar h rfl), beq_false_of_ne (ne_of_isKeyChar h rfl)]
  exact Bool.false_ne_true

theorem endLine?_key {c : Char} (h : isKeyChar c = true) (rest : List Char) :
    endLine? (c :: rest) = none := by
  have hcomment : skipComment (c :: rest) = c :: rest := by
    unfold skipComment
    split
    · rename_i heq
      exact absurd (List.cons.inj heq).1 (ne_of_isKeyChar h rfl)
    · rfl
  have hnewline : afterNewline? (c :: rest) = none := by
    unfold afterNewline?
    split
    · rename_i heq
      exact absurd (List.cons.inj heq).1 (ne_of_isKeyChar h rfl)
    · rename_i heq
      exact absurd (List.cons.inj heq).1 (ne_of_isKeyChar h rfl)
    · rfl
  rw [endLine?, skipGaps_key h, hcomment]
  exact hnewline

/-- A bare key is a path of its own. -/
theorem readPath?_bare {key : String} (h : BareKey key) (rest : List Char) :
    readPath? maxDepth [] (key.toList ++ ' ' :: '=' :: rest) = some (([], key), '=' :: rest) := by
  obtain ⟨first, more, hfirst⟩ := List.exists_cons_of_ne_nil h.ne_nil
  have hchar : isKeyChar first = true := h.chars first (hfirst ▸ List.mem_cons_self)
  have hspan : (key.toList ++ ' ' :: '=' :: rest).span isKeyChar =
      (key.toList, ' ' :: '=' :: rest) := by
    refine span_append h.chars (fun c hc => ?_)
    obtain rfl := Option.mem_some.mp hc
    rfl
  have hquote : isQuote first = false := by
    rw [isQuote, beq_false_of_ne (ne_of_isKeyChar hchar rfl),
      beq_false_of_ne (ne_of_isKeyChar hchar rfl)]
    rfl
  have hkey : readKey? (skipGaps (key.toList ++ ' ' :: '=' :: rest)) =
      some (key, ' ' :: '=' :: rest) := by
    rw [hfirst, List.cons_append] at hspan ⊢
    rw [skipGaps_key hchar, readKey?, hquote, if_neg Bool.false_ne_true, hspan]
    dsimp only
    rw [List.isEmpty_cons, if_neg Bool.false_ne_true, ← hfirst, String.ofList_toList]
  rw [maxDepth, readPath?, hkey]
  rfl

variable {key : String} {j : Json} {t : Table}

/-- A new key is put at the end. -/
theorem put_new (h : t.lookup key = none) :
    reach false (put [] key j) [] .opened t = some (t ++ [(key, .value j)]) := by
  show (if (Origin.opened = .dotted ↔ ([] : List String) = []) ∨ (t.lookup key).isSome then none
    else some (t ++ [(key, .value j)])) = _
  rw [h, if_neg]
  rintro (hopened | hsome)
  · nomatch hopened.mpr rfl
  · nomatch hsome

/-- A line is a statement that puts its value under its key. -/
theorem readStatement?_line (hkey : BareKey key) (hplain : Plain j) (rest : List Char) :
    readStatement? (readValue? maxDepth) (lineOf (key, j) ++ rest) =
      some (put [] key j, '\n' :: rest) := by
  have hline : lineOf (key, j) ++ rest =
      key.toList ++ ' ' :: '=' :: ' ' :: ((valueText j).toList ++ '\n' :: rest) := by
    simp only [lineOf, List.append_assoc]
    rfl
  rw [hline, readStatement?, readPath?_bare hkey]
  show (readValue? maxDepth (skipGaps ((valueText j).toList ++ '\n' :: rest))).bind _ = _
  rw [readValue?_valueText hplain]
  rfl

/-- **A line adds a member.** -/
theorem readStatements?_line (hkey : BareKey key) (hplain : Plain j) (hnew : t.lookup key = none)
    (fuel : Nat) (rest : List Char) :
    readStatements? (fuel + 1) [] t (lineOf (key, j) ++ rest) =
      readStatements? fuel [] (t ++ [(key, .value j)]) rest := by
  have hstatement := readStatement?_line hkey hplain rest
  obtain ⟨first, more, hfirst⟩ := List.exists_cons_of_ne_nil hkey.ne_nil
  have hchar : isKeyChar first = true := hkey.chars first (hfirst ▸ List.mem_cons_self)
  obtain ⟨tail, hline⟩ : ∃ tail, lineOf (key, j) ++ rest = first :: tail :=
    ⟨_, by rw [lineOf, hfirst]; rfl⟩
  rw [hline] at hstatement ⊢
  rw [readStatements?, skipGaps_key hchar]
  split
  · rename_i heq
    nomatch heq
  · rename_i heq
    exact absurd (List.cons.inj heq).1 (ne_of_isKeyChar hchar rfl)
  · -- neither the end of the file nor a header, so it is a statement
    rename_i c following _ heq
    obtain ⟨rfl, rfl⟩ := List.cons.inj heq
    rw [endLine?_key hchar, hstatement]
    show (reach false (put [] key j) [] .opened t).bind _ = _
    rw [put_new hnew]
    rfl

/-- A member as it stands in a table. -/
def entryOf (member : String × Json) : String × Entry := (member.1, .value member.2)

/-- Members that a file can hold. -/
structure Writable (members : List (String × Json)) : Prop where
  keys : ∀ member ∈ members, BareKey member.1
  plain : ∀ member ∈ members, Plain member.2
  distinct : (members.map Prod.fst).Nodup

theorem readStatements?_lines (members : List (String × Json)) :
    ∀ (before : List (String × Json)) (fuel : Nat), Writable (before ++ members) → members.length < fuel →
      readStatements? fuel [] (before.map entryOf) (members.flatMap lineOf) =
        some ((before ++ members).map entryOf) := by
  induction members with
  | nil =>
    intro before fuel _ hfuel
    obtain ⟨fuel, rfl⟩ := Nat.exists_eq_succ_of_ne_zero (Nat.ne_of_gt hfuel)
    rw [List.append_nil]
    rfl
  | cons member members ih =>
    intro before fuel hwritable hfuel
    obtain ⟨fuel, rfl⟩ := Nat.exists_eq_succ_of_ne_zero (Nat.ne_of_gt (Nat.zero_lt_of_lt hfuel))
    have hmem : member ∈ before ++ member :: members :=
      List.mem_append_right _ List.mem_cons_self
    -- the table holds other keys only, because no key comes twice
    have hnew : (before.map entryOf).lookup member.1 = none := by
      have hdistinct := hwritable.distinct
      rw [List.map_append, List.nodup_append] at hdistinct
      refine List.lookup_eq_none_iff.mpr fun entry hentry => ?_
      obtain ⟨other, hother, rfl⟩ := List.mem_map.mp hentry
      refine bne_iff_ne.mpr (Ne.symm ?_)
      exact hdistinct.2.2 _ (List.mem_map_of_mem hother) _ List.mem_cons_self
    have hnext := ih (before ++ [member]) fuel
      (by rwa [List.append_assoc]) (Nat.lt_of_succ_lt_succ hfuel)
    rw [List.map_append, List.append_assoc] at hnext
    rw [List.flatMap_cons, readStatements?_line (hwritable.keys _ hmem) (hwritable.plain _ hmem) hnew]
    exact hnext

theorem toMembers_map_entryOf (members : List (String × Json)) :
    toMembers (members.map entryOf) = members := by
  induction members with
  | nil => rfl
  | cons member members ih =>
    show (member.1, Entry.toJson (.value member.2)) :: toMembers (members.map entryOf) = _
    rw [ih, Entry.toJson]

theorem length_le_flatMap_lineOf (members : List (String × Json)) :
    members.length ≤ (members.flatMap lineOf).length := by
  induction members with
  | nil => exact Nat.le_refl 0
  | cons member members ih =>
    have hline : 0 < (lineOf member).length := by
      simp [lineOf]
    rw [List.flatMap_cons, List.length_append, List.length_cons]
    omega

/-- A file starts with the first character of a key. -/
theorem isKeyChar_of_head {members : List (String × Json)} (h : Writable members) {c : Char}
    {rest : List Char} (htext : members.flatMap lineOf = c :: rest) : isKeyChar c = true := by
  cases members with
  | nil => nomatch htext
  | cons member members =>
    have hkey := h.keys member List.mem_cons_self
    obtain ⟨first, more, hfirst⟩ := List.exists_cons_of_ne_nil hkey.ne_nil
    rw [List.flatMap_cons, lineOf, hfirst] at htext
    obtain ⟨rfl, -⟩ := List.cons.inj htext
    exact hkey.chars first (hfirst ▸ List.mem_cons_self)

/-- **A file of plain values is read back** as the document that it was written from. -/
theorem read?_text {members : List (String × Json)} (h : Writable members) :
    read? (text members) = some (Json.ofMembers members) := by
  have hread := readStatements?_lines members [] ((members.flatMap lineOf).length + 1) h
    (Nat.lt_succ_of_le (length_le_flatMap_lineOf members))
  unfold read?
  rw [toList_text]
  split
  · rename_i heq
    exact absurd rfl (ne_of_isKeyChar (isKeyChar_of_head h heq) rfl)
  · dsimp only
    rw [List.map_nil, List.nil_append] at hread
    rw [hread, Option.map_some, toDocument, toMembers_map_entryOf]

end DriveAdvisory.Toml
