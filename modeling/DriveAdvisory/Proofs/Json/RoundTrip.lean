/-
  Documents are read back from their texts.

  `read?_render` is for every document that a reader can get: its objects are in order, it is not too deep,
  and its numbers read back from theirs (`Fits`).  The proof goes along the reader, that is by the depth that
  is still allowed, and inside one depth along the items and members.  That nothing is taken for a
  space or for the end of a list needs no look at the texts: a text that starts that way is no value
  (`readValue?_head`).
-/
import DriveAdvisory.Proofs.Json.Members
import DriveAdvisory.Proofs.Json.Scalars

namespace DriveAdvisory.Json

/-- A document that is read back at a depth. -/
def Fits : Nat → Json → Prop
  | _, .null | _, .bool _ | _, .string _ => True
  | _, .number n => n.ReadsBack
  | 0, .array _ | 0, .object _ => False
  | depth + 1, .array items => ∀ item ∈ items, Fits depth item
  | depth + 1, .object members => Ascending members ∧ ∀ m ∈ members, Fits depth m.2

/-! ## Spaces -/

/-- No value starts with a space or with the end of an array. -/
theorem readValue?_head {depth : Nat} {outline : Outline} {cs : List Char} {r : Json × List Char}
    (h : readValue? depth outline cs = some r) :
    ∃ c more, cs = c :: more ∧ isSpace c = false ∧ c ≠ ']' := by
  cases cs with
  | nil => rw [readValue?] at h; cases h
  | cons c more =>
    have hnone : ∀ c, c.isDigit = false → (readUnsignedNumber? false (c :: more)).map
        (fun p => (Json.number p.1, p.2)) = none := by
      intro c hc
      rw [readUnsignedNumber?_eq_none hc]
      rfl
    refine ⟨c, more, rfl, ?_, ?_⟩
    · rw [← Bool.not_eq_true]
      intro hspace
      simp only [isSpace, Bool.or_eq_true, beq_iff_eq] at hspace
      -- none of the four starts anything, so each would have to be a digit
      rcases hspace with ((rfl | rfl) | rfl) | rfl
      all_goals
        rw [readValue?.eq_def] at h
        have hread := (hnone _ rfl).symm.trans h
        cases hread
    · rintro rfl
      rw [readValue?.eq_def] at h
      have hread := (hnone ']' rfl).symm.trans h
      cases hread

theorem skipSpaces_cons {c : Char} (h : isSpace c = false) (rest : List Char) :
    skipSpaces (c :: rest) = c :: rest :=
  List.dropWhile_cons_of_neg (by rw [h]; exact Bool.false_ne_true)

theorem skipSpaces_value {depth : Nat} {outline : Outline} {cs : List Char} {r : Json × List Char}
    (h : readValue? depth outline cs = some r) : skipSpaces cs = cs := by
  obtain ⟨c, more, rfl, hspace, -⟩ := readValue?_head h
  exact skipSpaces_cons hspace more

/-! ## Arrays -/

/-- The document is read back, and so is what follows it. -/
def Returns (depth : Nat) (j : Json) : Prop :=
  ∀ rest, Ended rest → readValue? depth .all (j.render.toList ++ rest) = some (j, rest)

theorem Returns.head {depth : Nat} {j : Json} (h : Returns depth j) :
    ∃ c more, j.render.toList = c :: more ∧ isSpace c = false ∧ c ≠ ']' := by
  have := readValue?_head (h [] ended_nil)
  rwa [List.append_nil] at this

theorem Returns.length_pos {depth : Nat} {j : Json} (h : Returns depth j) :
    0 < j.render.toList.length := by
  obtain ⟨c, more, hcs, -⟩ := h.head
  rw [hcs]
  exact Nat.succ_pos _

theorem ended_comma (rest : List Char) : Ended (',' :: rest) := ended_cons (by decide)

theorem ended_bracket (rest : List Char) : Ended (']' :: rest) := ended_cons (by decide)

theorem ended_brace (rest : List Char) : Ended ('\x7d' :: rest) := ended_cons (by decide)

theorem renderItems_cons (first next : Json) (others : List Json) :
    renderItems (first :: next :: others) =
      first.render ++ "," ++ renderItems (next :: others) := by
  rw [renderItems]
  exact nofun

theorem renderItems_head {depth : Nat} {first : Json} (h : Returns depth first) (others : List Json) :
    ∃ c more, (renderItems (first :: others)).toList = c :: more ∧ isSpace c = false ∧ c ≠ ']' := by
  obtain ⟨c, more, hcs, hc⟩ := h.head
  cases others with
  | nil => exact ⟨c, more, hcs, hc⟩
  | cons next others =>
    rw [renderItems_cons, String.toList_append, String.toList_append, hcs]
    exact ⟨c, _, rfl, hc⟩

theorem length_le_renderItems {depth : Nat} {items : List Json}
    (h : ∀ item ∈ items, Returns depth item) :
    items.length ≤ (renderItems items).toList.length := by
  induction items with
  | nil => exact Nat.zero_le _
  | cons first others ih =>
    have hpos := (h first List.mem_cons_self).length_pos
    have hothers := ih fun j hj => h j (List.mem_cons_of_mem _ hj)
    cases others with
    | nil => exact hpos
    | cons next others =>
      rw [renderItems_cons, String.toList_append, String.toList_append, List.length_append,
        List.length_append, List.length_cons]
      omega

/-- The items of an array are read up to its end. -/
theorem readItems?_render {depth : Nat} (rest : List Char) (first : Json) (others : List Json)
    (h : ∀ item ∈ first :: others, Returns depth item) : ∀ (fuel : Nat) (done : List Json),
    (first :: others).length ≤ fuel →
    readItems? (readValue? depth) .all fuel done
        ((renderItems (first :: others)).toList ++ ']' :: rest) =
      some (.array (done.reverse ++ first :: others), rest) := by
  induction others generalizing first with
  | nil =>
    intro fuel done hfuel
    obtain ⟨fuel, rfl⟩ := Nat.exists_eq_succ_of_ne_zero (Nat.ne_of_gt hfuel)
    have hfirst := h first List.mem_cons_self (']' :: rest) (ended_bracket rest)
    rw [renderItems, readItems?, skipSpaces_value hfirst]
    show (readValue? depth .all (first.render.toList ++ ']' :: rest)).bind _ = _
    rw [hfirst, ← List.reverse_cons]
    rfl
  | cons next others ih =>
    intro fuel done hfuel
    obtain ⟨fuel, rfl⟩ := Nat.exists_eq_succ_of_ne_zero (Nat.ne_of_gt (Nat.zero_lt_of_lt hfuel))
    -- a comma ends whatever stands before it, so the first item is read by itself
    have hfirst := h first List.mem_cons_self
      (',' :: ((renderItems (next :: others)).toList ++ ']' :: rest)) (ended_comma _)
    have htext : (renderItems (first :: next :: others)).toList ++ ']' :: rest =
        first.render.toList ++ ',' :: ((renderItems (next :: others)).toList ++ ']' :: rest) := by
      rw [renderItems_cons, String.toList_append, String.toList_append, List.append_assoc,
        List.append_assoc]
      rfl
    rw [htext, readItems?, skipSpaces_value hfirst]
    show (readValue? depth .all (first.render.toList ++ ',' :: _)).bind _ = _
    rw [hfirst]
    show readItems? (readValue? depth) .all fuel (first :: done) _ = _
    rw [ih next (fun j hj => h j (List.mem_cons_of_mem _ hj)) fuel (first :: done)
      (Nat.le_of_succ_le_succ hfuel), List.reverse_cons, List.append_assoc]
    rfl

/-! ## Objects -/

theorem renderMembers_cons (first next : String × Json) (others : List (String × Json)) :
    renderMembers (first :: next :: others) =
      quoted first.1 ++ ":" ++ first.2.render ++ "," ++ renderMembers (next :: others) := by
  rw [renderMembers]
  exact nofun

theorem length_le_renderMembers (members : List (String × Json)) :
    members.length ≤ (renderMembers members).toList.length := by
  induction members with
  | nil => exact Nat.zero_le _
  | cons first others ih =>
    cases others with
    | nil =>
      rw [renderMembers, String.toList_append, String.toList_append, toList_quoted]
      simp
    | cons next others =>
      rw [renderMembers_cons, String.toList_append, String.toList_append, String.toList_append,
        String.toList_append, toList_quoted, List.length_cons]
      simp only [List.length_append, List.length_cons] at ih ⊢
      omega

/-- A member is read up to what follows its value. -/
theorem readMembers?_member {depth : Nat} {name : String} {value : Json} {rest : List Char}
    (h : Returns depth value) (hrest : Ended rest) (fuel : Nat) (done : List (String × Json)) :
    readMembers? (readValue? depth) .all (fuel + 1) done
        ((quoted name).toList ++ ':' :: (value.render.toList ++ rest)) =
      match skipSpaces rest with
      | ',' :: more => readMembers? (readValue? depth) .all fuel ((name, value) :: done) more
      | '\x7d' :: more => some (.object ((name, value) :: done).reverse, more)
      | _ => none := by
  have hvalue := h rest hrest
  obtain ⟨inner, htext, hname⟩ :=
    readStringRest?_toList name (':' :: (value.render.toList ++ rest))
  rw [htext, readMembers?, skipSpaces_cons (by decide)]
  show (readStringRest? (inner.length + 1) [] inner).bind _ = _
  rw [hname, Option.bind_some]
  dsimp only
  rw [skipSpaces_cons (by decide)]
  show ((readValue? depth .all (skipSpaces (value.render.toList ++ rest))).map _).bind _ = _
  rw [skipSpaces_value hvalue, hvalue]
  rfl

/-- The members of an object are read up to its end. -/
theorem readMembers?_render {depth : Nat} (rest : List Char) (first : String × Json)
    (others : List (String × Json)) (h : ∀ m ∈ first :: others, Returns depth m.2) :
    ∀ (fuel : Nat) (done : List (String × Json)), (first :: others).length ≤ fuel →
    readMembers? (readValue? depth) .all fuel done
        ((renderMembers (first :: others)).toList ++ '\x7d' :: rest) =
      some (.object (done.reverse ++ first :: others), rest) := by
  induction others generalizing first with
  | nil =>
    intro fuel done hfuel
    obtain ⟨fuel, rfl⟩ := Nat.exists_eq_succ_of_ne_zero (Nat.ne_of_gt hfuel)
    have htext : (renderMembers [first]).toList ++ '\x7d' :: rest =
        (quoted first.1).toList ++ ':' :: (first.2.render.toList ++ '\x7d' :: rest) := by
      rw [renderMembers, String.toList_append, String.toList_append, List.append_assoc,
        List.append_assoc]
      rfl
    rw [htext, readMembers?_member (h first List.mem_cons_self) (ended_brace rest),
      skipSpaces_cons (by decide), ← List.reverse_cons]
    rfl
  | cons next others ih =>
    intro fuel done hfuel
    obtain ⟨fuel, rfl⟩ := Nat.exists_eq_succ_of_ne_zero (Nat.ne_of_gt (Nat.zero_lt_of_lt hfuel))
    have htext : (renderMembers (first :: next :: others)).toList ++ '\x7d' :: rest =
        (quoted first.1).toList ++ ':' :: (first.2.render.toList ++
          ',' :: ((renderMembers (next :: others)).toList ++ '\x7d' :: rest)) := by
      rw [renderMembers_cons]
      simp only [String.toList_append, List.append_assoc]
      rfl
    rw [htext, readMembers?_member (h first List.mem_cons_self) (ended_comma _),
      skipSpaces_cons (by decide)]
    show readMembers? (readValue? depth) .all fuel (first :: done) _ = _
    rw [ih next (fun m hm => h m (List.mem_cons_of_mem _ hm)) fuel (first :: done)
      (Nat.le_of_succ_le_succ hfuel), List.reverse_cons, List.append_assoc]
    rfl

theorem renderMembers_head (first : String × Json) (others : List (String × Json)) :
    ∃ more, (renderMembers (first :: others)).toList = '"' :: more := by
  cases others with
  | nil =>
    rw [renderMembers, String.toList_append, String.toList_append, toList_quoted]
    exact ⟨_, rfl⟩
  | cons next others =>
    rw [renderMembers_cons]
    simp only [String.toList_append, toList_quoted]
    exact ⟨_, rfl⟩

/-! ## Documents -/

/-- An array starts with its bracket, and ends at once or goes on with an item. -/
theorem readValue?_bracket (depth : Nat) (cs : List Char) :
    readValue? (depth + 1) .all ('[' :: cs) =
      match skipSpaces cs with
      | ']' :: more => some (.array [], more)
      | inner => readItems? (readValue? depth) .all (inner.length + 1) [] inner := by
  rw [readValue?.eq_def]
  rfl

theorem readValue?_array {depth : Nat} {inner more rest : List Char} {c : Char}
    (hinner : inner = c :: more) (hspace : isSpace c = false) (hclosing : c ≠ ']') :
    readValue? (depth + 1) .all ('[' :: (inner ++ rest)) =
      readItems? (readValue? depth) .all ((inner ++ rest).length + 1) [] (inner ++ rest) := by
  subst hinner
  rw [readValue?_bracket, List.cons_append, skipSpaces_cons hspace]
  split
  · rename_i heq
    exact absurd (List.cons.inj heq).1 hclosing
  · rfl

theorem readValue?_object {depth : Nat} {inner more rest : List Char} (hinner : inner = '"' :: more) :
    readValue? (depth + 1) .all ('\x7b' :: (inner ++ rest)) =
      readMembers? (readValue? depth) .all ((inner ++ rest).length + 1) [] (inner ++ rest) := by
  subst hinner
  rw [readValue?.eq_def, List.cons_append]
  dsimp only
  rw [skipSpaces_cons (by decide)]
  rfl

/-- **A value is read back** from the front of a text that starts with its own. -/
theorem readValue?_render : ∀ (depth : Nat) (j : Json), Fits depth j → Returns depth j
  | depth, .null, _, rest, _ => by cases depth <;> rfl
  | depth, .bool true, _, rest, _ => by cases depth <;> rfl
  | depth, .bool false, _, rest, _ => by cases depth <;> rfl
  | depth, .number n, h, rest, hrest => by
    have hback : n.ReadsBack := by
      cases depth <;> exact h
    exact readValue?_number hrest hback depth .all
  | depth, .string s, _, rest, _ => by
    obtain ⟨inner, htext, hname⟩ := readStringRest?_toList s rest
    rw [render, htext, readValue?.eq_def]
    show (readStringRest? (inner.length + 1) [] inner).map _ = _
    rw [hname]
    rfl
  | 0, .array _, h, _, _ => h.elim
  | 0, .object _, h, _, _ => h.elim
  | depth + 1, .array [], _, rest, _ => by
    rw [readValue?.eq_def]
    rfl
  | depth + 1, .array (first :: others), h, rest, _ => by
    have hitems : ∀ item ∈ first :: others, Returns depth item :=
      fun item hitem => readValue?_render depth item (h item hitem)
    -- the reader may take as many items as the text has characters, and each item has one at least
    have htext : (render (.array (first :: others))).toList ++ rest =
        '[' :: ((renderItems (first :: others)).toList ++ ']' :: rest) := by
      rw [render, String.toList_append, String.toList_append]
      simp
    have hlength := length_le_renderItems hitems
    obtain ⟨c, more, hinner, hspace, hclosing⟩ :=
      renderItems_head (hitems first List.mem_cons_self) others
    rw [htext, readValue?_array hinner hspace hclosing]
    exact readItems?_render rest first others hitems _ [] (by rw [List.length_append]; omega)
  | depth + 1, .object [], _, rest, _ => by
    rw [readValue?.eq_def]
    rfl
  | depth + 1, .object (first :: others), h, rest, _ => by
    have hmembers : ∀ m ∈ first :: others, Returns depth m.2 :=
      fun m hm => readValue?_render depth m.2 (h.2 m hm)
    have htext : (render (.object (first :: others))).toList ++ rest =
        '\x7b' :: ((renderMembers (first :: others)).toList ++ '\x7d' :: rest) := by
      rw [render, String.toList_append, String.toList_append]
      simp
    have hlength := length_le_renderMembers (first :: others)
    obtain ⟨more, hinner⟩ := renderMembers_head first others
    rw [htext, readValue?_object hinner]
    exact readMembers?_render rest first others hmembers _ [] (by rw [List.length_append]; omega)

theorem sorted_of_fits : ∀ (depth : Nat) (j : Json), Fits depth j → j.sorted = j
  | _, .null, _ => rfl
  | _, .bool _, _ => rfl
  | _, .number _, _ => rfl
  | _, .string _, _ => rfl
  | 0, .array _, h => h.elim
  | 0, .object _, h => h.elim
  | depth + 1, .array items, h => by
    have hitems : sortedItems items = items := by
      induction items with
      | nil => rfl
      | cons first others ih =>
        rw [sortedItems, sorted_of_fits depth first (h first List.mem_cons_self),
          ih fun item hitem => h item (List.mem_cons_of_mem _ hitem)]
    rw [sorted, hitems]
  | depth + 1, .object members, h => by
    have hmembers : ∀ ms : List (String × Json), (∀ m ∈ ms, Fits depth m.2) →
        sortedMembers ms = ms := by
      intro ms
      induction ms with
      | nil => exact fun _ => rfl
      | cons first others ih =>
        intro hms
        rw [sortedMembers, sorted_of_fits depth first.2 (hms first List.mem_cons_self),
          ih fun m hm => hms m (List.mem_cons_of_mem _ hm)]
    rw [sorted, hmembers members h.2, ofMembers_eq_object, h.1.sortMembers]

/-- **A document is read back** from its text. -/
theorem read?_render {j : Json} (h : Fits maxDepth j) : read? j.render = some j := by
  have hread := readValue?_render maxDepth j h
  have hvalue := hread [] ended_nil
  rw [List.append_nil] at hvalue
  obtain ⟨c, more, hcs, hspace, -⟩ := hread.head
  rw [read?, readOutlined?, hcs, skipSpaces_cons hspace, ← hcs, hvalue]
  show some j.sorted = some j
  rw [sorted_of_fits maxDepth j h]

end DriveAdvisory.Json
