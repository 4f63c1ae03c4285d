/-
  Reading records.

  Whether the members of an object make a record can be said field by field (`Fields.Reads`): every field finds
  its member and likes what it finds.  The rules below are one for each way of making a description of
  fields, so what a record asks of an object is read off its description, and nothing about records has
  to look into how they are read.
-/
import DriveAdvisory.Json.Decode
import DriveAdvisory.Proofs.Json.Members

namespace DriveAdvisory.Fields

variable {α β : Type} {members : List (String × Json)}

/-- The members of an object make a record. -/
structure Reads (fields : Fields α) (members : List (String × Json)) (a : α) : Prop where
  fits : ∀ m ∈ members, fields.check m.1 m.2 = .ok ()
  makes : fields.ofMembers members = .ok a

/-! ## By the description -/

theorem bind_eq_ok {ε γ δ : Type} {x : Except ε γ} {f : γ → Except ε δ} {d : δ} :
    x.bind f = .ok d ↔ ∃ c, x = .ok c ∧ f c = .ok d := by
  cases x with
  | error e => exact ⟨nofun, nofun⟩
  | ok c =>
    constructor
    · exact fun h => ⟨c, rfl, h⟩
    · rintro ⟨c', hc, h⟩
      obtain rfl := Except.ok.inj hc
      exact h

theorem map_eq_ok {ε γ δ : Type} {x : Except ε γ} {f : γ → δ} {d : δ} :
    x.map f = .ok d ↔ ∃ c, x = .ok c ∧ f c = d := by
  cases x with
  | error e => exact ⟨nofun, nofun⟩
  | ok c =>
    constructor
    · exact fun h => ⟨c, rfl, Except.ok.inj h⟩
    · rintro ⟨c', hc, rfl⟩
      obtain rfl := Except.ok.inj hc
      rfl

theorem pure_reads (a b : α) : (pure a : Fields α).Reads members b ↔ a = b := by
  constructor
  · exact fun h => Except.ok.inj h.makes
  · rintro rfl
    exact ⟨fun _ _ => rfl, rfl⟩

/-- Fields of a function and of its argument are read together. -/
theorem seq_reads (fields : Fields (α → β)) (more : Fields α) (b : β) :
    (fields <*> more).Reads members b ↔
      ∃ f a, fields.Reads members f ∧ more.Reads members a ∧ f a = b := by
  constructor
  · intro h
    obtain ⟨f, hf, hrest⟩ := bind_eq_ok.mp h.makes
    obtain ⟨a, ha, hb⟩ := bind_eq_ok.mp hrest
    have hfits : ∀ m ∈ members, fields.check m.1 m.2 = .ok () ∧ more.check m.1 m.2 = .ok () := by
      intro m hm
      obtain ⟨_, hfirst, hsecond⟩ := bind_eq_ok.mp (h.fits m hm)
      exact ⟨hfirst, hsecond⟩
    exact ⟨f, a, ⟨fun m hm => (hfits m hm).1, hf⟩, ⟨fun m hm => (hfits m hm).2, ha⟩,
      Except.ok.inj hb⟩
  · rintro ⟨f, a, hf, ha, rfl⟩
    constructor
    · exact fun m hm => bind_eq_ok.mpr ⟨(), hf.fits m hm, ha.fits m hm⟩
    · exact bind_eq_ok.mpr ⟨f, hf.makes, bind_eq_ok.mpr ⟨a, ha.makes, rfl⟩⟩

theorem map_reads (f : α → β) (fields : Fields α) (b : β) :
    (f <$> fields).Reads members b ↔ ∃ a, fields.Reads members a ∧ f a = b := by
  have hmap : f <$> fields = pure f <*> fields := rfl
  rw [hmap, seq_reads]
  constructor
  · rintro ⟨g, a, hg, ha, rfl⟩
    obtain rfl := (pure_reads f g).mp hg
    exact ⟨a, ha, rfl⟩
  · rintro ⟨a, ha, rfl⟩
    exact ⟨f, a, (pure_reads f f).mpr rfl, ha, rfl⟩

/-- A field that finds its member is read as that member is. -/
theorem one_reads (hmembers : Json.Ascending members) {name : String} {j : Json}
    (hfound : Json.lookup name members = some j) (decode : Decoder α) (absent left : Option α) (a : α) :
    (one name decode absent left).Reads members a ↔ decode j = .ok a := by
  have hmakes : (one name decode absent left).ofMembers members = decode j := by
    unfold one
    dsimp only
    rw [hfound]
  constructor
  · exact fun h => hmakes ▸ h.makes
  · intro hj
    refine ⟨?_, hmakes.trans hj⟩
    intro m hm
    -- a member of this name is the one that was found, since names occur once
    show (if m.1 = name then (decode m.2).map fun _ => () else .ok ()) = .ok ()
    split
    · rename_i heq
      have hsame := hmembers.lookup hm
      rw [heq, hfound] at hsame
      rw [← Option.some.inj hsame, hj]
      rfl
    · rfl

/-- A field without a member has the value that it has when it is left out, if there is one. -/
theorem one_reads_of_missing {name : String} (hmissing : Json.lookup name members = .none)
    (decode : Decoder α) (absent left : Option α) (a : α) :
    (one name decode absent left).Reads members a ↔ absent = some a := by
  constructor
  · intro h
    have hmakes := h.makes
    simp only [one, hmissing] at hmakes
    cases absent with
    | none => nomatch hmakes
    | some value => exact congrArg some (Except.ok.inj hmakes)
  · rintro rfl
    refine ⟨fun m hm => if_neg (Json.ne_of_lookup_eq_none hmissing m hm), ?_⟩
    simp only [one, hmissing]

theorem required_reads (hmembers : Json.Ascending members) {name : String} {j : Json}
    (hfound : Json.lookup name members = some j) (decode : Decoder α) (a : α) :
    (required name decode).Reads members a ↔ decode j = .ok a :=
  one_reads hmembers hfound decode _ _ a

theorem optional_reads (hmembers : Json.Ascending members) {name : String} {j : Json}
    (hfound : Json.lookup name members = some j) (decode : Decoder α) (a : Option α) :
    (optional name decode).Reads members a ↔ decode.nullable j = .ok a :=
  one_reads hmembers hfound decode.nullable _ _ a

/-! ## Records -/

theorem repeated?_eq_none (h : Json.Ascending members) (names : List String) :
    repeated? names members = .none := by
  induction members with
  | nil => rfl
  | cons first rest ih =>
    obtain ⟨hfirst, hrest⟩ := List.pairwise_cons.mp h
    have hmissing : Json.lookup first.1 rest = .none :=
      Json.lookup_eq_none fun m hm => (Json.ne_of_lt (hfirst m hm)).symm
    rw [repeated?, hmissing, if_neg (by simp), ih hrest]

theorem forM_eq_ok {ε γ : Type} {f : γ → Except ε Unit} (items : List γ) :
    items.forM f = .ok () ↔ ∀ item ∈ items, f item = .ok () := by
  induction items with
  | nil => exact ⟨fun _ _ h => absurd h List.not_mem_nil, fun _ => rfl⟩
  | cons first rest ih =>
    rw [List.forall_mem_cons, ← ih]
    show (f first).bind (fun _ => rest.forM f) = .ok () ↔ _
    rw [bind_eq_ok]
    constructor
    · rintro ⟨_, hfirst, hrest⟩
      exact ⟨hfirst, hrest⟩
    · rintro ⟨hfirst, hrest⟩
      exact ⟨(), hfirst, hrest⟩

/-- **An object is a record** exactly if its members make one. -/
theorem record_eq_ok (hmembers : Json.Ascending members) (name : String) (fields : Fields α) (a : α) :
    record name fields (.object members) = .ok a ↔ fields.Reads members a := by
  have hrecord : record name fields (.object members) =
      (members.forM fun m => fields.check m.1 m.2).bind fun _ => fields.ofMembers members := by
    unfold record
    dsimp only
    rw [repeated?_eq_none hmembers]
    rfl
  rw [hrecord, bind_eq_ok]
  constructor
  · rintro ⟨_, hfits, hmakes⟩
    exact ⟨(forM_eq_ok members).mp hfits, hmakes⟩
  · rintro ⟨hfits, hmakes⟩
    exact ⟨(), (forM_eq_ok members).mpr hfits, hmakes⟩

/-! ## By the list of the fields -/

section Items

variable {expected : String} {place next : Nat} {items rest : List Json}

theorem map_ofItems_eq_ok (f : α → β) (fields : Fields α) (b : β) :
    (f <$> fields).ofItems expected place items = .ok (b, next, rest) ↔
      ∃ a, fields.ofItems expected place items = .ok (a, next, rest) ∧ f a = b := by
  have hmap : (f <$> fields).ofItems expected place items =
      (fields.ofItems expected place items).bind fun read => .ok (f read.1, read.2) := rfl
  rw [hmap, bind_eq_ok]
  constructor
  · rintro ⟨⟨a, _, _⟩, ha, hb⟩
    obtain ⟨rfl, rfl, rfl⟩ := by simpa using hb
    exact ⟨a, ha, rfl⟩
  · rintro ⟨a, ha, rfl⟩
    exact ⟨(a, next, rest), ha, rfl⟩

/-- The fields of a function come before those of its argument. -/
theorem seq_ofItems_eq_ok (fields : Fields (α → β)) (more : Fields α) (b : β) :
    (fields <*> more).ofItems expected place items = .ok (b, next, rest) ↔
      ∃ f middle left, fields.ofItems expected place items = .ok (f, middle, left) ∧
        ∃ a, more.ofItems expected middle left = .ok (a, next, rest) ∧ f a = b := by
  have hseq : (fields <*> more).ofItems expected place items =
      (fields.ofItems expected place items).bind fun first =>
        (more.ofItems expected first.2.1 first.2.2).bind fun second =>
          .ok (first.1 second.1, second.2) := rfl
  rw [hseq, bind_eq_ok]
  constructor
  · rintro ⟨⟨f, middle, left⟩, hf, hrest⟩
    obtain ⟨⟨a, _, _⟩, ha, hb⟩ := bind_eq_ok.mp hrest
    obtain ⟨rfl, rfl, rfl⟩ := by simpa using hb
    exact ⟨f, middle, left, hf, a, ha, rfl⟩
  · rintro ⟨f, middle, left, hf, a, ha, rfl⟩
    exact ⟨(f, middle, left), hf, bind_eq_ok.mpr ⟨(a, next, rest), ha, rfl⟩⟩

/-- A field takes the first item. -/
theorem one_ofItems_eq_ok {name : String} {decode : Decoder α} {absent left : Option α} {j : Json}
    {a : α} :
    (one name decode absent left).ofItems expected place (j :: items) = .ok (a, next, rest) ↔
      decode j = .ok a ∧ place + 1 = next ∧ items = rest := by
  have hone : (one name decode absent left).ofItems expected place (j :: items) =
      (decode j).map fun a => (a, place + 1, items) := rfl
  rw [hone, map_eq_ok]
  constructor
  · rintro ⟨a', ha, hb⟩
    obtain ⟨rfl, rfl, rfl⟩ := by simpa using hb
    exact ⟨ha, rfl, rfl⟩
  · rintro ⟨ha, rfl, rfl⟩
    exact ⟨a, ha, rfl⟩

/-- A list is a record exactly if its items make one and none of them is left over. -/
theorem record_array_eq_ok (name : String) (fields : Fields α) (items : List Json) (a : α) :
    record name fields (.array items) = .ok a ↔
      ∃ next, fields.ofItems ("struct " ++ name ++ if fields.names.length = 1 then " with 1 element"
        else " with " ++ toString fields.names.length ++ " elements") 0 items = .ok (a, next, []) := by
  unfold record
  dsimp only
  refine bind_eq_ok.trans ?_
  constructor
  · rintro ⟨⟨b, next, rest⟩, hb, hrest⟩
    cases rest with
    | nil =>
      obtain rfl := Except.ok.inj hrest
      exact ⟨next, hb⟩
    | cons => nomatch hrest
  · rintro ⟨next, ha⟩
    exact ⟨(a, next, []), ha, rfl⟩

end Items

end DriveAdvisory.Fields
