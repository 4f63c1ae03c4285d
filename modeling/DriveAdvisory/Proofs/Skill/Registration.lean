/-
  From registration to the tools of a request.

  Entries are registered by one call each, and a call whose name is taken fails for itself: the calls after it go
  on with the catalogue that it found.  So no name ever stands twice (`Distinct.call`), and on this rests that the
  ways in which a catalogue is looked at agree: place, entry and skill of a name (`Distinct.consistent`), and the
  tools that the services are told of.

  The bodies of the requests are taken as documents: what they hold is what is found in them by name.
-/
import DriveAdvisory.Cycle.Pipeline
import DriveAdvisory.Proofs.Json.Members
import DriveAdvisory.Proofs.Skill.Catalogue
import DriveAdvisory.Reasoning.Completions

namespace DriveAdvisory

namespace Catalogue

variable {ρ : Type} {c : Catalogue ρ} {entry : Capability ρ} {name : String} {place : Nat}

/-! ## Calls -/

/-- An entry of the catalogue has the name. -/
def Taken (name : String) (c : Catalogue ρ) : Prop := name ∈ c.entries.map Capability.name

theorem find?_isSome_iff : (c.find? name).isSome = true ↔ c.Taken name := by
  simp [find?, Taken]

/-- A call of `register`: the entry, the catalogue that it found, what it failed with, and the catalogue that it
    left. -/
structure Call (ρ : Type) where
  entry : Capability ρ
  before : Catalogue ρ
  fault : Option Fault
  after : Catalogue ρ

/-- One call.  What fails leaves what it found. -/
def call (entry : Capability ρ) (c : Catalogue ρ) : Call ρ :=
  match c.register entry with
  | .ok after => ⟨entry, c, none, after⟩
  | .error fault => ⟨entry, c, some fault, c⟩

/-- One call for each of the entries, whatever becomes of those before. -/
def calls : List (Capability ρ) → Catalogue ρ → List (Call ρ)
  | [], _ => []
  | entry :: rest, c => c.call entry :: (c.call entry).after.calls rest

/-- The catalogue after these calls. -/
def after (entries : List (Capability ρ)) (c : Catalogue ρ) : Catalogue ρ :=
  entries.foldl (fun c entry => (c.call entry).after) c

theorem call_of_taken (h : c.Taken entry.name) :
    c.call entry = ⟨entry, c, some (.duplicateName entry.name), c⟩ := by
  rw [call, register, if_pos (find?_isSome_iff.mpr h)]

theorem call_of_not_taken (h : ¬ c.Taken entry.name) :
    c.call entry = ⟨entry, c, none, ⟨c.entries ++ [entry]⟩⟩ := by
  rw [call, register, if_neg (mt find?_isSome_iff.mp h)]

/-- What a call promises: it fails if the name is taken, and then nothing has changed; or else the entry stands at
    the end. -/
structure Call.Kept (call : Call ρ) : Prop where
  refused : call.before.Taken call.entry.name →
    call.fault = some (.duplicateName call.entry.name) ∧ call.after = call.before
  accepted : ¬ call.before.Taken call.entry.name →
    call.fault = none ∧ call.after.entries = call.before.entries ++ [call.entry]

theorem kept_call (c : Catalogue ρ) (entry : Capability ρ) : (c.call entry).Kept := by
  by_cases h : c.Taken entry.name
  · rw [call_of_taken h]
    exact ⟨fun _ => ⟨rfl, rfl⟩, fun hfree => absurd h hfree⟩
  · rw [call_of_not_taken h]
    exact ⟨fun htaken => absurd htaken h, fun _ => ⟨rfl, rfl⟩⟩

theorem kept_of_mem_calls {entries : List (Capability ρ)} {one : Call ρ} (h : one ∈ c.calls entries) :
    one.Kept := by
  induction entries generalizing c with
  | nil => exact absurd h List.not_mem_nil
  | cons entry rest ih =>
    rcases List.mem_cons.mp h with rfl | hrest
    · exact kept_call c entry
    · exact ih hrest

/-- The calls that succeeded have left their entries, in the order of the calls. -/
theorem entries_after (entries : List (Capability ρ)) (c : Catalogue ρ) : (c.after entries).entries =
    c.entries ++ ((c.calls entries).filter (·.fault.isNone)).map Call.entry := by
  induction entries generalizing c with
  | nil => exact (List.append_nil c.entries).symm
  | cons entry rest ih =>
    show ((c.call entry).after.after rest).entries = _
    rw [ih, calls]
    by_cases h : c.Taken entry.name
    · rw [call_of_taken h]
      rfl
    · rw [call_of_not_taken h, List.append_assoc]
      rfl

/-! ## No name twice -/

theorem distinct_empty : (empty : Catalogue ρ).Distinct := List.nodup_nil

theorem Distinct.call (h : c.Distinct) (entry : Capability ρ) : (c.call entry).after.Distinct := by
  by_cases htaken : c.Taken entry.name
  · rw [call_of_taken htaken]
    exact h
  · rw [call_of_not_taken htaken, Distinct, List.map_append]
    exact h.append (List.nodup_singleton entry.name) (List.disjoint_singleton.mpr htaken)

theorem Distinct.after (h : c.Distinct) (entries : List (Capability ρ)) : (c.after entries).Distinct := by
  induction entries generalizing c with
  | nil => exact h
  | cons entry rest ih => exact ih (h.call entry)

/-! ## Looking at a catalogue -/

theorem rank?_eq_none_iff : c.rank? name = none ↔ ¬ c.Taken name := by
  simp [rank?, Taken]

theorem name_of_rank? (h : c.rank? name = some place) :
    ∃ entry, c.entries[place]? = some entry ∧ entry.name = name := by
  obtain ⟨hlt, hname, -⟩ := List.findIdx?_eq_some_iff_getElem.mp h
  exact ⟨c.entries[place], List.getElem?_eq_getElem hlt, of_decide_eq_true hname⟩

theorem Distinct.rank?_eq_some_iff (h : c.Distinct) :
    c.rank? name = some place ↔ ∃ entry, c.entries[place]? = some entry ∧ entry.name = name := by
  constructor
  · exact name_of_rank?
  · rintro ⟨entry, hentry, rfl⟩
    exact h.rank?_eq hentry

theorem Distinct.lookup_eq (h : c.Distinct) (hentry : entry ∈ c.entries) :
    c.lookup entry.name = .ok entry := by
  rw [lookup, h.find?_eq hentry]

theorem lookup_of_not_taken (h : ¬ c.Taken name) : c.lookup name = .error (.unknownName name) := by
  have hnone : c.find? name = none := by
    rw [← Option.not_isSome_iff_eq_none]
    exact mt find?_isSome_iff.mp h
  rw [lookup, hnone]

theorem mem_skills {k : Skill ρ} : k ∈ c.skills ↔ .skill k ∈ c.entries := by
  rw [skills, List.mem_filterMap]
  constructor
  · rintro ⟨entry, hentry, hskill⟩
    cases entry with
    | skill other => exact Option.some.inj hskill ▸ hentry
    | lesson l => nomatch hskill
  · exact fun h => ⟨.skill k, h, rfl⟩

theorem skill_eq_ok_iff {k : Skill ρ} : c.skill name = .ok k ↔ c.find? name = some (.skill k) := by
  unfold skill
  cases c.find? name with
  | none => simp
  | some entry => cases entry <;> simp

/-- The skill of a name is that of an entry, which bears the name. -/
theorem Distinct.skill_eq_ok_iff (h : c.Distinct) {k : Skill ρ} :
    c.skill name = .ok k ↔ k ∈ c.skills ∧ k.name = name := by
  rw [Catalogue.skill_eq_ok_iff, mem_skills]
  constructor
  · exact mem_of_find?
  · rintro ⟨hmem, rfl⟩
    exact h.find?_eq hmem

theorem names_offers (c : Catalogue ρ) : c.offers.map SkillOffer.name = c.skills.map Skill.name := by
  rw [offers, List.map_map]
  rfl

/-- Without the lessons the entries stand in the same order. -/
theorem skills_sublist (c : Catalogue ρ) :
    (c.skills.map Skill.name).Sublist (c.entries.map Capability.name) := by
  obtain ⟨entries⟩ := c
  show ((entries.filterMap (·.skill?)).map Skill.name).Sublist (entries.map Capability.name)
  induction entries with
  | nil => exact .slnil
  | cons entry rest ih =>
    cases entry with
    | skill k => exact ih.cons_cons k.name
    | lesson l => exact ih.cons l.name

/-- What is made of each offer stands beside its skill. -/
theorem forall₂_offers {Told : Skill ρ → Json → Prop} {tool : SkillOffer → Json}
    (h : ∀ k, Told k (tool k.offer)) (c : Catalogue ρ) :
    List.Forall₂ Told c.skills (c.offers.map tool) := by
  rw [offers, List.map_map, List.forall₂_map_right_iff, List.forall₂_same]
  exact fun k _ => h k

end Catalogue

/-! ## What the services are told -/

/-- A tool says what the skill is: its name, its description, and its schema under the keyword. -/
structure Skill.ToldAs (keyword : String) (k : Skill Run) (tool : Json) : Prop where
  name : tool.get? "name" = some (.string k.name)
  description : tool.get? "description" = some (.string k.description)
  schema : tool.get? keyword = some k.schema

/-- A tool that is a function says what the skill is. -/
def Skill.ToldAsFunction (k : Skill Run) (tool : Json) : Prop :=
  tool.get? "type" = some (.string "function") ∧
    ∃ function, tool.get? "function" = some function ∧ k.ToldAs "parameters" function

theorem Messages.get?_tools (model : String) (q : Question) :
    (body model q).get? "tools" = some (.array (q.offers.map tool)) := by
  rw [body, Json.get?_ofMembers_iff (by simp)]
  simp

theorem Messages.toldAs_tool (k : Skill Run) : k.ToldAs "input_schema" (tool k.offer) := by
  constructor <;> rw [tool, Json.get?_ofMembers_iff (by simp)] <;> simp [Skill.offer]

theorem Completions.get?_tools (model : String) (q : Question) :
    (body model q).get? "tools" = some (.array (q.offers.map tool)) := by
  rw [body, Json.get?_ofMembers_iff (by simp)]
  simp

theorem Completions.toldAsFunction_tool (k : Skill Run) : k.ToldAsFunction (tool k.offer) := by
  refine ⟨?_, Json.ofMembers [("name", .string k.name), ("description", .string k.description),
    ("parameters", k.schema)], ?_, ?_⟩
  · rw [tool, Json.get?_ofMembers_iff (by simp)]
    simp
  · rw [tool, Json.get?_ofMembers_iff (by simp)]
    simp [Skill.offer]
  · constructor <;> rw [Json.get?_ofMembers_iff (by simp)] <;> simp

theorem Pipeline.offers_of_question {p : Pipeline} {s : Snapshot} {q : Question}
    (h : p.question s = .ok q) : q.offers = p.catalogue.offers := by
  unfold question at h
  split at h
  · nomatch h
  · obtain rfl := Except.ok.inj h
    rfl

namespace Catalogue

/-! ## All of them together -/

/-- The ways of looking at a catalogue agree. -/
structure Consistent (c : Catalogue Run) : Prop where
  distinct : c.Distinct
  /-- The rank of a name is the place of the entry that bears it. -/
  ranked : ∀ name place, c.rank? name = some place ↔
    ∃ entry, c.entries[place]? = some entry ∧ entry.name = name
  /-- The entry at that place is the one that is found. -/
  found : ∀ name place entry, c.rank? name = some place → c.entries[place]? = some entry →
    c.lookup name = .ok entry
  missing : ∀ name, c.rank? name = none → c.lookup name = .error (.unknownName name)
  /-- There is a skill to run for the names that are offered, and for no others. -/
  runnable : ∀ name, (∃ k, c.skill name = .ok k) ↔ name ∈ c.offers.map SkillOffer.name
  /-- It is the entry of the name. -/
  runs : ∀ name k, c.skill name = .ok k → c.lookup name = .ok (.skill k)
  once : (c.offers.map SkillOffer.name).Nodup
  /-- The services are told of the skills, one after the other, whenever there is something to ask them. -/
  messages : ∀ (p : Pipeline) s q, p.catalogue = c → p.question s = .ok q → ∀ model,
    ∃ tools, (Messages.body model q).get? "tools" = some (.array tools) ∧
      List.Forall₂ (Skill.ToldAs "input_schema") c.skills tools
  completions : ∀ (p : Pipeline) s q, p.catalogue = c → p.question s = .ok q → ∀ model,
    ∃ tools, (Completions.body model q).get? "tools" = some (.array tools) ∧
      List.Forall₂ Skill.ToldAsFunction c.skills tools

/-- Where no name stands twice, they do. -/
theorem Distinct.consistent {c : Catalogue Run} (h : c.Distinct) : c.Consistent where
  distinct := h
  ranked _ _ := h.rank?_eq_some_iff
  found := by
    intro name place entry hrank hentry
    obtain ⟨other, hother, rfl⟩ := name_of_rank? hrank
    obtain rfl := Option.some.inj (hentry.symm.trans hother)
    exact h.lookup_eq (List.mem_of_getElem? hentry)
  missing _ hrank := lookup_of_not_taken (rank?_eq_none_iff.mp hrank)
  runnable := by
    intro name
    rw [names_offers, List.mem_map]
    exact exists_congr fun k => h.skill_eq_ok_iff
  runs := by
    intro name k hskill
    rw [lookup, Catalogue.skill_eq_ok_iff.mp hskill]
  once := by
    rw [names_offers]
    exact h.sublist c.skills_sublist
  messages := by
    rintro p s q rfl hq model
    refine ⟨_, Messages.get?_tools model q, ?_⟩
    rw [p.offers_of_question hq]
    exact forall₂_offers Messages.toldAs_tool p.catalogue
  completions := by
    rintro p s q rfl hq model
    refine ⟨_, Completions.get?_tools model q, ?_⟩
    rw [p.offers_of_question hq]
    exact forall₂_offers Completions.toldAsFunction_tool p.catalogue

/-- What calls for entries leave, when they begin with an empty catalogue. -/
structure Registered (entries : List (Capability Run)) : Prop where
  /-- Each of them fails exactly if its name is taken, and for itself. -/
  kept : ∀ one ∈ empty.calls entries, one.Kept
  /-- The entries are those of the calls that succeeded, in the order of the calls. -/
  listed : (empty.after entries).entries =
    ((empty.calls entries).filter (·.fault.isNone)).map Call.entry
  consistent : (empty.after entries).Consistent

/-- **From registration to the tools.**  Whatever is registered, in whatever order, and whatever of it is
    refused, the catalogue is consistent. -/
theorem registered (entries : List (Capability Run)) : Registered entries where
  kept _ := kept_of_mem_calls
  listed := entries_after entries empty
  consistent := (distinct_empty.after entries).consistent

/-- The second call for a name is refused, whichever kind of entry it is for, and the third is not. -/
example (k : Skill Unit) :
    let c := empty.after [.skill { k with name := "tip" }, .lesson ⟨"tip", "", ""⟩,
      .skill { k with name := "cones" }]
    c.entries.map Capability.kind = ["action", "action"] ∧ c.rank? "cones" = some 1 := ⟨rfl, rfl⟩

end Catalogue

end DriveAdvisory
