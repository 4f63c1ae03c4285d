/-
  Catalogues in which every name stands once.

  A catalogue is searched by name, for an entry and for its place.  Where no name stands twice both searches find
  what they should: an entry of the catalogue, by its name, and its place.  Entries with different names can be
  registered in one go, so the catalogue that the program runs with is the list of its entries, in their order.
-/
import DriveAdvisory.Proofs.Skill.Reading
import Mathlib.Data.List.Nodup

namespace DriveAdvisory.Catalogue

variable {ρ : Type} {c : Catalogue ρ} {entry : Capability ρ} {name : String} {place : Nat}

/-- No name stands twice. -/
def Distinct (c : Catalogue ρ) : Prop := (c.entries.map Capability.name).Nodup

/-! ## Searching -/

theorem find?_eq_none_iff : c.find? name = none ↔ ∀ entry ∈ c.entries, entry.name ≠ name := by
  simp [find?]

theorem mem_of_find? (h : c.find? name = some entry) : entry ∈ c.entries ∧ entry.name = name := by
  have hname := List.find?_some (p := fun entry : Capability ρ => entry.name = name) h
  exact ⟨List.mem_of_find?_eq_some h, of_decide_eq_true hname⟩

/-- An entry's place is found by its name. -/
theorem Distinct.rank?_eq (h : c.Distinct) (hplace : c.entries[place]? = some entry) :
    c.rank? entry.name = some place := by
  obtain ⟨hlt, hget⟩ := List.getElem?_eq_some_iff.mp hplace
  rw [rank?, List.findIdx?_eq_some_iff_getElem]
  refine ⟨hlt, decide_eq_true (congrArg Capability.name hget), ?_⟩
  intro other hother hfound
  have hname : c.entries[other].name = c.entries[place].name :=
    (of_decide_eq_true hfound).trans (congrArg Capability.name hget).symm
  have hnames := List.pairwise_iff_getElem.mp h other place
    (by simpa using Nat.lt_trans hother hlt) (by simpa using hlt) hother
  simp only [List.getElem_map] at hnames
  exact hnames hname

/-- An entry is found by its name. -/
theorem Distinct.find?_eq (h : c.Distinct) (hentry : entry ∈ c.entries) :
    c.find? entry.name = some entry := by
  cases hfound : c.find? entry.name with
  | none => exact absurd rfl (find?_eq_none_iff.mp hfound entry hentry)
  | some other =>
    obtain ⟨hother, hname⟩ := mem_of_find? hfound
    rw [List.inj_on_of_nodup_map h hother hentry hname]

/-! ## Registering -/

theorem registerAll_eq {entries : List (Capability ρ)}
    (h : ((c.entries ++ entries).map Capability.name).Nodup) :
    registerAll entries c = (none, ⟨c.entries ++ entries⟩) := by
  induction entries generalizing c with
  | nil => rw [List.append_nil, registerAll]
  | cons entry rest ih =>
    have hfree : c.find? entry.name = none := by
      rw [find?_eq_none_iff]
      intro other hother heq
      rw [List.map_append, List.nodup_append] at h
      exact h.2.2 other.name (List.mem_map_of_mem hother) entry.name List.mem_cons_self heq
    have hrest : ((c.entries ++ [entry]) ++ rest).map Capability.name =
        (c.entries ++ entry :: rest).map Capability.name := by
      rw [List.append_assoc]
      rfl
    rw [registerAll, register, hfree]
    simp only [Option.isSome_none, Bool.false_eq_true, if_false]
    have hregistered := ih (c := ⟨c.entries ++ [entry]⟩) (hrest ▸ h)
    rw [hregistered, List.append_assoc]
    rfl

/-- The catalogue of the program holds its entries in the order in which they are listed. -/
theorem builtin_entries : builtin.entries = Capability.builtin := by
  have hregistered : registerAll Capability.builtin empty = (none, ⟨[] ++ Capability.builtin⟩) :=
    registerAll_eq (by decide)
  rw [builtin, hregistered]
  rfl

theorem distinct_builtin : builtin.Distinct := by
  rw [Distinct, builtin_entries]
  decide

/-- Its skills are the seven. -/
theorem mem_builtin_of_skill {k : Skill Run} (h : .skill k ∈ builtin.entries) :
    k ∈ Skill.builtin := by
  rw [builtin_entries, Capability.builtin, List.mem_append, List.mem_map, List.mem_map] at h
  rcases h with ⟨other, hother, heq⟩ | ⟨l, -, heq⟩
  · exact Capability.skill.inj heq ▸ hother
  · nomatch heq

end DriveAdvisory.Catalogue
