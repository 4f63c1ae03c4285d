/-
  Objects: members in the order of their names.

  `Json.ofMembers` is the only way in which the library makes objects, so each name of an object occurs once and
  names go up (`ascending_sortMembers`).  Nothing that proofs ask of an object needs to look into the sorting:
  a lookup finds what was put in (`lookup_sortMembers`), and members that are in order already stay as they
  are (`Ascending.sortMembers`).
-/
import DriveAdvisory.Json.Basic
import Mathlib.Data.List.Induction

namespace DriveAdvisory.Json

variable {name other : String} {value : Json} {members : List (String × Json)}

/-- The members are in the order of their names, and no name occurs twice. -/
def Ascending (members : List (String × Json)) : Prop := members.Pairwise fun a b => a.1 < b.1

theorem lt_of_not_lt_of_ne {a b : String} (h : ¬ a < b) (hne : a ≠ b) : b < a := by
  rw [← String.not_le]
  exact fun hle => hne (String.le_antisymm hle (String.not_lt.mp h))

theorem ne_of_lt {a b : String} (h : a < b) : a ≠ b := by
  rintro rfl
  exact String.lt_irrefl _ h

/-! ## Putting members in -/

theorem mem_insertMember {m : String × Json} (h : m ∈ insertMember name value members) :
    m = (name, value) ∨ m ∈ members := by
  induction members with
  | nil => exact .inl (List.mem_singleton.mp h)
  | cons first rest ih =>
    rw [insertMember] at h
    split at h
    · exact List.mem_cons.mp h
    · split at h
      · rcases List.mem_cons.mp h with rfl | hrest
        · exact .inl rfl
        · exact .inr (List.mem_cons_of_mem _ hrest)
      · rcases List.mem_cons.mp h with rfl | hrest
        · exact .inr List.mem_cons_self
        · rcases ih hrest with rfl | hmem
          · exact .inl rfl
          · exact .inr (List.mem_cons_of_mem _ hmem)

theorem Ascending.insertMember (h : Ascending members) (name : String) (value : Json) :
    Ascending (insertMember name value members) := by
  induction members with
  | nil => exact List.pairwise_singleton _ _
  | cons first rest ih =>
    obtain ⟨hfirst, hrest⟩ := List.pairwise_cons.mp h
    rw [Json.insertMember]
    split
    · rename_i hlt
      refine List.pairwise_cons.mpr ⟨?_, h⟩
      intro m hm
      rcases List.mem_cons.mp hm with rfl | hmem
      · exact hlt
      · exact String.lt_trans hlt (hfirst m hmem)
    · rename_i hnot
      split
      · rename_i heq
        rw [heq]
        exact List.pairwise_cons.mpr ⟨hfirst, hrest⟩
      · rename_i hne
        refine List.pairwise_cons.mpr ⟨?_, ih hrest⟩
        intro m hm
        rcases mem_insertMember hm with rfl | hmem
        · exact lt_of_not_lt_of_ne hnot hne
        · exact hfirst m hmem

/-- A member above all others goes to their end. -/
theorem insertMember_last (h : ∀ m ∈ members, m.1 < name) :
    insertMember name value members = members ++ [(name, value)] := by
  induction members with
  | nil => rfl
  | cons first rest ih =>
    have hlt := h first List.mem_cons_self
    rw [insertMember, if_neg (String.lt_asymm hlt), if_neg (ne_of_lt hlt).symm,
      ih fun m hm => h m (List.mem_cons_of_mem _ hm)]
    rfl

/-! ## Finding them again -/

theorem lookup_insertMember (name other : String) (value : Json) (members : List (String × Json)) :
    lookup other (insertMember name value members) =
      if name = other then some value else lookup other members := by
  induction members with
  | nil => rfl
  | cons first rest ih =>
    obtain ⟨known, old⟩ := first
    rw [insertMember]
    split
    · rfl
    · split
      · rename_i heq
        subst heq
        rw [lookup, lookup]
        split
        · rfl
        · rfl
      · rename_i hne
        -- the first member stays in front, and it can only hide what has its own name
        rw [lookup, ih, lookup]
        by_cases hknown : known = other
        · rw [if_pos hknown, if_pos hknown, if_neg (hknown ▸ hne)]
        · rw [if_neg hknown, if_neg hknown]

theorem lookup_eq_none (h : ∀ m ∈ members, m.1 ≠ name) : lookup name members = none := by
  induction members with
  | nil => rfl
  | cons first rest ih =>
    rw [lookup, if_neg (h first List.mem_cons_self),
      ih fun m hm => h m (List.mem_cons_of_mem _ hm)]

theorem mem_of_lookup (h : lookup name members = some value) : (name, value) ∈ members := by
  induction members with
  | nil => nomatch h
  | cons first rest ih =>
    rw [lookup] at h
    split at h
    · rename_i heq
      rw [← heq, ← Option.some.inj h]
      exact List.mem_cons_self
    · exact List.mem_cons_of_mem _ (ih h)

/-- No member has a name that is not found. -/
theorem ne_of_lookup_eq_none (h : lookup name members = none) : ∀ m ∈ members, m.1 ≠ name := by
  induction members with
  | nil => exact fun _ hm => absurd hm List.not_mem_nil
  | cons first rest ih =>
    rw [lookup] at h
    split at h
    · nomatch h
    · rename_i hne
      exact List.forall_mem_cons.mpr ⟨hne, ih h⟩

/-- Every member of an object is the one that is found by its name. -/
theorem Ascending.lookup (h : Ascending members) {m : String × Json} (hm : m ∈ members) :
    lookup m.1 members = some m.2 := by
  induction members with
  | nil => exact absurd hm List.not_mem_nil
  | cons first rest ih =>
    obtain ⟨hfirst, hrest⟩ := List.pairwise_cons.mp h
    rw [Json.lookup]
    rcases List.mem_cons.mp hm with rfl | hmem
    · exact if_pos rfl
    · rw [if_neg (ne_of_lt (hfirst m hmem)), ih hrest hmem]

/-! ## Objects as they are made -/

/-- The members of the object that is made of a list. -/
def sortMembers (members : List (String × Json)) : List (String × Json) :=
  members.foldl (fun sorted m => insertMember m.1 m.2 sorted) []

theorem ofMembers_eq_object (members : List (String × Json)) :
    ofMembers members = .object (sortMembers members) := rfl

theorem sortMembers_snoc (members : List (String × Json)) (m : String × Json) :
    sortMembers (members ++ [m]) = insertMember m.1 m.2 (sortMembers members) := by
  rw [sortMembers, List.foldl_append]
  rfl

theorem ascending_sortMembers (members : List (String × Json)) : Ascending (sortMembers members) := by
  induction members using List.reverseRecOn with
  | nil => exact List.Pairwise.nil
  | append_singleton members m ih =>
    rw [sortMembers_snoc]
    exact ih.insertMember m.1 m.2

theorem mem_sortMembers {m : String × Json} (h : m ∈ sortMembers members) : m ∈ members := by
  induction members using List.reverseRecOn with
  | nil => exact h
  | append_singleton members last ih =>
    rw [sortMembers_snoc] at h
    rcases mem_insertMember h with rfl | hmem
    · exact List.mem_append_right _ List.mem_cons_self
    · exact List.mem_append_left _ (ih hmem)

/-- Members in order are not moved. -/
theorem Ascending.sortMembers (h : Ascending members) : sortMembers members = members := by
  induction members using List.reverseRecOn with
  | nil => rfl
  | append_singleton members last ih =>
    obtain ⟨hinit, -, hlast⟩ := List.pairwise_append.mp h
    rw [sortMembers_snoc, ih hinit]
    exact insertMember_last fun m hm => hlast m hm last List.mem_cons_self

/-- In an object that is made of members with different names each of them is found. -/
theorem lookup_sortMembers (h : (members.map Prod.fst).Nodup) {m : String × Json} (hm : m ∈ members) :
    Json.lookup m.1 (sortMembers members) = some m.2 := by
  induction members using List.reverseRecOn with
  | nil => exact absurd hm List.not_mem_nil
  | append_singleton members last ih =>
    rw [List.map_append, List.nodup_append] at h
    rw [sortMembers_snoc, lookup_insertMember]
    rcases List.mem_append.mp hm with hinit | hlast
    · have hne : last.1 ≠ m.1 := fun heq =>
        h.2.2 m.1 (List.mem_map_of_mem hinit) last.1 List.mem_cons_self heq.symm
      rw [if_neg hne, ih h.1 hinit]
    · rw [List.mem_singleton.mp hlast, if_pos rfl]

theorem lookup_sortMembers_eq_some_iff (h : (members.map Prod.fst).Nodup) :
    Json.lookup name (sortMembers members) = some value ↔ (name, value) ∈ members :=
  ⟨fun hfound => mem_sortMembers (mem_of_lookup hfound), fun hm => lookup_sortMembers h hm⟩

theorem get?_ofMembers_iff (h : (members.map Prod.fst).Nodup) :
    (ofMembers members).get? name = some value ↔ (name, value) ∈ members :=
  lookup_sortMembers_eq_some_iff h

end DriveAdvisory.Json
