/-
  What becomes of the arguments of a skill.

  Each of the skills reads its arguments before it does anything else (`ReadsFirst`).  So whether they fit is
  settled by the arguments alone, and there are only two ways to go on: either the skill accepts them, in
  every world and with every snapshot, or it refuses them, always with the same message, and then it has not
  touched the world.
-/
import DriveAdvisory.Skill.Builtin

namespace DriveAdvisory.Skill

variable {α : Type} {k : Skill Run} {arguments : Json}

/-- Whatever the world is like, the arguments fit, and there is a proposal, if only an empty one. -/
def Accepts (k : Skill Run) (arguments : Json) : Prop :=
  ∀ surroundings s w, ∃ q, (k.run surroundings arguments s w).1 = .ok q

/-- Whatever the world is like, the arguments do not fit, which is said under the skill's name, and the world
    stays as it is. -/
def Refuses (k : Skill Run) (arguments : Json) : Prop :=
  ∃ message, ∀ surroundings s w,
    k.run surroundings arguments s w = (.error (.invalidArguments k.name message), w)

/-- The arguments are read before anything else is done, and once they are read nothing can fail. -/
def ReadsFirst (k : Skill Run) : Prop :=
  ∃ (α : Type) (decode : Decoder α) (act : Surroundings → α → Snapshot → StateM World Proposal),
    k.run = runWith k.name decode act

section Decoder

variable {decode : Decoder α} {act : Surroundings → α → Snapshot → StateM World Proposal}

theorem accepts_of_decode (hrun : k.run = runWith k.name decode act) {a : α}
    (h : decode arguments = .ok a) : k.Accepts arguments := by
  intro surroundings s w
  refine ⟨(act surroundings a s w).1, ?_⟩
  simp only [hrun, runWith, readArguments, h]
  rfl

theorem refuses_of_decode (hrun : k.run = runWith k.name decode act) {m : Mismatch}
    (h : decode arguments = .error m) : k.Refuses arguments := by
  refine ⟨m.message, fun surroundings s w => ?_⟩
  simp only [hrun, runWith, readArguments, h]
  rfl

/-- Arguments that nothing is made of are refused. -/
theorem refuses_of_unreadable (hrun : k.run = runWith k.name decode act)
    (h : ∀ a, decode arguments ≠ .ok a) : k.Refuses arguments := by
  cases hread : decode arguments with
  | ok a => exact absurd hread (h a)
  | error m => exact refuses_of_decode hrun hread

end Decoder

theorem ReadsFirst.accepts_or_refuses (h : k.ReadsFirst) (arguments : Json) :
    k.Accepts arguments ∨ k.Refuses arguments := by
  obtain ⟨α, decode, act, hrun⟩ := h
  cases hread : decode arguments with
  | ok a => exact .inl (accepts_of_decode hrun hread)
  | error m => exact .inr (refuses_of_decode hrun hread)

theorem readsFirst_of_mem (h : k ∈ builtin) : k.ReadsFirst := by
  simp only [builtin, List.mem_cons, List.not_mem_nil, or_false] at h
  rcases h with rfl | rfl | rfl | rfl | rfl | rfl | rfl <;> exact ⟨_, _, _, rfl⟩

end DriveAdvisory.Skill
