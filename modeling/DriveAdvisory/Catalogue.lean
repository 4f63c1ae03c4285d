/-
  The catalogue: everything that the engine may use or is taught, in the order of registration.

  The order matters three times over: it is the order in which skills are offered, the order in which
  lessons are taught, and a skill's place in it, its rank, settles ties between proposals.  A name stands in
  the catalogue once, whether it belongs to a skill or to a lesson.
-/
import DriveAdvisory.Fault
import DriveAdvisory.Skill.Basic
import DriveAdvisory.Skill.Lesson
import DriveAdvisory.Text.Quoted

namespace DriveAdvisory

/-- An entry of the catalogue. -/
inductive Capability (ρ : Type)
  | skill (s : Skill ρ)
  | lesson (l : Lesson)

namespace Capability

variable {ρ : Type}

def name : Capability ρ → String
  | skill s => s.name
  | lesson l => l.name

def description : Capability ρ → String
  | skill s => s.description
  | lesson l => l.description

/-- What the entry is, in one word. -/
def kind : Capability ρ → String
  | skill _ => "action"
  | lesson _ => "knowledge"

/-- The skill of an entry. -/
def skill? : Capability ρ → Option (Skill ρ)
  | skill s => some s
  | lesson _ => none

/-- The lesson of an entry. -/
def lesson? : Capability ρ → Option Lesson
  | skill _ => none
  | lesson l => some l

/-- The entry in one line, for people. -/
def line (c : Capability ρ) : String :=
  let kind := match c with
    | skill _ => "Action"
    | lesson _ => "Knowledge"
  "Capability \x7b name: " ++ Text.quoted c.name ++ ", kind: " ++ kind ++ " \x7d"

end Capability

/-- What the engine is told about a skill. -/
structure SkillOffer where
  name : String
  description : String
  schema : Json

/-- The offer of a skill. -/
def Skill.offer {ρ : Type} (s : Skill ρ) : SkillOffer := ⟨s.name, s.description, s.schema⟩

/-- The entries, in the order of their registration. -/
structure Catalogue (ρ : Type) where
  entries : List (Capability ρ) := []

namespace Catalogue

variable {ρ : Type}

/-- The catalogue without entries. -/
def empty : Catalogue ρ := {}

/-- The entry of a name. -/
def find? (name : String) (c : Catalogue ρ) : Option (Capability ρ) :=
  c.entries.find? fun entry => entry.name = name

/-- The place of a name, from zero. -/
def rank? (name : String) (c : Catalogue ρ) : Option Nat :=
  c.entries.findIdx? fun entry => entry.name = name

/-- Puts an entry at the end, unless its name is taken. -/
def register (entry : Capability ρ) (c : Catalogue ρ) : Except Fault (Catalogue ρ) :=
  if (c.find? entry.name).isSome then .error (.duplicateName entry.name)
  else .ok ⟨c.entries ++ [entry]⟩

/-- Registers entries one after the other up to the first whose name is taken, and says which. -/
def registerAll : List (Capability ρ) → Catalogue ρ → Option Fault × Catalogue ρ
  | [], c => (none, c)
  | entry :: rest, c => match c.register entry with
    | .ok c => registerAll rest c
    | .error fault => (some fault, c)

/-- The entry of a name that has to be there. -/
def lookup (name : String) (c : Catalogue ρ) : Except Fault (Capability ρ) :=
  match c.find? name with
  | some entry => .ok entry
  | none => .error (.unknownName name)

/-- The skill of a name that has to be one's. -/
def skill (name : String) (c : Catalogue ρ) : Except Fault (Skill ρ) :=
  match c.find? name with
  | some (.skill s) => .ok s
  | _ => .error (.unknownName name)

/-- The skills. -/
def skills (c : Catalogue ρ) : List (Skill ρ) := c.entries.filterMap (·.skill?)

/-- The lessons. -/
def lessons (c : Catalogue ρ) : List Lesson := c.entries.filterMap (·.lesson?)

/-- What the engine is told about the skills. -/
def offers (c : Catalogue ρ) : List SkillOffer := c.skills.map Skill.offer

/-- The lessons as one text, each under its heading. -/
def lessonText (c : Catalogue ρ) : String :=
  Text.join "\n\n" (c.lessons.map fun l => "## Skill: " ++ l.name ++ "\n" ++ Text.trim l.text)

/-! ## Instructions -/

/-- What the engine is told in every cycle. -/
def instructionBase : String :=
  Text.join "\n"
    [("You are a driving co-pilot watching the road through a forward camera. You never "
        ++ "drive the car. You may only suggest a target speed, suggest a lane change, or show a "
        ++ "short alert, by calling the tools you are given."),
      "",
      "Rules:",
      "- Call a tool only when the scene or the data gives a concrete reason.",
      "- Prefer doing nothing over a weak suggestion. Use confidence honestly.",
      "- Speeds are in mph. Never suggest a speed above the posted limit.",
      "- Alerts must fit in 50 characters.",
      "- After any tool calls, describe the scene in one short sentence."]

/-- The engine's instructions: the base, and the lessons under a heading if there are any. -/
def instructions (c : Catalogue ρ) : String :=
  let taught := c.lessonText
  if taught = "" then instructionBase
  else instructionBase ++ "\n\n# Domain Knowledge\n\n" ++ taught

end Catalogue

end DriveAdvisory
