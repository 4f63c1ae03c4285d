/-
  The catalogue that the program runs with: the seven skills, the direct ones first so that they outrank
  those that go by data, and then the lessons.
-/
import DriveAdvisory.Catalogue
import DriveAdvisory.Skill.Connectivity
import DriveAdvisory.Skill.Direct
import DriveAdvisory.Skill.Evacuation
import DriveAdvisory.Skill.RoadIssue
import DriveAdvisory.Skill.Traffic

namespace DriveAdvisory

/-- The skills, in the order of registration. -/
def Skill.builtin : List (Skill Run) :=
  [Skill.speed, Skill.lane, Skill.alert, Skill.traffic, Skill.roadIssue, Skill.evacuation,
    Skill.connectivity]

/-- The entries, in the order of registration. -/
def Capability.builtin : List (Capability Run) :=
  Skill.builtin.map .skill ++ Lesson.all.map .lesson

/-- The catalogue of all of them. -/
def Catalogue.builtin : Catalogue Run := (Catalogue.registerAll Capability.builtin .empty).2

end DriveAdvisory
