/-
  An engine that plays back what it was given: for rehearsals, and wherever an engine is wanted about which
  everything is known.
-/
import DriveAdvisory.Reasoning.Question

namespace DriveAdvisory

/-- The answers of an engine, in order, each with the time it takes. -/
structure Script where
  name : String := "script"
  available : Bool := true
  answers : List Outcome := []

namespace Script

/-- What the script holds at a place. -/
def answer (s : Script) (place : Nat) : Outcome :=
  s.answers.getD place ⟨.error (.reasoningFailed "script exhausted"), 0⟩

/-- The engine of a script.  `place` tells how many questions were asked before, and `next` counts this
    one. -/
def engine {σ : Type} (place : σ → Nat) (next : σ → σ) (s : Script) : Engine σ :=
  { name := s.name, available := s.available, ask := fun _ state => (s.answer (place state), next state) }

end Script

end DriveAdvisory
