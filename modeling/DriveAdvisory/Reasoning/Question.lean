/-
  What the reasoning engine is asked, and what it answers.

  An engine sees a question, takes its time, and either answers with invocations of skills and a
  summary of the scene, or fails.  `Engine σ` is open in what asking changes, the `σ`: for a service on
  the network these are the requests, for an engine that is scripted the script.
-/
import DriveAdvisory.Catalogue

namespace DriveAdvisory

/-- What an engine sees in one cycle. -/
structure Question where
  instructions : String
  /-- The snapshot in words. -/
  scene : String
  /-- The picture as text. -/
  frame : Option String
  offers : List SkillOffer

/-- A skill that the engine wants to have run. -/
structure Invocation where
  name : String
  arguments : Json

/-- An engine's answer. -/
structure Reply where
  invocations : List Invocation := []
  /-- The scene in a few words, if the engine wrote any. -/
  summary : Option String := none
  /-- The name of the service that answered. -/
  backend : String := ""
  /-- Not the first choice answered. -/
  degraded : Bool := false

/-- Why a service gave no answer. -/
inductive ReasoningFault
  | exchange
  | badResponse (details : String)
  | notConfigured (what : String)
deriving DecidableEq, Repr

namespace ReasoningFault

def message : ReasoningFault → String
  | exchange => "HTTP error"
  | badResponse details => "Unexpected response format: " ++ details
  | notConfigured what => "Backend not configured: " ++ what

/-- The failure as it is told to others. -/
def toFault (f : ReasoningFault) : Fault := .reasoningFailed f.message

end ReasoningFault

/-- What came of a question, and how long that took. -/
structure Outcome where
  result : Except Fault Reply
  took : Duration := 0

/-- The outcome as far as it came in time: an answer that takes longer than allowed is not waited for. -/
def Outcome.within (limit : Duration) (o : Outcome) : Outcome :=
  if o.took ≤ limit then o else ⟨.error (.reasoningTimeout limit.toMillis), limit⟩

/-- A reasoning engine. -/
structure Engine (σ : Type) where
  name : String
  /-- It makes sense to ask it. -/
  available : Bool
  ask : Question → StateM σ Outcome

/-- The engine as one that acts on a part of something larger. -/
def Engine.on {σ τ : Type} (lift : StateM σ Outcome → StateM τ Outcome) (e : Engine σ) : Engine τ :=
  { e with ask := fun q => lift (e.ask q) }

end DriveAdvisory
