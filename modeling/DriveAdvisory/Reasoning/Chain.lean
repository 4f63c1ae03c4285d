/-
  A chain of engines: the first available one that answers.

  The engines are asked in order, one after the other.  One that is not available is passed over; one that
  fails leaves the question to the next.  When all of them fail, the failure of the last one counts.  An
  answer from any but the first of the chain is marked as degraded.
-/
import DriveAdvisory.Reasoning.Question

namespace DriveAdvisory.Chain

variable {σ : Type}

/-- What is said when no engine can be asked. -/
def nobody : Fault := .reasoningFailed "no reasoning backend available"

/-- Asks the engines in order; `place` is that of the next one, and `failure` and `spent` are what came of
    those before it. -/
def askFrom (q : Question) : (place : Nat) → (failure : Fault) → (spent : Duration) →
    List (Engine σ) → StateM σ Outcome
  | _, failure, spent, [] => return ⟨.error failure, spent⟩
  | place, failure, spent, engine :: rest =>
    if engine.available then do
      let outcome ← engine.ask q
      let spent := spent + outcome.took
      match outcome.result with
      | .ok reply => return ⟨.ok { reply with degraded := reply.degraded || 0 < place }, spent⟩
      | .error failure => askFrom q (place + 1) failure spent rest
    else askFrom q (place + 1) failure spent rest

/-- The name of the first available engine. -/
def name (engines : List (Engine σ)) : String :=
  ((engines.find? (·.available)).map (·.name)).getD "none"

/-- The chain as an engine. -/
def engine (engines : List (Engine σ)) : Engine σ where
  name := name engines
  available := engines.any (·.available)
  ask q := askFrom q 0 nobody 0 engines

end DriveAdvisory.Chain
