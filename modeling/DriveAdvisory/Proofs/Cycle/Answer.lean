/-
  What a cycle owes to the engine's answer.

  A cycle asks the engine once, in the step that leaves `building` (`call?`), and from then on its stage tells
  what came of that: `waiting` holds it, `failing` means that there was no answer, and only behind an answer
  is a cycle `acting`.  `Tells` spells this out for each stage, and `Tells.step` is that no step makes it a lie.

  At the end of every path it says the one thing that matters to others: the report of a finished cycle has an
  advisory exactly if the engine answered in time, and the advisory is then what the proposals merge to.  A
  cycle that was skipped, that failed or that waited in vain leaves none.
-/
import DriveAdvisory.Cycle.Pipeline

namespace DriveAdvisory

/-- What became of a question: an answer in time, or a failure. -/
abbrev Call := Except Fault Reply

/-- The question was answered. -/
def Call.answered : Call → Bool
  | .ok _ => true
  | .error _ => false

namespace Cycle

variable {p : Pipeline} {c : Cycle} {w : World}

/-- The call that the next step makes, if it makes one: the engine is waited for as long as the pipeline
    allows, and no longer. -/
def call? (p : Pipeline) (c : Cycle) (w : World) : Option Call :=
  match c.stage with
  | .building =>
    match p.question c.snapshot with
    | .ok question =>
      let w := w.atTime c.due
      let outcome := (p.engine.ask question { w with questions := w.questions + 1 }).1
      some (outcome.within p.timeout).result
    | .error _ => none
  | _ => none

/-- The report of a cycle that is over, by the call that it made. -/
def Concluded (policy : MergePolicy) (call : Option Call) (r : Report) : Prop :=
  r.merged = if call.any Call.answered then some (merge policy r.proposals) else none

/-- What the stage of a cycle tells about the call that it made. -/
def Tells (p : Pipeline) (call : Option Call) (c : Cycle) : Prop :=
  match c.stage with
  | .fresh => call = none ∧ c.report.merged = none
  | .building => call = none ∧ c.report.merged = none
  | .waiting result => call = some result ∧ c.report.merged = none
  | .acting _ => (∃ reply, call = some (.ok reply)) ∧ c.report.merged = none
  | .failing => (∃ fault, call = some (.error fault)) ∧ c.report.merged = none
  | .finished => Concluded p.policy call c.report

theorem tells_start (s : Snapshot) (now : Duration) : (start s now).Tells p none := ⟨rfl, rfl⟩

/-- A finished cycle has concluded. -/
theorem Tells.concluded {call : Option Call} (h : c.Tells p call) (hf : c.isFinished = true) :
    Concluded p.policy call c.report := by
  obtain ⟨snapshot, report, stage, due⟩ := c
  cases stage with
  | finished => exact h
  | fresh | building | waiting _ | acting _ | failing => nomatch hf

/-- Running a skill does not touch the advisory. -/
theorem reportResult_merged (result : Except Fault Proposal) (r : Report) :
    (reportResult result r).merged = r.merged := by
  cases result with
  | error fault => rfl
  | ok proposal =>
    unfold reportResult
    simp only
    split <;> rfl

/-- **A step** makes at most one call, and what it leads to tells of that. -/
theorem Tells.step {call : Option Call} (h : c.Tells p call) (w : World) :
    (c.step p w).1.2.Tells p (call.or (c.call? p w)) := by
  obtain ⟨snapshot, report, stage, due⟩ := c
  cases stage with
  | fresh =>
    obtain ⟨rfl, hmerged⟩ := h
    exact ⟨rfl, hmerged⟩
  | building =>
    obtain ⟨rfl, hmerged⟩ := h
    simp only [Cycle.step, call?]
    cases hq : p.question snapshot with
    | error fault => exact hmerged
    | ok question => exact ⟨rfl, hmerged⟩
  | waiting result =>
    obtain ⟨rfl, hmerged⟩ := h
    cases result with
    | error fault => exact ⟨⟨fault, rfl⟩, hmerged⟩
    | ok reply => exact ⟨⟨reply, rfl⟩, hmerged⟩
  | acting left =>
    obtain ⟨⟨reply, rfl⟩, hmerged⟩ := h
    cases left with
    | nil => rfl
    | cons invocation left => exact ⟨⟨reply, rfl⟩, (reportResult_merged _ report).trans hmerged⟩
  | failing =>
    obtain ⟨⟨fault, rfl⟩, hmerged⟩ := h
    exact hmerged
  | finished =>
    show Concluded p.policy (call.or none) report
    rwa [Option.or_none]

end Cycle

end DriveAdvisory
