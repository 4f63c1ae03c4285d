/-
  One cycle, from the snapshot to a merged advisory.

  A cycle runs in small steps, because others act between them: it enters at most one phase in a step,
  and a step runs at most one skill.  In order:

  1. the context is built; without a picture, where one is wanted, the cycle ends here;
  2. the engine is asked.  No answer in time, or a failure, ends the cycle without an advisory;
  3. the skills that the answer invokes are run, in order.  One that is unknown, cannot read its arguments
     or fails costs the cycle nothing but its own proposal;
  4. the proposals are merged.

  `Pipeline` is what cycles share and `Cycle` is one that is under way.  A cycle that is only stepped
  when nothing else acts is `Cycle.run`.
-/
import DriveAdvisory.Advisory.Merge
import DriveAdvisory.Cycle.Report
import DriveAdvisory.Reasoning.Question
import DriveAdvisory.Vehicle.Describe

namespace DriveAdvisory

/-- What cycles share. -/
structure Pipeline where
  catalogue : Catalogue Run
  engine : Engine World
  surroundings : Surroundings
  /-- How long the engine is waited for. -/
  timeout : Duration := Duration.ofSeconds 10
  /-- A picture is wanted. -/
  needsFrame : Bool := true
  policy : MergePolicy := {}

namespace Pipeline

/-- What the engine is asked about a snapshot. -/
def question (p : Pipeline) (s : Snapshot) : Except Fault Question :=
  if p.needsFrame && s.frameText.isNone then
    .error (.contextUnavailable "no camera frame in snapshot")
  else
    .ok { instructions := p.catalogue.instructions, scene := s.describe, frame := s.frameText
          offers := p.catalogue.offers }

/-- The rank of a proposal whose skill has none. -/
def lastRank : Nat := 18446744073709551615

/-- Runs the skill that is invoked; its proposal bears the name it was invoked by, and its rank. -/
def execute (p : Pipeline) (s : Snapshot) (i : Invocation) : StateM World (Except Fault Proposal) :=
  match p.catalogue.skill i.name with
  | .error fault => return .error fault
  | .ok skill => do
    let result ← skill.run p.surroundings i.arguments s
    return result.map fun proposal =>
      { proposal with skill := i.name, rank := (p.catalogue.rank? i.name).getD lastRank }

end Pipeline

/-- What a cycle does next. -/
inductive Stage
  /-- Nothing has happened yet. -/
  | fresh
  /-- The context is being built. -/
  | building
  /-- The engine was asked, and this will come of it. -/
  | waiting (result : Except Fault Reply)
  /-- These invocations are left. -/
  | acting (left : List Invocation)
  /-- The engine gave no answer. -/
  | failing
  | finished

/-- A cycle that is under way. -/
structure Cycle where
  snapshot : Snapshot
  report : Report := {}
  stage : Stage := .fresh
  /-- When its next step is due. -/
  due : Duration

namespace Cycle

/-- A cycle that begins. -/
def start (s : Snapshot) (now : Duration) : Cycle := { snapshot := s, due := now }

/-- It has nothing left to do. -/
def isFinished (c : Cycle) : Bool :=
  match c.stage with
  | .finished => true
  | _ => false

/-- Goes on to a stage through a phase. -/
def enter (phase : Phase) (stage : Stage) (c : Cycle) : Cycle :=
  { c with report := c.report.enter phase, stage }

/-- The report after the engine did not answer. -/
def reportFailure (p : Pipeline) (fault : Fault) (r : Report) : Report :=
  { r with backend := p.engine.name, ending := .reasoningFailed, fault := some fault }

/-- The report after the engine answered. -/
def reportReply (reply : Reply) (r : Report) : Report :=
  { r with backend := reply.backend, degraded := reply.degraded, summary := reply.summary.getD "" }

/-- The report after a skill was run: a proposal counts if it proposes anything. -/
def reportResult (result : Except Fault Proposal) (r : Report) : Report :=
  match result with
  | .ok proposal => if proposal.isEmpty then r else { r with proposals := r.proposals ++ [proposal] }
  | .error _ => r

/-- The report after merging. -/
def reportMerge (p : Pipeline) (r : Report) : Report :=
  { r with
    merged := some (merge p.policy r.proposals)
    ending := if r.proposals.isEmpty then .noCandidates else .advised }

/-- The next step, and the phase it enters, if any. -/
def step (p : Pipeline) (c : Cycle) : StateM World (Option Phase × Cycle) := do
  modify (World.atTime c.due)
  match c.stage with
  | .fresh => return (some .buildingContext, c.enter .buildingContext .building)
  | .building =>
    match p.question c.snapshot with
    | .error fault =>
      return (some .idle,
        { c with report := { c.report with fault := some fault } }.enter .idle .finished)
    | .ok question =>
      modify fun w => { w with questions := w.questions + 1 }
      let outcome := (← p.engine.ask question).within p.timeout
      return (some .awaitingReasoning,
        { c with report := { c.report with latency := outcome.took }, due := c.due + outcome.took }.enter
          .awaitingReasoning (.waiting outcome.result))
  | .waiting (.error fault) =>
    return (some .merging,
      { c with report := reportFailure p fault c.report }.enter .merging .failing)
  | .failing => return (some .idle, c.enter .idle .finished)
  | .waiting (.ok reply) =>
    return (some .executing,
      { c with report := reportReply reply c.report }.enter .executing (.acting reply.invocations))
  | .acting (invocation :: left) =>
    let result ← p.execute c.snapshot invocation
    return (none, { c with report := reportResult result c.report, stage := .acting left
                           due := (← get).now })
  | .acting [] =>
    return (some .merging, { c with report := reportMerge p c.report }.enter .merging .finished)
  | .finished => return (none, c)

/-- How many steps are left, once the engine was asked. -/
def stepsLeft (c : Cycle) : Nat :=
  match c.stage with
  | .fresh => 0
  | .building => 0
  | .waiting (.error _) => 2
  | .failing => 1
  | .waiting (.ok reply) => reply.invocations.length + 2
  | .acting left => left.length + 1
  | .finished => 0

/-- So many steps, one right after the other; the phases they enter are in the report. -/
def steps (p : Pipeline) : Nat → Cycle → StateM World Cycle
  | 0, c => return c
  | n + 1, c => do
    let (_, c) ← c.step p
    steps p n c

/-- The whole cycle. -/
def run (p : Pipeline) (s : Snapshot) (now : Duration) : StateM World Cycle := do
  let c ← steps p 2 (start s now)
  steps p c.stepsLeft c

end Cycle

end DriveAdvisory
