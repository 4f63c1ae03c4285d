/-
  From the proposals of a cycle to one advisory.

  Each axis is decided for itself, by a strict precedence between the proposals that may win it:

  * speed   any proposal with a finite target, whatever its confidence.  The lowest target wins, then
            the higher confidence, the lower rank, the lesser source.  A weak winner is not replaced by
            a faster one here; the safety filter switches the axis off instead.
  * lane    the proposals with a finite confidence of at least the policy's.  The highest confidence
            wins, and if proposals of that very confidence disagree on the side, the axis says so and
            points nowhere.
  * alert   the same proposals.  The higher tier wins, then the higher confidence, the lower rank, the
            lesser text.

  Before that the proposals are put in the order of rank and skill, so the order in which they arrive does
  not decide between them as long as a later key tells them apart.
-/
import DriveAdvisory.Advisory.Basic
import DriveAdvisory.Order.Stable

namespace DriveAdvisory

/-- What a proposal has to bring to win the lane or the alert axis, and how long an alert may be. -/
structure MergePolicy where
  minConfidence : Single := 0.3
  alertLimit : Nat := displayLimit
deriving DecidableEq

namespace Merge

/-- The lane axis of a tie that points both ways. -/
def conflictReason : String := "conflicting lane suggestions"

/-- May win the lane or the alert axis. -/
def eligible (policy : MergePolicy) (confidence : Single) : Bool :=
  confidence.isFinite && decide (policy.minConfidence ≤ confidence)

/-- Rank first, then the skill's name. -/
def arrival (a b : Proposal) : Ordering := (compare a.rank b.rank).then (compare a.skill b.skill)

/-- The proposals in the order in which they are looked at. -/
def ordered (proposals : List Proposal) : List Proposal :=
  Order.sort (fun a b => arrival a b != .gt) proposals

/-! ## Speed -/

/-- `lt` when the first of two ranked speed proposals wins. -/
def speedPrecedence (a b : Nat × SpeedProposal) : Ordering :=
  ((a.2.target.totalCompare b.2.target).then (b.2.confidence.totalCompare a.2.confidence)).then
    ((compare a.1 b.1).then (compare a.2.source b.2.source))

/-- The speed proposals that may win, with their ranks. -/
def speedContenders (proposals : List Proposal) : List (Nat × SpeedProposal) :=
  (proposals.filterMap fun p => p.speed.map (p.rank, ·)).filter (·.2.target.isFinite)

def speed (proposals : List Proposal) : SpeedAxis :=
  match Order.least? (fun a b => speedPrecedence a b == .lt) (speedContenders proposals) with
  | some (_, winner) => winner.axis
  | none => {}

/-! ## Lane -/

/-- The lane proposals that may win, with their ranks. -/
def laneContenders (policy : MergePolicy) (proposals : List Proposal) : List (Nat × LaneProposal) :=
  (proposals.filterMap fun p => p.lane.map (p.rank, ·)).filter (eligible policy ·.2.confidence)

/-- The highest confidence in the total order, in which only the same number is equal to it. -/
def topConfidence? (contenders : List (Nat × LaneProposal)) : Option Single :=
  Order.least? (fun a b => a.totalCompare b == .gt) (contenders.map (·.2.confidence))

def lane (policy : MergePolicy) (proposals : List Proposal) : LaneAxis :=
  let contenders := laneContenders policy proposals
  match topConfidence? contenders with
  | none => {}
  | some top =>
    let tied := contenders.filter (·.2.confidence.eqv top)
    match Order.least? (fun a b => decide (a.1 < b.1)) tied with
    | none => {}
    | some (_, winner) =>
      if tied.all (·.2.side == winner.side) then winner.axis
      else { active := true, side := .none, reason := conflictReason, confidence := top }

/-! ## Alert -/

/-- `lt` when the first of two ranked alert proposals wins. -/
def alertPrecedence (a b : Nat × AlertProposal) : Ordering :=
  ((compare b.2.tier.level a.2.tier.level).then
      (b.2.confidence.totalCompare a.2.confidence)).then
    ((compare a.1 b.1).then (compare a.2.text b.2.text))

/-- The alert proposals that may win, with their ranks. -/
def alertContenders (policy : MergePolicy) (proposals : List Proposal) : List (Nat × AlertProposal) :=
  (proposals.filterMap fun p => p.alert.map (p.rank, ·)).filter (eligible policy ·.2.confidence)

def alert (policy : MergePolicy) (proposals : List Proposal) : AlertAxis :=
  match Order.least? (fun a b => alertPrecedence a b == .lt) (alertContenders policy proposals) with
  | some (_, winner) => { winner.axis with text := Text.cut policy.alertLimit winner.text }
  | none => {}

/-! ## Contributors -/

/-- The texts at their first occurrences; `seen` were met before. -/
def firstOccurrences (seen : List String) : List String → List String
  | [] => []
  | text :: rest =>
    if seen.contains text then firstOccurrences seen rest
    else text :: firstOccurrences (text :: seen) rest

/-- The proposals that speak about an axis. -/
def contributors (proposals : List Proposal) : List Proposal := proposals.filter (!·.isEmpty)

/-- The contributing skills, each once. -/
def skills (proposals : List Proposal) : List String :=
  firstOccurrences [] ((contributors proposals).map (·.skill))

/-- The contributors' reasons, trimmed and each once. -/
def reasons (proposals : List Proposal) : List String :=
  firstOccurrences [] ((contributors proposals).filterMap fun p => Text.trimmed? p.reason)

end Merge

/-- The advisory that a cycle's proposals come to. -/
def merge (policy : MergePolicy) (proposals : List Proposal) : Advisory :=
  let proposals := Merge.ordered proposals
  { speed := Merge.speed proposals
    lane := Merge.lane policy proposals
    alert := Merge.alert policy proposals
    skills := Merge.skills proposals
    reason := Text.join "; " (Merge.reasons proposals) }

end DriveAdvisory
