/-
  Ticker and cycles together, in time.

  A `Session` holds the ticker, the cycles that are under way, given up or not, and the world they act in.
  Time goes forward only when it is told to: `advance` lets the cycles take the steps that are due until
  a moment, the earliest first, and `run` ticks at the ticker's rate.  Between two moments nobody acts,
  so the order of these steps is all there is to time.
-/
import DriveAdvisory.Cycle.Pipeline
import DriveAdvisory.Cycle.Ticker

namespace DriveAdvisory

/-- A run of the program, at a moment. -/
structure Session where
  ticker : Ticker
  /-- The cycles under way and their numbers, in the order in which they were started. -/
  cycles : List (Nat × Cycle) := []
  world : World
  now : Duration := 0

/-- What sessions share. -/
structure SessionSetup where
  pipeline : Pipeline
  ticker : TickerSetup

namespace Session

/-! ## Cycles -/

/-- Puts a cycle back that took a step.  One that is finished reports and is gone. -/
def putBack (number : Nat) (phase : Option Phase) (c : Cycle) (s : Session) : Session :=
  let ticker := match phase with
    | some phase => s.ticker.enter phase
    | none => s.ticker
  if c.isFinished then
    { s with ticker := ticker.deliver number c.report
             cycles := s.cycles.filter fun other => other.1 ≠ number }
  else
    { s with ticker
             cycles := s.cycles.map fun other => if other.1 = number then (number, c) else other }

/-- Lets one cycle take its next step. -/
def stepCycle (p : Pipeline) (number : Nat) (c : Cycle) (s : Session) : Session :=
  let ((phase, c), world) := c.step p s.world
  { s with world }.putBack number phase c

/-- The cycle of a number. -/
def cycle? (number : Nat) (s : Session) : Option Cycle := s.cycles.lookup number

/-- Lets a cycle that has only been started ask the engine. -/
def begin (p : Pipeline) (s : Session) (entry : Nat × Cycle) : Session :=
  match entry.2.stage with
  | .fresh =>
    let s := s.stepCycle p entry.1 entry.2
    match s.cycle? entry.1 with
    | some c => s.stepCycle p entry.1 c
    | none => s
  | _ => s

/-- The cycle whose step is due first, if it is due by the given moment. -/
def nextDue? (moment : Duration) (s : Session) : Option (Nat × Cycle) :=
  Order.least? (fun a b => a.2.due < b.2.due) (s.cycles.filter fun entry => entry.2.due ≤ moment)

/-- Lets cycles take steps that are due by the given moment, so many at most. -/
def stepDue (p : Pipeline) (moment : Duration) : Nat → Session → Session
  | 0, s => s
  | n + 1, s => match s.nextDue? moment with
    | some (number, c) => stepDue p moment n (s.stepCycle p number c)
    | none => s

/-- Time passes until the given moment. -/
def advance (p : Pipeline) (moment : Duration) (s : Session) : Session :=
  let s := s.cycles.foldl (begin p) s
  let steps := s.cycles.foldl (fun n entry => n + entry.2.stepsLeft) 0
  { stepDue p moment steps s with now := moment }

/-! ## Ticks -/

/-- A tick, now. -/
def tick (setup : SessionSetup) (snapshot : Option Snapshot) (s : Session) : TickSummary × Session :=
  let (summary, ticker) := s.ticker.tick setup.ticker s.now snapshot
  let spawned := match summary.spawned, snapshot with
    | some number, some snapshot => [(number, Cycle.start snapshot s.now)]
    | _, _ => []
  (summary, { s with ticker, cycles := s.cycles ++ spawned })

/-- Timers go off at whole milliseconds. -/
def wholeMillis (d : Duration) : Duration := Duration.ofMillis ((d + 999999) / 1000000)

/-- The moments of the ticks of a run that lasts for a time: the first at its start. -/
def tickTimes (period start length : Duration) : List Duration :=
  ((List.range (length / period + 1)).map fun k => wholeMillis (start + k * period)).filter
    fun moment => moment ≤ start + length

/-- Ticks at the given moments, with the same snapshot each time. -/
def tickAt (setup : SessionSetup) (snapshot : Option Snapshot) : List Duration → Session → Session
  | [], s => s
  | moment :: rest, s =>
    tickAt setup snapshot rest ((s.advance setup.pipeline moment).tick setup snapshot).2

/-- A run at the ticker's rate, up to the moment at which it is stopped. -/
def run (setup : SessionSetup) (period length : Duration) (snapshot : Option Snapshot) (s : Session) :
    Session :=
  (tickAt setup snapshot (tickTimes period s.now length) s).advance setup.pipeline (s.now + length)

/-- The end of a run. -/
def stop (setup : SessionSetup) (s : Session) : Session :=
  { s with ticker := s.ticker.stop setup.ticker s.now }

end Session

end DriveAdvisory
