/-
  The ticker: at a fixed rate, and without ever waiting for a cycle, the planner gets an advisory.

  A tick, at a moment and with the snapshot of that moment if there is one,

  1. takes in the reports that came since the last tick.  The report of the cycle that is in flight is
     filtered and becomes the current advisory, if it has one; any other one is of a cycle that was
     given up, and is thrown away;
  2. gives up the cycle in flight if it has been under way for longer than the deadline;
  3. starts a cycle if the assistance is on, an engine is available and no cycle is in flight;
  4. publishes the current advisory, or an empty one when it is older than allowed.

  The step of a speed is limited against the last published speed, or the vehicle's own when no speed is
  published.  A cycle that was given up is not stopped: it goes on entering phases, and its report
  comes some day.
-/
import DriveAdvisory.Advisory.Safety
import DriveAdvisory.Cycle.Channel
import DriveAdvisory.Vehicle.Snapshot

namespace DriveAdvisory

/-- The rate and the patience of a ticker. -/
structure TickerSettings where
  /-- In ticks per second. -/
  rate : Double := 2
  /-- How long a cycle may be under way. -/
  deadline : Duration := Duration.ofSeconds 15
  /-- How old the current advisory may be. -/
  maxAge : Duration := Duration.ofSeconds 30
deriving DecidableEq

/-- The time from tick to tick.  A rate that is not positive, or not finite, counts as two. -/
def TickerSettings.period (s : TickerSettings) : Except Duration.Unfit Duration :=
  Duration.ofFloatSeconds (1 / if s.rate.isFinite ∧ 0 < s.rate then s.rate else 2)

/-- The cycle in flight. -/
structure Flight where
  number : Nat
  since : Duration
deriving DecidableEq, Repr

/-- What a ticker goes by. -/
structure TickerSetup where
  settings : TickerSettings := {}
  limits : Limits := {}
  /-- What is shown as the engine's name. -/
  engineName : String
  engineAvailable : Bool
  /-- The wall clock, by the clock that only runs forward. -/
  calendar : Duration → Moment

/-- A ticker between two ticks. -/
structure Ticker where
  advisories : AdvisoryChannel
  status : StatusChannel := {}
  /-- How many cycles were started. -/
  started : Nat := 0
  flight : Option Flight := none
  /-- The advisory that was last filtered, and when. -/
  current : Option (Advisory × Duration) := none
  /-- The reports that came since the last tick, in the order in which they came. -/
  mailbox : List (Nat × Report) := []

/-- What a tick did. -/
structure TickSummary where
  /-- The number of the message that was published. -/
  seq : Nat
  /-- The number of the cycle that was started. -/
  spawned : Option Nat
  /-- How many reports were thrown away. -/
  discarded : Nat
deriving DecidableEq, Repr

namespace Ticker

/-- A ticker that has not ticked. -/
def opened (setup : TickerSetup) (now : Duration) : Ticker :=
  { advisories := .opened (setup.calendar now) }

/-! ## Between ticks -/

/-- Some cycle enters a phase. -/
def enter (phase : Phase) (t : Ticker) : Ticker := { t with status := t.status.setPhase phase }

/-- Some cycle reports. -/
def deliver (number : Nat) (r : Report) (t : Ticker) : Ticker :=
  { t with mailbox := t.mailbox ++ [(number, r)] }

/-! ## Taking in reports -/

/-- The status after a report, its phase aside. -/
def statusAfter (r : Report) (s : Status) : Status :=
  match r.ending with
  | .skipped => s
  | .reasoningFailed => { s with state := .error, backend := r.backend }
  | .advised | .noCandidates =>
    { s with
      state := if r.degraded then .degraded else .active
      backend := r.backend
      latencyMillis := r.latency.toMillis
      summary := r.summary }

/-- The speed against which a step is limited. -/
def reference (snapshot : Option Snapshot) (t : Ticker) : Option Single :=
  let published := t.advisories.latest.advisory.speed
  if published.active then some published.target else snapshot.map (·.motion.speed)

/-- Takes in the report of the cycle in flight. -/
def absorb (setup : TickerSetup) (now : Duration) (snapshot : Option Snapshot) (r : Report)
    (t : Ticker) : Ticker :=
  let status := statusAfter r t.status.latest
  match r.merged with
  | some merged =>
    { t with
      current := some (setup.limits.enforce merged (t.reference snapshot), now)
      status := (t.status.publish { status with phase := .filtering }).publish
        { status with phase := .published } }
  | none => { t with status := t.status.publish { status with phase := .idle } }

/-- Takes in one report, and counts it if it is thrown away. -/
def receive (setup : TickerSetup) (now : Duration) (snapshot : Option Snapshot)
    (state : Nat × Ticker) (letter : Nat × Report) : Nat × Ticker :=
  let (discarded, t) := state
  if (t.flight.map (·.number)) = some letter.1 then
    (discarded, { t with flight := none }.absorb setup now snapshot letter.2)
  else (discarded + 1, t)

/-- Takes in all reports that came, and says how many were thrown away. -/
def drain (setup : TickerSetup) (now : Duration) (snapshot : Option Snapshot) (t : Ticker) :
    Nat × Ticker :=
  t.mailbox.foldl (receive setup now snapshot) (0, { t with mailbox := [] })

/-! ## The rest of a tick -/

/-- Gives up the cycle in flight if it is late. -/
def abandon (setup : TickerSetup) (now : Duration) (t : Ticker) : Ticker :=
  match t.flight with
  | some flight => if setup.settings.deadline < now - flight.since then { t with flight := none } else t
  | none => t

/-- What is shown while no engine can be asked. -/
def noEngine : String := "No backend available"

/-- Starts a cycle, or says why none is started. -/
def launch (setup : TickerSetup) (now : Duration) (snapshot : Option Snapshot) (t : Ticker) :
    Option Nat × Ticker :=
  match snapshot with
  | none => (none, t)
  | some s =>
    if !s.engagement.enabled then
      (none, { t with status := t.status.publish { t.status.latest with state := .disabled } })
    else if !setup.engineAvailable then
      (none, { t with status := t.status.publish { t.status.latest with
        state := .disabled, backend := setup.engineName, summary := noEngine } })
    else if t.flight.isSome then (none, t)
    else
      let number := t.started + 1
      (some number, { t with started := number, flight := some ⟨number, now⟩ })

/-- The advisory to publish. -/
def advisory (setup : TickerSetup) (now : Duration) (t : Ticker) : Advisory :=
  match t.current with
  | some (a, since) => if now - since ≤ setup.settings.maxAge then a else .empty
  | none => .empty

/-- Publishes an advisory. -/
def publish (setup : TickerSetup) (now : Duration) (a : Advisory) (t : Ticker) : Ticker :=
  { t with advisories := t.advisories.publish (setup.calendar now) a }

/-- One tick. -/
def tick (setup : TickerSetup) (now : Duration) (snapshot : Option Snapshot) (t : Ticker) :
    TickSummary × Ticker :=
  let (discarded, t) := t.drain setup now snapshot
  let t := t.abandon setup now
  let (spawned, t) := t.launch setup now snapshot
  let t := t.publish setup now (t.advisory setup now)
  (⟨t.advisories.latest.seq, spawned, discarded⟩, t)

/-- The end of a run: nothing is recommended any more. -/
def stop (setup : TickerSetup) (now : Duration) (t : Ticker) : Ticker := t.publish setup now .empty

end Ticker

end DriveAdvisory
