/-
  Cycles that were given up.

  A cycle that was given up is not stopped.  To see what it still does to those who read the channels, a run is
  laid beside the same run in which nobody hears it any more (`heard`): its phases and its report are left out from
  the moment on at which it was given up, and everything else is as it was.

  Two tickers that are `Alike` differ in no more than the phase that they show, and in letters that none of them
  will take in.  Every event keeps them alike, whether both are told of it or, if it comes from a cycle that is not
  in flight, only one (`Overhears`).  So the advisories are the same to the last message, and so is the status but
  for its phase.

  The phase is different.  It is shown whoever enters it, so a step of a cycle that was given up changes what is
  shown exactly if it enters a phase that is not shown already.
-/
import DriveAdvisory.Proofs.Cycle.Provenance

namespace DriveAdvisory

/-! ## The status and its phase -/

/-- A status but for its phase. -/
def Status.health (s : Status) : Status := { s with phase := .idle }

theorem Status.fields_of_health {a b : Status} (h : a.health = b.health) : a.state = b.state ∧
    a.backend = b.backend ∧ a.latencyMillis = b.latencyMillis ∧ a.summary = b.summary := by
  obtain ⟨hstate, hbackend, hlatency, hsummary, -⟩ := Status.mk.inj h
  exact ⟨hstate, hbackend, hlatency, hsummary⟩

namespace StatusChannel

theorem put_latest (s : Status) (c : StatusChannel) : (c.put s).latest = s := by
  unfold put
  split
  · assumption
  · rfl

theorem setPhase_latest (phase : Phase) (c : StatusChannel) :
    (c.setPhase phase).latest = { c.latest with phase } := put_latest _ c

/-- A phase alone does not touch the rest of the status. -/
theorem setPhase_health (phase : Phase) (c : StatusChannel) :
    (c.setPhase phase).latest.health = c.latest.health := by
  rw [setPhase_latest]
  rfl

theorem publish_latest (s : Status) (c : StatusChannel) : (c.publish s).latest = s.shown :=
  put_latest _ c

/-- The channel stays as it is if the phase is shown already, and only then. -/
theorem setPhase_eq_iff {phase : Phase} {c : StatusChannel} :
    c.setPhase phase = c ↔ phase = c.latest.phase := by
  constructor
  · intro h
    have hlatest := setPhase_latest phase c
    rw [h] at hlatest
    rw [hlatest]
  · rintro rfl
    exact if_pos rfl

end StatusChannel

namespace Ticker

variable {setup : TickerSetup} {now : Duration} {snapshot : Option Snapshot} {t u : Ticker}

/-! ## Two tickers that are alike -/

/-- Two tickers that differ in their mailboxes and the phases that they show, and in nothing else. -/
structure Alike (t u : Ticker) : Prop where
  advisories : u.advisories = t.advisories
  status : u.status.latest.health = t.status.latest.health
  started : u.started = t.started
  flight : u.flight = t.flight
  current : u.current = t.current

/-- What a report makes of the status does not depend on the phase that was shown. -/
theorem statusAfter_health {a b : Status} (h : a.health = b.health) (r : Report) (phase : Phase) :
    { statusAfter r a with phase } = { statusAfter r b with phase } := by
  obtain ⟨hstate, hbackend, hlatency, hsummary⟩ := Status.fields_of_health h
  unfold statusAfter
  cases r.ending with
  | advised | noCandidates => rfl
  | skipped => simp only [hstate, hbackend, hlatency, hsummary]
  | reasoningFailed => simp only [hlatency, hsummary]

theorem Alike.absorb (h : Alike t u) (r : Report) :
    Alike (t.absorb setup now snapshot r) (u.absorb setup now snapshot r) := by
  have hreference : u.reference snapshot = t.reference snapshot := by
    rw [reference, h.advisories, reference]
  have hstatus := statusAfter_health h.status r
  unfold Ticker.absorb
  cases r.merged with
  | none =>
    refine ⟨h.advisories, ?_, h.started, h.flight, h.current⟩
    rw [StatusChannel.publish_latest, StatusChannel.publish_latest, hstatus]
  | some merged =>
    refine ⟨h.advisories, ?_, h.started, h.flight, ?_⟩
    · rw [StatusChannel.publish_latest, StatusChannel.publish_latest, hstatus]
    · rw [hreference]

/-- The same letter is taken in by both, if one is. -/
theorem Alike.drain (h : Alike t u) (harrived : u.arrived? = t.arrived?) :
    Alike (t.drain setup now snapshot).2 (u.drain setup now snapshot).2 := by
  cases ht : t.arrived? with
  | none =>
    rw [drain_of_none ht, drain_of_none (harrived.trans ht)]
    exact ⟨h.advisories, h.status, h.started, h.flight, h.current⟩
  | some letter =>
    rw [drain_of_arrived ht, drain_of_arrived (harrived.trans ht)]
    have hbase : Alike { t with mailbox := [], flight := none }
        { u with mailbox := [], flight := none } :=
      ⟨h.advisories, h.status, h.started, rfl, h.current⟩
    exact hbase.absorb letter.2

theorem Alike.abandon (h : Alike t u) : Alike (t.abandon setup now) (u.abandon setup now) := by
  have hflight := h.flight
  unfold Ticker.abandon
  rw [hflight]
  split
  · split
    · exact ⟨h.advisories, h.status, h.started, rfl, h.current⟩
    · exact h
  · exact h

/-- Publishing the same over both statuses leaves the phase as the one thing that they may differ in. -/
theorem Alike.publish_status (h : Alike t u) (state : AgentState) (backend summary : String) :
    (u.status.publish { u.status.latest with state, backend, summary }).latest.health =
      (t.status.publish { t.status.latest with state, backend, summary }).latest.health := by
  obtain ⟨-, -, hlatency, -⟩ := Status.fields_of_health h.status
  rw [StatusChannel.publish_latest, StatusChannel.publish_latest]
  simp only [Status.shown, Status.health, hlatency]

theorem Alike.launch (h : Alike t u) :
    Alike (t.launch setup now snapshot).2 (u.launch setup now snapshot).2 := by
  obtain ⟨-, hbackend, -, hsummary⟩ := Status.fields_of_health h.status
  cases snapshot with
  | none => exact h
  | some seen =>
    cases henabled : seen.engagement.enabled with
    | false =>
      simp only [Ticker.launch, henabled, Bool.not_false, if_true]
      refine ⟨h.advisories, ?_, h.started, h.flight, h.current⟩
      rw [hbackend, hsummary]
      exact h.publish_status .disabled t.status.latest.backend t.status.latest.summary
    | true =>
      cases hengine : setup.engineAvailable with
      | false =>
        simp only [Ticker.launch, henabled, hengine, Bool.not_true, Bool.not_false, if_true]
        refine ⟨h.advisories, ?_, h.started, h.flight, h.current⟩
        exact h.publish_status .disabled setup.engineName noEngine
      | true =>
        cases hbusy : t.flight.isSome with
        | true =>
          simp only [Ticker.launch, henabled, hengine, h.flight, hbusy, Bool.not_true, if_true]
          exact h
        | false =>
          simp only [Ticker.launch, henabled, hengine, h.flight, h.started, hbusy, Bool.not_true]
          exact ⟨h.advisories, h.status, rfl, rfl, h.current⟩

theorem Alike.publish (h : Alike t u) (a : Advisory) :
    Alike (t.publish setup now a) (u.publish setup now a) := by
  have hadvisories : (u.publish setup now a).advisories = (t.publish setup now a).advisories := by
    show u.advisories.publish _ a = t.advisories.publish _ a
    rw [h.advisories]
  exact ⟨hadvisories, h.status, h.started, h.flight, h.current⟩

/-- **A tick** keeps two tickers alike that take in the same. -/
theorem Alike.tick (h : Alike t u) (harrived : u.arrived? = t.arrived?) :
    Alike (t.tick setup now snapshot).2 (u.tick setup now snapshot).2 := by
  have hprepared : Alike (t.prepared setup now snapshot) (u.prepared setup now snapshot) :=
    (h.drain harrived).abandon.launch
  rw [tick_publishes, tick_publishes, advisory_of_current hprepared.current]
  exact hprepared.publish _

/-! ## A ticker that is told less -/

/-- The second of two tickers that are alike has only the letters of the cycle in flight. -/
structure Overhears (t u : Ticker) : Prop extends Alike t u where
  mailbox : u.mailbox = t.mailbox.filter fun letter => t.flight.map (·.number) = some letter.1

theorem Overhears.arrived? (h : Overhears t u) : u.arrived? = t.arrived? := by
  rw [Ticker.arrived?, h.flight, h.mailbox, List.find?_filter, Ticker.arrived?]
  congr 1
  funext letter
  simp only [and_self, Bool.decide_eq_true]

theorem Overhears.enter (h : Overhears t u) (phase : Phase) :
    Overhears (t.enter phase) (u.enter phase) where
  advisories := h.advisories
  status := by
    show (u.status.setPhase phase).latest.health = (t.status.setPhase phase).latest.health
    rw [StatusChannel.setPhase_health, StatusChannel.setPhase_health]
    exact h.status
  started := h.started
  flight := h.flight
  current := h.current
  mailbox := h.mailbox

/-- A phase of which only one is told. -/
theorem Overhears.miss_phase (h : Overhears t u) (phase : Phase) : Overhears (t.enter phase) u where
  advisories := h.advisories
  status := by
    show u.status.latest.health = (t.status.setPhase phase).latest.health
    rw [StatusChannel.setPhase_health]
    exact h.status
  started := h.started
  flight := h.flight
  current := h.current
  mailbox := h.mailbox

theorem Overhears.deliver (h : Overhears t u) {number : Nat}
    (hflight : t.flight.map (·.number) = some number) (r : Report) :
    Overhears (t.deliver number r) (u.deliver number r) where
  advisories := h.advisories
  status := h.status
  started := h.started
  flight := h.flight
  current := h.current
  mailbox := by
    show u.mailbox ++ [(number, r)] = (t.mailbox ++ [(number, r)]).filter fun letter =>
      t.flight.map (·.number) = some letter.1
    have hown : [(number, r)].filter (fun letter => t.flight.map (·.number) = some letter.1) =
        [(number, r)] := List.filter_cons_of_pos (decide_eq_true hflight)
    rw [List.filter_append, ← h.mailbox, hown]

/-- A report of which only one is told, because its cycle is not in flight. -/
theorem Overhears.miss_report (h : Overhears t u) {number : Nat}
    (hflight : t.flight.map (·.number) ≠ some number) (r : Report) :
    Overhears (t.deliver number r) u where
  advisories := h.advisories
  status := h.status
  started := h.started
  flight := h.flight
  current := h.current
  mailbox := by
    show u.mailbox = (t.mailbox ++ [(number, r)]).filter fun letter =>
      t.flight.map (·.number) = some letter.1
    rw [List.filter_append, ← h.mailbox, List.filter_cons_of_neg (by simpa using hflight),
      List.filter_nil, List.append_nil]

theorem Overhears.tick (h : Overhears t u) :
    Overhears (t.tick setup now snapshot).2 (u.tick setup now snapshot).2 where
  toAlike := h.toAlike.tick h.arrived?
  mailbox := by
    rw [tick_mailbox, tick_mailbox]
    rfl

theorem Overhears.stop (h : Overhears t u) : Overhears (t.stop setup now) (u.stop setup now) where
  toAlike := h.toAlike.publish .empty
  mailbox := h.mailbox

theorem overhears_opened (setup : TickerSetup) (now : Duration) :
    Overhears (opened setup now) (opened setup now) where
  advisories := rfl
  status := rfl
  started := rfl
  flight := rfl
  current := rfl
  mailbox := rfl

end Ticker

namespace Session

open Ticker (Overhears)

variable {setup : SessionSetup} {s : Session}

/-! ## Who is heard -/

/-- The cycles that a run has given up. -/
def givenUp (setup : SessionSetup) (w : World) (moves : List Move) : List Nat :=
  abandonedIn ((Ticker.opened setup.ticker 0).notes setup.ticker ((begun setup w).events setup moves))

/-- A cycle is in flight. -/
def isInFlight (s : Session) (number : Nat) : Bool := s.ticker.flight.map (·.number) = some number

/-- What is heard of a move: all of it, unless a cycle makes it that is not in flight. -/
def Move.heard (setup : SessionSetup) (s : Session) : Move → List Ticker.Event
  | .cycle number => if s.isInFlight number then (Move.cycle number).events setup s else []
  | m => m.events setup s

/-- What is heard of a run. -/
def heard (setup : SessionSetup) : Session → List Move → List Ticker.Event :=
  gather (move setup) (Move.heard setup)

theorem heard_snoc (moves : List Move) (m : Move) : s.heard setup (moves ++ [m]) =
    s.heard setup moves ++ m.heard setup (s.after setup moves) :=
  gather_snoc _ _ moves m s

/-- The ticker after a run of which it has heard no more than that. -/
def undisturbed (setup : SessionSetup) (w : World) (moves : List Move) : Ticker :=
  (Ticker.opened setup.ticker 0).after setup.ticker ((begun setup w).heard setup moves)

/-- A cycle under way was not taken in, because a cycle that has reported is gone. -/
theorem not_mem_absorbedIn (setup : SessionSetup) (w : World) (moves : List Move) {number : Nat}
    {c : Cycle} (hc : ((begun setup w).after setup moves).cycle? number = some c) :
    number ∉ absorbedIn ((Ticker.opened setup.ticker 0).notes setup.ticker
      ((begun setup w).events setup moves)) := by
  intro habsorbed
  have hcoherent := coherent_after setup w moves
  have hmem := hcoherent.cycle?_eq_some_iff.mp hc
  have hsent : number ∈ sentIn ((Ticker.opened setup.ticker 0).notes setup.ticker
      ((begun setup w).events setup moves)) := by
    rw [Ticker.sentIn_notes]
    exact List.mem_append_left _ (mem_judgedIn.mpr (.inl habsorbed))
  rw [Ticker.sentIn_events] at hsent
  obtain ⟨letter, hletter, hnumber⟩ := List.mem_map.mp hsent
  exact (hcoherent.gone letter hletter).2 (number, c) hmem hnumber.symm

/-- **A cycle under way is in flight or was given up.** -/
theorem mem_givenUp_iff (setup : SessionSetup) (w : World) (moves : List Move) {number : Nat}
    {c : Cycle} (hc : ((begun setup w).after setup moves).cycle? number = some c) :
    number ∈ givenUp setup w moves ↔
      ((begun setup w).after setup moves).isInFlight number = false := by
  have hcoherent := coherent_after setup w moves
  have hstarted := hcoherent.started (number, c) (hcoherent.cycle?_eq_some_iff.mp hc)
  have hledger := Ticker.ledger_after setup.ticker 0 ((begun setup w).events setup moves)
  have hclosed := hledger.closed_iff (n := number)
  rw [after_ticker] at hstarted
  rw [isInFlight, after_ticker, decide_eq_false_iff_not]
  constructor
  · intro hgiven
    exact (hclosed.mp (.inr hgiven)).2
  · intro hother
    rcases hclosed.mpr ⟨hstarted, hother⟩ with habsorbed | hgiven
    · exact absurd habsorbed (not_mem_absorbedIn setup w moves hc)
    · exact hgiven

/-! ## What is not heard makes no difference -/

/-- A step of the cycle in flight, of which both are told. -/
theorem overhears_step {t u : Ticker} (h : Overhears t u) {number : Nat}
    (hflight : t.flight.map (·.number) = some number) (phase : Option Phase) (c : Cycle) :
    Overhears (t.after setup.ticker (stepEvents number phase c))
      (u.after setup.ticker (stepEvents number phase c)) := by
  unfold stepEvents
  cases phase with
  | none =>
    cases c.isFinished with
    | false => exact h
    | true => exact h.deliver hflight c.report
  | some phase =>
    cases c.isFinished with
    | false => exact h.enter phase
    | true => exact (h.enter phase).deliver hflight c.report

/-- A step of any other cycle, of which only one is told. -/
theorem overhears_miss {t u : Ticker} (h : Overhears t u) {number : Nat}
    (hflight : t.flight.map (·.number) ≠ some number) (phase : Option Phase) (c : Cycle) :
    Overhears (t.after setup.ticker (stepEvents number phase c)) u := by
  unfold stepEvents
  cases phase with
  | none =>
    cases c.isFinished with
    | false => exact h
    | true => exact h.miss_report hflight c.report
  | some phase =>
    cases c.isFinished with
    | false => exact h.miss_phase phase
    | true => exact (h.miss_phase phase).miss_report hflight c.report

/-- **A move** keeps the two alike. -/
theorem overhears_move {u : Ticker} (h : Overhears s.ticker u) (m : Move) :
    Overhears (s.move setup m).ticker (u.after setup.ticker (m.heard setup s)) := by
  rw [move_ticker]
  cases m with
  | cycle number =>
    rw [Move.heard]
    by_cases hflight : s.ticker.flight.map (·.number) = some number
    · rw [isInFlight, if_pos (decide_eq_true hflight), Move.events]
      cases s.cycle? number with
      | none => exact h
      | some c => exact overhears_step h hflight _ _
    · rw [isInFlight, if_neg (by simpa using hflight), Move.events]
      cases s.cycle? number with
      | none => exact h
      | some c => exact overhears_miss h hflight _ _
  | world w => exact h
  | time now => exact h
  | tick snapshot engineName engineAvailable => exact h.tick
  | stop => exact h.stop

/-- **A run** keeps the two alike. -/
theorem overhears_after (setup : SessionSetup) (w : World) (moves : List Move) :
    Overhears ((begun setup w).after setup moves).ticker (undisturbed setup w moves) := by
  induction moves using List.reverseRecOn with
  | nil => exact Ticker.overhears_opened setup.ticker 0
  | append_singleton moves m ih =>
    rw [undisturbed, heard_snoc, Ticker.after_append, after_snoc]
    exact overhears_move ih m

/-! ## One step -/

/-- The phase that a cycle's next step enters. -/
def entered? (setup : SessionSetup) (s : Session) (number : Nat) : Option Phase :=
  (s.cycle? number).bind fun c => (c.step setup.pipeline s.world).1.1

theorem stepCycle_eq (p : Pipeline) (s : Session) (number : Nat) (c : Cycle) :
    s.stepCycle p number c = { s with world := (c.step p s.world).2 }.putBack number
      (c.step p s.world).1.1 (c.step p s.world).1.2 := rfl

/-- A step of a cycle, given up or not, may change the status and bring a letter, and does nothing else to the
    ticker. -/
theorem cycle_frame (setup : SessionSetup) (s : Session) (number : Nat) :
    (s.move setup (.cycle number)).ticker =
      { s.ticker with status := (s.move setup (.cycle number)).ticker.status,
                      mailbox := (s.move setup (.cycle number)).ticker.mailbox } := by
  rw [move]
  cases s.cycle? number with
  | none => rfl
  | some c => exact putBack_frame number _ _

theorem cycle_advisories (setup : SessionSetup) (s : Session) (number : Nat) :
    (s.move setup (.cycle number)).ticker.advisories = s.ticker.advisories := by
  rw [cycle_frame]

/-- The phase that it enters is shown. -/
theorem cycle_status (setup : SessionSetup) (s : Session) (number : Nat) :
    (s.move setup (.cycle number)).ticker.status =
      (entered? setup s number).elim s.ticker.status fun phase => s.ticker.status.setPhase phase := by
  rw [move, entered?]
  cases s.cycle? number with
  | none => rfl
  | some c =>
    show (s.stepCycle setup.pipeline number c).ticker.status = _
    rw [stepCycle_eq, Option.bind_some]
    unfold putBack
    cases (c.step setup.pipeline s.world).1.2.isFinished with
    | false => cases (c.step setup.pipeline s.world).1.1 <;> rfl
    | true => cases (c.step setup.pipeline s.world).1.1 <;> rfl

/-- Both channels stay as they are if no phase is entered but the one that is shown. -/
theorem cycle_unseen_iff (setup : SessionSetup) (s : Session) (number : Nat) :
    ((s.move setup (.cycle number)).ticker.advisories = s.ticker.advisories ∧
      (s.move setup (.cycle number)).ticker.status = s.ticker.status) ↔
    ∀ phase, entered? setup s number = some phase → phase = s.ticker.status.latest.phase := by
  rw [cycle_status]
  cases entered? setup s number with
  | none =>
    constructor
    · intro _
      exact nofun
    · intro _
      exact ⟨cycle_advisories setup s number, rfl⟩
  | some entered =>
    constructor
    · rintro ⟨-, hstatus⟩ phase hphase
      obtain rfl := Option.some.inj hphase
      exact StatusChannel.setPhase_eq_iff.mp hstatus
    · intro hshown
      exact ⟨cycle_advisories setup s number, StatusChannel.setPhase_eq_iff.mpr (hshown entered rfl)⟩

/-! ## What a run promises -/

/-- What is left of the cycles that a run has given up. -/
structure Detached (setup : SessionSetup) (w : World) (moves : List Move) : Prop where
  /-- A cycle under way was given up if it is not in flight. -/
  givenUp_iff : ∀ number c, ((begun setup w).after setup moves).cycle? number = some c →
    (number ∈ givenUp setup w moves ↔
      ((begun setup w).after setup moves).isInFlight number = false)
  /-- Advisories are what they would be if nobody heard of these cycles any more. -/
  advisories : ((begun setup w).after setup moves).ticker.advisories =
    (undisturbed setup w moves).advisories
  /-- So is what will be published next, and the status but for its phase. -/
  current : ((begun setup w).after setup moves).ticker.current = (undisturbed setup w moves).current
  health : ((begun setup w).after setup moves).ticker.status.latest.health =
    (undisturbed setup w moves).status.latest.health
  /-- A step of one of them may bring a letter and shows the phase that it enters, and of the ticker nothing
      else is changed. -/
  shown : ∀ number ∈ givenUp setup w moves,
    let s := (begun setup w).after setup moves
    let stepped := s.move setup (.cycle number)
    stepped.ticker = { s.ticker with status := stepped.ticker.status, mailbox := stepped.ticker.mailbox } ∧
      stepped.ticker.status.latest =
        { s.ticker.status.latest with
          phase := (entered? setup s number).getD s.ticker.status.latest.phase }
  /-- So readers see nothing of it exactly if that phase is shown already. -/
  unseen_iff : ∀ number ∈ givenUp setup w moves,
    let s := (begun setup w).after setup moves
    let stepped := s.move setup (.cycle number)
    (stepped.ticker.advisories = s.ticker.advisories ∧ stepped.ticker.status = s.ticker.status) ↔
      ∀ phase, entered? setup s number = some phase → phase = s.ticker.status.latest.phase
  /-- None of them is taken in, whatever follows. -/
  discarded : ∀ number ∈ givenUp setup w moves, ∀ later,
    ∀ i ∈ (begun setup w).intakes setup (moves ++ later), i.number ≠ number

/-- What was given up stays so. -/
theorem givenUp_append {w : World} {moves : List Move} {number : Nat}
    (h : number ∈ givenUp setup w moves) (later : List Move) :
    number ∈ givenUp setup w (moves ++ later) := by
  have hevents : (begun setup w).events setup (moves ++ later) =
      (begun setup w).events setup moves ++
        ((begun setup w).after setup moves).events setup later := gather_append _ _ moves later _
  rw [givenUp, hevents, Ticker.notes_append, abandonedIn, numbersIn_append]
  exact List.mem_append_left _ h

/-- **A cycle that was given up** can show a phase, and that is all. -/
theorem detached (setup : SessionSetup) (w : World) (moves : List Move) : Detached setup w moves := by
  have hoverhears := overhears_after setup w moves
  constructor
  case givenUp_iff =>
    intro number c hc
    exact mem_givenUp_iff setup w moves hc
  case advisories => exact hoverhears.advisories.symm
  case current => exact hoverhears.current.symm
  case health => exact hoverhears.status.symm
  case shown =>
    intro number _ s stepped
    refine ⟨cycle_frame setup s number, ?_⟩
    show (s.move setup (.cycle number)).ticker.status.latest = _
    rw [cycle_status]
    cases entered? setup s number with
    | none => rfl
    | some phase => exact StatusChannel.setPhase_latest phase s.ticker.status
  case unseen_iff =>
    intro number _ s stepped
    exact cycle_unseen_iff setup s number
  case discarded =>
    intro number hgiven later i hi heq
    have hnot := intake_not_abandoned setup w (moves ++ later) i hi
    rw [heq] at hnot
    exact hnot (givenUp_append hgiven later)

/-- An engine that takes its time and then has nothing to say. -/
def ponderous : Engine World where
  name := "engine"
  available := true
  ask _ := pure ⟨.ok { invocations := [] }, Duration.ofSeconds 25⟩

/-- A session with it, on a flat globe whose sources are down. -/
def pondering : SessionSetup where
  pipeline := {
    catalogue := .empty
    engine := ponderous
    surroundings := {
      sources := {
        endpoints := { probe := "" }
        transport := .down
        globe := ⟨fun _ _ => 0, fun x y => ⟨x, y⟩⟩ }
      stamp := fun number => ⟨number, ⟨0, 0⟩, 0⟩ }
    timeout := Duration.ofSeconds 30
    needsFrame := false }
  ticker := Ticker.fresh

/-- A world in which nothing was seen. -/
def untouched : World where
  hub := .ofPolicies {}
  store := .ephemeral

/-- A cycle asks the engine, is given up after twenty seconds, and the next one asks as well. -/
def outwaited : List Move :=
  [.tick (some Ticker.driving) "engine" true, .cycle 1, .cycle 1, .time (Duration.ofSeconds 20),
    .tick (some Ticker.driving) "engine" true, .cycle 2, .cycle 2]

/-- When the first one gets its answer, it is what is shown, although the second one is still waiting. -/
theorem shown_outwaited : 1 ∈ givenUp pondering untouched outwaited ∧
    ((begun pondering untouched).after pondering outwaited).ticker.flight.map (·.number) = some 2 ∧
    ((begun pondering untouched).after pondering outwaited).ticker.status.latest.phase =
      .awaitingReasoning ∧
    ((begun pondering untouched).after pondering (outwaited ++ [.cycle 1])).ticker.status.latest.phase =
      .executing := by
  refine ⟨?_, ?_, ?_, ?_⟩
  · decide +kernel
  · decide +kernel
  · decide +kernel
  · decide +kernel

end Session

end DriveAdvisory
