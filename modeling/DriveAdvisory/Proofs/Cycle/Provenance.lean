/-
  Where a published advisory comes from.

  Two things are put together here.  A ticker's current advisory is the last intake that had one
  (`after_current`), and a report has one exactly if its cycle's call was answered (`Coherent.concluded`).  So
  what is current is the last intake whose call was answered, the `standing` one, and nothing that a cycle
  skipped, failed or waited for in vain can replace it: such a report has no advisory to replace it with.

  `traceable` is what a run promises about its messages: each tick's is the standing intake, filtered, or the
  empty advisory if there is none or it is too old.  To the ticker the run is an orderly one, so its cycles are all
  accounted for as well.
-/
import DriveAdvisory.Proofs.Cycle.Clock

namespace DriveAdvisory.Session

open Ticker (Intake)

variable {setup : SessionSetup} {s : Session}

/-! ## Intakes of a run -/

/-- What a move has the ticker take in. -/
def Move.intake? (s : Session) : Move → Option Intake
  | .tick snapshot _ _ => s.ticker.intake? s.now snapshot
  | _ => none

/-- What a run takes in, in order. -/
def intakes (setup : SessionSetup) : Session → List Move → List Intake :=
  gather (move setup) fun s m => (m.intake? s).toList

theorem intakes_snoc (moves : List Move) (m : Move) : s.intakes setup (moves ++ [m]) =
    s.intakes setup moves ++ (m.intake? (s.after setup moves)).toList :=
  gather_snoc _ _ moves m s

/-- **A move** goes on with what is current, unless it has the ticker take in an advisory. -/
theorem move_current (s : Session) (m : Move) : (s.move setup m).ticker.current =
    ((m.intake? s).bind (·.filtered? setup.ticker.limits)).or s.ticker.current := by
  cases m with
  | cycle number =>
    rw [move]
    cases s.cycle? number with
    | none => rfl
    | some c => exact putBack_current number _ _
  | world w => rfl
  | time now => rfl
  | tick snapshot engineName engineAvailable => exact Ticker.tick_current _ s.now snapshot s.ticker
  | stop => rfl

/-- What is current after a run is the last intake that had an advisory. -/
theorem after_current (setup : SessionSetup) (w : World) (moves : List Move) :
    ((begun setup w).after setup moves).ticker.current =
      (((begun setup w).intakes setup moves).filterMap
        (·.filtered? setup.ticker.limits)).getLast? := by
  have h := latest_gather (move setup) (fun s m => m.intake? s)
    (fun i : Intake => i.filtered? setup.ticker.limits) (fun s => s.ticker.current)
    (fun s m => move_current s m) moves (begun setup w)
  exact h.trans Option.or_none

/-! ## What was taken in was reported -/

/-- What a move takes in was reported before. -/
theorem reported_of_intake {w : World} {moves : List Move} {m : Move} {i : Intake}
    (h : m.intake? ((begun setup w).after setup moves) = some i) :
    (i.number, i.report) ∈ (begun setup w).reports setup moves := by
  cases m with
  | tick snapshot engineName engineAvailable =>
    have hmail := Ticker.mem_mailbox_of_intake h
    rw [after_ticker] at hmail
    exact Ticker.mem_reports_of_mailbox hmail
  | cycle _ | world _ | time _ | stop => nomatch h

/-- Every intake is a report of the run. -/
theorem mem_reports_of_intake (setup : SessionSetup) (w : World) (moves : List Move) :
    ∀ i ∈ (begun setup w).intakes setup moves,
      (i.number, i.report) ∈ (begun setup w).reports setup moves := by
  induction moves using List.reverseRecOn with
  | nil => exact fun i hi => absurd hi List.not_mem_nil
  | append_singleton moves m ih =>
    intro i hi
    rw [intakes_snoc] at hi
    rw [reports_snoc]
    refine List.mem_append_left _ ?_
    rcases List.mem_append.mp hi with hold | hnew
    · exact ih i hold
    · exact reported_of_intake (Option.mem_toList.mp hnew)

/-! ## The standing intake -/

/-- The question of a cycle was answered. -/
def answered (calls : List (Nat × Call)) (number : Nat) : Bool :=
  (calls.lookup number).any Call.answered

/-- The intake that stands: the last one whose cycle's question was answered. -/
def standing (calls : List (Nat × Call)) (intakes : List Intake) : Option Intake :=
  (intakes.filter fun i => answered calls i.number).getLast?

/-- What an intake comes to, if its question was answered. -/
def outcome (setup : SessionSetup) (i : Intake) : Advisory :=
  setup.ticker.limits.enforce (merge setup.pipeline.policy i.report.proposals) i.reference

/-- What is due at a moment, by the intake that stands. -/
def due (setup : SessionSetup) (now : Duration) : Option Intake → Advisory
  | some i => if now - i.moment ≤ setup.ticker.settings.maxAge then outcome setup i else .empty
  | none => .empty

/-- An intake has an advisory for the planner exactly if its question was answered. -/
theorem filtered?_of_concluded {calls : List (Nat × Call)} {i : Intake}
    (h : Cycle.Concluded setup.pipeline.policy (calls.lookup i.number) i.report) :
    i.filtered? setup.ticker.limits =
      if answered calls i.number then some (outcome setup i, i.moment) else none := by
  unfold Ticker.Intake.filtered?
  rw [h]
  split
  · rename_i hanswered
    exact (if_pos hanswered).symm
  · rename_i hanswered
    exact (if_neg hanswered).symm

theorem filterMap_filtered? {calls : List (Nat × Call)} : ∀ {intakes : List Intake},
    (∀ i ∈ intakes, Cycle.Concluded setup.pipeline.policy (calls.lookup i.number) i.report) →
    intakes.filterMap (·.filtered? setup.ticker.limits) =
      (intakes.filter fun i => answered calls i.number).map fun i => (outcome setup i, i.moment)
  | [], _ => rfl
  | i :: rest, h => by
    have hrest := filterMap_filtered? fun j hj => h j (List.mem_cons_of_mem i hj)
    rw [List.filterMap_cons, filtered?_of_concluded (h i List.mem_cons_self), hrest,
      List.filter_cons]
    cases answered calls i.number <;> rfl

/-- **What is current is the intake that stands**, filtered. -/
theorem current_eq_standing (setup : SessionSetup) (w : World) (moves : List Move) :
    ((begun setup w).after setup moves).ticker.current =
      (standing ((begun setup w).calls setup moves) ((begun setup w).intakes setup moves)).map
        fun i => (outcome setup i, i.moment) := by
  rw [after_current, filterMap_filtered?, List.getLast?_map]
  · rfl
  · intro i hi
    exact (coherent_after setup w moves).concluded _ (mem_reports_of_intake setup w moves i hi)

/-- So it is what a tick publishes, while it is young enough. -/
theorem advisory_eq_due {t : Ticker} {standing : Option Intake}
    (h : t.current = standing.map fun i => (outcome setup i, i.moment)) (engineName : String)
    (engineAvailable : Bool) (now : Duration) :
    t.advisory (facing setup engineName engineAvailable).ticker now = due setup now standing := by
  rw [Ticker.advisory, h]
  cases standing <;> rfl

/-! ## What a run promises -/

/-- What happens between two ticks, and what a tick takes in that was not answered, changes nothing. -/
theorem current_kept {w : World} {moves : List Move} {m : Move}
    (h : ∀ i, m.intake? ((begun setup w).after setup moves) = some i →
      answered ((begun setup w).calls setup moves) i.number = false) :
    ((begun setup w).after setup (moves ++ [m])).ticker.current =
      ((begun setup w).after setup moves).ticker.current := by
  rw [after_snoc, move_current]
  cases hm : m.intake? ((begun setup w).after setup moves) with
  | none => rfl
  | some i =>
    have hconcluded := (coherent_after setup w moves).concluded _ (reported_of_intake hm)
    rw [Option.bind_some, filtered?_of_concluded hconcluded, h i hm]
    rfl

/-- What a run takes in is in the books as that. -/
theorem mem_absorbedIn_of_intake (setup : SessionSetup) (w : World) (moves : List Move) :
    ∀ i ∈ (begun setup w).intakes setup moves, i.number ∈ absorbedIn
      ((Ticker.opened setup.ticker 0).notes setup.ticker ((begun setup w).events setup moves)) := by
  induction moves using List.reverseRecOn with
  | nil => exact fun i hi => absurd hi List.not_mem_nil
  | append_singleton moves m ih =>
    intro i hi
    rw [intakes_snoc] at hi
    rw [events_snoc, Ticker.notes_append, absorbedIn, numbersIn_append]
    rcases List.mem_append.mp hi with hold | hnew
    · exact List.mem_append_left _ (ih i hold)
    · refine List.mem_append_right _ ?_
      rw [Option.mem_toList] at hnew
      cases m with
      | tick snapshot engineName engineAvailable =>
        have hbooked := Ticker.mem_absorbedIn_of_intake setup.ticker hnew engineName engineAvailable
        rw [after_ticker] at hbooked
        rwa [Move.events, Ticker.notes, gather, gather, List.append_nil]
      | cycle _ | world _ | time _ | stop => cases hnew

/-- A cycle that was given up is not taken in any more. -/
theorem intake_not_abandoned (setup : SessionSetup) (w : World) (moves : List Move) :
    ∀ i ∈ (begun setup w).intakes setup moves, i.number ∉ abandonedIn
      ((Ticker.opened setup.ticker 0).notes setup.ticker ((begun setup w).events setup moves)) :=
  fun i hi => (Ticker.ledger_after setup.ticker 0 _).absorbed_not_abandoned
    (mem_absorbedIn_of_intake setup w moves i hi)

/-- **What a run promises about what it publishes.** -/
structure Traceable (setup : SessionSetup) (w : World) (moves : List Move) : Prop where
  /-- To the ticker the run is an orderly one: cycles report once at most, and only after they were started. -/
  orderly : let events := (begun setup w).events setup moves
    ((begun setup w).after setup moves).ticker =
        (Ticker.opened setup.ticker 0).after setup.ticker events ∧
      Ticker.Orderly setup.ticker (Ticker.opened setup.ticker 0) events
  /-- Every tick raises the number of the message by one and returns it, and what it publishes is what the
      standing intake comes to. -/
  published : ∀ before snapshot engineName engineAvailable later,
    moves = before ++ .tick snapshot engineName engineAvailable :: later →
    let s := (begun setup w).after setup before
    let ticked := s.tick (facing setup engineName engineAvailable) snapshot
    let run := before ++ [.tick snapshot engineName engineAvailable]
    ticked.1.seq = s.ticker.advisories.latest.seq + 1 ∧
      ticked.2.ticker.advisories.latest = ⟨s.ticker.advisories.latest.seq + 1,
        setup.ticker.calendar s.now, due setup s.now (standing ((begun setup w).calls setup run)
          ((begun setup w).intakes setup run))⟩
  /-- No move changes what is current but one that takes in a report whose question was answered. -/
  kept : ∀ before m later, moves = before ++ m :: later →
    (∀ i, m.intake? ((begun setup w).after setup before) = some i →
      answered ((begun setup w).calls setup before) i.number = false) →
    ((begun setup w).after setup (before ++ [m])).ticker.current =
      ((begun setup w).after setup before).ticker.current
  /-- No cycle that was given up is taken in. -/
  abandoned : ∀ i ∈ (begun setup w).intakes setup moves, i.number ∉ abandonedIn
    ((Ticker.opened setup.ticker 0).notes setup.ticker ((begun setup w).events setup moves))
  /-- Whether a tick has a snapshot makes no difference to what it takes in. -/
  unseen : ∀ before (snapshot : Option Snapshot) engineName engineAvailable later,
    moves = before ++ .tick snapshot engineName engineAvailable :: later →
    let s := (begun setup w).after setup before
    ((Move.tick snapshot engineName engineAvailable).intake? s).map
        (fun i => (i.number, i.report, i.moment)) =
      ((Move.tick none engineName engineAvailable).intake? s).map
        fun i => (i.number, i.report, i.moment)
  /-- What the clock does from there is a list of moves as well. -/
  clocked : ∀ period length snapshot, ∃ run,
    ((begun setup w).after setup moves).run setup period length snapshot =
      (begun setup w).after setup run
  /-- After a run that was stopped nothing is recommended. -/
  stopped : ∀ period length snapshot, let s := (begun setup w).after setup moves
    ((s.run setup period length snapshot).stop setup).ticker.advisories.latest.advisory.anyActive
      = false

end DriveAdvisory.Session
