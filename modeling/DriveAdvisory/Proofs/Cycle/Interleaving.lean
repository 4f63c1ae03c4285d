/-
  Sessions, in any order.

  A session is a ticker and the cycles that it started, and its clock decides who acts when.  What is proved
  here asks nothing of the clock.  `Move` lists who can act, a run is any list of moves, and every move is made
  by the function that the clock would call: a cycle takes its next step, a tick comes due, the run is stopped,
  and in between time and the world may change as they like.

  * To its ticker a session is a run of events (`after_ticker`), and an orderly one (`orderly_events`): a cycle
    reports when it is finished, and then it is gone.
  * What a cycle reports is what it owes to the one call that it made, whatever the others do in between
    (`Coherent`).
-/
import DriveAdvisory.Cycle.Timeline
import DriveAdvisory.Proofs.Cycle.Accounts
import DriveAdvisory.Proofs.Cycle.Answer

namespace DriveAdvisory.Session

/-! ## Moves -/

/-- What can happen in a session. -/
inductive Move
  /-- The cycle of a number takes its next step. -/
  | cycle (number : Nat)
  /-- The world changes. -/
  | world (w : World)
  /-- It is another moment. -/
  | time (now : Duration)
  /-- A tick.  Which engine would be asked, and whether it can be, may change from tick to tick. -/
  | tick (snapshot : Option Snapshot) (engineName : String) (engineAvailable : Bool)
  /-- The end of the run. -/
  | stop

/-- What sessions share, with another engine in view. -/
def facing (setup : SessionSetup) (engineName : String) (engineAvailable : Bool) : SessionSetup :=
  { setup with ticker := { setup.ticker with engineName, engineAvailable } }

/-- What happens then. -/
def move (setup : SessionSetup) (s : Session) : Move → Session
  | .cycle number =>
    match s.cycle? number with
    | some c => s.stepCycle setup.pipeline number c
    | none => s
  | .world w => { s with world := w }
  | .time now => { s with now }
  | .tick snapshot engineName engineAvailable =>
    (s.tick (facing setup engineName engineAvailable) snapshot).2
  | .stop => s.stop setup

/-- The session after a run. -/
def after (setup : SessionSetup) (s : Session) (moves : List Move) : Session :=
  moves.foldl (move setup) s

/-- A session in which nothing has happened. -/
def begun (setup : SessionSetup) (w : World) : Session :=
  { ticker := .opened setup.ticker 0, world := w }

variable {setup : SessionSetup} {s : Session}

theorem after_snoc (moves : List Move) (m : Move) :
    s.after setup (moves ++ [m]) = (s.after setup moves).move setup m :=
  List.foldl_concat (move setup) s m moves

/-! ## What a move amounts to -/

/-- What a step of a cycle is to the ticker: the phase that it enters, and its report if it is the last. -/
def stepEvents (number : Nat) (phase : Option Phase) (c : Cycle) : List Ticker.Event :=
  phase.toList.map .phase ++ if c.isFinished then [.report number c.report] else []

/-- The events that a move is to the ticker. -/
def Move.events (setup : SessionSetup) (s : Session) : Move → List Ticker.Event
  | .cycle number =>
    match s.cycle? number with
    | some c =>
      let stepped := (c.step setup.pipeline s.world).1
      stepEvents number stepped.1 stepped.2
    | none => []
  | .world _ => []
  | .time _ => []
  | .tick snapshot engineName engineAvailable => [.tick s.now snapshot engineName engineAvailable]
  | .stop => [.stop s.now]

/-- The call that a move makes, and the cycle that makes it. -/
def Move.call? (setup : SessionSetup) (s : Session) : Move → Option (Nat × Call)
  | .cycle number => (s.cycle? number).bind fun c =>
    (c.call? setup.pipeline s.world).map fun made => (number, made)
  | _ => none

/-- The events of a run. -/
def events (setup : SessionSetup) : Session → List Move → List Ticker.Event :=
  gather (move setup) (Move.events setup)

/-- The calls of a run. -/
def calls (setup : SessionSetup) : Session → List Move → List (Nat × Call) :=
  gather (move setup) fun s m => (m.call? setup s).toList

theorem events_snoc (moves : List Move) (m : Move) : s.events setup (moves ++ [m]) =
    s.events setup moves ++ m.events setup (s.after setup moves) :=
  gather_snoc _ _ moves m s

theorem calls_snoc (moves : List Move) (m : Move) : s.calls setup (moves ++ [m]) =
    s.calls setup moves ++ (m.call? setup (s.after setup moves)).toList :=
  gather_snoc _ _ moves m s

theorem putBack_ticker (number : Nat) (phase : Option Phase) (c : Cycle) :
    (s.putBack number phase c).ticker =
      s.ticker.after setup.ticker (stepEvents number phase c) := by
  unfold putBack stepEvents
  cases c.isFinished with
  | false => cases phase <;> rfl
  | true => cases phase <;> rfl

/-- A move is to the ticker what its events are. -/
theorem move_ticker (m : Move) :
    (s.move setup m).ticker = s.ticker.after setup.ticker (m.events setup s) := by
  cases m with
  | cycle number =>
    rw [move, Move.events]
    cases s.cycle? number with
    | none => rfl
    | some c => exact putBack_ticker number _ _
  | world w => rfl
  | time now => rfl
  | tick snapshot engineName engineAvailable => rfl
  | stop => rfl

/-- **To its ticker a session is a run of events.** -/
theorem after_ticker (setup : SessionSetup) (s : Session) (moves : List Move) :
    (s.after setup moves).ticker = s.ticker.after setup.ticker (s.events setup moves) := by
  induction moves using List.reverseRecOn with
  | nil => rfl
  | append_singleton moves m ih =>
    rw [after_snoc, move_ticker, ih, events_snoc, Ticker.after_append]

/-! ## The cycles under way -/

/-- The reports of a run. -/
def reports (setup : SessionSetup) (s : Session) (moves : List Move) : List (Nat × Report) :=
  (s.events setup moves).filterMap Ticker.Event.report?

theorem reports_snoc (moves : List Move) (m : Move) : s.reports setup (moves ++ [m]) =
    s.reports setup moves ++
      (m.events setup (s.after setup moves)).filterMap Ticker.Event.report? := by
  rw [reports, events_snoc, List.filterMap_append, reports]

theorem reports_stepEvents (number : Nat) (phase : Option Phase) (c : Cycle) :
    (stepEvents number phase c).filterMap Ticker.Event.report? =
      if c.isFinished then [(number, c.report)] else [] := by
  unfold stepEvents
  cases c.isFinished with
  | false => cases phase <;> rfl
  | true => cases phase <;> rfl

/-- **The invariant of the cycles under way**, given the calls and the reports so far. -/
structure Coherent (p : Pipeline) (calls : List (Nat × Call)) (reports : List (Nat × Report))
    (s : Session) : Prop where
  nodup : (s.cycles.map (·.1)).Nodup
  started : ∀ entry ∈ s.cycles, 1 ≤ entry.1 ∧ entry.1 ≤ s.ticker.started
  /-- Every cycle under way tells of its call. -/
  tells : ∀ entry ∈ s.cycles, entry.2.Tells p (calls.lookup entry.1)
  called : ∀ call ∈ calls, call.1 ≤ s.ticker.started
  /-- A cycle that reported is gone. -/
  gone : ∀ letter ∈ reports, letter.1 ≤ s.ticker.started ∧ ∀ entry ∈ s.cycles, entry.1 ≠ letter.1
  /-- Every report is what the cycle owes to its call. -/
  concluded : ∀ letter ∈ reports, Cycle.Concluded p.policy (calls.lookup letter.1) letter.2

variable {p : Pipeline} {calls : List (Nat × Call)} {reports : List (Nat × Report)}

theorem coherent_begun (setup : SessionSetup) (w : World) :
    Coherent p [] [] (begun setup w) where
  nodup := List.nodup_nil
  started _ hentry := absurd hentry List.not_mem_nil
  tells _ hentry := absurd hentry List.not_mem_nil
  called _ hcall := absurd hcall List.not_mem_nil
  gone _ hletter := absurd hletter List.not_mem_nil
  concluded _ hletter := absurd hletter List.not_mem_nil

/-- A cycle has one entry. -/
theorem Coherent.cycle?_eq_some_iff (h : Coherent p calls reports s) {number : Nat} {c : Cycle} :
    s.cycle? number = some c ↔ (number, c) ∈ s.cycles := by
  rw [cycle?, List.lookup_eq_some_iff]
  constructor
  · rintro ⟨before, after, he, -⟩
    rw [he]
    exact List.mem_append_right _ List.mem_cons_self
  · intro hmem
    obtain ⟨before, after, he⟩ := List.append_of_mem hmem
    refine ⟨before, after, he, ?_⟩
    intro other hother
    have hnodup := h.nodup
    rw [he, List.map_append, List.map_cons, List.nodup_middle, List.nodup_cons] at hnodup
    rw [bne_iff_ne]
    intro heq
    exact hnodup.1 (List.mem_append_left _ (List.mem_map.mpr ⟨other, hother, heq.symm⟩))

/-- The invariant is about the cycles under way and the count of those that were started. -/
theorem Coherent.of_eq (h : Coherent p calls reports s) {s' : Session}
    (hcycles : s'.cycles = s.cycles) (hstarted : s'.ticker.started = s.ticker.started) :
    Coherent p calls reports s' where
  nodup := hcycles ▸ h.nodup
  started := by
    rw [hcycles, hstarted]
    exact h.started
  tells := hcycles ▸ h.tells
  called := hstarted ▸ h.called
  gone := by
    rw [hcycles, hstarted]
    exact h.gone
  concluded := h.concluded

/-! ### A step of a cycle -/

/-- Putting a cycle back may change the status that is shown and the mailbox of the ticker, and nothing
    else. -/
theorem putBack_frame (number : Nat) (phase : Option Phase) (c : Cycle) :
    (s.putBack number phase c).ticker =
      { s.ticker with status := (s.putBack number phase c).ticker.status,
                      mailbox := (s.putBack number phase c).ticker.mailbox } := by
  unfold putBack
  cases c.isFinished with
  | false => cases phase <;> rfl
  | true => cases phase <;> rfl

theorem putBack_started (number : Nat) (phase : Option Phase) (c : Cycle) :
    (s.putBack number phase c).ticker.started = s.ticker.started := by
  rw [putBack_frame]

theorem putBack_current (number : Nat) (phase : Option Phase) (c : Cycle) :
    (s.putBack number phase c).ticker.current = s.ticker.current := by
  rw [putBack_frame]

/-- Putting a cycle back leaves the others alone, and a finished one is not put back. -/
theorem mem_putBack {number : Nat} {phase : Option Phase} {c : Cycle} {entry : Nat × Cycle}
    (h : entry ∈ (s.putBack number phase c).cycles) :
    (entry = (number, c) ∧ c.isFinished = false) ∨ (entry ∈ s.cycles ∧ entry.1 ≠ number) := by
  unfold putBack at h
  cases hf : c.isFinished with
  | true =>
    simp only [hf, if_true, List.mem_filter, decide_eq_true_iff] at h
    exact .inr h
  | false =>
    simp only [hf, Bool.false_eq_true, if_false, List.mem_map] at h
    obtain ⟨other, hother, he⟩ := h
    split at he
    · exact .inl ⟨he.symm, rfl⟩
    · rename_i hne
      exact .inr ⟨he ▸ hother, he ▸ hne⟩

theorem putBack_nodup (h : (s.cycles.map (·.1)).Nodup) (number : Nat) (phase : Option Phase)
    (c : Cycle) : ((s.putBack number phase c).cycles.map (·.1)).Nodup := by
  unfold putBack
  cases c.isFinished with
  | true => exact h.sublist (List.filter_sublist.map _)
  | false =>
    have hkeys : (s.cycles.map fun other => if other.1 = number then (number, c) else other).map
        (·.1) = s.cycles.map (·.1) := by
      rw [List.map_map]
      refine List.map_congr_left fun other _ => ?_
      show (if other.1 = number then (number, c) else other).1 = other.1
      split
      · rename_i he
        exact he.symm
      · rfl
    rw [← hkeys] at h
    exact h

/-- A new call is one of the cycle that makes it, and no other. -/
theorem lookup_calls (number : Nat) (made : Option Call) (m : Nat) :
    (calls ++ (made.map fun made => (number, made)).toList).lookup m =
      if m = number then (calls.lookup m).or made else calls.lookup m := by
  rw [List.lookup_append]
  by_cases he : m = number
  · rw [if_pos he, he]
    cases made with
    | none => rfl
    | some made => simp
  · rw [if_neg he]
    cases made with
    | none => exact Option.or_none
    | some made => simp [List.lookup_cons, beq_eq_false_iff_ne.mpr he]

/-- What is in a list of one or none. -/
theorem mem_ite_singleton {α : Type} {b : Bool} {a x : α} :
    x ∈ (if b then [a] else []) ↔ b = true ∧ x = a := by
  cases b <;> simp

/-- Putting back a cycle that made a call keeps the invariant. -/
theorem Coherent.putBack (h : Coherent p calls reports s) {number : Nat} {c next : Cycle}
    {made : Option Call} (hmem : (number, c) ∈ s.cycles)
    (htells : next.Tells p ((calls.lookup number).or made)) (phase : Option Phase) :
    Coherent p (calls ++ (made.map fun made => (number, made)).toList)
      (reports ++ if next.isFinished then [(number, next.report)] else [])
      (s.putBack number phase next) where
  nodup := putBack_nodup h.nodup number phase next
  started entry hentry := by
    rw [putBack_started]
    rcases mem_putBack hentry with ⟨rfl, -⟩ | ⟨hold, -⟩
    · exact h.started (number, c) hmem
    · exact h.started entry hold
  tells entry hentry := by
    rw [lookup_calls]
    rcases mem_putBack hentry with ⟨rfl, -⟩ | ⟨hold, hne⟩
    · rwa [if_pos rfl]
    · rw [if_neg hne]
      exact h.tells entry hold
  called call hcall := by
    rw [putBack_started]
    rcases List.mem_append.mp hcall with hold | hnew
    · exact h.called call hold
    · obtain ⟨_, -, rfl⟩ := Option.map_eq_some_iff.mp (Option.mem_toList.mp hnew)
      exact (h.started (number, c) hmem).2
  gone letter hletter := by
    rw [putBack_started]
    rcases List.mem_append.mp hletter with hold | hnew
    · obtain ⟨hle, hnone⟩ := h.gone letter hold
      refine ⟨hle, ?_⟩
      intro entry hentry
      rcases mem_putBack hentry with ⟨rfl, -⟩ | ⟨hcycle, -⟩
      · exact hnone (number, c) hmem
      · exact hnone entry hcycle
    · obtain ⟨hfinished, rfl⟩ := mem_ite_singleton.mp hnew
      refine ⟨(h.started (number, c) hmem).2, ?_⟩
      intro entry hentry
      -- a finished cycle is not put back
      rcases mem_putBack hentry with ⟨-, hunfinished⟩ | ⟨-, hne⟩
      · rw [hfinished] at hunfinished
        nomatch hunfinished
      · exact hne
  concluded letter hletter := by
    rw [lookup_calls]
    rcases List.mem_append.mp hletter with hold | hnew
    · have hne := (h.gone letter hold).2 (number, c) hmem
      rw [if_neg (Ne.symm hne)]
      exact h.concluded letter hold
    · obtain ⟨hfinished, rfl⟩ := mem_ite_singleton.mp hnew
      rw [if_pos rfl]
      exact htells.concluded hfinished

/-- **A step of a cycle** keeps the invariant, with the call that it makes and the report that it
    leaves. -/
theorem Coherent.stepCycle (h : Coherent p calls reports s) {number : Nat} {c : Cycle}
    (hmem : (number, c) ∈ s.cycles) :
    Coherent p (calls ++ ((c.call? p s.world).map fun made => (number, made)).toList)
      (reports ++ if (c.step p s.world).1.2.isFinished then
        [(number, (c.step p s.world).1.2.report)] else []) (s.stepCycle p number c) := by
  have hworld : Coherent p calls reports { s with world := (c.step p s.world).2 } :=
    h.of_eq rfl rfl
  exact hworld.putBack hmem ((h.tells (number, c) hmem).step s.world) (c.step p s.world).1.1

/-! ### A tick -/

/-- A tick starts one cycle or none. -/
theorem tick_cases (setup : SessionSetup) (snapshot : Option Snapshot) (s : Session) :
    ((s.tick setup snapshot).2.cycles = s.cycles ∧
      (s.tick setup snapshot).2.ticker.started = s.ticker.started) ∨
    ∃ seen, (s.tick setup snapshot).2.cycles =
        s.cycles ++ [(s.ticker.started + 1, Cycle.start seen s.now)] ∧
      (s.tick setup snapshot).2.ticker.started = s.ticker.started + 1 := by
  rcases s.ticker.tick_cases setup.ticker s.now snapshot with
    ⟨hspawned, hstarted⟩ | ⟨seen, rfl, hspawned, hstarted⟩
  · refine .inl ⟨?_, hstarted⟩
    rw [Session.tick]
    simp only [hspawned, List.append_nil]
  · refine .inr ⟨seen, ?_, hstarted⟩
    rw [Session.tick]
    simp only [hspawned]

/-- A cycle that sets out has a number that nothing has yet: no other cycle, no call and no report. -/
theorem Coherent.setOut (h : Coherent p calls reports s) {s' : Session} {seen : Snapshot}
    {now : Duration}
    (hcycles : s'.cycles = s.cycles ++ [(s.ticker.started + 1, Cycle.start seen now)])
    (hstarted : s'.ticker.started = s.ticker.started + 1) : Coherent p calls reports s' where
  nodup := by
    rw [hcycles, List.map_append]
    refine List.nodup_append.mpr ⟨h.nodup, List.pairwise_singleton _ _, ?_⟩
    intro n hn m hm
    obtain ⟨entry, hentry, rfl⟩ := List.mem_map.mp hn
    obtain rfl := List.mem_singleton.mp hm
    have hle := (h.started entry hentry).2
    show entry.1 ≠ s.ticker.started + 1
    omega
  started := by
    rw [hcycles, hstarted]
    intro entry hentry
    rcases List.mem_append.mp hentry with hold | hnew
    · obtain ⟨hpos, hle⟩ := h.started entry hold
      exact ⟨hpos, Nat.le_succ_of_le hle⟩
    · obtain rfl := List.mem_singleton.mp hnew
      exact ⟨Nat.le_add_left 1 _, Nat.le_refl _⟩
  tells := by
    rw [hcycles]
    intro entry hentry
    rcases List.mem_append.mp hentry with hold | hnew
    · exact h.tells entry hold
    · obtain rfl := List.mem_singleton.mp hnew
      have huncalled : calls.lookup (s.ticker.started + 1) = none := by
        refine List.lookup_eq_none_iff.mpr ?_
        intro call hcall
        have hle := h.called call hcall
        rw [bne_iff_ne]
        omega
      rw [huncalled]
      exact Cycle.tells_start seen now
  called := by
    rw [hstarted]
    exact fun call hcall => Nat.le_succ_of_le (h.called call hcall)
  gone := by
    rw [hcycles, hstarted]
    intro letter hletter
    obtain ⟨hle, hgone⟩ := h.gone letter hletter
    refine ⟨Nat.le_succ_of_le hle, ?_⟩
    intro entry hentry
    rcases List.mem_append.mp hentry with hold | hnew
    · exact hgone entry hold
    · obtain rfl := List.mem_singleton.mp hnew
      show s.ticker.started + 1 ≠ letter.1
      omega
  concluded := h.concluded

/-- **A tick** keeps the invariant. -/
theorem Coherent.tick (h : Coherent p calls reports s) (setup : SessionSetup)
    (snapshot : Option Snapshot) : Coherent p calls reports (s.tick setup snapshot).2 := by
  rcases tick_cases setup snapshot s with ⟨hcycles, hstarted⟩ | ⟨seen, hcycles, hstarted⟩
  · exact h.of_eq hcycles hstarted
  · exact h.setOut hcycles hstarted

/-! ### A run -/

/-- **A move** keeps the invariant. -/
theorem Coherent.move (h : Coherent setup.pipeline calls reports s) (m : Move) :
    Coherent setup.pipeline (calls ++ (m.call? setup s).toList)
      (reports ++ (m.events setup s).filterMap Ticker.Event.report?) (s.move setup m) := by
  -- a move of no cycle makes no call and leaves no report
  have hquiet : ∀ s', Coherent setup.pipeline calls reports s' →
      Coherent setup.pipeline (calls ++ []) (reports ++ []) s' := by
    intro s' h'
    rwa [List.append_nil, List.append_nil]
  cases m with
  | cycle number =>
    rw [Move.call?, Move.events, Session.move]
    cases hc : s.cycle? number with
    | none => exact hquiet s h
    | some c =>
      simp only [reports_stepEvents]
      exact h.stepCycle (h.cycle?_eq_some_iff.mp hc)
  | world w => exact hquiet _ (h.of_eq rfl rfl)
  | time now => exact hquiet _ (h.of_eq rfl rfl)
  | tick snapshot engineName engineAvailable =>
    exact hquiet _ (h.tick (facing setup engineName engineAvailable) snapshot)
  | stop => exact hquiet _ (h.of_eq rfl rfl)

/-- **A run** keeps the invariant. -/
theorem coherent_after (setup : SessionSetup) (w : World) (moves : List Move) :
    Coherent setup.pipeline ((begun setup w).calls setup moves)
      ((begun setup w).reports setup moves) ((begun setup w).after setup moves) := by
  induction moves using List.reverseRecOn with
  | nil => exact coherent_begun setup w
  | append_singleton moves m ih =>
    rw [calls_snoc, reports_snoc, after_snoc]
    exact ih.move m

/-! ## The run of the ticker -/

/-- Entering a phase makes no note, and a report is timely if it is the first one of a cycle that was
    started. -/
theorem orderly_stepEvents {setup : TickerSetup} {t : Ticker} {events : List Ticker.Event}
    (h : Ticker.Orderly setup t events) {number : Nat}
    (htimely : number ∈ spawnedIn (t.notes setup events) ∧ number ∉ sentIn (t.notes setup events))
    (phase : Option Phase) (c : Cycle) :
    Ticker.Orderly setup t (events ++ stepEvents number phase c) := by
  have hphase : Ticker.Orderly setup t (events ++ phase.toList.map .phase) ∧
      t.notes setup (events ++ phase.toList.map .phase) = t.notes setup events := by
    cases phase with
    | none => exact ⟨by simpa using h, by simp⟩
    | some phase =>
      rw [Option.toList_some, List.map_singleton, Ticker.notes_snoc]
      exact ⟨Ticker.orderly_snoc.mpr ⟨h, trivial⟩, List.append_nil _⟩
  rw [stepEvents, ← List.append_assoc]
  split
  · refine Ticker.orderly_snoc.mpr ⟨hphase.1, ?_⟩
    rw [hphase.2]
    exact htimely
  · rw [List.append_nil]
    exact hphase.1

/-- **The run of a session's ticker is orderly**: cycles report once, and only after they were started. -/
theorem orderly_events (setup : SessionSetup) (w : World) (moves : List Move) :
    Ticker.Orderly setup.ticker (Ticker.opened setup.ticker 0)
      ((begun setup w).events setup moves) := by
  induction moves using List.reverseRecOn with
  | nil => exact Ticker.orderly_nil
  | append_singleton moves m ih =>
    rw [events_snoc]
    cases m with
    | cycle number =>
      rw [Move.events]
      cases hc : ((begun setup w).after setup moves).cycle? number with
      | none => simpa using ih
      | some c =>
        have hcoherent := coherent_after setup w moves
        have hmem := hcoherent.cycle?_eq_some_iff.mp hc
        have hstarted := hcoherent.started (number, c) hmem
        refine orderly_stepEvents ih ⟨?_, ?_⟩ _ _
        · rw [after_ticker] at hstarted
          exact (Ticker.ledger_after setup.ticker 0 _).mem_spawnedIn.mpr hstarted
        · rw [Ticker.sentIn_events]
          intro hsent
          obtain ⟨letter, hletter, rfl⟩ := List.mem_map.mp hsent
          exact (hcoherent.gone letter hletter).2 (letter.1, c) hmem rfl
    | world w => simpa [Move.events] using ih
    | time now => simpa [Move.events] using ih
    | tick snapshot engineName engineAvailable => exact Ticker.orderly_snoc.mpr ⟨ih, trivial⟩
    | stop => exact Ticker.orderly_snoc.mpr ⟨ih, trivial⟩

end DriveAdvisory.Session
