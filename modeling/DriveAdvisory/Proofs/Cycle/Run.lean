/-
  Runs of a ticker.

  Whatever the world does reaches a ticker as one of four events: a cycle enters a phase, a cycle reports, a
  tick comes due, the run ends.  A run is any list of them, so every order is covered, and with it reports of
  cycles that were given up long ago, ticks without a snapshot, and clocks that jump.

  A tick is four functions in a row, and only the first and the last one say anything: `drain_cases` is all
  that taking in reports can do (the first report of the cycle in flight is absorbed, everything else is
  thrown away), and `tick_eq` is what the rest leaves of it.  Proofs about runs are to use these two
  and never unfold a tick.

  What the planner gets to see is the `history` of the channel, message by message; between two messages
  nothing is published.
-/
import DriveAdvisory.Cycle.Ticker
import DriveAdvisory.Proofs.Order.Gather

namespace DriveAdvisory.Ticker

variable {setup : TickerSetup} {now : Duration} {snapshot : Option Snapshot} {t : Ticker}

/-! ## Events -/

/-- What can happen to a ticker. -/
inductive Event
  /-- Some cycle enters a phase. -/
  | phase (phase : Phase)
  /-- Some cycle reports. -/
  | report (number : Nat) (r : Report)
  /-- A tick.  Which engine would be asked, and whether it can be, may change from tick to tick. -/
  | tick (now : Duration) (snapshot : Option Snapshot) (engineName : String) (engineAvailable : Bool)
  /-- The end of the run. -/
  | stop (now : Duration)

/-- What happens then. -/
def step (setup : TickerSetup) (t : Ticker) : Event → Ticker
  | .phase phase => t.enter phase
  | .report number r => t.deliver number r
  | .tick now snapshot engineName engineAvailable =>
    (t.tick { setup with engineName, engineAvailable } now snapshot).2
  | .stop now => t.stop setup now

/-- The event publishes. -/
def Event.publishes : Event → Bool
  | .phase _ => false
  | .report _ _ => false
  | .tick .. => true
  | .stop _ => true

/-- The messages that a run publishes, in order. -/
def messages (setup : TickerSetup) : Ticker → List Event → List Message
  | _, [] => []
  | t, e :: rest =>
    let t' := t.step setup e
    if e.publishes then t'.advisories.latest :: messages setup t' rest else messages setup t' rest

/-- All that stands on the channel of advisories in a run, from what is there at its start. -/
def history (setup : TickerSetup) (t : Ticker) (events : List Event) : List Message :=
  t.advisories.latest :: messages setup t events

/-- What does not publish leaves the channel alone. -/
theorem step_advisories {e : Event} (h : e.publishes = false) :
    (t.step setup e).advisories = t.advisories := by
  cases e with
  | phase phase => rfl
  | report number r => rfl
  | tick now snapshot engineName engineAvailable => nomatch h
  | stop now => nomatch h

/-- A run that begins with an event: the history goes on from there, a message later if one was
    published. -/
theorem history_cons (e : Event) (rest : List Event) :
    t.history setup (e :: rest) =
      if e.publishes then t.advisories.latest :: (t.step setup e).history setup rest
      else (t.step setup e).history setup rest := by
  cases he : e.publishes with
  | true => simp only [history, messages, he, if_true]
  | false => simp only [history, messages, he, step_advisories he, Bool.false_eq_true, if_false]

/-! ## Taking in reports -/

theorem absorb_advisories (r : Report) :
    (t.absorb setup now snapshot r).advisories = t.advisories := by
  rw [absorb]
  split <;> rfl

/-- The report of the cycle in flight is absorbed. -/
theorem receive_of_flight {discarded number : Nat} {r : Report}
    (h : t.flight.map (·.number) = some number) :
    receive setup now snapshot (discarded, t) (number, r) =
      (discarded, { t with flight := none }.absorb setup now snapshot r) := if_pos h

/-- Every other report is thrown away. -/
theorem receive_of_stale {discarded : Nat} {letter : Nat × Report}
    (h : t.flight.map (·.number) ≠ some letter.1) :
    receive setup now snapshot (discarded, t) letter = (discarded + 1, t) := if_neg h

theorem foldl_receive_stale : ∀ {letters : List (Nat × Report)} (discarded : Nat),
    (∀ letter ∈ letters, t.flight.map (·.number) ≠ some letter.1) →
    letters.foldl (receive setup now snapshot) (discarded, t) = (discarded + letters.length, t)
  | [], _, _ => rfl
  | letter :: rest, discarded, h => by
    rw [List.foldl_cons, receive_of_stale (h letter List.mem_cons_self),
      foldl_receive_stale (discarded + 1) fun l hl => h l (List.mem_cons_of_mem letter hl),
      List.length_cons]
    congr 1
    omega

theorem absorb_flight (r : Report) : (t.absorb setup now snapshot r).flight = t.flight := by
  rw [absorb]
  split <;> rfl

/-- What happens to the reports of a mailbox: the first one of the cycle in flight is taken in, if
    there is one, and the others are thrown away, those behind it included. -/
theorem foldl_receive_cases (setup : TickerSetup) (now : Duration) (snapshot : Option Snapshot)
    (t : Ticker) : ∀ (letters : List (Nat × Report)) (discarded : Nat),
    ((∀ letter ∈ letters, t.flight.map (·.number) ≠ some letter.1) ∧
      letters.foldl (receive setup now snapshot) (discarded, t) = (discarded + letters.length, t)) ∨
    ∃ before number r after, letters = before ++ (number, r) :: after ∧
      t.flight.map (·.number) = some number ∧ (∀ letter ∈ before, letter.1 ≠ number) ∧
      letters.foldl (receive setup now snapshot) (discarded, t) =
        (discarded + before.length + after.length,
          { t with flight := none }.absorb setup now snapshot r)
  | [], _ => .inl ⟨by simp, rfl⟩
  | letter :: rest, discarded => by
    by_cases h : t.flight.map (·.number) = some letter.1
    · right
      refine ⟨[], letter.1, letter.2, rest, rfl, h, by simp, ?_⟩
      -- nothing is in flight any more, so all that follows is thrown away
      rw [List.foldl_cons, receive_of_flight h, foldl_receive_stale]
      · rfl
      · intro l _
        rw [absorb_flight]
        simp
    · rw [List.foldl_cons, receive_of_stale h]
      rcases foldl_receive_cases setup now snapshot t rest (discarded + 1) with
        ⟨hstale, he⟩ | ⟨before, number, r, after, hrest, hflight, hbefore, he⟩
      · left
        refine ⟨?_, ?_⟩
        · intro l hl
          rcases List.mem_cons.mp hl with rfl | hl
          · exact h
          · exact hstale l hl
        · rw [he, List.length_cons]
          congr 1
          omega
      · right
        refine ⟨letter :: before, number, r, after, by rw [hrest]; rfl, hflight, ?_, ?_⟩
        · intro l hl
          rcases List.mem_cons.mp hl with rfl | hl
          · intro heq
            exact h (hflight.trans (congrArg some heq.symm))
          · exact hbefore l hl
        · rw [he, List.length_cons]
          congr 1
          omega

/-- **All that draining can do.** -/
theorem drain_cases (setup : TickerSetup) (now : Duration) (snapshot : Option Snapshot)
    (t : Ticker) :
    ((∀ letter ∈ t.mailbox, t.flight.map (·.number) ≠ some letter.1) ∧
      t.drain setup now snapshot = (t.mailbox.length, { t with mailbox := [] })) ∨
    ∃ before number r after, t.mailbox = before ++ (number, r) :: after ∧
      t.flight.map (·.number) = some number ∧ (∀ letter ∈ before, letter.1 ≠ number) ∧
      t.drain setup now snapshot = (before.length + after.length,
        { t with mailbox := [], flight := none }.absorb setup now snapshot r) := by
  have h := foldl_receive_cases setup now snapshot { t with mailbox := [] } t.mailbox 0
  simpa only [Nat.zero_add, drain] using h

theorem drain_advisories : (t.drain setup now snapshot).2.advisories = t.advisories := by
  rcases t.drain_cases setup now snapshot with ⟨-, he⟩ | ⟨_, _, r, _, -, -, -, he⟩
  · rw [he]
  · rw [he]
    exact absorb_advisories r

/-- What draining leaves as the current advisory: the one that was there, or a merged advisory, filtered
    against the reference from before the tick. -/
theorem drain_current (setup : TickerSetup) (now : Duration) (snapshot : Option Snapshot)
    (t : Ticker) :
    (t.drain setup now snapshot).2.current = t.current ∨ ∃ merged,
      (t.drain setup now snapshot).2.current =
        some (setup.limits.enforce merged (t.reference snapshot), now) := by
  rcases t.drain_cases setup now snapshot with ⟨-, he⟩ | ⟨_, _, r, _, -, -, -, he⟩
  · left
    rw [he]
  · rw [he, absorb]
    cases r.merged with
    | none => exact .inl rfl
    | some merged => exact .inr ⟨merged, rfl⟩

/-! ## The rest of a tick -/

theorem abandon_frame (setup : TickerSetup) (now : Duration) (t : Ticker) :
    (t.abandon setup now).current = t.current ∧
    (t.abandon setup now).advisories = t.advisories := by
  rw [abandon]
  split
  · split <;> exact ⟨rfl, rfl⟩
  · exact ⟨rfl, rfl⟩

theorem launch_frame (setup : TickerSetup) (now : Duration) (snapshot : Option Snapshot)
    (t : Ticker) : (t.launch setup now snapshot).2.current = t.current ∧
    (t.launch setup now snapshot).2.advisories = t.advisories := by
  unfold launch
  split
  · exact ⟨rfl, rfl⟩
  · split
    · exact ⟨rfl, rfl⟩
    · split
      · exact ⟨rfl, rfl⟩
      · split <;> exact ⟨rfl, rfl⟩

/-- The ticker as it is when a tick has done all but publish. -/
def prepared (setup : TickerSetup) (now : Duration) (snapshot : Option Snapshot) (t : Ticker) :
    Ticker :=
  (((t.drain setup now snapshot).2.abandon setup now).launch setup now snapshot).2

theorem tick_publishes : (t.tick setup now snapshot).2 =
    (t.prepared setup now snapshot).publish setup now
      ((t.prepared setup now snapshot).advisory setup now) := rfl

/-- Nothing of a tick but draining touches the current advisory, and nothing but publishing the
    channel. -/
theorem prepared_frame (setup : TickerSetup) (now : Duration) (snapshot : Option Snapshot)
    (t : Ticker) :
    (t.prepared setup now snapshot).current = (t.drain setup now snapshot).2.current ∧
    (t.prepared setup now snapshot).advisories = t.advisories := by
  obtain ⟨hcur, hadv⟩ := abandon_frame setup now (t.drain setup now snapshot).2
  obtain ⟨hcur', hadv'⟩ :=
    launch_frame setup now snapshot ((t.drain setup now snapshot).2.abandon setup now)
  exact ⟨hcur'.trans hcur, (hadv'.trans hadv).trans drain_advisories⟩

theorem advisory_of_current {u : Ticker} (h : t.current = u.current) :
    t.advisory setup now = u.advisory setup now := by
  rw [advisory, h, advisory]

/-- **What a tick publishes** is decided by what draining left, and nothing later in the tick changes the
    current advisory. -/
theorem tick_eq (setup : TickerSetup) (now : Duration) (snapshot : Option Snapshot) (t : Ticker) :
    (t.tick setup now snapshot).2.current = (t.drain setup now snapshot).2.current ∧
    (t.tick setup now snapshot).2.advisories.latest = ⟨t.advisories.latest.seq + 1,
      setup.calendar now, (t.drain setup now snapshot).2.advisory setup now⟩ := by
  obtain ⟨hcur, hadv⟩ := prepared_frame setup now snapshot t
  rw [tick_publishes]
  refine ⟨hcur, ?_⟩
  rw [← advisory_of_current hcur, ← hadv]
  rfl

end DriveAdvisory.Ticker
