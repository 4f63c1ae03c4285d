/-
  The books of a ticker.

  A ticker keeps one slot for the cycle in flight and knows nothing of the others, while cycles that it gave up
  go on and report whenever they like: between the reports of later ones, or several of them at once.  To see
  that the slot is enough, what happens is written down (`notes`), by looking at what the ticker does and not
  at what it should do, and read as books.

  Two invariants hold in every run, whoever reports and how often:

  * the notes keep the rules of a ledger, and the slot is the one cycle that is open in it (`ledger_after`);
  * what was sent is what was disposed of, in the same order, and then what is still in the mailbox
    (`sentIn_notes`).  No report is lost, and none is judged out of turn.
-/
import DriveAdvisory.Proofs.Cycle.Intake
import DriveAdvisory.Proofs.Cycle.Ledger
import Mathlib.Data.List.Nodup

namespace DriveAdvisory.Ticker

variable {setup : TickerSetup} {now : Duration} {snapshot : Option Snapshot} {t : Ticker}
  {ns : List Note}

/-! ## Notes of a run -/

/-- What becomes of a letter: it is thrown away if it is counted as that. -/
def verdict (setup : TickerSetup) (now : Duration) (snapshot : Option Snapshot) (t : Ticker)
    (letter : Nat × Report) : Note :=
  if (receive setup now snapshot (0, t) letter).1 = 0 then .absorbed letter.1
  else .discarded letter.1

/-- What becomes of letters, one after the other. -/
def verdicts (setup : TickerSetup) (now : Duration) (snapshot : Option Snapshot) :
    Ticker → List (Nat × Report) → List Note
  | _, [] => []
  | t, letter :: rest => t.verdict setup now snapshot letter ::
    verdicts setup now snapshot (receive setup now snapshot (0, t) letter).2 rest

/-- The cycle that is given up, if one is. -/
def surrender (setup : TickerSetup) (now : Duration) (t : Ticker) : List Note :=
  match t.flight, (t.abandon setup now).flight with
  | some flight, none => [.abandoned flight.number]
  | _, _ => []

/-- The ticker as it is when a tick has taken in what came and given up what is late. -/
def settled (setup : TickerSetup) (now : Duration) (snapshot : Option Snapshot) (t : Ticker) :
    Ticker :=
  (t.drain setup now snapshot).2.abandon setup now

/-- What becomes of the letters that came. -/
def judging (setup : TickerSetup) (now : Duration) (snapshot : Option Snapshot) (t : Ticker) :
    List Note :=
  verdicts setup now snapshot { t with mailbox := [] } t.mailbox

/-- What is noted until the ticker has settled. -/
def settling (setup : TickerSetup) (now : Duration) (snapshot : Option Snapshot) (t : Ticker) :
    List Note :=
  t.judging setup now snapshot ++ surrender setup now (t.drain setup now snapshot).2

/-- The cycle that is started, if one is. -/
def launching (setup : TickerSetup) (now : Duration) (snapshot : Option Snapshot) (t : Ticker) :
    List Note :=
  (t.launch setup now snapshot).1.toList.map fun number => .spawned number now

/-- The report that an event brings. -/
def Event.report? : Event → Option (Nat × Report)
  | .phase _ => none
  | .report number r => some (number, r)
  | .tick .. => none
  | .stop _ => none

/-- What is noted of an event. -/
def Event.notes (setup : TickerSetup) (t : Ticker) : Event → List Note
  | .phase _ => []
  | .report number _ => [.sent number]
  | .tick now snapshot engineName engineAvailable =>
    let setup := { setup with engineName, engineAvailable }
    t.settling setup now snapshot ++
      (t.settled setup now snapshot).launching setup now snapshot
  | .stop _ => []

/-- What is noted of a run. -/
def notes (setup : TickerSetup) : Ticker → List Event → List Note :=
  gather (step setup) (Event.notes setup)

theorem notes_append (events later : List Event) : t.notes setup (events ++ later) =
    t.notes setup events ++ (t.after setup events).notes setup later :=
  gather_append _ _ events later t

theorem notes_snoc (events : List Event) (e : Event) : t.notes setup (events ++ [e]) =
    t.notes setup events ++ e.notes setup (t.after setup events) :=
  gather_snoc _ _ events e t

/-! ## One letter -/

theorem absorb_started (r : Report) : (t.absorb setup now snapshot r).started = t.started := by
  rw [absorb]
  split <;> rfl

/-- The report of the cycle in flight is taken in, and then nothing is in flight. -/
theorem verdict_of_flight (setup : TickerSetup) (now : Duration) (snapshot : Option Snapshot)
    {letter : Nat × Report} (h : t.flight.map (·.number) = some letter.1) :
    t.verdict setup now snapshot letter = .absorbed letter.1 ∧
      receive setup now snapshot (0, t) letter =
        (0, { t with flight := none }.absorb setup now snapshot letter.2) := by
  have hreceive := @receive_of_flight setup now snapshot t 0 letter.1 letter.2 h
  refine ⟨?_, hreceive⟩
  rw [verdict, hreceive]
  rfl

/-- Any other one is thrown away, and that is all. -/
theorem verdict_of_stale (setup : TickerSetup) (now : Duration) (snapshot : Option Snapshot)
    {letter : Nat × Report} (h : t.flight.map (·.number) ≠ some letter.1) :
    t.verdict setup now snapshot letter = .discarded letter.1 ∧
      receive setup now snapshot (0, t) letter = (1, t) := by
  have hreceive := @receive_of_stale setup now snapshot t 0 letter h
  refine ⟨?_, hreceive⟩
  rw [verdict, hreceive]
  rfl

/-! ## All letters -/

/-- So many reports, thrown away. -/
def refusals (letters : List (Nat × Report)) : List Note :=
  letters.map fun letter => .discarded letter.1

theorem verdicts_of_stale : ∀ {letters : List (Nat × Report)},
    (∀ letter ∈ letters, t.flight.map (·.number) ≠ some letter.1) →
    verdicts setup now snapshot t letters = refusals letters
  | [], _ => rfl
  | letter :: rest, h => by
    obtain ⟨hverdict, hreceive⟩ :=
      verdict_of_stale setup now snapshot (h letter List.mem_cons_self)
    rw [verdicts, hverdict, hreceive,
      verdicts_of_stale fun l hl => h l (List.mem_cons_of_mem letter hl)]
    rfl

theorem verdicts_of_flight {number : Nat} {r : Report} {after : List (Nat × Report)}
    (hflight : t.flight.map (·.number) = some number) : ∀ {before : List (Nat × Report)},
    (∀ letter ∈ before, letter.1 ≠ number) →
    verdicts setup now snapshot t (before ++ (number, r) :: after) =
      refusals before ++ .absorbed number :: refusals after
  | [], _ => by
    obtain ⟨hverdict, hreceive⟩ := @verdict_of_flight t setup now snapshot (number, r) hflight
    rw [List.nil_append, verdicts, hverdict, hreceive, verdicts_of_stale]
    · rfl
    · -- nothing is in flight any more, so all that follows is thrown away
      intro letter _
      rw [absorb_flight]
      exact nofun
  | letter :: rest, h => by
    have hstale : t.flight.map (·.number) ≠ some letter.1 := by
      rw [hflight]
      exact fun heq => h letter List.mem_cons_self (Option.some.inj heq).symm
    obtain ⟨hverdict, hreceive⟩ := verdict_of_stale setup now snapshot hstale
    rw [List.cons_append, verdicts, hverdict, hreceive,
      verdicts_of_flight hflight fun l hl => h l (List.mem_cons_of_mem letter hl)]
    rfl

/-- **What becomes of the letters**: the one that matters is taken in, and the others are thrown away. -/
theorem judging_cases (setup : TickerSetup) (now : Duration) (snapshot : Option Snapshot)
    (t : Ticker) :
    (t.arrived? = none ∧ t.judging setup now snapshot = refusals t.mailbox) ∨
    ∃ before number r after, t.arrived? = some (number, r) ∧
      t.flight.map (·.number) = some number ∧ t.mailbox = before ++ (number, r) :: after ∧
      (∀ letter ∈ before, letter.1 ≠ number) ∧
      t.judging setup now snapshot = refusals before ++ .absorbed number :: refusals after := by
  rcases h : t.arrived? with _ | ⟨number, r⟩
  · exact .inl ⟨rfl, verdicts_of_stale (t := { t with mailbox := [] }) (arrived?_eq_none_iff.mp h)⟩
  · obtain ⟨hflight, before, after, hmail, hbefore⟩ := arrived?_eq_some_iff.mp h
    refine .inr ⟨before, number, r, after, rfl, hflight, hmail, hbefore, ?_⟩
    rw [judging, hmail]
    exact verdicts_of_flight (t := { t with mailbox := [] }) hflight hbefore

theorem numbersIn_refusals {kind : Note → Option Nat} (h : ∀ n, kind (.discarded n) = some n) :
    ∀ letters : List (Nat × Report), numbersIn kind (refusals letters) = letters.map (·.1)
  | [] => rfl
  | letter :: rest => by
    rw [refusals, List.map_cons, numbersIn_cons, h, ← refusals, numbersIn_refusals h rest]
    rfl

theorem numbersIn_refusals_nil {kind : Note → Option Nat} (h : ∀ n, kind (.discarded n) = none) :
    ∀ letters : List (Nat × Report), numbersIn kind (refusals letters) = []
  | [] => rfl
  | letter :: rest => by
    rw [refusals, List.map_cons, numbersIn_cons, h, ← refusals, numbersIn_refusals_nil h rest]
    rfl

/-- Every letter is disposed of, in turn. -/
theorem judgedIn_judging : judgedIn (t.judging setup now snapshot) = t.mailbox.map (·.1) := by
  have hjudged : ∀ n, Note.judged? (.discarded n) = some n := fun _ => rfl
  rcases t.judging_cases setup now snapshot with
    ⟨-, he⟩ | ⟨before, n, r, after, -, -, hmail, -, he⟩
  · rw [he, judgedIn, numbersIn_refusals hjudged]
  · rw [he, hmail, judgedIn, numbersIn_append, numbersIn_cons, numbersIn_refusals hjudged,
      numbersIn_refusals hjudged, List.map_append, List.map_cons]
    rfl

/-- The letter that matters is taken in. -/
theorem absorbedIn_judging :
    absorbedIn (t.judging setup now snapshot) = (t.arrived?.map (·.1)).toList := by
  have habsorbed : ∀ n, Note.absorbed? (.discarded n) = none := fun _ => rfl
  rcases t.judging_cases setup now snapshot with
    ⟨harr, he⟩ | ⟨before, n, r, after, harr, -, -, -, he⟩
  · rw [he, harr, absorbedIn, numbersIn_refusals_nil habsorbed]
    rfl
  · rw [he, harr, absorbedIn, numbersIn_append, numbersIn_cons, numbersIn_refusals_nil habsorbed,
      numbersIn_refusals_nil habsorbed]
    rfl

/-- Every other one is thrown away, if no cycle sent more than one. -/
theorem mem_discardedIn_judging (hnodup : (t.mailbox.map (·.1)).Nodup) {number : Nat} :
    number ∈ discardedIn (t.judging setup now snapshot) ↔
      number ∈ t.mailbox.map (·.1) ∧ t.arrived?.map (·.1) ≠ some number := by
  have hdiscarded : ∀ n, Note.discarded? (.discarded n) = some n := fun _ => rfl
  rcases t.judging_cases setup now snapshot with
    ⟨harr, he⟩ | ⟨before, n, r, after, harr, -, hmail, -, he⟩
  · rw [he, harr, discardedIn, numbersIn_refusals hdiscarded]
    simp
  · rw [hmail, List.map_append, List.map_cons] at hnodup
    -- its own number is the one that the others do not have
    have hsingle := (List.nodup_cons.mp (List.nodup_middle.mp hnodup)).1
    rw [he, harr, hmail, discardedIn, numbersIn_append, numbersIn_cons,
      numbersIn_refusals hdiscarded, numbersIn_refusals hdiscarded]
    simp at hsingle ⊢
    grind

/-- What is counted as thrown away is thrown away. -/
theorem drain_discarded : (t.drain setup now snapshot).1 =
    (discardedIn (t.judging setup now snapshot)).length := by
  have hdiscarded : ∀ n, Note.discarded? (.discarded n) = some n := fun _ => rfl
  rcases t.judging_cases setup now snapshot with
    ⟨harr, he⟩ | ⟨before, n, r, after, harr, -, hmail, -, he⟩
  · rw [drain_of_none harr, he, discardedIn, numbersIn_refusals hdiscarded, List.length_map]
  · rw [drain_of_arrived harr, he, hmail, discardedIn, numbersIn_append, numbersIn_cons,
      numbersIn_refusals hdiscarded, numbersIn_refusals hdiscarded]
    simp

/-- Letters make notes of two kinds. -/
theorem numbersIn_judging {kind : Note → Option Nat} (habsorbed : ∀ n, kind (.absorbed n) = none)
    (hdiscarded : ∀ n, kind (.discarded n) = none) :
    numbersIn kind (t.judging setup now snapshot) = [] := by
  rcases t.judging_cases setup now snapshot with
    ⟨-, he⟩ | ⟨before, n, r, after, -, -, -, -, he⟩
  · rw [he, numbersIn_refusals_nil hdiscarded]
  · rw [he, numbersIn_append, numbersIn_cons, habsorbed, numbersIn_refusals_nil hdiscarded,
      numbersIn_refusals_nil hdiscarded]
    rfl

/-! ## The rest of a tick -/

/-- A cycle is given up when it is late. -/
theorem abandon_cases (setup : TickerSetup) (now : Duration) (t : Ticker) :
    (t.abandon setup now = t ∧ surrender setup now t = [] ∧
      ∀ flight, t.flight = some flight → now - flight.since ≤ setup.settings.deadline) ∨
    ∃ flight, t.flight = some flight ∧ setup.settings.deadline < now - flight.since ∧
      t.abandon setup now = { t with flight := none } ∧
      surrender setup now t = [.abandoned flight.number] := by
  rcases hf : t.flight with _ | flight
  · left
    have he : t.abandon setup now = t := by rw [abandon, hf]
    refine ⟨he, by rw [surrender, he, hf], ?_⟩
    intro other hother
    cases hother
  · by_cases hlate : setup.settings.deadline < now - flight.since
    · right
      have he : t.abandon setup now = { t with flight := none } := by
        rw [abandon, hf]
        exact if_pos hlate
      exact ⟨flight, rfl, hlate, he, by rw [surrender, he, hf]⟩
    · left
      have he : t.abandon setup now = t := by
        rw [abandon, hf]
        exact if_neg hlate
      refine ⟨he, by rw [surrender, he, hf], ?_⟩
      intro other hother
      obtain rfl := Option.some.inj hother
      exact Nat.le_of_not_lt hlate

/-- A cycle can be started. -/
structure Ready (setup : TickerSetup) (snapshot : Option Snapshot) (t : Ticker) : Prop where
  enabled : ∃ s, snapshot = some s ∧ s.engagement.enabled = true
  engine : setup.engineAvailable = true
  idle : t.flight = none

theorem launch_of_ready (h : t.Ready setup snapshot) : t.launch setup now snapshot =
    (some (t.started + 1),
      { t with started := t.started + 1, flight := some ⟨t.started + 1, now⟩ }) := by
  obtain ⟨⟨s, rfl, henabled⟩, hengine, hidle⟩ := h
  simp [launch, henabled, hengine, hidle]

theorem launch_of_not_ready (now : Duration) (h : ¬ t.Ready setup snapshot) :
    (t.launch setup now snapshot).1 = none ∧
      (t.launch setup now snapshot).2.started = t.started ∧
      (t.launch setup now snapshot).2.flight = t.flight := by
  unfold launch
  split
  · exact ⟨rfl, rfl, rfl⟩
  · rename_i s
    split
    · exact ⟨rfl, rfl, rfl⟩
    · rename_i henabled
      split
      · exact ⟨rfl, rfl, rfl⟩
      · rename_i hengine
        split
        · exact ⟨rfl, rfl, rfl⟩
        · rename_i hbusy
          exact absurd ⟨⟨s, rfl, by simpa using henabled⟩, by simpa using hengine,
            by simpa using hbusy⟩ h

theorem drain_started : (t.drain setup now snapshot).2.started = t.started := by
  rcases h : t.arrived? with _ | ⟨number, r⟩
  · rw [drain_of_none h]
  · rw [drain_of_arrived h, absorb_started]

theorem settled_started : (t.settled setup now snapshot).started = t.started := by
  rw [settled]
  rcases (t.drain setup now snapshot).2.abandon_cases setup now with ⟨he, -, -⟩ | ⟨_, -, -, he, -⟩
  · rw [he, drain_started]
  · rw [he]
    exact drain_started

/-- A tick starts a cycle of the next number, from the snapshot that it has, or none. -/
theorem tick_cases (setup : TickerSetup) (now : Duration) (snapshot : Option Snapshot)
    (t : Ticker) :
    ((t.tick setup now snapshot).1.spawned = none ∧
      (t.tick setup now snapshot).2.started = t.started) ∨
    ∃ seen, snapshot = some seen ∧ (t.tick setup now snapshot).1.spawned = some (t.started + 1) ∧
      (t.tick setup now snapshot).2.started = t.started + 1 := by
  show (((t.settled setup now snapshot).launch setup now snapshot).1 = none ∧
      ((t.settled setup now snapshot).launch setup now snapshot).2.started = t.started) ∨
    ∃ seen, snapshot = some seen ∧
      ((t.settled setup now snapshot).launch setup now snapshot).1 = some (t.started + 1) ∧
      ((t.settled setup now snapshot).launch setup now snapshot).2.started = t.started + 1
  have hstarted : (t.settled setup now snapshot).started = t.started := settled_started
  by_cases hready : (t.settled setup now snapshot).Ready setup snapshot
  · obtain ⟨seen, hseen, -⟩ := hready.enabled
    refine .inr ⟨seen, hseen, ?_⟩
    rw [launch_of_ready hready, ← hstarted]
    exact ⟨rfl, rfl⟩
  · obtain ⟨hnone, hkept, -⟩ := launch_of_not_ready now hready
    exact .inl ⟨hnone, hkept.trans hstarted⟩

/-! ## The books -/

theorem ledger_refusals {k : Nat} {f : Option Flight} : ∀ {letters : List (Nat × Report)}
    {ns : List Note}, Ledger ns k f → (∀ letter ∈ letters, f.map (·.number) ≠ some letter.1) →
    Ledger (ns ++ refusals letters) k f
  | [], ns, h, _ => by rwa [refusals, List.map_nil, List.append_nil]
  | letter :: rest, ns, h, hstale => by
    rw [refusals, List.map_cons, List.append_cons]
    exact ledger_refusals (h.discarded (hstale letter List.mem_cons_self))
      fun l hl => hstale l (List.mem_cons_of_mem letter hl)

/-- Reports are disposed of by the rules. -/
theorem ledger_judging (h : Ledger ns t.started t.flight) :
    Ledger (ns ++ t.judging setup now snapshot) (t.drain setup now snapshot).2.started
      (t.drain setup now snapshot).2.flight := by
  rcases t.judging_cases setup now snapshot with
    ⟨harr, he⟩ | ⟨before, number, r, after, harr, hflight, -, hbefore, he⟩
  · rw [he, drain_of_none harr]
    exact ledger_refusals h (arrived?_eq_none_iff.mp harr)
  · obtain ⟨flight, hf, rfl⟩ := Option.map_eq_some_iff.mp hflight
    rw [he, drain_of_arrived harr, absorb_started, absorb_flight, List.append_cons,
      ← List.append_assoc, ← List.append_assoc]
    rw [hf] at h
    have hstale : Ledger (ns ++ refusals before) t.started (some flight) := by
      refine ledger_refusals h ?_
      intro letter hl heq
      exact hbefore letter hl (Option.some.inj heq).symm
    refine ledger_refusals hstale.absorbed ?_
    intro letter _ heq
    nomatch heq

/-- So is a cycle given up. -/
theorem ledger_surrender (h : Ledger ns t.started t.flight) :
    Ledger (ns ++ surrender setup now t) (t.abandon setup now).started
      (t.abandon setup now).flight := by
  rcases t.abandon_cases setup now with ⟨he, hnone, -⟩ | ⟨flight, hf, -, he, hsome⟩
  · rwa [he, hnone, List.append_nil]
  · rw [he, hsome]
    rw [hf] at h
    exact h.abandoned

theorem ledger_settling (setup : TickerSetup) (now : Duration) (snapshot : Option Snapshot)
    (h : Ledger ns t.started t.flight) :
    Ledger (ns ++ t.settling setup now snapshot) (t.settled setup now snapshot).started
      (t.settled setup now snapshot).flight := by
  rw [settling, ← List.append_assoc]
  exact ledger_surrender (ledger_judging h)

/-- So is one started. -/
theorem ledger_launching (setup : TickerSetup) (now : Duration) (snapshot : Option Snapshot)
    (h : Ledger ns t.started t.flight) :
    Ledger (ns ++ t.launching setup now snapshot) (t.launch setup now snapshot).2.started
      (t.launch setup now snapshot).2.flight := by
  by_cases hready : t.Ready setup snapshot
  · rw [launching, launch_of_ready hready]
    rw [hready.idle] at h
    exact h.spawned now
  · obtain ⟨hnone, hstarted, hflight⟩ := launch_of_not_ready now hready
    rw [launching, hnone, hstarted, hflight]
    simpa using h

/-- **An event** keeps the rules. -/
theorem ledger_step (h : Ledger ns t.started t.flight) (e : Event) :
    Ledger (ns ++ e.notes setup t) (t.step setup e).started (t.step setup e).flight := by
  cases e with
  | phase phase => rwa [Event.notes, List.append_nil]
  | report number r => exact h.sent number
  | tick now snapshot engineName engineAvailable =>
    rw [Event.notes, ← List.append_assoc]
    exact ledger_launching _ now snapshot (ledger_settling _ now snapshot h)
  | stop now => rwa [Event.notes, List.append_nil]

/-- **A run** keeps the rules, and the slot holds the cycle that they leave open. -/
theorem ledger_after (setup : TickerSetup) (opened : Duration) (events : List Event) :
    Ledger ((Ticker.opened setup opened).notes setup events)
      ((Ticker.opened setup opened).after setup events).started
      ((Ticker.opened setup opened).after setup events).flight := by
  induction events using List.reverseRecOn with
  | nil => exact .empty
  | append_singleton events e ih =>
    rw [notes_snoc, after_snoc]
    exact ledger_step ih e

/-! ## The mail -/

theorem numbersIn_surrender {kind : Note → Option Nat} (h : ∀ n, kind (.abandoned n) = none) :
    numbersIn kind (surrender setup now t) = [] := by
  rcases t.abandon_cases setup now with ⟨-, hnone, -⟩ | ⟨flight, -, -, -, hsome⟩
  · rw [hnone, numbersIn_nil]
  · rw [hsome, numbersIn_cons, h]
    rfl

theorem numbersIn_launching {kind : Note → Option Nat} (h : ∀ n s, kind (.spawned n s) = none) :
    numbersIn kind (t.launching setup now snapshot) = [] := by
  rw [launching]
  cases (t.launch setup now snapshot).1 with
  | none => rfl
  | some number =>
    rw [Option.toList_some, List.map_singleton, numbersIn_cons, h]
    rfl

/-- What is noted until the ticker has settled is about letters, but for a cycle that is given up. -/
theorem numbersIn_settling {kind : Note → Option Nat} (h : ∀ n, kind (.abandoned n) = none) :
    numbersIn kind (t.settling setup now snapshot) =
      numbersIn kind (t.judging setup now snapshot) := by
  rw [settling, numbersIn_append, numbersIn_surrender h, List.append_nil]

/-- So is what is noted of a tick, but for the cycle that is started. -/
theorem numbersIn_tick {kind : Note → Option Nat} (habandoned : ∀ n, kind (.abandoned n) = none)
    (hspawned : ∀ n s, kind (.spawned n s) = none) (now : Duration) (snapshot : Option Snapshot)
    (engineName : String) (engineAvailable : Bool) (t : Ticker) :
    numbersIn kind ((Event.tick now snapshot engineName engineAvailable).notes setup t) =
      numbersIn kind (t.judging { setup with engineName, engineAvailable } now snapshot) := by
  rw [Event.notes, numbersIn_append, numbersIn_settling habandoned, numbersIn_launching hspawned,
    List.append_nil]

theorem launch_mailbox : (t.launch setup now snapshot).2.mailbox = t.mailbox := by
  unfold launch
  split
  · rfl
  · split
    · rfl
    · split
      · rfl
      · split <;> rfl

theorem settled_mailbox : (t.settled setup now snapshot).mailbox = [] := by
  rw [settled]
  rcases (t.drain setup now snapshot).2.abandon_cases setup now with ⟨he, -, -⟩ | ⟨_, -, -, he, -⟩
  · rw [he, drain_mailbox]
  · rw [he]
    exact drain_mailbox

/-- A tick empties the mailbox. -/
theorem tick_mailbox : (t.tick setup now snapshot).2.mailbox = [] :=
  launch_mailbox.trans settled_mailbox

/-- Only reports are sent. -/
theorem sentIn_event (e : Event) (t : Ticker) :
    sentIn (e.notes setup t) = (e.report?.map (·.1)).toList := by
  cases e with
  | phase phase => rfl
  | report number r => rfl
  | tick now snapshot engineName engineAvailable =>
    rw [sentIn, numbersIn_tick (fun _ => rfl) (fun _ _ => rfl),
      numbersIn_judging (fun _ => rfl) (fun _ => rfl)]
    rfl
  | stop now => rfl

/-- What is sent in a run are its reports. -/
theorem sentIn_events (events : List Event) (t : Ticker) :
    sentIn (t.notes setup events) = (events.filterMap Event.report?).map (·.1) := by
  induction events using List.reverseRecOn with
  | nil => rfl
  | append_singleton events e ih =>
    rw [notes_snoc, sentIn, numbersIn_append, ← sentIn, ← sentIn, ih, sentIn_event,
      List.filterMap_append, List.map_append]
    congr 1
    cases e <;> rfl

/-- An event sends what it puts into the mailbox, and disposes of what it takes out. -/
theorem mail_step (e : Event) (t : Ticker) :
    t.mailbox.map (·.1) ++ sentIn (e.notes setup t) =
      judgedIn (e.notes setup t) ++ (t.step setup e).mailbox.map (·.1) := by
  rw [sentIn_event]
  cases e with
  | phase phase => exact List.append_nil _
  | report number r =>
    show _ = [] ++ (t.mailbox ++ [(number, r)]).map (·.1)
    rw [List.nil_append, List.map_append]
    rfl
  | tick now snapshot engineName engineAvailable =>
    have hmail : (t.step setup (.tick now snapshot engineName engineAvailable)).mailbox = [] :=
      tick_mailbox
    rw [hmail, judgedIn, numbersIn_tick (fun _ => rfl) (fun _ _ => rfl), ← judgedIn,
      judgedIn_judging]
    rfl
  | stop now => exact List.append_nil _

/-- **What was sent was disposed of, in turn, or is in the mailbox.** -/
theorem sentIn_notes (setup : TickerSetup) (opened : Duration) (events : List Event) :
    sentIn ((Ticker.opened setup opened).notes setup events) =
      judgedIn ((Ticker.opened setup opened).notes setup events) ++
        ((Ticker.opened setup opened).after setup events).mailbox.map (·.1) := by
  induction events using List.reverseRecOn with
  | nil => rfl
  | append_singleton events e ih =>
    rw [notes_snoc, after_snoc, sentIn, judgedIn, numbersIn_append, numbersIn_append, ← sentIn, ih,
      List.append_assoc, mail_step, List.append_assoc]

/-- What a tick takes in is in the books as that. -/
theorem mem_absorbedIn_of_intake (setup : TickerSetup) {i : Intake}
    (h : t.intake? now snapshot = some i)
    (engineName : String) (engineAvailable : Bool) :
    i.number ∈ absorbedIn ((Event.tick now snapshot engineName engineAvailable).notes setup t) := by
  obtain ⟨letter, harr, rfl⟩ := Option.map_eq_some_iff.mp h
  rw [absorbedIn, numbersIn_tick (fun _ => rfl) (fun _ _ => rfl), ← absorbedIn,
    absorbedIn_judging, harr]
  exact List.mem_singleton_self letter.1

/-- What is in the mailbox was reported. -/
theorem mem_reports_of_mailbox {letter : Nat × Report} {opened : Duration} {events : List Event}
    (h : letter ∈ ((Ticker.opened setup opened).after setup events).mailbox) :
    letter ∈ events.filterMap Event.report? := by
  induction events using List.reverseRecOn with
  | nil => nomatch h
  | append_singleton events e ih =>
    rw [after_snoc] at h
    rw [List.filterMap_append]
    cases e with
    | phase phase => exact List.mem_append_left _ (ih h)
    | report number r =>
      rcases List.mem_append.mp h with hold | hnew
      · exact List.mem_append_left _ (ih hold)
      · exact List.mem_append_right _ hnew
    | tick now snapshot engineName engineAvailable =>
      have hmail : (step setup ((Ticker.opened setup opened).after setup events)
          (.tick now snapshot engineName engineAvailable)).mailbox = [] := tick_mailbox
      rw [hmail] at h
      nomatch h
    | stop now => exact List.mem_append_left _ (ih h)

end DriveAdvisory.Ticker
