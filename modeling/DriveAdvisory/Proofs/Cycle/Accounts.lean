/-
  What becomes of every cycle.

  That cycles report only after they were started, and once, is not the ticker's to see to: it is what
  `Orderly` asks of a run, and reports may still come late, and in any order.  In an orderly run the books
  (`Books`) say of each report in the mailbox whether its cycle is in flight: it is, unless it was given up
  (`flight_iff`).  So the report of a cycle that was not given up is taken in by the first tick after it, and
  any other one leaves no trace but a count (`Settles`).

  `accounted` gathers what a run promises about its cycles.
-/
import DriveAdvisory.Proofs.Cycle.Books
import DriveAdvisory.Proofs.Cycle.StepLimit

namespace DriveAdvisory.Ticker

variable {setup : TickerSetup} {now : Duration} {snapshot : Option Snapshot} {t : Ticker}
  {ns : List Note}

/-! ## Orderly runs -/

/-- A report is timely if its cycle was started and has not reported yet. -/
def Event.Timely (ns : List Note) : Event → Prop
  | .phase _ => True
  | .report number _ => number ∈ spawnedIn ns ∧ number ∉ sentIn ns
  | .tick .. => True
  | .stop _ => True

/-- Every cycle reports once at most, at any moment after it was started. -/
def Orderly (setup : TickerSetup) (t : Ticker) (events : List Event) : Prop :=
  ∀ before e later, events = before ++ e :: later → e.Timely (t.notes setup before)

theorem orderly_nil : Orderly setup t [] := by
  intro before e later h
  simp at h

theorem orderly_snoc {events : List Event} {e : Event} :
    Orderly setup t (events ++ [e]) ↔
      Orderly setup t events ∧ e.Timely (t.notes setup events) := by
  constructor
  · intro h
    refine ⟨?_, h events e [] rfl⟩
    intro before x later he
    refine h before x (later ++ [e]) ?_
    rw [he, List.append_assoc, List.cons_append]
  · rintro ⟨h, hlast⟩ before x later he
    rcases List.eq_nil_or_concat later with rfl | ⟨later', y, rfl⟩
    · obtain ⟨rfl, hx⟩ := List.append_inj' he rfl
      obtain rfl := List.singleton_inj.mp hx
      exact hlast
    · rw [List.concat_eq_append, ← List.cons_append, ← List.append_assoc] at he
      obtain ⟨rfl, -⟩ := List.append_inj' he rfl
      exact h before x later' rfl

theorem Orderly.of_append {events : List Event} (later : List Event)
    (h : Orderly setup t (events ++ later)) :
    Orderly setup t events := by
  intro before e rest he
  refine h before e (rest ++ later) ?_
  rw [he, List.append_assoc, List.cons_append]

/-- In an orderly run no cycle reports twice, and none that was not started. -/
theorem Orderly.sent {events : List Event} (h : Orderly setup t events) :
    (sentIn (t.notes setup events)).Nodup ∧
      ∀ n ∈ sentIn (t.notes setup events), n ∈ spawnedIn (t.notes setup events) := by
  induction events using List.reverseRecOn with
  | nil => exact ⟨List.nodup_nil, nofun⟩
  | append_singleton events e ih =>
    obtain ⟨hevents, htimely⟩ := orderly_snoc.mp h
    obtain ⟨hnodup, hspawned⟩ := ih hevents
    rw [notes_snoc, sentIn, spawnedIn, numbersIn_append, numbersIn_append, ← sentIn, ← sentIn,
      sentIn_event]
    have hkept : ∀ n ∈ sentIn (t.notes setup events), n ∈ spawnedIn (t.notes setup events) ++
        spawnedIn (e.notes setup (t.after setup events)) :=
      fun n hn => List.mem_append_left _ (hspawned n hn)
    cases e with
    | report number r =>
      obtain ⟨hstarted, hfresh⟩ := htimely
      refine ⟨List.nodup_append.mpr ⟨hnodup, List.pairwise_singleton _ _, ?_⟩, ?_⟩
      · intro n hn m hm heq
        obtain rfl := List.mem_singleton.mp hm
        exact hfresh (heq ▸ hn)
      · intro n hn
        rcases List.mem_append.mp hn with hn | hn
        · exact hkept n hn
        · obtain rfl := List.mem_singleton.mp hn
          exact List.mem_append_left _ hstarted
    | phase phase | tick now snapshot engineName engineAvailable | stop now =>
      exact ⟨by simpa [Event.report?] using hnodup, by simpa [Event.report?] using hkept⟩

/-! ## The fate of a report -/

/-- A letter that does not matter might as well not have come, but that it is counted. -/
theorem drain_of_stale {early late : List (Nat × Report)} {letter : Nat × Report}
    (hmail : t.mailbox = early ++ letter :: late)
    (hstale : t.flight.map (·.number) ≠ some letter.1) :
    t.drain setup now snapshot =
      (({ t with mailbox := early ++ late }.drain setup now snapshot).1 + 1,
        ({ t with mailbox := early ++ late }.drain setup now snapshot).2) := by
  have hsame : ({ t with mailbox := early ++ late } : Ticker).arrived? = t.arrived? := by
    rw [arrived?, arrived?, hmail, List.find?_append, List.find?_append,
      List.find?_cons_of_neg (by simpa using hstale)]
  rcases h : t.arrived? with _ | ⟨number, r⟩
  · rw [h] at hsame
    rw [drain_of_none h, drain_of_none hsame, hmail]
    simp
    omega
  · have hmem := List.mem_of_find?_eq_some (hsame.trans h)
    rw [h] at hsame
    have hpos : 0 < (early ++ late).length := List.length_pos_of_mem hmem
    rw [drain_of_arrived h, drain_of_arrived hsame, hmail]
    simp at hpos ⊢
    omega

/-- The summary of a tick that threw away one more report. -/
def refusing (summary : TickSummary) : TickSummary :=
  { summary with discarded := summary.discarded + 1 }

theorem tick_of_stale {early late : List (Nat × Report)} {letter : Nat × Report}
    (hmail : t.mailbox = early ++ letter :: late)
    (hstale : t.flight.map (·.number) ≠ some letter.1) :
    t.tick setup now snapshot =
      (refusing ({ t with mailbox := early ++ late }.tick setup now snapshot).1,
        ({ t with mailbox := early ++ late }.tick setup now snapshot).2) := by
  unfold tick
  rw [drain_of_stale hmail hstale]
  rfl

/-- What the first tick after a report makes of it, by whether its cycle had been given up. -/
structure Settles (setup : TickerSetup) (now : Duration) (snapshot : Option Snapshot) (t : Ticker)
    (ns : List Note) (number : Nat) (r : Report) : Prop where
  absorbed_iff : number ∈ absorbedIn (t.settling setup now snapshot) ↔ number ∉ abandonedIn ns
  discarded_iff : number ∈ discardedIn (t.settling setup now snapshot) ↔ number ∈ abandonedIn ns
  /-- It is taken in, and everything else that came with it is thrown away. -/
  taken : number ∉ abandonedIn ns → t.drain setup now snapshot = (t.mailbox.length - 1,
    { t with mailbox := [], flight := none }.absorb setup now snapshot r)
  /-- It is counted, and the tick is otherwise the one that it would have been without it. -/
  refused : number ∈ abandonedIn ns → ∃ early late, t.mailbox = early ++ (number, r) :: late ∧
    t.tick setup now snapshot =
      (refusing ({ t with mailbox := early ++ late }.tick setup now snapshot).1,
        ({ t with mailbox := early ++ late }.tick setup now snapshot).2)

/-- In an orderly run, the cycle of a report in the mailbox is in flight unless it was given up. -/
theorem Orderly.flight_iff {opened : Duration} {events : List Event} {number : Nat} {r : Report}
    (h : Orderly setup (Ticker.opened setup opened) events)
    (hmail : (number, r) ∈ ((Ticker.opened setup opened).after setup events).mailbox) :
    ((Ticker.opened setup opened).after setup events).flight.map (·.number) = some number ↔
      number ∉ abandonedIn ((Ticker.opened setup opened).notes setup events) := by
  have hledger := ledger_after setup opened events
  obtain ⟨hnodup, hspawned⟩ := h.sent
  rw [sentIn_notes] at hnodup hspawned
  have hbox : number ∈ ((Ticker.opened setup opened).after setup events).mailbox.map (·.1) :=
    List.mem_map_of_mem hmail
  have hstarted := hledger.mem_spawnedIn.mp (hspawned number (List.mem_append_right _ hbox))
  -- it waits in the mailbox, so it has not been taken in
  have hnot : number ∉ absorbedIn ((Ticker.opened setup opened).notes setup events) := fun habs =>
    (List.nodup_append.mp hnodup).2.2 number (mem_judgedIn.mpr (.inl habs)) number hbox rfl
  have hclosed := hledger.closed_iff (n := number)
  constructor
  · intro hflight habandoned
    exact (hclosed.mp (.inr habandoned)).2 hflight
  · intro hopen
    by_contra hflight
    rcases hclosed.mpr ⟨hstarted, hflight⟩ with habs | habandoned
    · exact hnot habs
    · exact hopen habandoned

/-- **The fate of a report** in the mailbox of an orderly run. -/
theorem Orderly.settles {opened : Duration} {events : List Event} {number : Nat} {r : Report}
    (h : Orderly setup (Ticker.opened setup opened) events)
    (hmail : (number, r) ∈ ((Ticker.opened setup opened).after setup events).mailbox)
    (engineName : String) (engineAvailable : Bool) (now : Duration) (snapshot : Option Snapshot) :
    Settles { setup with engineName, engineAvailable } now snapshot
      ((Ticker.opened setup opened).after setup events)
      ((Ticker.opened setup opened).notes setup events) number r := by
  have hflight := h.flight_iff hmail
  have hnodup := (List.nodup_append.mp (sentIn_notes setup opened events ▸ h.sent.1)).2.1
  have hbox := List.mem_map_of_mem (f := (·.1)) hmail
  -- it matters if its cycle is in flight, and that if it was not given up
  have hmatters := arrived?_number_iff.trans ((and_iff_left hbox).trans hflight)
  refine ⟨?_, ?_, ?_, ?_⟩
  · rw [absorbedIn, numbersIn_settling fun _ => rfl, ← absorbedIn, absorbedIn_judging,
      Option.mem_toList]
    exact hmatters
  · rw [discardedIn, numbersIn_settling fun _ => rfl, ← discardedIn,
      mem_discardedIn_judging hnodup, ne_eq, hmatters, not_not]
    exact and_iff_right hbox
  · intro hopen
    obtain ⟨⟨n, r'⟩, harr, rfl⟩ := Option.map_eq_some_iff.mp (hmatters.mpr hopen)
    have hsame := List.inj_on_of_nodup_map hnodup (List.mem_of_find?_eq_some harr) hmail rfl
    rw [hsame] at harr
    exact drain_of_arrived harr
  · intro habandoned
    obtain ⟨early, late, hsplit⟩ := List.append_of_mem hmail
    have hstale := fun hf => hflight.mp hf habandoned
    exact ⟨early, late, hsplit, tick_of_stale hsplit hstale⟩

/-! ## The accounts -/

/-- The event is a tick. -/
def Event.isTick : Event → Bool
  | .phase _ => false
  | .report _ _ => false
  | .tick .. => true
  | .stop _ => false

/-- Nothing but a tick takes letters out of the mailbox. -/
theorem mem_mailbox_after {letter : Nat × Report} : ∀ {quiet : List Event} {t : Ticker},
    (∀ e ∈ quiet, e.isTick = false) → letter ∈ t.mailbox → letter ∈ (t.after setup quiet).mailbox
  | [], _, _, h => h
  | e :: rest, t, hquiet, h => by
    have hstep : letter ∈ (t.step setup e).mailbox := by
      cases e with
      | phase phase => exact h
      | report number r => exact List.mem_append_left _ h
      | tick now snapshot engineName engineAvailable =>
        have htick := hquiet _ List.mem_cons_self
        nomatch htick
      | stop now => exact h
    show letter ∈ ((t.step setup e).after setup rest).mailbox
    exact mem_mailbox_after (fun e he => hquiet e (List.mem_cons_of_mem _ he)) hstep

/-- **What a run promises about its cycles.** -/
structure Accounted (setup : TickerSetup) (t : Ticker) (events : List Event) : Prop where
  /-- They are numbered `1, 2, 3, …` as they are started. -/
  numbered : ∃ k, spawnedIn (t.notes setup events) = List.range' 1 k
  /-- At every moment one of them at most is neither taken in nor given up. -/
  single : ∀ ns, ns <+: t.notes setup events → (openIn ns).length ≤ 1
  /-- They are taken in in the order in which they were started. -/
  increasing : (absorbedIn (t.notes setup events)).Pairwise (· < ·)
  /-- No report is disposed of twice. -/
  once : (judgedIn (t.notes setup events)).Nodup
  /-- Every report is disposed of by the first tick after it, if there is one. -/
  settles : ∀ before number r quiet now snapshot engineName engineAvailable later,
    events = before ++ .report number r :: (quiet ++
      .tick now snapshot engineName engineAvailable :: later) →
    (∀ e ∈ quiet, e.isTick = false) →
    Settles { setup with engineName, engineAvailable } now snapshot
      (t.after setup (before ++ .report number r :: quiet))
      (t.notes setup (before ++ .report number r :: quiet)) number r
  /-- The reports that a tick counts as thrown away are the ones that it throws away. -/
  counted : ∀ before now snapshot engineName engineAvailable later,
    events = before ++ .tick now snapshot engineName engineAvailable :: later →
    ((t.after setup before).tick { setup with engineName, engineAvailable } now snapshot).1.discarded
      = (discardedIn ((Event.tick now snapshot engineName engineAvailable).notes setup
          (t.after setup before))).length
  /-- A cycle that a tick finds under way and leaves so is not late. -/
  punctual : ∀ before now snapshot engineName engineAvailable later,
    events = before ++ .tick now snapshot engineName engineAvailable :: later →
    ∀ number since, .spawned number since ∈ t.notes setup before →
      number ∈ openIn (t.notes setup (before ++ [.tick now snapshot engineName engineAvailable])) →
      now - since ≤ setup.settings.deadline
  /-- A tick starts a cycle just if the assistance is on, an engine is available and none is under way when
      it has taken in what came and given up what is late. -/
  launches : ∀ before now snapshot engineName engineAvailable later,
    events = before ++ .tick now snapshot engineName engineAvailable :: later →
    (((t.after setup before).tick { setup with engineName, engineAvailable } now
        snapshot).1.spawned.isSome = true ↔
      (∃ s, snapshot = some s ∧ s.engagement.enabled = true) ∧ engineAvailable = true ∧
        openIn (t.notes setup before ++ (t.after setup before).settling
          { setup with engineName, engineAvailable } now snapshot) = [])

/-- A cycle that was under way before a tick and still is has not been so for too long. -/
theorem punctual_tick (h : Ledger ns t.started t.flight) {number : Nat} {since : Duration}
    (hbegan : .spawned number since ∈ ns)
    (hopen : number ∈ openIn (ns ++ (t.settling setup now snapshot ++
      (t.settled setup now snapshot).launching setup now snapshot))) :
    now - since ≤ setup.settings.deadline := by
  have hsettled := ledger_settling setup now snapshot h
  have hlaunched := ledger_launching setup now snapshot hsettled
  rw [List.append_assoc] at hlaunched
  have hbegan' : .spawned number since ∈ ns ++ t.settling setup now snapshot :=
    List.mem_append_left _ hbegan
  have hle := (hsettled.mem_spawnedIn.mp (mem_numbersIn.mpr ⟨_, hbegan', rfl⟩)).2
  rw [hlaunched.openIn_eq, List.mem_map] at hopen
  obtain ⟨flight, hflight, rfl⟩ := hopen
  rw [Option.mem_toList] at hflight
  by_cases hready : (t.settled setup now snapshot).Ready setup snapshot
  · -- the cycle that is under way then has a higher number
    rw [launch_of_ready hready] at hflight
    obtain rfl := Option.some.inj hflight
    exact absurd hle (Nat.not_succ_le_self _)
  · rw [(launch_of_not_ready now hready).2.2] at hflight
    obtain rfl := hsettled.since_eq hflight hbegan'
    rcases (t.drain setup now snapshot).2.abandon_cases setup now with
      ⟨he, -, hdeadline⟩ | ⟨_, -, -, he, -⟩
    · rw [settled, he] at hflight
      exact hdeadline flight hflight
    · rw [settled, he] at hflight
      cases hflight

/-- A cycle is started when one can be, and the books say whether one is under way. -/
theorem launches_tick (h : Ledger ns t.started t.flight) :
    (t.tick setup now snapshot).1.spawned.isSome = true ↔
      (∃ s, snapshot = some s ∧ s.engagement.enabled = true) ∧ setup.engineAvailable = true ∧
        openIn (ns ++ t.settling setup now snapshot) = [] := by
  have hidle : openIn (ns ++ t.settling setup now snapshot) = [] ↔
      (t.settled setup now snapshot).flight = none := by
    rw [(ledger_settling setup now snapshot h).openIn_eq, List.map_eq_nil_iff,
      Option.toList_eq_nil_iff]
  rw [hidle]
  show ((t.settled setup now snapshot).launch setup now snapshot).1.isSome = true ↔ _
  constructor
  · intro hsome
    by_contra hcannot
    rw [(launch_of_not_ready now fun hr => hcannot ⟨hr.enabled, hr.engine, hr.idle⟩).1] at hsome
    nomatch hsome
  · rintro ⟨henabled, hengine, hflight⟩
    rw [launch_of_ready ⟨henabled, hengine, hflight⟩]
    rfl

/-- What a tick counts as thrown away. -/
theorem counted_tick (now : Duration) (snapshot : Option Snapshot) (engineName : String)
    (engineAvailable : Bool) (t : Ticker) :
    (t.tick { setup with engineName, engineAvailable } now snapshot).1.discarded =
      (discardedIn ((Event.tick now snapshot engineName engineAvailable).notes setup t)).length := by
  rw [discardedIn, numbersIn_tick (fun _ => rfl) (fun _ _ => rfl)]
  exact drain_discarded

/-- **Every cycle of an orderly run is accounted for.** -/
theorem accounted (opened : Duration) {events : List Event}
    (h : Orderly setup (Ticker.opened setup opened) events) :
    Accounted setup (Ticker.opened setup opened) events where
  numbered := ⟨_, (ledger_after setup opened events).spawnedIn_eq⟩
  single ns hns := by
    obtain ⟨k, f, hledger⟩ := (ledger_after setup opened events).of_initial hns
    exact hledger.openIn_length
  increasing := (ledger_after setup opened events).absorbedIn_pairwise
  once := (List.nodup_append.mp (sentIn_notes setup opened events ▸ h.sent.1)).1
  settles before number r quiet now snapshot engineName engineAvailable later he hquiet := by
    have hbefore : Orderly setup (Ticker.opened setup opened)
        (before ++ .report number r :: quiet) := by
      refine Orderly.of_append (.tick now snapshot engineName engineAvailable :: later) ?_
      rw [List.append_assoc, List.cons_append, ← he]
      exact h
    refine hbefore.settles ?_ engineName engineAvailable now snapshot
    rw [List.append_cons, after_append, after_snoc]
    exact mem_mailbox_after hquiet (List.mem_append_right _ (List.mem_singleton_self _))
  counted before now snapshot engineName engineAvailable later he := counted_tick _ _ _ _ _
  punctual before now snapshot engineName engineAvailable later he number since hbegan hopen := by
    rw [notes_snoc] at hopen
    exact @punctual_tick { setup with engineName, engineAvailable } now snapshot _ _
      (ledger_after setup opened before) number since hbegan hopen
  launches before now snapshot engineName engineAvailable later he :=
    launches_tick (ledger_after setup opened before)

/-- A cycle is given up after twenty seconds, and reports when the next one does. -/
def overtaken : List Event :=
  [.tick 0 (some driving) "engine" true, .tick (Duration.ofSeconds 20) (some driving) "engine" true,
    .report 1 (speedReport 40), .report 2 (speedReport 30),
    .tick (Duration.ofSeconds 21) (some driving) "engine" true]

theorem orderly_overtaken : Orderly fresh (Ticker.opened fresh 0) overtaken := by
  show Orderly fresh (Ticker.opened fresh 0) ((((([] ++ [_]) ++ [_]) ++ [_]) ++ [_]) ++ [_])
  simp only [orderly_snoc]
  refine ⟨⟨⟨⟨⟨orderly_nil, trivial⟩, trivial⟩, ?_⟩, ?_⟩, trivial⟩
  · exact ⟨by decide, by decide⟩
  · exact ⟨by decide, by decide⟩

/-- The first one's report is thrown away, and the second one's taken in. -/
theorem accounted_overtaken : Orderly fresh (Ticker.opened fresh 0) overtaken ∧
    Accounted fresh (Ticker.opened fresh 0) overtaken ∧
    (Ticker.opened fresh 0).notes fresh overtaken =
      [.spawned 1 0, .abandoned 1, .spawned 2 (Duration.ofSeconds 20), .sent 1, .sent 2,
        .discarded 1, .absorbed 2, .spawned 3 (Duration.ofSeconds 21)] :=
  ⟨orderly_overtaken, accounted 0 orderly_overtaken, by decide⟩

end DriveAdvisory.Ticker
