/-
  What a ticker takes in.

  A tick looks through the letters that came since the last one, and at most one of them matters: the first
  from the cycle in flight (`arrived?`).  All else about draining follows from that one, so `drain_of_arrived`
  and `drain_of_none` are the two forms in which it is used.

  A report that is taken in becomes an `Intake`: the report, the moment, and the speed that the channel or the
  vehicle gave as a reference.  What a tick leaves as current is what was current before, unless it took in an
  advisory, filtered (`tick_current`).
-/
import DriveAdvisory.Proofs.Cycle.Run

namespace DriveAdvisory.Ticker

variable {setup : TickerSetup} {now : Duration} {snapshot : Option Snapshot} {t : Ticker}

/-! ## Runs -/

/-- The ticker after a run. -/
def after (setup : TickerSetup) (t : Ticker) (events : List Event) : Ticker :=
  events.foldl (step setup) t

theorem after_append (events later : List Event) :
    t.after setup (events ++ later) = (t.after setup events).after setup later :=
  List.foldl_append

theorem after_snoc (events : List Event) (e : Event) :
    t.after setup (events ++ [e]) = (t.after setup events).step setup e :=
  after_append events [e]

/-! ## The letter that matters -/

/-- The letter from the cycle in flight, if one came; the first one, should there be more. -/
def arrived? (t : Ticker) : Option (Nat × Report) :=
  t.mailbox.find? fun letter => t.flight.map (·.number) = some letter.1

theorem arrived?_eq_some_iff {number : Nat} {r : Report} :
    t.arrived? = some (number, r) ↔ t.flight.map (·.number) = some number ∧
      ∃ before after, t.mailbox = before ++ (number, r) :: after ∧
        ∀ letter ∈ before, letter.1 ≠ number := by
  rw [arrived?, List.find?_eq_some_iff_append, decide_eq_true_iff]
  refine and_congr_right fun hflight => ?_
  constructor
  · rintro ⟨before, after, he, hbefore⟩
    refine ⟨before, after, he, ?_⟩
    intro letter hl heq
    have hno := hbefore letter hl
    rw [hflight, heq] at hno
    simp at hno
  · rintro ⟨before, after, he, hbefore⟩
    refine ⟨before, after, he, ?_⟩
    intro letter hl
    rw [hflight]
    simpa using fun heq => hbefore letter hl heq.symm

theorem arrived?_eq_none_iff : t.arrived? = none ↔
    ∀ letter ∈ t.mailbox, t.flight.map (·.number) ≠ some letter.1 := by
  rw [arrived?, List.find?_eq_none]
  simp only [decide_eq_true_iff, ne_eq]

/-- Whether a letter matters is a question of the cycle that it is from. -/
theorem arrived?_number_iff {number : Nat} : t.arrived?.map (·.1) = some number ↔
    t.flight.map (·.number) = some number ∧ number ∈ t.mailbox.map (·.1) := by
  constructor
  · intro h
    obtain ⟨⟨n, r⟩, harr, rfl⟩ := Option.map_eq_some_iff.mp h
    exact ⟨(arrived?_eq_some_iff.mp harr).1, List.mem_map_of_mem (List.mem_of_find?_eq_some harr)⟩
  · rintro ⟨hflight, hmem⟩
    obtain ⟨⟨n, r⟩, hletter, rfl⟩ := List.mem_map.mp hmem
    rcases harr : t.arrived? with _ | ⟨n', r'⟩
    · exact absurd hflight (arrived?_eq_none_iff.mp harr (n, r) hletter)
    · rw [← hflight, (arrived?_eq_some_iff.mp harr).1]
      rfl

theorem drain_of_none (h : t.arrived? = none) :
    t.drain setup now snapshot = (t.mailbox.length, { t with mailbox := [] }) := by
  rcases t.drain_cases setup now snapshot with
    ⟨-, he⟩ | ⟨before, number, r, after, hmail, hflight, -, -⟩
  · exact he
  · refine absurd hflight (arrived?_eq_none_iff.mp h (number, r) ?_)
    rw [hmail]
    exact List.mem_append_right _ List.mem_cons_self

theorem drain_of_arrived {number : Nat} {r : Report} (h : t.arrived? = some (number, r)) :
    t.drain setup now snapshot = (t.mailbox.length - 1,
      { t with mailbox := [], flight := none }.absorb setup now snapshot r) := by
  rcases t.drain_cases setup now snapshot with
    ⟨hstale, -⟩ | ⟨before, number', r', after, hmail, hflight, hbefore, he⟩
  · rw [arrived?_eq_none_iff.mpr hstale] at h
    nomatch h
  · -- the letter that draining found is the one that `arrived?` finds
    have hsame := arrived?_eq_some_iff.mpr ⟨hflight, before, after, hmail, hbefore⟩
    rw [h] at hsame
    obtain ⟨rfl, rfl⟩ := Prod.mk.inj (Option.some.inj hsame)
    rw [he, hmail]
    congr 1
    simp only [List.length_append, List.length_cons]
    omega

theorem absorb_mailbox (r : Report) : (t.absorb setup now snapshot r).mailbox = t.mailbox := by
  rw [absorb]
  split <;> rfl

theorem drain_mailbox : (t.drain setup now snapshot).2.mailbox = [] := by
  rcases h : t.arrived? with _ | ⟨number, r⟩
  · rw [drain_of_none h]
  · rw [drain_of_arrived h, absorb_mailbox]

/-! ## Intakes -/

/-- A report that was taken in. -/
structure Intake where
  number : Nat
  report : Report
  moment : Duration
  /-- What the step of its speed is limited against. -/
  reference : Option Single

/-- What comes of it for the planner, if its cycle came to an advisory. -/
def Intake.filtered? (limits : Limits) (i : Intake) : Option (Advisory × Duration) :=
  i.report.merged.map fun merged => (limits.enforce merged i.reference, i.moment)

/-- What a tick takes in. -/
def intake? (now : Duration) (snapshot : Option Snapshot) (t : Ticker) : Option Intake :=
  t.arrived?.map fun letter => ⟨letter.1, letter.2, now, t.reference snapshot⟩

/-- Which report is taken in, and when, does not depend on a snapshot. -/
theorem intake?_report (now : Duration) (snapshot : Option Snapshot) (t : Ticker) :
    (t.intake? now snapshot).map (fun i => (i.number, i.report)) = t.arrived? := by
  rw [intake?, Option.map_map]
  exact Option.map_id'

/-- **A tick** goes on with what is current, unless it takes in an advisory. -/
theorem tick_current (setup : TickerSetup) (now : Duration) (snapshot : Option Snapshot)
    (t : Ticker) : (t.tick setup now snapshot).2.current =
      ((t.intake? now snapshot).bind (·.filtered? setup.limits)).or t.current := by
  rw [(tick_eq setup now snapshot t).1, intake?]
  rcases h : t.arrived? with _ | ⟨number, r⟩
  · rw [drain_of_none h]
    rfl
  · rw [drain_of_arrived h, absorb]
    cases hm : r.merged with
    | none => simp [Intake.filtered?, hm]
    | some merged =>
      simp only [Option.map_some, Option.bind_some, Intake.filtered?, hm, Option.some_or]
      rfl

/-- A tick publishes what is due by what is current when it is over. -/
theorem tick_latest (setup : TickerSetup) (now : Duration) (snapshot : Option Snapshot)
    (t : Ticker) : (t.tick setup now snapshot).2.advisories.latest = ⟨t.advisories.latest.seq + 1,
      setup.calendar now, (t.tick setup now snapshot).2.advisory setup now⟩ := by
  obtain ⟨hcurrent, hlatest⟩ := tick_eq setup now snapshot t
  rw [hlatest, advisory_of_current hcurrent]

/-- What is taken in was reported. -/
theorem mem_mailbox_of_intake {i : Intake} (h : t.intake? now snapshot = some i) :
    (i.number, i.report) ∈ t.mailbox := by
  have hi := intake?_report now snapshot t
  rw [h] at hi
  exact List.mem_of_find?_eq_some hi.symm

end DriveAdvisory.Ticker
