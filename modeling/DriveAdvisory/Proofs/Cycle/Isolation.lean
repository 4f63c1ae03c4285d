/-
  Invocations that come to nothing.

  An invocation fails if nobody knows its name, if the name is a lesson's, or if the arguments do not fit
  (`Fails`).  Each of these shows before anything is done, so it does not depend on the world and leaves no trace
  in it.  A cycle whose engine names such invocations therefore is, to the last byte of its report and of the
  world, the cycle of an engine that leaves them out (`Isolated.pruned`).

  Of the other invocations each meets the world that the one before it left, and is told of by `Acted`: what its
  skill proposes counts, under the name that was invoked and with the skill's place in the catalogue, unless it
  proposes nothing.
-/
import DriveAdvisory.Cycle.Pipeline
import DriveAdvisory.Proofs.Skill.Catalogue

namespace DriveAdvisory

/-! ## Failing -/

namespace Catalogue

variable {c : Catalogue Run} {i : Invocation} {place : Nat} {k : Skill Run}

/-- What proofs ask of a catalogue: names stand once, and skills read their arguments first. -/
structure Sound (c : Catalogue Run) : Prop where
  distinct : c.Distinct
  readsFirst : ∀ k, .skill k ∈ c.entries → k.ReadsFirst

theorem sound_builtin : builtin.Sound :=
  ⟨distinct_builtin, fun _ hk => Skill.readsFirst_of_mem (mem_builtin_of_skill hk)⟩

/-- Why an invocation comes to nothing. -/
inductive Fails (c : Catalogue Run) (i : Invocation) : Prop
  | unknown (h : ∀ entry ∈ c.entries, entry.name ≠ i.name)
  | lesson (l : Lesson) (h : .lesson l ∈ c.entries) (hname : l.name = i.name)
  | misfit (k : Skill Run) (h : .skill k ∈ c.entries) (hname : k.name = i.name)
    (hrefuses : k.Refuses i.arguments)

/-- The skill that is invoked, and its place. -/
structure Serves (c : Catalogue Run) (i : Invocation) (place : Nat) (k : Skill Run) : Prop where
  entry : c.entries[place]? = some (.skill k)
  name : k.name = i.name

theorem Distinct.find?_of_name (h : c.Distinct) {entry : Capability Run} (hentry : entry ∈ c.entries)
    (hname : entry.name = i.name) : c.find? i.name = some entry :=
  hname ▸ h.find?_eq hentry

/-- Every invocation fails, or it has a skill that takes its arguments. -/
theorem Sound.fails_or_serves (h : c.Sound) (i : Invocation) :
    c.Fails i ∨ ∃ place k, c.Serves i place k ∧ k.Accepts i.arguments := by
  cases hfound : c.find? i.name with
  | none => exact .inl (.unknown (find?_eq_none_iff.mp hfound))
  | some entry =>
    obtain ⟨hentry, hname⟩ := mem_of_find? hfound
    cases entry with
    | lesson l => exact .inl (.lesson l hentry hname)
    | skill k =>
      rcases (h.readsFirst k hentry).accepts_or_refuses i.arguments with haccepts | hrefuses
      · obtain ⟨place, hplace⟩ := List.mem_iff_getElem?.mp hentry
        exact .inr ⟨place, k, ⟨hplace, hname⟩, haccepts⟩
      · exact .inl (.misfit k hentry hname hrefuses)

end Catalogue

namespace Pipeline

variable {p : Pipeline} {s : Snapshot} {i : Invocation} {w : World} {place : Nat} {k : Skill Run}

/-- A proposal under the name that was invoked, with the place of its skill. -/
def stamped (i : Invocation) (place : Nat) (q : Proposal) : Proposal :=
  { q with skill := i.name, rank := place }

/-- An invocation that fails is answered with a fault, and nothing else happens. -/
theorem execute_of_fails (hdistinct : p.catalogue.Distinct) (h : p.catalogue.Fails i)
    (s : Snapshot) (w : World) : ∃ fault, p.execute s i w = (.error fault, w) := by
  unfold execute Catalogue.skill
  cases h with
  | unknown h =>
    rw [Catalogue.find?_eq_none_iff.mpr h]
    exact ⟨_, rfl⟩
  | lesson l h hname =>
    rw [hdistinct.find?_of_name h hname]
    exact ⟨_, rfl⟩
  | misfit k h hname hrefuses =>
    obtain ⟨message, hrun⟩ := hrefuses
    rw [hdistinct.find?_of_name h hname]
    refine ⟨.invalidArguments k.name message, ?_⟩
    show (let (result, w') := k.run p.surroundings i.arguments s w
      (result.map _, w')) = _
    rw [hrun]
    rfl

/-- Every other one runs its skill. -/
theorem execute_of_serves (hdistinct : p.catalogue.Distinct) (h : p.catalogue.Serves i place k)
    (s : Snapshot) (w : World) :
    p.execute s i w =
      ((k.run p.surroundings i.arguments s w).1.map (stamped i place),
        (k.run p.surroundings i.arguments s w).2) := by
  have hfound := hdistinct.find?_of_name (List.mem_of_getElem? h.entry) h.name
  have hrank : p.catalogue.rank? i.name = some place := h.name ▸ hdistinct.rank?_eq h.entry
  unfold execute Catalogue.skill
  rw [hfound, hrank]
  rfl

/-- Running the invocation leads to a fault. -/
def fails (p : Pipeline) (s : Snapshot) (w : World) (i : Invocation) : Bool :=
  !(p.execute s i w).1.isOk

/-- **An invocation fails** for one of three reasons, wherever it is run. -/
theorem fails_iff (h : p.catalogue.Sound) (s : Snapshot) (w : World) (i : Invocation) :
    p.fails s w i = true ↔ p.catalogue.Fails i := by
  constructor
  · intro hfails
    rcases h.fails_or_serves i with hf | ⟨place, k, hserves, haccepts⟩
    · exact hf
    · obtain ⟨q, hq⟩ := haccepts p.surroundings s w
      rw [fails, execute_of_serves h.distinct hserves, hq] at hfails
      nomatch hfails
  · intro hf
    obtain ⟨fault, hfault⟩ := execute_of_fails h.distinct hf s w
    rw [fails, hfault]
    rfl

/-- Leaves out the invocations that fail. -/
def prune (p : Pipeline) (s : Snapshot) (w : World) (reply : Reply) : Reply :=
  { reply with invocations := reply.invocations.filter fun i => !p.fails s w i }

/-- The pipeline with an engine that answers in the same time, but for the invocations that fail. -/
def pruned (p : Pipeline) (s : Snapshot) (w : World) : Pipeline :=
  { p with engine := { p.engine with ask := fun q w₀ =>
      let (outcome, w₁) := p.engine.ask q w₀
      ({ outcome with result := outcome.result.map (p.prune s w) }, w₁) } }

end Pipeline

namespace Cycle

variable {p : Pipeline} {s : Snapshot} {w : World}

/-! ## Running invocations -/

/-- What a result adds to the proposals. -/
def counted : Except Fault Proposal → List Proposal
  | .ok q => if q.isEmpty then [] else [q]
  | .error _ => []

theorem reportResult_eq (result : Except Fault Proposal) (r : Report) :
    reportResult result r = { r with proposals := r.proposals ++ counted result } := by
  cases result with
  | error fault => simp [reportResult, counted]
  | ok q =>
    simp only [reportResult, counted]
    split
    · rw [List.append_nil]
    · rfl

/-- Runs invocations one after the other. -/
def act (p : Pipeline) (s : Snapshot) : List Invocation → World → List Proposal × World
  | [], w => ([], w)
  | i :: left, w =>
    let (result, w) := p.execute s i w
    let (more, w) := act p s left w
    (counted result ++ more, w)

/-- What invocations are to lead to. -/
inductive Acted (p : Pipeline) (s : Snapshot) :
    World → List Invocation → List Proposal → World → Prop
  | done (w : World) : Acted p s w [] [] w
  | fails {w w' : World} {i : Invocation} {left : List Invocation} {made : List Proposal}
      (hfails : p.catalogue.Fails i) (rest : Acted p s w left made w') :
      Acted p s w (i :: left) made w'
  | silent {w w₁ w' : World} {i : Invocation} {left : List Invocation} {made : List Proposal}
      {place : Nat} {k : Skill Run} {q : Proposal} (hserves : p.catalogue.Serves i place k)
      (hrun : k.run p.surroundings i.arguments s w = (.ok q, w₁)) (hempty : q.isEmpty = true)
      (rest : Acted p s w₁ left made w') :
      Acted p s w (i :: left) made w'
  | proposes {w w₁ w' : World} {i : Invocation} {left : List Invocation} {made : List Proposal}
      {place : Nat} {k : Skill Run} {q : Proposal} (hserves : p.catalogue.Serves i place k)
      (hrun : k.run p.surroundings i.arguments s w = (.ok q, w₁)) (hsome : q.isEmpty = false)
      (rest : Acted p s w₁ left made w') :
      Acted p s w (i :: left) (Pipeline.stamped i place q :: made) w'

theorem act_of_fails (h : p.catalogue.Distinct) {i : Invocation} (hf : p.catalogue.Fails i)
    (left : List Invocation) (w : World) : act p s (i :: left) w = act p s left w := by
  obtain ⟨fault, hfault⟩ := Pipeline.execute_of_fails h hf s w
  simp only [act, hfault, counted, List.nil_append]

theorem act_of_serves (h : p.catalogue.Distinct) {i : Invocation} {place : Nat} {k : Skill Run}
    (hserves : p.catalogue.Serves i place k) {q : Proposal} {w₁ : World}
    (hrun : k.run p.surroundings i.arguments s w = (.ok q, w₁)) (left : List Invocation) :
    act p s (i :: left) w =
      (counted (.ok (Pipeline.stamped i place q)) ++ (act p s left w₁).1, (act p s left w₁).2) := by
  have hexecute := Pipeline.execute_of_serves h hserves s w
  rw [hrun] at hexecute
  simp only [act, hexecute, Except.map]

/-- **Invocations lead to** exactly what they are to lead to. -/
theorem acted_iff (h : p.catalogue.Sound) (left : List Invocation) {made : List Proposal}
    {w' : World} : Acted p s w left made w' ↔ act p s left w = (made, w') := by
  constructor
  · intro hacted
    induction hacted with
    | done w => rfl
    | fails hfails rest ih => rw [act_of_fails h.distinct hfails, ih]
    | silent hserves hrun hempty rest ih =>
      rw [act_of_serves h.distinct hserves hrun, ih]
      exact congrArg (· ++ _, _) (if_pos hempty)
    | proposes hserves hrun hsome rest ih =>
      rw [act_of_serves h.distinct hserves hrun, ih, counted, if_neg]
      · rfl
      · exact Bool.eq_false_iff.mp hsome
  · induction left generalizing w made with
    | nil =>
      rintro ⟨⟩
      exact .done _
    | cons i left ih =>
      intro hact
      rcases h.fails_or_serves i with hfails | ⟨place, k, hserves, haccepts⟩
      · rw [act_of_fails h.distinct hfails] at hact
        exact .fails hfails (ih hact)
      · obtain ⟨q, hq⟩ := haccepts p.surroundings s w
        have hrun : k.run p.surroundings i.arguments s w =
            (.ok q, (k.run p.surroundings i.arguments s w).2) := Prod.ext hq rfl
        rw [act_of_serves h.distinct hserves hrun] at hact
        obtain ⟨rfl, rfl⟩ := Prod.mk.inj hact
        cases hempty : q.isEmpty with
        | true =>
          have hnone : counted (.ok (Pipeline.stamped i place q)) = [] := if_pos hempty
          rw [hnone]
          exact .silent hserves hrun hempty (ih rfl)
        | false =>
          have hone : counted (.ok (Pipeline.stamped i place q)) = [Pipeline.stamped i place q] :=
            if_neg (Bool.eq_false_iff.mp hempty)
          rw [hone]
          exact .proposes hserves hrun hempty (ih rfl)

/-! ## Whole cycles -/

/-- What the engine makes of a question, as far as that comes in time. -/
def consult (p : Pipeline) (q : Question) (w : World) : Outcome × World :=
  let (outcome, w) := p.engine.ask q { w with questions := w.questions + 1 }
  (outcome.within p.timeout, w)

/-- The engine's answer in a cycle, if it is asked and answers in time, and the world in which the invocations of
    the answer are run. -/
def answer? (p : Pipeline) (s : Snapshot) (now : Duration) (w : World) : Option (Reply × World) :=
  match p.question s with
  | .error _ => none
  | .ok q =>
    let (outcome, w) := consult p q (w.atTime now)
    match outcome.result with
    | .error _ => none
    | .ok reply => some (reply, w.atTime (now + outcome.took))

theorem answer?_eq_some_iff {now : Duration} {reply : Reply} {w₁ : World} :
    answer? p s now w = some (reply, w₁) ↔ ∃ q took w₂, p.question s = .ok q ∧
      consult p q (w.atTime now) = (⟨.ok reply, took⟩, w₂) ∧ w₁ = w₂.atTime (now + took) := by
  unfold answer?
  cases hq : p.question s with
  | error fault => simp
  | ok q =>
    rcases hasked : consult p q (w.atTime now) with ⟨⟨result, took⟩, w₂⟩
    cases result with
    | error fault => simp [hasked]
    | ok reply' =>
      simp only [hasked, Option.some.injEq, Prod.mk.injEq]
      constructor
      · rintro ⟨rfl, rfl⟩
        exact ⟨q, took, w₂, rfl, hasked, rfl⟩
      · rintro ⟨q', took', w', hq', hasked', rfl⟩
        obtain rfl := Except.ok.inj hq'
        rw [hasked] at hasked'
        obtain ⟨houtcome, rfl⟩ := Prod.mk.inj hasked'
        obtain ⟨hreply, rfl⟩ := Outcome.mk.inj houtcome
        exact ⟨Except.ok.inj hreply, rfl⟩

/-- The report of a cycle that asked. -/
def askedReport (took : Duration) : Report :=
  { Report.enter .buildingContext {} with latency := took }.enter .awaitingReasoning

/-- The end of a cycle whose engine answered. -/
def concluded (p : Pipeline) (s : Snapshot) (r : Report) (acted : List Proposal × World) :
    Cycle × World :=
  ({ snapshot := s
     report := (reportMerge p { r with proposals := r.proposals ++ acted.1 }).enter .merging
     stage := .finished, due := acted.2.now }, acted.2)

/-- Once it acts, a cycle goes through its invocations and merges. -/
theorem steps_acting (p : Pipeline) (s : Snapshot) (left : List Invocation) (r : Report)
    (due : Duration) (w : World) :
    steps p (left.length + 1) ⟨s, r, .acting left, due⟩ w =
      concluded p s r (act p s left (w.atTime due)) := by
  induction left generalizing r due w with
  | nil =>
    simp only [act, concluded, List.append_nil]
    rfl
  | cons i left ih =>
    show steps p (left.length + 1)
      ⟨s, reportResult (p.execute s i (w.atTime due)).1 r, .acting left,
        (p.execute s i (w.atTime due)).2.now⟩ (p.execute s i (w.atTime due)).2 = _
    rw [ih, reportResult_eq]
    -- the next invocation is run at the time at which this one was done
    simp only [concluded, act, List.append_assoc]
    rfl

/-- A cycle begins with the context, and with the question if there is one. -/
theorem run_eq (p : Pipeline) (s : Snapshot) (now : Duration) (w : World) :
    run p s now w =
      let (c, w) := step p ⟨s, Report.enter .buildingContext {}, .building, now⟩ (w.atTime now)
      steps p c.2.stepsLeft c.2 w := rfl

/-- A cycle that has no question ends there. -/
theorem run_of_unasked {now : Duration} {fault : Fault} (hq : p.question s = .error fault)
    (w : World) : run p s now w =
      (⟨s, { Report.enter .buildingContext {} with fault := some fault }.enter .idle, .finished, now⟩,
        w.atTime now) := by
  rw [run_eq]
  simp only [step, hq]
  rfl

/-- A cycle that has a question goes on with what comes of it. -/
theorem run_of_asked {now : Duration} {q : Question} {outcome : Outcome} {w₁ : World}
    (hq : p.question s = .ok q) (hasked : consult p q (w.atTime now) = (outcome, w₁)) :
    run p s now w =
      let c : Cycle := ⟨s, askedReport outcome.took, .waiting outcome.result, now + outcome.took⟩
      steps p c.stepsLeft c w₁ := by
  have hbuilding : step p ⟨s, Report.enter .buildingContext {}, .building, now⟩ (w.atTime now) =
      let (outcome, w) := consult p q (w.atTime now)
      ((some .awaitingReasoning,
        ⟨s, askedReport outcome.took, .waiting outcome.result, now + outcome.took⟩), w) := by
    simp only [step, hq]
    rfl
  rw [run_eq, hbuilding, hasked]

/-- A cycle that gets no answer tells why. -/
theorem run_of_unanswered {now took : Duration} {q : Question} {fault : Fault} {w₁ : World}
    (hq : p.question s = .ok q)
    (hasked : consult p q (w.atTime now) = (⟨.error fault, took⟩, w₁)) :
    run p s now w =
      (⟨s, (reportFailure p fault (askedReport took)).enter .merging |>.enter .idle, .finished,
        now + took⟩, w₁.atTime (now + took)) := by
  rw [run_of_asked hq hasked]
  rfl

/-- A cycle that gets one runs the invocations of the answer. -/
theorem run_of_answered {now took : Duration} {q : Question} {reply : Reply} {w₁ : World}
    (hq : p.question s = .ok q)
    (hasked : consult p q (w.atTime now) = (⟨.ok reply, took⟩, w₁)) :
    run p s now w =
      concluded p s ((reportReply reply (askedReport took)).enter .executing)
        (act p s reply.invocations (w₁.atTime (now + took))) := by
  rw [run_of_asked hq hasked]
  exact steps_acting p s reply.invocations _ (now + took) (w₁.atTime (now + took))

/-! ## Leaving out what fails -/

/-- What fails need not be run. -/
theorem act_filter (h : p.catalogue.Sound) (w₀ : World) (left : List Invocation) (w : World) :
    act p s (left.filter fun i => !p.fails s w₀ i) w = act p s left w := by
  induction left generalizing w with
  | nil => rfl
  | cons i left ih =>
    cases hfails : p.fails s w₀ i with
    | true =>
      rw [List.filter_cons_of_neg (by simp [hfails]), ih,
        act_of_fails h.distinct ((Pipeline.fails_iff h s w₀ i).mp hfails)]
    | false =>
      rw [List.filter_cons_of_pos (by simp [hfails])]
      simp only [act, ih]

theorem act_pruned (w₀ : World) (left : List Invocation) (w : World) :
    act (p.pruned s w₀) s left w = act p s left w := by
  induction left generalizing w with
  | nil => rfl
  | cons i left ih =>
    simp only [act, ih]
    rfl

theorem within_map (f : Reply → Reply) (limit : Duration) (o : Outcome) :
    Outcome.within limit { o with result := o.result.map f } =
      { o.within limit with result := (o.within limit).result.map f } := by
  unfold Outcome.within
  split <;> rfl

/-- The pruned engine takes as long, so its answer comes in time if the other one does. -/
theorem consult_pruned (w₀ : World) (q : Question) (w : World) :
    consult (p.pruned s w₀) q w =
      ({ (consult p q w).1 with result := (consult p q w).1.result.map (p.prune s w₀) },
        (consult p q w).2) :=
  congrArg (·, (consult p q w).2) (within_map (p.prune s w₀) p.timeout _)

/-- **Invocations that fail can be left out** of the answer, and the cycle and the world are the same. -/
theorem run_pruned (h : p.catalogue.Sound) (s : Snapshot) (now : Duration) (w w₀ : World) :
    run (p.pruned s w₀) s now w = run p s now w := by
  cases hq : p.question s with
  | error fault => rw [run_of_unasked hq, run_of_unasked (p := p.pruned s w₀) hq]
  | ok q =>
    rcases hasked : consult p q (w.atTime now) with ⟨⟨result, took⟩, w₁⟩
    have hpruned := consult_pruned (p := p) (s := s) w₀ q (w.atTime now)
    rw [hasked] at hpruned
    cases result with
    | error fault =>
      rw [run_of_unanswered hq hasked, run_of_unanswered (p := p.pruned s w₀) hq hpruned]
      rfl
    | ok reply =>
      rw [run_of_answered hq hasked, run_of_answered (p := p.pruned s w₀) hq hpruned, act_pruned,
        Pipeline.prune, act_filter h]
      rfl

/-- What a cycle owes to invocations that fail. -/
structure Isolated (p : Pipeline) (s : Snapshot) (now : Duration) (w : World) : Prop where
  /-- They fail for one of three reasons, wherever they are run, -/
  fails_iff : ∀ i s' w', p.fails s' w' i = true ↔ p.catalogue.Fails i
  /-- and when they are run nothing else happens. -/
  harmless : ∀ i s' w', p.catalogue.Fails i → ∃ fault, p.execute s' i w' = (.error fault, w')
  /-- The proposals are those of the other invocations. -/
  acted : ∀ reply w₁, answer? p s now w = some (reply, w₁) →
    Acted p s w₁ reply.invocations (run p s now w).1.report.proposals (run p s now w).2
  /-- Without an answer there are none. -/
  unanswered : answer? p s now w = none → (run p s now w).1.report.proposals = []
  /-- The cycle is that of an engine that leaves them out. -/
  pruned : run (p.pruned s w) s now w = run p s now w

theorem isolated_of_sound (h : p.catalogue.Sound) (s : Snapshot) (now : Duration) (w : World) :
    Isolated p s now w := by
  refine ⟨fun i s' w' => Pipeline.fails_iff h s' w' i,
    fun i s' w' hf => Pipeline.execute_of_fails h.distinct hf s' w', ?_, ?_, run_pruned h s now w w⟩
  · intro reply w₁ hanswer
    obtain ⟨q, took, w₂, hq, hasked, rfl⟩ := answer?_eq_some_iff.mp hanswer
    rw [run_of_answered hq hasked]
    exact (acted_iff h reply.invocations).mpr rfl
  · intro hanswer
    cases hq : p.question s with
    | error fault =>
      rw [run_of_unasked hq]
      rfl
    | ok q =>
      rcases hasked : consult p q (w.atTime now) with ⟨⟨result, took⟩, w₁⟩
      cases result with
      | error fault =>
        rw [run_of_unanswered hq hasked]
        rfl
      | ok reply =>
        have hsome := answer?_eq_some_iff.mpr ⟨q, took, w₁, hq, hasked, rfl⟩
        rw [hanswer] at hsome
        nomatch hsome

/-- **Failing invocations are isolated** from the rest of the cycle and from the world. -/
theorem isolated (p : Pipeline) (s : Snapshot) (now : Duration) (w : World) :
    Isolated { p with catalogue := .builtin } s now w :=
  isolated_of_sound Catalogue.sound_builtin s now w

end Cycle

end DriveAdvisory
