/-
  To whom a chain of engines puts a question, and what it says in the end.

  Asking an engine changes something, be it only what the engine has heard (`σ`).  So whom a chain asks can be told
  from what it leaves behind: `Asked` is the record of a conversation, engine by engine, and each asking starts from
  what the one before it has left.  That a conversation took place means that these engines were asked in this order,
  each once, and nobody else was.

  `Course` says which conversations a chain may have, and what comes of each of them:

  * the available engines in front of one were asked in vain, that one answers, and its answer is passed on;
  * all available engines were asked in vain, and the failure of the last one is passed on;
  * no engine is available, and nobody is asked.

  The recursion of `askFrom` carries what came of the engines before the next one, so it is described from any point
  on (`askFrom_cases`), and a chain is the case in which there were none.  An engine may be a chain itself; nothing is
  asked of the engines.
-/
import DriveAdvisory.Reasoning.Chain

namespace DriveAdvisory.Chain

variable {σ : Type} {q : Question}

/-! ## Conversations -/

/-- An engine that was asked, and what came of it. -/
structure Asking (σ : Type) where
  engine : Engine σ
  outcome : Outcome

/-- Asking was in vain. -/
def Asking.InVain (a : Asking σ) : Prop := ∃ fault, a.outcome.result = .error fault

/-- One engine after the other is asked, and each asking starts from what the one before it leaves. -/
inductive Asked (q : Question) : σ → List (Asking σ) → σ → Prop
  | nobody (s : σ) : Asked q s [] s
  | next {s t u : σ} {a : Asking σ} {rest : List (Asking σ)} (first : a.engine.ask q s = (a.outcome, t))
    (others : Asked q t rest u) : Asked q s (a :: rest) u

/-- How long a conversation took. -/
def duration : List (Asking σ) → Duration
  | [] => 0
  | a :: rest => a.outcome.took + duration rest

/-- The engines that can be asked, in order. -/
def ready (engines : List (Engine σ)) : List (Engine σ) := engines.filter (·.available)

theorem ready_cons_of_available {e : Engine σ} (h : e.available = true) (rest : List (Engine σ)) :
    ready (e :: rest) = e :: ready rest := List.filter_cons_of_pos h

theorem ready_cons_of_not_available {e : Engine σ} (h : e.available = false)
    (rest : List (Engine σ)) : ready (e :: rest) = ready rest :=
  List.filter_cons_of_neg (by rw [h]; exact Bool.false_ne_true)

/-- The failure that counts: that of the last asking, or the given one if there was none. -/
def Counts (failure : Fault) (askings : List (Asking σ)) (fault : Fault) : Prop :=
  askings = [] ∧ fault = failure ∨
    ∃ vain last, askings = vain ++ [last] ∧ last.outcome.result = .error fault

theorem Counts.cons {failure fault : Fault} {a : Asking σ} {askings : List (Asking σ)}
    (ha : a.outcome.result = .error failure) (h : Counts failure askings fault) (earlier : Fault) :
    Counts earlier (a :: askings) fault := by
  rcases h with ⟨rfl, rfl⟩ | ⟨vain, last, rfl, hlast⟩
  · exact .inr ⟨[], a, rfl, ha⟩
  · exact .inr ⟨a :: vain, last, rfl, hlast⟩

/-! ## One engine of the chain -/

section Step

variable {place : Nat} {failure : Fault} {spent : Duration} {s t : σ} {e : Engine σ}
  {rest : List (Engine σ)} {o : Outcome}

theorem askFrom_of_not_available (h : e.available = false) :
    askFrom q place failure spent (e :: rest) s = askFrom q (place + 1) failure spent rest s := by
  rw [askFrom, h]
  rfl

theorem askFrom_of_ok {reply : Reply} (h : e.available = true) (hask : e.ask q s = (o, t))
    (hreply : o.result = .ok reply) : askFrom q place failure spent (e :: rest) s =
      (⟨.ok { reply with degraded := reply.degraded || decide (0 < place) }, spent + o.took⟩, t) := by
  rw [askFrom, if_pos h]
  simp only [bind, StateT.bind, hask, hreply]
  rfl

theorem askFrom_of_error {fault : Fault} (h : e.available = true) (hask : e.ask q s = (o, t))
    (hfault : o.result = .error fault) : askFrom q place failure spent (e :: rest) s =
      askFrom q (place + 1) fault (spent + o.took) rest t := by
  rw [askFrom, if_pos h]
  simp only [bind, StateT.bind, hask, hfault]

end Step

/-! ## The chain from some place on -/

/-- An engine of a chain answers, after those in front of it were asked in vain. -/
structure Answers (engines : List (Engine σ)) (askings : List (Asking σ))
    (front : List (Engine σ)) (e : Engine σ) (reply : Reply) : Prop where
  place : ∃ back, engines = front ++ e :: back
  available : e.available = true
  conversation : ∃ vain took, askings = vain ++ [⟨e, .ok reply, took⟩] ∧
    vain.map Asking.engine = ready front ∧ ∀ a ∈ vain, a.InVain

theorem Answers.cons_of_not_available {engines front : List (Engine σ)} {askings : List (Asking σ)}
    {e first : Engine σ} {reply : Reply} (h : Answers engines askings front e reply)
    (hfirst : first.available = false) :
    Answers (first :: engines) askings (first :: front) e reply where
  place := by
    obtain ⟨back, rfl⟩ := h.place
    exact ⟨back, rfl⟩
  available := h.available
  conversation := by
    rw [ready_cons_of_not_available hfirst]
    exact h.conversation

theorem Answers.cons_of_inVain {engines front : List (Engine σ)} {askings : List (Asking σ)}
    {e : Engine σ} {reply : Reply} (h : Answers engines askings front e reply) {a : Asking σ}
    (ha : a.engine.available = true) (hvain : a.InVain) :
    Answers (a.engine :: engines) (a :: askings) (a.engine :: front) e reply where
  place := by
    obtain ⟨back, rfl⟩ := h.place
    exact ⟨back, rfl⟩
  available := h.available
  conversation := by
    obtain ⟨vain, took, rfl, hengines, hall⟩ := h.conversation
    refine ⟨a :: vain, took, rfl, ?_, List.forall_mem_cons.mpr ⟨hvain, hall⟩⟩
    rw [ready_cons_of_available ha, List.map_cons, hengines]

/-- All available engines are asked in vain. -/
structure Fails (engines : List (Engine σ)) (askings : List (Asking σ)) : Prop where
  conversation : askings.map Asking.engine = ready engines
  vain : ∀ a ∈ askings, a.InVain

/-- **The chain from any place on**: the first engine to answer is the one that counts, and else the last failure. -/
theorem askFrom_cases (q : Question) : ∀ (engines : List (Engine σ)) (place : Nat) (failure : Fault)
    (spent : Duration) (s : σ), ∃ askings t, Asked q s askings t ∧
      ((∃ front e reply, Answers engines askings front e reply ∧
          askFrom q place failure spent engines s =
            (⟨.ok { reply with degraded := reply.degraded || decide (0 < place + front.length) },
              spent + duration askings⟩, t)) ∨
        ∃ fault, Fails engines askings ∧ Counts failure askings fault ∧
          askFrom q place failure spent engines s = (⟨.error fault, spent + duration askings⟩, t))
  | [], place, failure, spent, s =>
    ⟨[], s, .nobody s, .inr ⟨failure, ⟨rfl, nofun⟩, .inl ⟨rfl, rfl⟩, rfl⟩⟩
  | e :: rest, place, failure, spent, s => by
    cases hup : e.available with
    | false =>
      obtain ⟨askings, t, hasked, hcases⟩ := askFrom_cases q rest (place + 1) failure spent s
      refine ⟨askings, t, hasked, ?_⟩
      rw [askFrom_of_not_available hup]
      rcases hcases with ⟨front, winner, reply, hanswers, hresult⟩ | ⟨fault, hfails, hcounts, hresult⟩
      · left
        refine ⟨e :: front, winner, reply, hanswers.cons_of_not_available hup, ?_⟩
        rw [hresult, List.length_cons, Nat.add_right_comm, Nat.add_assoc]
      · right
        refine ⟨fault, ⟨?_, hfails.vain⟩, hcounts, hresult⟩
        rw [ready_cons_of_not_available hup]
        exact hfails.conversation
    | true =>
      obtain ⟨⟨result, took⟩, u, hask⟩ : ∃ o u, e.ask q s = (o, u) := ⟨_, _, rfl⟩
      cases result with
      | ok reply =>
        refine ⟨[⟨e, .ok reply, took⟩], u, .next hask (.nobody u), .inl ⟨[], e, reply, ?_, ?_⟩⟩
        · exact ⟨⟨rest, rfl⟩, hup, [], took, rfl, rfl, nofun⟩
        · rw [askFrom_of_ok hup hask rfl]
          rfl
      | error first =>
        -- the rest of the chain is asked from what this engine has left, and its failure counts no longer
        obtain ⟨askings, t, hasked, hcases⟩ := askFrom_cases q rest (place + 1) first (spent + took) u
        have hvain : Asking.InVain ⟨e, .error first, took⟩ := ⟨first, rfl⟩
        have hspent : spent + took + duration askings =
            spent + duration (⟨e, .error first, took⟩ :: askings) := Nat.add_assoc _ _ _
        refine ⟨⟨e, .error first, took⟩ :: askings, t, .next hask hasked, ?_⟩
        rw [askFrom_of_error hup hask rfl, ← hspent]
        rcases hcases with ⟨front, winner, reply, hanswers, hresult⟩ |
          ⟨fault, hfails, hcounts, hresult⟩
        · left
          refine ⟨e :: front, winner, reply, hanswers.cons_of_inVain hup hvain, ?_⟩
          rw [hresult, List.length_cons, Nat.add_right_comm, Nat.add_assoc]
        · right
          refine ⟨fault, ⟨?_, List.forall_mem_cons.mpr ⟨hvain, hfails.vain⟩⟩, hcounts.cons rfl failure,
            hresult⟩
          rw [ready_cons_of_available hup, List.map_cons, hfails.conversation]

/-! ## The chain -/

/-- How a question to a chain goes: who is asked, and what the chain says in the end. -/
inductive Course (engines : List (Engine σ)) : List (Asking σ) → Except Fault Reply → Prop
  /-- The answer of an engine is passed on, marked as degraded if the engine is not the first of the chain. -/
  | answered {askings : List (Asking σ)} {front : List (Engine σ)} {e : Engine σ} {reply : Reply}
    (answers : Answers engines askings front e reply) :
    Course engines askings (.ok { reply with degraded := reply.degraded || !front.isEmpty })
  /-- The failure of the last one is passed on. -/
  | failed {vain : List (Asking σ)} {last : Asking σ} {fault : Fault}
    (fails : Fails engines (vain ++ [last])) (said : last.outcome.result = .error fault) :
    Course engines (vain ++ [last]) (.error fault)
  /-- There is nobody to ask. -/
  | nobody (none : ∀ e ∈ engines, e.available = false) :
    Course engines [] (.error (.reasoningFailed "no reasoning backend available"))

/-- **What a chain of engines promises.** -/
structure FallsBack (engines : List (Engine σ)) : Prop where
  /-- It has one of the conversations that it may have, says what that comes to, and takes as long. -/
  asked : ∀ q s, ∃ askings result t, Asked q s askings t ∧ Course engines askings result ∧
    (engine engines).ask q s = (⟨result, duration askings⟩, t)
  /-- It can be asked if one of its engines can. -/
  available : (engine engines).available = true ↔ ∃ e ∈ engines, e.available = true
  /-- It goes by the name of the first one that can be asked. -/
  name : (engine engines).name = match ready engines with
    | e :: _ => e.name
    | [] => "none"

theorem ready_eq_nil_iff {engines : List (Engine σ)} :
    ready engines = [] ↔ ∀ e ∈ engines, e.available = false := by
  simp [ready, List.filter_eq_nil_iff]

/-- **Every chain falls back**, whatever its engines are. -/
theorem falls_back (engines : List (Engine σ)) : FallsBack engines where
  asked q s := by
    obtain ⟨askings, t, hasked, hcases⟩ := askFrom_cases q engines 0 nobody 0 s
    rcases hcases with ⟨front, e, reply, hanswers, hresult⟩ | ⟨fault, hfails, hcounts, hresult⟩
    · have hplace : decide (0 < 0 + front.length) = !front.isEmpty := by
        cases front <;> simp
      rw [hplace, Nat.zero_add] at hresult
      exact ⟨askings, _, t, hasked, .answered hanswers, hresult⟩
    · rw [Nat.zero_add] at hresult
      refine ⟨askings, .error fault, t, hasked, ?_, hresult⟩
      rcases hcounts with ⟨rfl, rfl⟩ | ⟨vain, last, rfl, hlast⟩
      · exact .nobody (ready_eq_nil_iff.mp hfails.conversation.symm)
      · exact .failed hfails hlast
  available := List.any_eq_true
  name := by
    show ((engines.find? (·.available)).map (·.name)).getD "none" = _
    rw [← List.head?_filter, ← ready]
    cases ready engines <;> rfl

/-- An engine that cannot be asked is passed over, one that fails is not asked again, and those behind the one that
    answers are never asked. -/
example (q : Question) :
    let engine (name : String) (available : Bool) (result : Except Fault Reply) :
        Engine (List String) := ⟨name, available, fun _ heard => (⟨result, 1⟩, heard ++ [name])⟩
    ((Chain.engine [engine "a" false (.ok {}), engine "b" true (.error nobody),
      engine "c" true (.ok {}), engine "d" true (.ok {})]).ask q []).2 = ["b", "c"] := rfl

end DriveAdvisory.Chain
