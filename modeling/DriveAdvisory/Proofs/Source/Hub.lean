/-
  Clients on the hub.

  A visit on the hub is a visit to one client (`visit_fetch`), with a query that is made of requests and touches
  nothing but their list (`Asks`).  All that is known of clients therefore holds of those on the hub, and a visit
  to one of them leaves the others alone (`visit_leaves`).

  `Vouched` is the one invariant that is needed of what is kept: each answer is one that the source gave for
  its key, some time or other.
-/
import DriveAdvisory.Proofs.Source.Visits
import DriveAdvisory.Source.Hub

namespace DriveAdvisory

/-! ## What a client gives out -/

namespace Client

variable {κ π : Type} [DecidableEq κ] {P : κ → π → Prop} {policy : SourcePolicy} {tie : Nat}
  {now : Duration} {key : κ} {query : Answer π} {c : Client κ π}

/-- What is kept for a key is as said. -/
def Vouched (P : κ → π → Prop) (c : Client κ π) : Prop :=
  ∀ key e, c.find? key = some e → P key e.payload

theorem vouched_ofPolicy (policy : SourcePolicy) : Vouched P (ofPolicy policy) := nofun

theorem Vouched.lastKnown (h : c.Vouched P) {payload : π}
    (hgot : (c.lastKnown key).payload? = some payload) : P key payload := by
  unfold Client.lastKnown at hgot
  cases hfind : c.find? key with
  | none =>
    rw [hfind] at hgot
    nomatch hgot
  | some e =>
    rw [hfind] at hgot
    rw [← Option.some.inj hgot]
    exact h key e hfind

theorem Vouched.keep (h : c.Vouched P) {payload : π} (hpayload : P key payload) :
    (c.keep policy tie now key payload).Vouched P := by
  intro k e hfind
  by_cases hk : k = key
  · subst hk
    rw [find?_keep_self] at hfind
    rw [← Option.some.inj hfind]
    exact hpayload
  · rcases find?_keep_of_ne hk payload with hsame | ⟨hnone, -⟩
    · exact h k e (hsame.symm.trans hfind)
    · rw [hnone] at hfind
      nomatch hfind

/-- What a source is heard to answer is what it answered. -/
theorem result_of_answered {payload : π} (h : c.course policy now key query = .answered payload) :
    query.result = .ok payload := by
  unfold course at h
  split at h
  · nomatch h
  · nomatch h
  · split at h
    · nomatch h
    · rename_i answer hanswer
      obtain rfl := Course.answered.inj h
      unfold Answer.within at hanswer
      split at hanswer
      · exact hanswer
      · nomatch hanswer

/-- **What a visit gives out is as said**, and so is what it leaves behind, if the source says nothing else. -/
theorem Vouched.fetch (h : c.Vouched P) (policy : SourcePolicy) (tie : Nat) (now : Duration)
    (hquery : ∀ payload, query.result = .ok payload → P key payload) :
    (∀ payload, (c.fetch policy tie now key query).1.payload? = some payload → P key payload) ∧
      (c.fetch policy tie now key query).2.2.Vouched P := by
  rcases fetch_cases policy tie now key query c with ⟨e, hfind, -, -, hfetch⟩ | ⟨-, -, hfetch⟩ |
    ⟨budget, fault, -, -, hfetch⟩ | ⟨budget, answer, -, hcourse, hfetch⟩
  · rw [hfetch]
    refine ⟨fun payload hgot => ?_, h⟩
    rw [← Option.some.inj hgot]
    exact h key e hfind
  · rw [hfetch]
    exact ⟨fun payload hgot => h.lastKnown hgot, h⟩
  · rw [hfetch]
    exact ⟨fun payload hgot => h.lastKnown hgot, h⟩
  · rw [hfetch]
    have hanswer : P key answer := hquery answer (result_of_answered hcourse)
    refine ⟨fun payload hgot => ?_, Vouched.keep h hanswer⟩
    rw [← Option.some.inj hgot]
    exact hanswer

end Client

/-! ## Visits on the hub -/

namespace Hub

section Visits

variable {κ π γ : Type} [DecidableEq κ] {policy : SourcePolicy} {client : Hub → Client κ π}
  {store : Client κ π → Hub → Hub} {key : κ} {query : StateM Hub (Answer π)} {hub : Hub}

/-- A client has its own place on the hub. -/
structure Place (client : Hub → Client κ π) (store : Client κ π → Hub → Hub) : Prop where
  client_store : ∀ c hub, client (store c hub) = c
  now_store : ∀ c hub, (store c hub).now = hub.now
  client_requests : ∀ hub requests, client { hub with requests } = client hub
  client_now : ∀ hub now, client { hub with now } = client hub

/-- A query makes requests and does nothing else. -/
def Asks (query : StateM Hub (Answer π)) : Prop :=
  ∀ hub, ∃ requests, (query hub).2 = { hub with requests }

theorem visit_eq (policy : SourcePolicy) (client : Hub → Client κ π) (store : Client κ π → Hub → Hub)
    (key : κ) (query : StateM Hub (Answer π)) (hub : Hub) :
    visit policy client store key query hub =
      match (client hub).plan policy hub.now key with
      | (.serve payload, _) => (.fresh payload, hub)
      | (.refuse, c) =>
        let settled := c.settle policy 0 hub.now key (.error .budgetExhausted)
        (settled.1, store settled.2 hub)
      | (.ask, c) =>
        let asked := query (store c hub)
        let answer := asked.1.within policy.timeout
        let done := asked.2.now + answer.took
        let settled := (client asked.2).settle policy 0 done key answer.result
        (settled.1, store settled.2 { asked.2 with now := done }) := by
  unfold visit
  dsimp only [bind, StateT.bind, get, getThe, MonadStateOf.get, StateT.get, pure]
  rcases (client hub).plan policy hub.now key with ⟨_ | _ | _, c⟩
  · rfl
  · rfl
  · rfl

/-- **A visit on the hub is a visit to the client**, with what the source answers when it is asked. -/
theorem visit_fetch (hplace : Place client store) (hquery : Asks query) (policy : SourcePolicy)
    (key : κ) (hub : Hub) : ∃ before,
      let fetched := (client hub).fetch policy 0 hub.now key (query before).1
      (visit policy client store key query hub).1 = fetched.1 ∧
        client (visit policy client store key query hub).2 = fetched.2.2 := by
  rw [visit_eq]
  simp only [Client.fetch_eq]
  rcases Client.plan_cases policy hub.now key (client hub) with ⟨e, -, -, hplan⟩ |
    ⟨-, ⟨-, hplan⟩ | ⟨budget, -, hplan⟩⟩
  · rw [hplan]
    exact ⟨hub, rfl, rfl⟩
  · rw [hplan]
    exact ⟨hub, rfl, hplace.client_store _ _⟩
  · rw [hplan]
    obtain ⟨requests, hasked⟩ := hquery (store ((client hub).spend budget) hub)
    refine ⟨store ((client hub).spend budget) hub, ?_⟩
    -- the query finds the client as it was stored, and the clock as it was
    have hclient : client (query (store ((client hub).spend budget) hub)).2 =
        (client hub).spend budget := by
      rw [hasked, hplace.client_requests, hplace.client_store]
    have hnow : (query (store ((client hub).spend budget) hub)).2.now = hub.now := by
      rw [hasked]
      exact hplace.now_store _ _
    simp only [hclient, hnow, hplace.client_store, and_self]

/-- A visit to one client leaves the others alone. -/
theorem visit_leaves {other : Hub → γ} (hstore : ∀ c hub, other (store c hub) = other hub)
    (hrequests : ∀ hub requests, other { hub with requests } = other hub)
    (hnow : ∀ hub now, other { hub with now } = other hub) (hquery : Asks query)
    (policy : SourcePolicy) (client : Hub → Client κ π) (key : κ) (hub : Hub) :
    other (visit policy client store key query hub).2 = other hub := by
  rw [visit_eq]
  split
  · rfl
  · exact hstore _ _
  · rename_i c _
    obtain ⟨requests, hasked⟩ := hquery (store c hub)
    refine (hstore _ _).trans ((hnow _ _).trans ?_)
    rw [hasked, hrequests, hstore]

end Visits

/-! ## What the sources do -/

theorem asks_ask {π : Type} (sources : Sources) (r : Request) (read : Json → Except SourceFault π) :
    Asks (ask sources r read) := fun _ => ⟨_, rfl⟩

theorem asks_pure {π : Type} (answer : Answer π) : Asks (pure answer) := fun hub => ⟨hub.requests, rfl⟩

theorem asks_askProbe (sources : Sources) : Asks (askProbe sources) := fun _ => ⟨_, rfl⟩

end Hub

end DriveAdvisory
