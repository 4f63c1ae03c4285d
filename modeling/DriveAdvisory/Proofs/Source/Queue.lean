/-
  Callers who come at any time, and one client for all of them.

  A client sees to one caller at a time.  Whoever comes waits for his turn, and whose turn is next is left open.
  A caller whose turn it is gets a fresh answer at once if one is kept; else he has the client to himself while the
  source is asked for him, and all the while time passes and others come.  So the two halves of a visit, `plan` and
  `settle`, are moves of their own here, and a run is a list of moves in any order.

  That the look at what is kept and the keeping of what comes in belong to ONE turn is what spares the source:

  * `exclusive_after`   no two callers have the client to themselves;
  * `Stands.after`      so an answer stands until its lifetime is over or it has to make room: it is what is kept
                        for its key, and nobody is on his way to replace it;
  * `thrifty`           a query follows the last answer to the same key no sooner than that, and whoever has his
                        turn before gets the answer without one, however long ago he came.
-/
import DriveAdvisory.Proofs.Source.Visits
import Mathlib.Data.List.Induction

namespace DriveAdvisory.Client

variable {κ π : Type}

/-- How far a caller has come. -/
inductive Turn (π : Type)
  | waiting
  /-- He has the client to himself, and the source is asked for him. -/
  | asking
  | done (got : Fetched π)
  /-- He did not wait for the end. -/
  | gone
deriving DecidableEq, Repr

def Turn.isAsking : Turn π → Bool
  | asking => true
  | waiting | done _ | gone => false

/-- A call for a key. -/
structure Queue.Call (κ π : Type) where
  key : κ
  turn : Turn π := .waiting
deriving DecidableEq, Repr

/-- A client, the time, and the calls that came to the client, by number. -/
structure Queue (κ π : Type) where
  client : Client κ π
  now : Duration := 0
  calls : List (Queue.Call κ π) := []

namespace Queue

/-- What can happen. -/
inductive Move (κ π : Type)
  /-- Time passes. -/
  | wait (span : Duration)
  /-- Somebody comes, and waits for his turn. -/
  | arrive (key : κ)
  /-- It is the turn of one who waits, if nobody has the client to himself. -/
  | enter (number : Nat)
  /-- The query for a caller is over: the source has answered or failed, or it took too long.  The tie decides which
      of several oldest answers has to go. -/
  | finish (number : Nat) (result : Except SourceFault π) (tie : Nat)
  /-- A caller does not wait any longer, neither for his turn nor for the source. -/
  | leave (number : Nat)
  /-- Whoever keeps the budget makes up his mind anew. -/
  | allow (budget : Budget)

section

variable [DecidableEq κ]

/-- A client that was never asked, and nobody there. -/
def opened (policy : SourcePolicy) : Queue κ π := { client := .ofPolicy policy }

/-- Nobody has the client to himself. -/
def isFree (q : Queue κ π) : Bool := q.calls.all fun c => !c.turn.isAsking

/-- A caller has come as far as that. -/
def turnTo (q : Queue κ π) (number : Nat) (key : κ) (turn : Turn π) : Queue κ π :=
  { q with calls := q.calls.set number ⟨key, turn⟩ }

/-- The second half of a caller's visit. -/
def conclude (policy : SourcePolicy) (q : Queue κ π) (number : Nat) (key : κ)
    (result : Except SourceFault π) (tie : Nat) : Queue κ π :=
  let settled := q.client.settle policy tie q.now key result
  { q with client := settled.2 }.turnTo number key (.done settled.1)

/-- The first half of a caller's visit, and the second one as well if the source is not asked. -/
def begin (policy : SourcePolicy) (q : Queue κ π) (number : Nat) (key : κ) : Queue κ π :=
  match q.client.plan policy q.now key with
  | (.serve payload, client) => { q with client }.turnTo number key (.done (.fresh payload))
  | (.refuse, client) => { q with client }.conclude policy number key (.error .budgetExhausted) 0
  | (.ask, client) => { q with client }.turnTo number key .asking

/-- What happens then. -/
def move (policy : SourcePolicy) (q : Queue κ π) : Move κ π → Queue κ π
  | .wait span => { q with now := q.now + span }
  | .arrive key => { q with calls := q.calls ++ [{ key }] }
  | .enter number =>
    match q.calls[number]? with
    | some ⟨key, .waiting⟩ => if q.isFree then q.begin policy number key else q
    | _ => q
  | .finish number result tie =>
    match q.calls[number]? with
    | some ⟨key, .asking⟩ => q.conclude policy number key result tie
    | _ => q
  | .leave number =>
    match q.calls[number]? with
    | some ⟨key, .waiting⟩ | some ⟨key, .asking⟩ => q.turnTo number key .gone
    | _ => q
  | .allow budget => { q with client := { q.client with budget } }

/-- What is there after a run. -/
def after (policy : SourcePolicy) (q : Queue κ π) (moves : List (Move κ π)) : Queue κ π :=
  moves.foldl (move policy) q

/-- The query that a move sends, if it does: for which key, and when. -/
def asked? (policy : SourcePolicy) (q : Queue κ π) : Move κ π → Option (κ × Duration)
  | .enter number =>
    match q.calls[number]? with
    | some ⟨key, .waiting⟩ =>
      if q.isFree then
        match (q.client.plan policy q.now key).1 with
        | .ask => some (key, q.now)
        | .serve _ | .refuse => none
      else none
    | _ => none
  | .wait _ | .arrive _ | .finish .. | .leave _ | .allow _ => none

/-- The answer that a move brings, if it does. -/
def success? (q : Queue κ π) : Move κ π → Option (Kept κ π)
  | .finish number (.ok payload) _ =>
    match q.calls[number]? with
    | some ⟨key, .asking⟩ => some ⟨key, payload, q.now⟩
    | _ => none
  | .wait _ | .arrive _ | .enter _ | .finish _ (.error _) _ | .leave _ | .allow _ => none

/-- The queries that a run sends. -/
def queries (policy : SourcePolicy) : Queue κ π → List (Move κ π) → List (κ × Duration) :=
  gather (move policy) fun q m => (q.asked? policy m).toList

variable {policy : SourcePolicy} {q : Queue κ π} {m : Move κ π} {number : Nat} {key : κ}

theorem after_snoc (moves : List (Move κ π)) (m : Move κ π) :
    q.after policy (moves ++ [m]) = (q.after policy moves).move policy m := by
  rw [after, List.foldl_append]
  rfl

theorem queries_snoc (moves : List (Move κ π)) (m : Move κ π) : q.queries policy (moves ++ [m]) =
    q.queries policy moves ++ ((q.after policy moves).asked? policy m).toList :=
  gather_snoc _ _ moves m q

/-! ## What a move does -/

omit [DecidableEq κ] in
theorem isFree_iff : q.isFree = true ↔ ∀ c ∈ q.calls, c.turn.isAsking = false := by
  simp [isFree]

omit [DecidableEq κ] in
/-- After a caller's turn has changed, a call is that caller's or one of the others. -/
theorem mem_turnTo {turn : Turn π} {i : Nat} {c : Call κ π}
    (h : (q.turnTo number key turn).calls[i]? = some c) :
    i = number ∧ c = ⟨key, turn⟩ ∨ i ≠ number ∧ q.calls[i]? = some c := by
  rw [turnTo, List.getElem?_set] at h
  split at h
  · rename_i hi
    split at h
    · exact .inl ⟨hi.symm, (Option.some.inj h).symm⟩
    · nomatch h
  · rename_i hi
    exact .inr ⟨fun h => hi h.symm, h⟩

/-- Nothing happens to what is kept, nor does anybody begin or end a query. -/
structure Quiet (policy : SourcePolicy) (q : Queue κ π) (m : Move κ π) : Prop where
  asked : q.asked? policy m = none
  success : q.success? m = none
  kept : (q.move policy m).client.kept = q.client.kept
  sent : (q.move policy m).client.sent = q.client.sent
  now : q.now ≤ (q.move policy m).now
  calls : ∀ (i : Nat) (c : Call κ π), (q.move policy m).calls[i]? = some c →
    c.turn.isAsking = true → q.calls[i]? = some c

theorem Quiet.of_same (hasked : q.asked? policy m = none) (hsuccess : q.success? m = none)
    (hmove : q.move policy m = q) : Quiet policy q m := by
  refine ⟨hasked, hsuccess, ?_, ?_, ?_, fun i c hc _ => ?_⟩
  · rw [hmove]
  · rw [hmove]
  · exact Nat.le_of_eq (congrArg Queue.now hmove).symm
  · rwa [hmove] at hc

theorem Quiet.of_turnTo {turn : Turn π} (hasked : q.asked? policy m = none)
    (hsuccess : q.success? m = none) (hturn : turn.isAsking = false)
    (hmove : q.move policy m = q.turnTo number key turn) : Quiet policy q m := by
  refine ⟨hasked, hsuccess, ?_, ?_, ?_, ?_⟩
  all_goals rw [hmove]
  · rfl
  · rfl
  · exact Nat.le_refl _
  · intro i c hc hasking
    rcases mem_turnTo hc with ⟨-, rfl⟩ | ⟨-, hold⟩
    · rw [hturn] at hasking
      nomatch hasking
    · exact hold

/-- A visit that ends in vain changes nothing but the caller's turn. -/
theorem conclude_error (fault : SourceFault) (tie : Nat) :
    q.conclude policy number key (.error fault) tie =
      q.turnTo number key (.done (q.client.lastKnown key)) := by
  rw [conclude, settle_error]

/-- **All that the first half of a visit can do.** -/
theorem begin_cases (policy : SourcePolicy) (q : Queue κ π) (number : Nat) (key : κ) :
    (∃ e, q.client.find? key = some e ∧ q.now - e.since < policy.ttl ∧
      q.client.plan policy q.now key = (.serve e.payload, q.client) ∧
      q.begin policy number key = q.turnTo number key (.done (.fresh e.payload))) ∨
    ((∀ e, q.client.find? key = some e → policy.ttl ≤ q.now - e.since) ∧
      (q.client.plan policy q.now key = (.refuse, q.client) ∧
          q.begin policy number key = q.turnTo number key (.done (q.client.lastKnown key)) ∨
        ∃ budget, q.client.plan policy q.now key = (.ask, q.client.spend budget) ∧
          q.begin policy number key =
            { q with client := q.client.spend budget }.turnTo number key .asking)) := by
  rcases plan_cases policy q.now key q.client with ⟨e, hfind, hyoung, hplan⟩ |
    ⟨hold, ⟨-, hplan⟩ | ⟨budget, -, hplan⟩⟩
  · exact .inl ⟨e, hfind, hyoung, hplan, by rw [begin, hplan]⟩
  · refine .inr ⟨hold, .inl ⟨hplan, ?_⟩⟩
    rw [begin, hplan]
    exact conclude_error .budgetExhausted 0
  · exact .inr ⟨hold, .inr ⟨budget, hplan, by rw [begin, hplan]⟩⟩

theorem enter_of_waiting (policy : SourcePolicy) (hfree : q.isFree = true)
    (hcall : q.calls[number]? = some ⟨key, .waiting⟩) :
    q.move policy (.enter number) = q.begin policy number key := by
  rw [move, hcall]
  exact if_pos hfree

theorem asked?_of_waiting (policy : SourcePolicy) (hfree : q.isFree = true)
    (hcall : q.calls[number]? = some ⟨key, .waiting⟩) : q.asked? policy (.enter number) =
      match (q.client.plan policy q.now key).1 with
      | .ask => some (key, q.now)
      | .serve _ | .refuse => none := by
  rw [asked?, hcall]
  exact if_pos hfree

/-- **All that a move can do**: nothing to what is kept, or a query begins, or one ends with an answer. -/
theorem move_cases (policy : SourcePolicy) (q : Queue κ π) (m : Move κ π) :
    Quiet policy q m ∨
    (∃ number key budget, q.isFree = true ∧
      (∀ e, q.client.find? key = some e → policy.ttl ≤ q.now - e.since) ∧
      q.asked? policy m = some (key, q.now) ∧ q.success? m = none ∧
      q.move policy m = { q with client := q.client.spend budget }.turnTo number key .asking) ∨
    (∃ number key payload tie, q.calls[number]? = some ⟨key, .asking⟩ ∧
      q.asked? policy m = none ∧ q.success? m = some ⟨key, payload, q.now⟩ ∧
      q.move policy m = { q with client := q.client.keep policy tie q.now key payload }.turnTo
        number key (.done (.fresh payload))) := by
  cases m with
  | wait span =>
    exact .inl ⟨rfl, rfl, rfl, rfl, Nat.le_add_right _ _, fun _ _ hc _ => hc⟩
  | allow budget => exact .inl ⟨rfl, rfl, rfl, rfl, Nat.le_refl _, fun _ _ hc _ => hc⟩
  | arrive key =>
    refine .inl ⟨rfl, rfl, rfl, rfl, Nat.le_refl _, fun i c hc hasking => ?_⟩
    -- the one who comes does not have his turn yet
    rw [move, List.getElem?_append] at hc
    split at hc
    · exact hc
    · obtain rfl := List.mem_singleton.mp (List.mem_of_getElem? hc)
      nomatch hasking
  | enter number =>
    by_cases hwaits : q.isFree = true ∧ ∃ key, q.calls[number]? = some ⟨key, .waiting⟩
    · obtain ⟨hfree, key, hcall⟩ := hwaits
      have hasked := asked?_of_waiting policy hfree hcall
      have hmove := enter_of_waiting policy hfree hcall
      rcases begin_cases policy q number key with ⟨e, -, -, hplan, hbegin⟩ |
        ⟨hold, ⟨hplan, hbegin⟩ | ⟨budget, hplan, hbegin⟩⟩
      · rw [hplan] at hasked
        exact .inl (.of_turnTo hasked rfl rfl (hmove.trans hbegin))
      · rw [hplan] at hasked
        exact .inl (.of_turnTo hasked rfl rfl (hmove.trans hbegin))
      · rw [hplan] at hasked
        exact .inr (.inl ⟨number, key, budget, hfree, hold, hasked, rfl, hmove.trans hbegin⟩)
    · left
      apply Quiet.of_same
      · rw [asked?]
        split
        · rename_i key hcall
          exact if_neg fun hfree => hwaits ⟨hfree, key, hcall⟩
        · rfl
      · rfl
      · rw [move]
        split
        · rename_i key hcall
          exact if_neg fun hfree => hwaits ⟨hfree, key, hcall⟩
        · rfl
  | finish number result tie =>
    by_cases hasks : ∃ key, q.calls[number]? = some ⟨key, .asking⟩
    · obtain ⟨key, hcall⟩ := hasks
      have hmove : q.move policy (.finish number result tie) =
          q.conclude policy number key result tie := by rw [move, hcall]
      cases result with
      | error fault => exact .inl (.of_turnTo rfl rfl rfl (hmove.trans (conclude_error fault tie)))
      | ok payload =>
        exact .inr (.inr ⟨number, key, payload, tie, hcall, rfl, by rw [success?, hcall], hmove⟩)
    · left
      apply Quiet.of_same
      · rfl
      · cases result with
        | error fault => rfl
        | ok payload =>
          rw [success?]
          split
          · rename_i key hcall
            exact absurd ⟨key, hcall⟩ hasks
          · rfl
      · rw [move]
        split
        · rename_i key hcall
          exact absurd ⟨key, hcall⟩ hasks
        · rfl
  | leave number =>
    left
    cases hcall : q.calls[number]? with
    | none => exact .of_same rfl rfl (by rw [move, hcall])
    | some c =>
      obtain ⟨key, turn⟩ := c
      cases turn with
      | waiting => exact .of_turnTo rfl rfl rfl (by rw [move, hcall])
      | asking => exact .of_turnTo rfl rfl rfl (by rw [move, hcall])
      | done got => exact .of_same rfl rfl (by rw [move, hcall])
      | gone => exact .of_same rfl rfl (by rw [move, hcall])

/-- The moves of a caller whom nobody disturbs. -/
def undisturbed (policy : SourcePolicy) (q : Queue κ π) (key : κ) (query : Answer π) (tie : Nat) :
    List (Move κ π) :=
  .arrive key :: .enter q.calls.length :: match (q.client.plan policy q.now key).1 with
    | .ask =>
      let answer := query.within policy.timeout
      [.wait answer.took, .finish q.calls.length answer.result tie]
    | .serve _ | .refuse => []

/-- The two halves of a visit, with nothing in between, are what a visit is. -/
theorem after_undisturbed (policy : SourcePolicy) (key : κ) (query : Answer π) (tie : Nat)
    (hfree : q.isFree = true) : q.after policy (q.undisturbed policy key query tie) =
      let visited := q.client.fetch policy tie q.now key query
      ⟨visited.2.2, visited.2.1, q.calls ++ [⟨key, .done visited.1⟩]⟩ := by
  let met : Queue κ π := { q with calls := q.calls ++ [⟨key, .waiting⟩] }
  have hcall : met.calls[q.calls.length]? = some ⟨key, .waiting⟩ := List.getElem?_concat_length
  have hset : ∀ c d : Call κ π, (q.calls ++ [c]).set q.calls.length d = q.calls ++ [d] := by simp
  have hmet : met.isFree = true := by
    rw [isFree_iff] at hfree ⊢
    exact List.forall_mem_append.mpr ⟨hfree, List.forall_mem_singleton.mpr rfl⟩
  have henter := enter_of_waiting policy hmet hcall
  have hafter : ∀ rest, q.after policy (.arrive key :: .enter q.calls.length :: rest) =
      (met.begin policy q.calls.length key).after policy rest := fun rest => by
    rw [← henter]
    rfl
  rw [undisturbed, hafter, fetch_eq]
  rcases begin_cases policy met q.calls.length key with ⟨e, -, -, hplan, hbegin⟩ |
    ⟨-, ⟨hplan, hbegin⟩ | ⟨budget, hplan, hbegin⟩⟩
  · rw [hbegin, show q.client.plan policy q.now key = _ from hplan]
    simp [turnTo, after, met, hset]
  · rw [hbegin, show q.client.plan policy q.now key = _ from hplan]
    simp [turnTo, after, met, hset, settle_error]
  · rw [hbegin, show q.client.plan policy q.now key = _ from hplan]
    simp [turnTo, after, move, conclude, met, hset]

/-! ## One at a time -/

/-- No two callers have the client to themselves. -/
def Exclusive (q : Queue κ π) : Prop :=
  ∀ (i j : Nat) (c d : Call κ π), q.calls[i]? = some c → q.calls[j]? = some d →
    c.turn.isAsking = true → d.turn.isAsking = true → i = j

theorem Exclusive.move (h : q.Exclusive) (m : Move κ π) : (q.move policy m).Exclusive := by
  intro i j c d hc hd hasksc hasksd
  rcases move_cases policy q m with hquiet | ⟨number, key, budget, hfree, -, -, -, hmove⟩ |
    ⟨number, key, payload, tie, -, -, -, hmove⟩
  · exact h i j c d (hquiet.calls i c hc hasksc) (hquiet.calls j d hd hasksd) hasksc hasksd
  · -- whoever is asked for now is the only one
    have hnone : ∀ (k : Nat) (b : Call κ π), q.calls[k]? = some b → b.turn.isAsking ≠ true :=
      fun k b hb => Bool.eq_false_iff.mp (isFree_iff.mp hfree b (List.mem_of_getElem? hb))
    rw [hmove] at hc hd
    rcases mem_turnTo hc with ⟨hi, -⟩ | ⟨-, hold⟩
    · rcases mem_turnTo hd with ⟨hj, -⟩ | ⟨-, hold⟩
      · rw [hi, hj]
      · exact absurd hasksd (hnone j d hold)
    · exact absurd hasksc (hnone i c hold)
  · rw [hmove] at hc hd
    rcases mem_turnTo hc with ⟨-, rfl⟩ | ⟨-, holdc⟩
    · nomatch hasksc
    · rcases mem_turnTo hd with ⟨-, rfl⟩ | ⟨-, holdd⟩
      · nomatch hasksd
      · exact h i j c d holdc holdd hasksc hasksd

theorem exclusive_after (policy : SourcePolicy) (moves : List (Move κ π)) :
    ((opened policy : Queue κ π).after policy moves).Exclusive := by
  induction moves using List.reverseRecOn with
  | nil =>
    intro i j c d hc
    nomatch hc
  | append_singleton moves m ih =>
    rw [after_snoc]
    exact ih.move m

/-- The client counts the queries that are sent. -/
theorem sent_after (policy : SourcePolicy) (q : Queue κ π) (moves : List (Move κ π)) :
    (q.after policy moves).client.sent = q.client.sent + (q.queries policy moves).length := by
  induction moves using List.reverseRecOn with
  | nil => rfl
  | append_singleton moves m ih =>
    rw [after_snoc, queries_snoc, List.length_append, ← Nat.add_assoc, ← ih]
    rcases move_cases policy (q.after policy moves) m with hquiet |
      ⟨number, key, budget, -, -, hasked, -, hmove⟩ | ⟨number, key, payload, tie, -, hasked, -, hmove⟩
    · rw [hquiet.asked, hquiet.sent]
      rfl
    · rw [hasked, hmove]
      rfl
    · rw [hasked, hmove]
      rfl

/-! ## An answer stands -/

/-- The answer to a key has to make room for one that comes for another. -/
def Evicts (policy : SourcePolicy) (q : Queue κ π) (m : Move κ π) (key : κ) : Prop :=
  (∃ e, q.success? m = some e ∧ q.client.Crowded policy e.key) ∧
    (q.client.find? key).isSome = true ∧ (q.move policy m).client.find? key = none

/-- That happens somewhere in a run. -/
def EvictedBy (policy : SourcePolicy) (q : Queue κ π) (moves : List (Move κ π)) (key : κ) : Prop :=
  ∃ before m later, moves = before ++ m :: later ∧ (q.after policy before).Evicts policy m key

/-- The answer is from now or earlier; and until its lifetime is over it is what is kept for its key, and nobody is on
    his way to replace it. -/
structure Stands (policy : SourcePolicy) (e : Kept κ π) (q : Queue κ π) : Prop where
  since : e.since ≤ q.now
  kept : q.now < e.since + policy.ttl → q.client.find? e.key = some e
  unasked : q.now < e.since + policy.ttl → ∀ (i : Nat) (c : Call κ π), q.calls[i]? = some c →
    c.turn.isAsking = true → c.key ≠ e.key

variable {e : Kept κ π}

theorem find?_congr {c c' : Client κ π} (h : c'.kept = c.kept) (key : κ) :
    c'.find? key = c.find? key := by
  rw [find?, find?, h]

/-- A standing answer that is found to be no longer fresh is not young. -/
theorem Stands.not_young (h : Stands policy e q)
    (hold : ∀ found, q.client.find? e.key = some found → policy.ttl ≤ q.now - found.since) :
    ¬ q.now < e.since + policy.ttl := by
  intro hyoung
  have hover := hold e (h.kept hyoung)
  have hsince := h.since
  unfold Duration at *
  omega

/-- An answer that has just come stands. -/
theorem Exclusive.stands (h : q.Exclusive) (hsuccess : q.success? m = some e) :
    Stands policy e (q.move policy m) := by
  rcases move_cases policy q m with hquiet | ⟨number, key, budget, -, -, -, hnone, -⟩ |
    ⟨number, key, payload, tie, hcall, -, hbrought, hmove⟩
  · nomatch hquiet.success.symm.trans hsuccess
  · nomatch hnone.symm.trans hsuccess
  · obtain rfl := Option.some.inj (hbrought.symm.trans hsuccess)
    rw [hmove]
    refine ⟨Nat.le_refl _, fun _ => find?_keep_self payload, fun _ i c hc hasking => ?_⟩
    -- only the one who brought it had the client to himself
    rcases mem_turnTo hc with ⟨-, rfl⟩ | ⟨hi, hold⟩
    · nomatch hasking
    · exact absurd (h i number c ⟨key, .asking⟩ hold hcall hasking rfl) hi

/-- **The step**: a standing answer goes on to stand, unless it has to make room. -/
theorem Stands.move (h : Stands policy e q) (hroom : ¬ q.Evicts policy m e.key) :
    Stands policy e (q.move policy m) := by
  rcases move_cases policy q m with hquiet | ⟨number, key, budget, -, hold, -, -, hmove⟩ |
    ⟨number, key, payload, tie, hcall, -, hbrought, hmove⟩
  · have hnow := hquiet.now
    refine ⟨Nat.le_trans h.since hnow, fun hyoung => ?_, fun hyoung i c hc hasking => ?_⟩
    · rw [find?_congr hquiet.kept]
      exact h.kept (Nat.lt_of_le_of_lt hnow hyoung)
    · exact h.unasked (Nat.lt_of_le_of_lt hnow hyoung) i c (hquiet.calls i c hc hasking) hasking
  · rw [hmove]
    refine ⟨h.since, h.kept, fun hyoung i c hc hasking => ?_⟩
    rcases mem_turnTo hc with ⟨-, rfl⟩ | ⟨-, hold⟩
    · -- for its own key nobody is asked while it is young
      rintro rfl
      exact absurd hyoung (h.not_young hold)
    · exact h.unasked hyoung i c hold hasking
  · have hother : q.now < e.since + policy.ttl → e.key ≠ key := fun hyoung hkey =>
      h.unasked hyoung number _ hcall rfl hkey.symm
    have hafter : (q.move policy m).client = q.client.keep policy tie q.now key payload := by
      rw [hmove]
      rfl
    have hnow : (q.move policy m).now = q.now := by
      rw [hmove]
      rfl
    refine ⟨hnow ▸ h.since, fun hyoung => ?_, fun hyoung i c hc hasking => ?_⟩
    · rw [hnow] at hyoung
      have hkept := h.kept hyoung
      rw [hafter]
      rcases find?_keep_of_ne (hother hyoung) payload with hsame | ⟨hgone, hcrowded⟩
      · rw [hsame, hkept]
      · exact absurd ⟨⟨_, hbrought, hcrowded⟩, by rw [hkept]; rfl, by rw [hafter, hgone]⟩ hroom
    · rw [hnow] at hyoung
      rw [hmove] at hc
      rcases mem_turnTo hc with ⟨-, rfl⟩ | ⟨-, hold⟩
      · nomatch hasking
      · exact h.unasked hyoung i c hold hasking

theorem Stands.after (h : Stands policy e q) {moves : List (Move κ π)}
    (hroom : ¬ q.EvictedBy policy moves e.key) : Stands policy e (q.after policy moves) := by
  induction moves generalizing q with
  | nil => exact h
  | cons m rest ih =>
    have hfirst : ¬ q.Evicts policy m e.key := fun hevicts => hroom ⟨[], m, rest, rfl, hevicts⟩
    refine ih (h.move hfirst) ?_
    rintro ⟨before, m', later, rfl, hevicts⟩
    exact hroom ⟨m :: before, m', later, rfl, hevicts⟩

/-- As long as it stands and is young, whoever has his turn gets it. -/
theorem Stands.served (h : Stands policy e q) (hfree : q.isFree = true)
    (hcall : q.calls[number]? = some ⟨e.key, .waiting⟩) (hyoung : q.now < e.since + policy.ttl) :
    q.asked? policy (.enter number) = none ∧
      q.move policy (.enter number) = q.turnTo number e.key (.done (.fresh e.payload)) := by
  rcases begin_cases policy q number e.key with ⟨found, hfind, -, hplan, hbegin⟩ | ⟨hold, -⟩
  · obtain rfl := Option.some.inj ((h.kept hyoung).symm.trans hfind)
    refine ⟨?_, (enter_of_waiting policy hfree hcall).trans hbegin⟩
    rw [asked?_of_waiting policy hfree hcall, hplan]
  · exact absurd hyoung (h.not_young hold)

/-- And a query for its key is sent only when it is not young any more. -/
theorem Stands.over (h : Stands policy e q) {moment : Duration}
    (hasked : q.asked? policy m = some (e.key, moment)) : e.since + policy.ttl ≤ moment := by
  rcases move_cases policy q m with hquiet | ⟨number, key, budget, -, hold, hsent, -, -⟩ |
    ⟨number, key, payload, tie, -, hnone, -, -⟩
  · nomatch hquiet.asked.symm.trans hasked
  · obtain ⟨rfl, rfl⟩ := Prod.mk.inj (Option.some.inj (hsent.symm.trans hasked))
    exact Nat.le_of_not_lt (h.not_young hold)
  · nomatch hnone.symm.trans hasked

/-! ## What a client spares its source -/

/-- **What a client spares its source**, in whatever order its callers have their turns. -/
structure Thrifty (policy : SourcePolicy) (moves : List (Move κ π)) : Prop where
  /-- From an answer to the next query for its key its lifetime passes, unless it has to make room before. -/
  spaced : ∀ before m between next later e moment,
    moves = before ++ m :: (between ++ next :: later) →
    let q : Queue κ π := (opened policy).after policy before
    q.success? m = some e →
    ¬ (q.move policy m).EvictedBy policy between e.key →
    ((q.move policy m).after policy between).asked? policy next = some (e.key, moment) →
    e.since + policy.ttl ≤ moment
  /-- Whoever has his turn before gets the answer, as a fresh one and at once.  Nothing is asked for that, and nothing
      changes but that he has it.  When he came does not matter. -/
  served : ∀ before m between number later e,
    moves = before ++ m :: (between ++ .enter number :: later) →
    let q : Queue κ π := (opened policy).after policy before
    q.success? m = some e →
    ¬ (q.move policy m).EvictedBy policy between e.key →
    let met := (q.move policy m).after policy between
    met.isFree = true → met.calls[number]? = some ⟨e.key, .waiting⟩ →
    met.now < e.since + policy.ttl →
    met.asked? policy (.enter number) = none ∧
      met.move policy (.enter number) = met.turnTo number e.key (.done (.fresh e.payload))
  /-- The queries are those that the client counts. -/
  counted : ((opened policy : Queue κ π).after policy moves).client.sent =
    ((opened policy).queries policy moves).length
  /-- A caller who comes when the client is free, and whom nobody disturbs, makes one visit. -/
  visits : ∀ key query tie, let q : Queue κ π := (opened policy).after policy moves
    q.isFree = true → q.after policy (q.undisturbed policy key query tie) =
      let visited := q.client.fetch policy tie q.now key query
      ⟨visited.2.2, visited.2.1, q.calls ++ [⟨key, .done visited.1⟩]⟩

/-- **A client is thrifty**, whoever comes when. -/
theorem thrifty (policy : SourcePolicy) (moves : List (Move κ π)) : Thrifty policy moves where
  spaced before m between next later e moment _ := by
    intro q hsuccess hroom hasked
    have hstands := ((exclusive_after policy before).stands hsuccess).after hroom
    exact hstands.over hasked
  served before m between number later e _ := by
    intro q hsuccess hroom met hfree hcall hyoung
    have hstands := ((exclusive_after policy before).stands hsuccess).after hroom
    exact hstands.served hfree hcall hyoung
  counted := by
    rw [sent_after]
    exact Nat.zero_add _
  visits key query tie := after_undisturbed policy key query tie

/-- Two callers come for a key of which nothing is kept.  The source is asked for the second one, and the first
    one, who was there before, has his turn when that is over. -/
example :
    let q : Queue String Nat := (opened .traffic).after .traffic
      [.arrive "a", .arrive "a", .enter 1, .wait 7, .enter 0, .finish 1 (.ok 5) 0, .enter 0]
    q.client.sent = 1 ∧ q.calls.map Call.turn = [.done (.fresh 5), .done (.fresh 5)] := by
  decide

end

end Queue
end DriveAdvisory.Client
