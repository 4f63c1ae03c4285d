/-
  Visits to a client, one after the other.

  Visits to one client do not overlap, so all that can happen to it is a list of moves: time passes, somebody
  visits, and whoever keeps the budget makes up his mind anew.  The last of them lets a run refuse and allow
  queries at will; a run without it is one in which the budget is the bucket of the policy.  Moments are not
  written into a run.  They come of the waiting and of the queries, so no run goes back in time.

  A visit takes one of four courses, and `fetch_cases` says all that it does in each of them.  Proofs about
  clients are to use it and never unfold a visit.  What they need of the kept answers is `find?_move`: a move
  replaces the answer that is kept for a key by the one that it brought, or leaves it alone, or has it make
  room for the answer to a new key.
-/
import DriveAdvisory.Proofs.Order.Gather
import DriveAdvisory.Source.Client

namespace DriveAdvisory.Client

variable {κ π : Type} [DecidableEq κ] {policy : SourcePolicy} {now : Duration} {key : κ}
  {query : Answer π} {tie : Nat} {c : Client κ π}

/-! ## One visit -/

/-- What becomes of a visit. -/
inductive Course (π : Type)
  /-- A kept answer is given out. -/
  | served
  /-- The source may not be asked. -/
  | refused
  /-- The source is asked, and gives no answer or none in time. -/
  | failed (fault : SourceFault)
  /-- The source is asked and answers. -/
  | answered (payload : π)

/-- The course of a visit. -/
def course (policy : SourcePolicy) (now : Duration) (key : κ) (query : Answer π) (c : Client κ π) :
    Course π :=
  match (c.plan policy now key).1 with
  | .serve _ => .served
  | .refuse => .refused
  | .ask => match (query.within policy.timeout).result with
    | .error fault => .failed fault
    | .ok payload => .answered payload

/-- A visit brings nothing new: it is refused, or its query fails. -/
def Course.InVain : Course π → Prop
  | .served | .answered _ => False
  | .refused | .failed _ => True

/-- The last known answer, marked as stale. -/
def lastKnown (key : κ) (c : Client κ π) : Fetched π :=
  match c.find? key with
  | some e => .stale e.payload
  | none => .empty

theorem lastKnown_ne_fresh (key : κ) (c : Client κ π) (payload : π) :
    c.lastKnown key ≠ .fresh payload := by
  unfold lastKnown
  cases c.find? key <;> nofun

theorem lastKnown_eq_stale {payload : π} :
    c.lastKnown key = .stale payload ↔ ∃ e, c.find? key = some e ∧ e.payload = payload := by
  unfold lastKnown
  cases c.find? key <;> simp

theorem lastKnown_eq_empty : c.lastKnown key = .empty ↔ c.find? key = none := by
  unfold lastKnown
  cases c.find? key <;> simp

theorem settle_error (fault : SourceFault) :
    c.settle policy tie now key (.error fault) = (c.lastKnown key, c) := by
  unfold settle lastKnown
  cases c.find? key <;> rfl

/-- The client whose source is asked. -/
def spend (budget : Budget) (c : Client κ π) : Client κ π := { c with budget, sent := c.sent + 1 }

/-- A visit does what the client plans. -/
theorem fetch_eq (policy : SourcePolicy) (tie : Nat) (now : Duration) (key : κ) (query : Answer π)
    (c : Client κ π) : c.fetch policy tie now key query =
      match c.plan policy now key with
      | (.serve payload, c) => (.fresh payload, now, c)
      | (.refuse, c) =>
        ((c.settle policy tie now key (.error .budgetExhausted)).1, now,
          (c.settle policy tie now key (.error .budgetExhausted)).2)
      | (.ask, c) =>
        let done := now + (query.within policy.timeout).took
        ((c.settle policy tie done key (query.within policy.timeout).result).1, done,
          (c.settle policy tie done key (query.within policy.timeout).result).2) := rfl

/-- **All that a client can plan.** -/
theorem plan_cases (policy : SourcePolicy) (now : Duration) (key : κ) (c : Client κ π) :
    (∃ e, c.find? key = some e ∧ now - e.since < policy.ttl ∧
      c.plan policy now key = (.serve e.payload, c)) ∨
    ((∀ e, c.find? key = some e → policy.ttl ≤ now - e.since) ∧
      (c.budget.take? now = none ∧ c.plan policy now key = (.refuse, c) ∨
        ∃ budget, c.budget.take? now = some budget ∧
          c.plan policy now key = (.ask, c.spend budget))) := by
  cases hfresh : c.fresh? policy now key with
  | some e =>
    -- what is kept is young enough, and nobody is asked
    obtain ⟨hfind, hyoung⟩ := Option.filter_eq_some_iff.mp hfresh
    exact .inl ⟨e, hfind, of_decide_eq_true hyoung, by rw [plan, hfresh]⟩
  | none =>
    right
    have hold : ∀ e, c.find? key = some e → policy.ttl ≤ now - e.since := fun e hfind =>
      Nat.le_of_not_lt fun hyoung =>
        Option.filter_eq_none_iff.mp hfresh e hfind (decide_eq_true hyoung)
    -- the source is to be asked, if there is a token
    cases htake : c.budget.take? now with
    | none => exact ⟨hold, .inl ⟨rfl, by rw [plan, hfresh, htake]⟩⟩
    | some budget =>
      refine ⟨hold, .inr ⟨budget, rfl, ?_⟩⟩
      rw [plan, hfresh, htake]
      rfl

/-- **All that a visit can do.** -/
theorem fetch_cases (policy : SourcePolicy) (tie : Nat) (now : Duration) (key : κ)
    (query : Answer π) (c : Client κ π) :
    (∃ e, c.find? key = some e ∧ now - e.since < policy.ttl ∧
      c.course policy now key query = .served ∧
      c.fetch policy tie now key query = (.fresh e.payload, now, c)) ∨
    (c.budget.take? now = none ∧ c.course policy now key query = .refused ∧
      c.fetch policy tie now key query = (c.lastKnown key, now, c)) ∨
    (∃ budget fault, c.budget.take? now = some budget ∧
      c.course policy now key query = .failed fault ∧
      c.fetch policy tie now key query =
        (c.lastKnown key, now + (query.within policy.timeout).took, c.spend budget)) ∨
    (∃ budget payload, c.budget.take? now = some budget ∧
      c.course policy now key query = .answered payload ∧
      c.fetch policy tie now key query =
        (.fresh payload, now + (query.within policy.timeout).took,
          (c.spend budget).keep policy tie (now + (query.within policy.timeout).took) key
            payload)) := by
  rcases plan_cases policy now key c with ⟨e, hfind, hyoung, hplan⟩ |
    ⟨-, ⟨htake, hplan⟩ | ⟨budget, htake, hplan⟩⟩
  · left
    refine ⟨e, hfind, hyoung, ?_, ?_⟩
    · rw [course, hplan]
    · rw [fetch_eq, hplan]
  · right; left
    refine ⟨htake, ?_, ?_⟩
    · rw [course, hplan]
    · rw [fetch_eq, hplan]
      simp only [settle_error]
  · right; right
    cases hresult : (query.within policy.timeout).result with
    | error fault =>
      left
      refine ⟨budget, fault, htake, ?_, ?_⟩
      · rw [course, hplan]
        simp only [hresult]
      · rw [fetch_eq, hplan]
        simp only [hresult, settle_error]
        rfl
    | ok payload =>
      right
      refine ⟨budget, payload, htake, ?_, ?_⟩
      · rw [course, hplan]
        simp only [hresult]
      · rw [fetch_eq, hplan]
        simp only [hresult]
        rfl

/-! ## What is kept -/

theorem evict_cases (tie : Nat) (kept : List (Kept κ π)) :
    evict tie kept = kept ∨ ∃ victim, evict tie kept = kept.filter fun e => e.key ≠ victim := by
  unfold evict
  split
  · exact .inl rfl
  · dsimp only
    split
    · exact .inl rfl
    · rename_i victim _
      exact .inr ⟨victim.key, rfl⟩

omit [DecidableEq κ] in
theorem find?_concat_of_ne {others : List (Kept κ π)} {p : Kept κ π → Bool} {e : Kept κ π}
    (h : p e = false) : (others ++ [e]).find? p = others.find? p := by
  rw [List.find?_append, List.find?_cons_of_neg (by rw [h]; exact Bool.false_ne_true)]
  exact Option.or_none

/-- A filter by another key does not lose the answer of a key. -/
theorem find?_filter_of_ne {kept : List (Kept κ π)} {k other : κ} (h : k ≠ other) :
    (kept.filter fun e => e.key ≠ other).find? (fun e => e.key = k) =
      kept.find? fun e => e.key = k := by
  rw [List.find?_filter]
  congr 1
  funext e
  by_cases he : e.key = k
  · simp [he, h]
  · simp [he]

/-- And one by its own key leaves none. -/
theorem find?_filter_self {kept : List (Kept κ π)} (key : κ) :
    (kept.filter fun e => e.key ≠ key).find? (fun e => e.key = key) = none := by
  simp [List.find?_eq_none]

/-- What is kept beside the answer that comes in. -/
def others (policy : SourcePolicy) (tie : Nat) (key : κ) (c : Client κ π) : List (Kept κ π) :=
  if (c.find? key).isSome then c.kept.filter fun e => e.key ≠ key
  else if policy.maxEntries ≤ c.kept.length then evict tie c.kept
  else c.kept

theorem find?_keep (k : κ) (payload : π) : (c.keep policy tie now key payload).find? k =
    (c.others policy tie key ++ [(⟨key, payload, now⟩ : Kept κ π)]).find? fun e => e.key = k := rfl

theorem find?_others_self : (c.others policy tie key).find? (fun e => e.key = key) = none := by
  unfold others
  split
  · exact find?_filter_self key
  · rename_i hnone
    have hfind : c.kept.find? (fun e => e.key = key) = none :=
      Option.not_isSome_iff_eq_none.mp hnone
    have hnot := List.find?_eq_none.mp hfind
    split
    · rcases evict_cases tie c.kept with he | ⟨victim, he⟩
      · rw [he]
        exact hfind
      · rw [he, List.find?_eq_none]
        exact fun e he => hnot e (List.mem_filter.mp he).1
    · exact hfind

/-- There is no room for the answer to a key: it is a new one, and the cache is full. -/
def Crowded (policy : SourcePolicy) (key : κ) (c : Client κ π) : Prop :=
  c.find? key = none ∧ policy.maxEntries ≤ c.kept.length

/-- Beside it everything else is kept, unless one answer has to make room. -/
theorem find?_others_of_ne {k : κ} (h : k ≠ key) :
    (c.others policy tie key).find? (fun e => e.key = k) = c.find? k ∨
      (c.others policy tie key).find? (fun e => e.key = k) = none ∧ c.Crowded policy key := by
  unfold others
  split
  · exact .inl (find?_filter_of_ne h)
  · rename_i hnone
    split
    · rename_i hfull
      rcases evict_cases tie c.kept with he | ⟨victim, he⟩
      · rw [he]
        exact .inl rfl
      · rw [he]
        by_cases hk : k = victim
        · rw [hk]
          exact .inr ⟨find?_filter_self victim, Option.not_isSome_iff_eq_none.mp hnone, hfull⟩
        · exact .inl (find?_filter_of_ne hk)
    · exact .inl rfl

theorem find?_keep_self (payload : π) :
    (c.keep policy tie now key payload).find? key = some ⟨key, payload, now⟩ := by
  rw [find?_keep, List.find?_append, find?_others_self, Option.none_or,
    List.find?_cons_of_pos (by exact decide_eq_true rfl)]

theorem find?_keep_of_ne {k : κ} (h : k ≠ key) (payload : π) :
    (c.keep policy tie now key payload).find? k = c.find? k ∨
      (c.keep policy tie now key payload).find? k = none ∧ c.Crowded policy key := by
  rw [find?_keep, find?_concat_of_ne (by exact decide_eq_false (Ne.symm h))]
  exact find?_others_of_ne h

/-! ## Runs -/

/-- A client, and what time it is. -/
structure Clocked (κ π : Type) where
  client : Client κ π
  now : Duration := 0

/-- What can happen to a client. -/
inductive Move (κ π : Type)
  /-- Time passes. -/
  | wait (span : Duration)
  /-- Somebody visits.  The query is what the source would answer, and the tie decides which of several oldest
      answers has to go. -/
  | visit (key : κ) (query : Answer π) (tie : Nat)
  /-- Whoever keeps the budget makes up his mind anew. -/
  | allow (budget : Budget)

/-- The move leaves the budget to the visits. -/
def Move.isHonest : Move κ π → Bool
  | .wait _ | .visit .. => true
  | .allow _ => false

namespace Clocked

/-- A client that was never asked. -/
def opened (policy : SourcePolicy) : Clocked κ π := { client := .ofPolicy policy }

/-- What happens then. -/
def move (policy : SourcePolicy) (s : Clocked κ π) : Move κ π → Clocked κ π
  | .wait span => { s with now := s.now + span }
  | .visit key query tie =>
    let visited := s.client.fetch policy tie s.now key query
    ⟨visited.2.2, visited.2.1⟩
  | .allow budget => { s with client := { s.client with budget } }

/-- What is there after a run. -/
def after (policy : SourcePolicy) (s : Clocked κ π) (moves : List (Move κ π)) : Clocked κ π :=
  moves.foldl (move policy) s

/-- The moment at which a move sends a query, if it does. -/
def asked? (policy : SourcePolicy) (s : Clocked κ π) : Move κ π → Option Duration
  | .visit key query _ =>
    match s.client.course policy s.now key query with
    | .failed _ | .answered _ => some s.now
    | .served | .refused => none
  | .wait _ | .allow _ => none

/-- The answer that a move brings, if it does, with the moment at which it came. -/
def success? (policy : SourcePolicy) (s : Clocked κ π) : Move κ π → Option (Kept κ π)
  | .visit key query _ =>
    match s.client.course policy s.now key query with
    | .answered payload => some ⟨key, payload, s.now + (query.within policy.timeout).took⟩
    | .failed _ | .served | .refused => none
  | .wait _ | .allow _ => none

/-- The moments at which a run sends queries. -/
def queries (policy : SourcePolicy) : Clocked κ π → List (Move κ π) → List Duration :=
  gather (move policy) fun s m => (s.asked? policy m).toList

/-- The answers that a run brings. -/
def successes (policy : SourcePolicy) : Clocked κ π → List (Move κ π) → List (Kept κ π) :=
  gather (move policy) fun s m => (s.success? policy m).toList

variable {s : Clocked κ π}

theorem after_snoc (moves : List (Move κ π)) (m : Move κ π) :
    s.after policy (moves ++ [m]) = (s.after policy moves).move policy m := by
  rw [after, List.foldl_append]
  rfl

theorem queries_snoc (moves : List (Move κ π)) (m : Move κ π) : s.queries policy (moves ++ [m]) =
    s.queries policy moves ++ ((s.after policy moves).asked? policy m).toList :=
  gather_snoc _ _ moves m s

theorem successes_snoc (moves : List (Move κ π)) (m : Move κ π) :
    s.successes policy (moves ++ [m]) =
      s.successes policy moves ++ ((s.after policy moves).success? policy m).toList :=
  gather_snoc _ _ moves m s

/-! ## What a move does -/

/-- The move brings an answer for which there is no room. -/
def Overfills (policy : SourcePolicy) (s : Clocked κ π) (m : Move κ π) : Prop :=
  ∃ e, s.success? policy m = some e ∧ s.client.Crowded policy e.key

/-- **The answer kept for a key** is after a move the one that the move brought for that key; if it brought
    none, it is the one from before, unless it had to make room for another. -/
theorem find?_move (policy : SourcePolicy) (s : Clocked κ π) (m : Move κ π) (k : κ) :
    (∃ e, s.success? policy m = some e ∧ e.key = k ∧ (s.move policy m).client.find? k = some e) ∨
    ((∀ e, s.success? policy m = some e → e.key ≠ k) ∧
      ((s.move policy m).client.find? k = s.client.find? k ∨
        (s.move policy m).client.find? k = none ∧ s.Overfills policy m)) := by
  cases m with
  | wait span => exact .inr ⟨nofun, .inl rfl⟩
  | allow budget => exact .inr ⟨nofun, .inl rfl⟩
  | visit key query tie =>
    rw [success?, move]
    rcases fetch_cases policy tie s.now key query s.client with ⟨e, -, -, hcourse, hfetch⟩ |
      ⟨-, hcourse, hfetch⟩ | ⟨budget, fault, -, hcourse, hfetch⟩ |
      ⟨budget, payload, -, hcourse, hfetch⟩
    · rw [hcourse, hfetch]
      exact .inr ⟨nofun, .inl rfl⟩
    · rw [hcourse, hfetch]
      exact .inr ⟨nofun, .inl rfl⟩
    · rw [hcourse, hfetch]
      exact .inr ⟨nofun, .inl rfl⟩
    · rw [hcourse, hfetch]
      by_cases hk : k = key
      · left
        subst hk
        exact ⟨_, rfl, rfl, find?_keep_self payload⟩
      · right
        constructor
        · rintro e he rfl
          obtain rfl := Option.some.inj he
          exact hk rfl
        · rcases find?_keep_of_ne (c := s.client.spend budget) hk payload with hsame | ⟨hgone, hfull⟩
          · exact .inl hsame
          · have hbrought : s.success? policy (.visit key query tie) =
                some ⟨key, payload, s.now + (query.within policy.timeout).took⟩ := by
              rw [success?, hcourse]
            exact .inr ⟨hgone, _, hbrought, hfull⟩

/-- A move sends as many queries as it counts. -/
theorem sent_move (policy : SourcePolicy) (s : Clocked κ π) (m : Move κ π) :
    (s.move policy m).client.sent = s.client.sent + (s.asked? policy m).toList.length := by
  cases m with
  | wait span => rfl
  | allow budget => rfl
  | visit key query tie =>
    rw [asked?, move]
    rcases fetch_cases policy tie s.now key query s.client with ⟨e, -, -, hcourse, hfetch⟩ |
      ⟨-, hcourse, hfetch⟩ | ⟨budget, fault, -, hcourse, hfetch⟩ |
      ⟨budget, payload, -, hcourse, hfetch⟩
    all_goals
      rw [hcourse, hfetch]
      rfl

/-- No move goes back in time, and an answer that it brings came before it ended. -/
theorem now_move (policy : SourcePolicy) (s : Clocked κ π) (m : Move κ π) :
    s.now ≤ (s.move policy m).now ∧
      ∀ e, s.success? policy m = some e → e.since = (s.move policy m).now := by
  cases m with
  | wait span => exact ⟨Nat.le_add_right _ _, nofun⟩
  | allow budget => exact ⟨Nat.le_refl _, nofun⟩
  | visit key query tie =>
    rw [success?, move]
    rcases fetch_cases policy tie s.now key query s.client with ⟨e, -, -, hcourse, hfetch⟩ |
      ⟨-, hcourse, hfetch⟩ | ⟨budget, fault, -, hcourse, hfetch⟩ |
      ⟨budget, payload, -, hcourse, hfetch⟩
    · rw [hcourse, hfetch]
      exact ⟨Nat.le_refl _, nofun⟩
    · rw [hcourse, hfetch]
      exact ⟨Nat.le_refl _, nofun⟩
    · rw [hcourse, hfetch]
      exact ⟨Nat.le_add_right _ _, nofun⟩
    · rw [hcourse, hfetch]
      refine ⟨Nat.le_add_right _ _, ?_⟩
      rintro e he
      obtain rfl := Option.some.inj he
      rfl

end Clocked
end DriveAdvisory.Client
