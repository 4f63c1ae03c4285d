/-
  How many queries a window can see.

  A policy speaks of so many calls per window, and the budget is a bucket of that many tokens, one of which comes
  back every `window / calls`.  The two are not the same.  A bucket that was left alone gives out all of its
  tokens at one moment and goes on to give one every interval, and a window that begins at that moment sees
  both:

  * `sentWithin_le`            no span sees more than the bucket and what comes back before its end;
  * `sentWithin_burst`         and a visitor who asks whenever he may sees that much;
  * `keepsAllowance_iff`       so a window never sees more than the policy's calls exactly if the policy has a
                               single call (or a window too short to be divided by its calls).

  The bound rests on one observation.  Every query puts the moment at which the bucket is full again off by an
  interval, so the queries since some moment have put it off that often (`Billed`), and no query may put it
  farther away than the bucket is deep.
-/
import DriveAdvisory.Proofs.Source.Visits
import Mathlib.Data.List.Induction
import Mathlib.Order.Bounds.Defs

namespace DriveAdvisory

/-! ## One token -/

namespace Budget

variable {b b' : Budget} {now : Duration}

theorem take?_eq_some_iff : b.take? now = some b' ↔
    b.debt now + b.interval ≤ b.size * b.interval ∧
      b' = { b with fullAt := max b.fullAt now + b.interval } := by
  unfold take?
  split
  · rename_i hroom
    constructor
    · intro h
      exact ⟨hroom, (Option.some.inj h).symm⟩
    · rintro ⟨-, rfl⟩
      rfl
  · rename_i hroom
    constructor
    · intro h
      nomatch h
    · rintro ⟨h, -⟩
      exact absurd h hroom

/-- A token puts the moment at which the bucket is full off by an interval, counted from now or from that moment,
    whichever is later, but never by more than all tokens of the bucket take from now. -/
theorem take?_fullAt (hsize : 1 ≤ b.size) (h : b.take? now = some b') :
    now + b.interval ≤ b'.fullAt ∧ b.fullAt + b.interval ≤ b'.fullAt ∧
      b'.fullAt ≤ now + b.size * b.interval := by
  obtain ⟨hroom, rfl⟩ := take?_eq_some_iff.mp h
  have hone : b.interval ≤ b.size * b.interval := Nat.le_mul_of_pos_left _ hsize
  unfold debt at hroom
  unfold Duration at *
  dsimp only
  omega

theorem one_le_size (policy : SourcePolicy) : 1 ≤ (ofPolicy policy).size := Nat.le_max_right _ _

theorem size_ofPolicy {policy : SourcePolicy} (h : 1 ≤ policy.calls) :
    (ofPolicy policy).size = policy.calls := Nat.max_eq_left h

/-- A whole window is no longer than one interval exactly if there is but one call to it, or if it is too short
    to be divided. -/
theorem window_le_interval_iff {policy : SourcePolicy} (hcalls : 1 ≤ policy.calls)
    (hwindow : 0 < policy.window) : policy.window ≤ (ofPolicy policy).interval ↔
      policy.calls = 1 ∨
        policy.window < policy.calls ∧ policy.window ≤ Duration.ofSeconds 1 / policy.calls := by
  have hinterval : (ofPolicy policy).interval = if policy.window / policy.calls = 0 then
      Duration.ofSeconds 1 / policy.calls else policy.window / policy.calls := by
    unfold ofPolicy
    dsimp only
    rw [Nat.max_eq_left hcalls]
  rw [hinterval]
  split
  · rename_i hshort
    have hlt : policy.window < policy.calls := by
      rcases Nat.div_eq_zero_iff.mp hshort with h | h
      · omega
      · exact h
    constructor
    · exact fun h => .inr ⟨hlt, h⟩
    · rintro (h | ⟨-, h⟩)
      · unfold Duration at *
        omega
      · exact h
  · rename_i hlong
    have hge : ¬ policy.window < policy.calls := fun h => hlong (Nat.div_eq_of_lt h)
    constructor
    · intro h
      left
      rcases Nat.lt_or_ge policy.calls 2 with h2 | h2
      · omega
      · exact absurd (Nat.div_lt_self hwindow h2) (Nat.not_lt.mpr h)
    · rintro (h | ⟨h, -⟩)
      · rw [h]
        exact Nat.le_of_eq (Nat.div_one _).symm
      · exact absurd h hge

end Budget

namespace Client.Clocked

variable {κ π : Type} [DecidableEq κ] {policy : SourcePolicy}

/-! ## What queries cost -/

/-- A move that leaves the budget to the visits takes a token for a query, and nothing without one. -/
theorem budget_move (policy : SourcePolicy) (s : Clocked κ π) {m : Move κ π}
    (hm : m.isHonest = true) :
    (s.asked? policy m = none ∧ (s.move policy m).client.budget = s.client.budget) ∨
    (s.asked? policy m = some s.now ∧
      s.client.budget.take? s.now = some (s.move policy m).client.budget) := by
  cases m with
  | wait span => exact .inl ⟨rfl, rfl⟩
  | allow budget => nomatch hm
  | visit key query tie =>
    rw [asked?, move]
    rcases fetch_cases policy tie s.now key query s.client with ⟨e, -, -, hcourse, hfetch⟩ |
      ⟨-, hcourse, hfetch⟩ | ⟨budget, fault, htake, hcourse, hfetch⟩ |
      ⟨budget, payload, htake, hcourse, hfetch⟩
    · rw [hcourse, hfetch]
      exact .inl ⟨rfl, rfl⟩
    · rw [hcourse, hfetch]
      exact .inl ⟨rfl, rfl⟩
    · rw [hcourse, hfetch]
      exact .inr ⟨rfl, htake⟩
    · rw [hcourse, hfetch]
      exact .inr ⟨rfl, htake⟩

/-- The moments of a list that are not before a given one. -/
abbrev since (start : Duration) (moments : List Duration) : Nat :=
  moments.countP fun t => start ≤ t

/-- The books of a budget: it is the bucket of the policy, and it is not full before all queries since any
    moment are paid for. -/
structure Billed (policy : SourcePolicy) (budget : Budget) (queries : List Duration) : Prop where
  size : budget.size = (Budget.ofPolicy policy).size
  interval : budget.interval = (Budget.ofPolicy policy).interval
  paid : ∀ start, 0 < since start queries →
    start + since start queries * budget.interval ≤ budget.fullAt

theorem since_snoc (start : Duration) (moments : List Duration) (now : Duration) :
    since start (moments ++ [now]) = since start moments + if start ≤ now then 1 else 0 := by
  simp [since, List.countP_append, List.countP_singleton]

theorem Billed.query {budget budget' : Budget} {queries : List Duration} {now : Duration}
    (h : Billed policy budget queries) (htake : budget.take? now = some budget') :
    Billed policy budget' (queries ++ [now]) := by
  have hsize : 1 ≤ budget.size := h.size ▸ Budget.one_le_size policy
  obtain ⟨hnow, hfull, -⟩ := Budget.take?_fullAt hsize htake
  have hsame : budget'.size = budget.size ∧ budget'.interval = budget.interval := by
    obtain ⟨-, rfl⟩ := Budget.take?_eq_some_iff.mp htake
    exact ⟨rfl, rfl⟩
  refine ⟨hsame.1.trans h.size, hsame.2.trans h.interval, ?_⟩
  intro start hcount
  have hpaid := h.paid start
  rw [since_snoc] at hcount ⊢
  rw [hsame.2]
  generalize since start queries = n at hcount hpaid ⊢
  unfold Duration at *
  split
  · rename_i hstart
    rw [Nat.succ_mul]
    rcases Nat.eq_zero_or_pos n with hnone | hsome
    · -- the first query since then: it is paid for from now on
      rw [hnone, Nat.zero_mul]
      omega
    · have := hpaid hsome
      omega
  · rename_i hstart
    rw [if_neg hstart] at hcount
    have := hpaid hcount
    rw [Nat.add_zero]
    omega

theorem billed_after (policy : SourcePolicy) {moves : List (Move κ π)}
    (hmoves : ∀ m ∈ moves, m.isHonest = true) :
    Billed policy ((opened policy : Clocked κ π).after policy moves).client.budget
      ((opened policy).queries policy moves) := by
  induction moves using List.reverseRecOn with
  | nil =>
    refine ⟨rfl, rfl, ?_⟩
    intro start hcount
    exact absurd hcount (Nat.lt_irrefl 0)
  | append_singleton moves m ih =>
    have hbefore := ih fun m' hm' => hmoves m' (List.mem_append_left _ hm')
    rw [after_snoc, queries_snoc]
    rcases budget_move policy ((opened policy).after policy moves)
      (hmoves m (List.mem_append_right _ List.mem_cons_self)) with ⟨hasked, hbudget⟩ | ⟨hasked, htake⟩
    · rw [hasked, hbudget, Option.toList_none, List.append_nil]
      exact hbefore
    · rw [hasked]
      exact hbefore.query htake

/-! ## What a span can see -/

/-- The number of queries that a run sends within a span. -/
def sentWithin (policy : SourcePolicy) (moves : List (Move κ π)) (start span : Duration) : Nat :=
  ((opened policy).queries policy moves).countP fun t => start ≤ t ∧ t < start + span

/-- What comes back to the bucket within a span, not counting its end. -/
def returned (policy : SourcePolicy) (span : Duration) : Nat :=
  (span - 1) / (Budget.ofPolicy policy).interval

/-- **No span sees more** than the bucket and what comes back before its end. -/
theorem sentWithin_le (hinterval : 0 < (Budget.ofPolicy policy).interval) (start span : Duration)
    {moves : List (Move κ π)} (hmoves : ∀ m ∈ moves, m.isHonest = true) :
    sentWithin policy moves start span ≤
      (Budget.ofPolicy policy).size + returned policy span := by
  induction moves using List.reverseRecOn with
  | nil => exact Nat.zero_le _
  | append_singleton moves m ih =>
    have hbefore := ih fun m' hm' => hmoves m' (List.mem_append_left _ hm')
    have hbilled := billed_after policy hmoves
    rw [sentWithin]
    rw [queries_snoc] at hbilled ⊢
    rw [after_snoc] at hbilled
    have hm := hmoves m (List.mem_append_right _ List.mem_cons_self)
    have hbooks := billed_after policy fun m' hm' => hmoves m' (List.mem_append_left _ hm')
    generalize (opened policy).after policy moves = s at hbilled hbooks ⊢
    rcases budget_move policy s hm with ⟨hasked, -⟩ | ⟨hasked, htake⟩
    · rw [hasked, Option.toList_none, List.append_nil]
      exact hbefore
    · rw [hasked, Option.toList_some] at hbilled ⊢
      by_cases hin : start ≤ s.now ∧ s.now < start + span
      · -- this query is one of the span, so all of them are paid for by the time that it allows
        have hall : ((opened policy).queries policy moves ++ [s.now]).countP
              (fun t => start ≤ t ∧ t < start + span) ≤
            since start ((opened policy).queries policy moves ++ [s.now]) :=
          List.countP_mono_left fun t _ ht => by
            rw [decide_eq_true_eq] at ht ⊢
            exact ht.1
        have hcount : 0 < since start ((opened policy).queries policy moves ++ [s.now]) := by
          rw [since, List.countP_append, List.countP_singleton, if_pos (by simp [hin.1])]
          exact Nat.succ_pos _
        have hpaid := hbilled.paid start hcount
        have hsize : 1 ≤ s.client.budget.size := hbooks.size ▸ Budget.one_le_size policy
        have hdeep := (Budget.take?_fullAt hsize htake).2.2
        rw [hbilled.interval] at hpaid
        rw [hbooks.size, hbooks.interval] at hdeep
        refine Nat.le_trans hall ?_
        generalize since start ((opened policy).queries policy moves ++ [s.now]) = n at hpaid ⊢
        have hrest : (n - (Budget.ofPolicy policy).size) * (Budget.ofPolicy policy).interval
            ≤ span - 1 := by
          rw [Nat.sub_mul]
          unfold Duration at *
          omega
        have hdiv := (Nat.le_div_iff_mul_le hinterval).mpr hrest
        rw [returned]
        omega
      · rw [List.countP_append, List.countP_singleton, if_neg (by simpa using hin)]
        exact hbefore

/-! ## A visitor who asks whenever he may -/

/-- A source that says at once that it has no answer. -/
def failing : Answer π := ⟨.error .exchange, 0⟩

/-- Visits for one key, all at once. -/
def atOnce (key : κ) (n : Nat) : List (Move κ π) := List.replicate n (.visit key failing 0)

/-- Visits for one key, with an interval before each. -/
def spaced (interval : Duration) (key : κ) : Nat → List (Move κ π)
  | 0 => []
  | k + 1 => spaced interval key k ++ [.wait interval, .visit key failing 0]

/-- Visits until the bucket is empty, and then one for every token that comes back. -/
def burst (policy : SourcePolicy) (key : κ) (k : Nat) : List (Move κ π) :=
  atOnce key (Budget.ofPolicy policy).size ++ spaced (Budget.ofPolicy policy).interval key k

/-- A client that has sent `n` queries in vain, by the time that `k` intervals are over. -/
def spent (policy : SourcePolicy) (n k : Nat) : Clocked κ π where
  client :=
    { budget :=
        { Budget.ofPolicy policy with fullAt := n * (Budget.ofPolicy policy).interval }
      sent := n }
  now := k * (Budget.ofPolicy policy).interval

/-- It may send another one if the bucket was not emptied, counting what came back. -/
theorem visit_spent (policy : SourcePolicy) (key : κ) {n k : Nat} (hle : k ≤ n)
    (hroom : n + 1 ≤ (Budget.ofPolicy policy).size + k) :
    (spent policy n k : Clocked κ π).asked? policy (.visit key failing 0) =
        some (k * (Budget.ofPolicy policy).interval) ∧
      (spent policy n k : Clocked κ π).move policy (.visit key failing 0) =
        spent policy (n + 1) k := by
  generalize hs : (spent policy n k : Clocked κ π) = s
  have htake : s.client.budget.take? s.now =
      some { Budget.ofPolicy policy with fullAt := (n + 1) * (Budget.ofPolicy policy).interval } := by
    have hmul := Nat.mul_le_mul_right (Budget.ofPolicy policy).interval hroom
    have hmax := Nat.mul_le_mul_right (Budget.ofPolicy policy).interval hle
    rw [Nat.add_mul, Nat.add_mul, Nat.one_mul] at hmul
    rw [← hs, Budget.take?_eq_some_iff]
    constructor
    · show n * (Budget.ofPolicy policy).interval - k * (Budget.ofPolicy policy).interval
        + (Budget.ofPolicy policy).interval
          ≤ (Budget.ofPolicy policy).size * (Budget.ofPolicy policy).interval
      unfold Duration at *
      omega
    · dsimp only [spent]
      rw [Nat.max_eq_left hmax, Nat.succ_mul]
  have hnone : s.client.find? key = none := by
    rw [← hs]
    rfl
  have hin : (failing : Answer π).within policy.timeout = failing := if_pos (Nat.zero_le _)
  rcases fetch_cases policy 0 s.now key failing s.client with ⟨e, hfind, -⟩ | ⟨hrefused, -⟩ |
    ⟨budget, fault, htook, hcourse, hfetch⟩ | ⟨budget, payload, -, hcourse, -⟩
  · rw [hnone] at hfind
    cases hfind
  · rw [htake] at hrefused
    cases hrefused
  · obtain rfl := Option.some.inj (htake.symm.trans htook)
    constructor
    · rw [asked?, hcourse, ← hs]
      rfl
    · rw [move, hfetch, hin, ← hs]
      rfl
  · unfold course at hcourse
    rw [hin] at hcourse
    split at hcourse <;> cases hcourse

/-- The bucket allows as many queries at once as it holds. -/
theorem after_atOnce (policy : SourcePolicy) (key : κ) : ∀ n, n ≤ (Budget.ofPolicy policy).size →
    (opened policy : Clocked κ π).after policy (atOnce key n) = spent policy n 0 ∧
      (opened policy : Clocked κ π).queries policy (atOnce key n) = List.replicate n 0
  | 0, _ => by
    refine ⟨?_, rfl⟩
    rw [spent, Nat.zero_mul]
    rfl
  | n + 1, hle => by
    obtain ⟨hafter, hqueries⟩ := after_atOnce policy key n (Nat.le_of_succ_le hle)
    obtain ⟨hasked, hmove⟩ := visit_spent (κ := κ) (π := π) policy key (Nat.zero_le n) hle
    rw [atOnce, List.replicate_succ', ← atOnce, after_snoc, queries_snoc, hafter, hqueries, hasked,
      hmove, Nat.zero_mul, List.replicate_succ']
    exact ⟨rfl, rfl⟩

/-- And one more whenever an interval is over. -/
theorem after_burst (policy : SourcePolicy) (key : κ) : ∀ k,
    (opened policy : Clocked κ π).after policy (burst policy key k) =
        spent policy ((Budget.ofPolicy policy).size + k) k ∧
      (opened policy : Clocked κ π).queries policy (burst policy key k) =
        List.replicate (Budget.ofPolicy policy).size 0
          ++ (List.range k).map fun i => (i + 1) * (Budget.ofPolicy policy).interval
  | 0 => by
    rw [burst, spaced, List.append_nil, List.range_zero, List.map_nil, List.append_nil]
    exact after_atOnce policy key _ (Nat.le_refl _)
  | k + 1 => by
    obtain ⟨hafter, hqueries⟩ := after_burst policy key k
    have hwait : (spent policy ((Budget.ofPolicy policy).size + k) k : Clocked κ π).move policy
        (.wait (Budget.ofPolicy policy).interval) =
        spent policy ((Budget.ofPolicy policy).size + k) (k + 1) := by
      rw [spent, spent, move, Nat.succ_mul]
    have hmore : k + 1 ≤ (Budget.ofPolicy policy).size + k := by
      rw [Nat.add_comm]
      exact Nat.add_le_add_right (Budget.one_le_size policy) k
    obtain ⟨hasked, hmove⟩ := visit_spent (κ := κ) (π := π) policy key hmore (Nat.le_refl _)
    have hsplit : (burst policy key (k + 1) : List (Move κ π)) =
        burst policy key k ++ [.wait (Budget.ofPolicy policy).interval] ++
          [.visit key failing 0] := by
      rw [burst, burst, spaced]
      simp
    rw [hsplit, after_snoc, queries_snoc, after_snoc, queries_snoc, hafter, hqueries, hwait, hmove,
      hasked, List.range_succ, List.map_append, asked?, Option.toList_none, List.append_nil,
      List.append_assoc]
    exact ⟨rfl, rfl⟩

omit [DecidableEq κ] in
theorem isHonest_burst (policy : SourcePolicy) (key : κ) (k : Nat) :
    ∀ m ∈ (burst policy key k : List (Move κ π)), m.isHonest = true := by
  intro m hm
  rcases List.mem_append.mp hm with hfirst | hlater
  · obtain ⟨-, rfl⟩ := List.mem_replicate.mp hfirst
    rfl
  · induction k with
    | zero => exact absurd hlater List.not_mem_nil
    | succ k ih =>
      rcases List.mem_append.mp hlater with hearlier | hlast
      · exact ih (List.mem_append_right _ hearlier) hearlier
      · rw [List.mem_cons, List.mem_singleton] at hlast
        rcases hlast with rfl | rfl <;> rfl

/-- **A span can see** the bucket and all that comes back before its end. -/
theorem sentWithin_burst (policy : SourcePolicy) (key : κ) {k : Nat} {span : Duration}
    (hspan : k * (Budget.ofPolicy policy).interval < span) :
    sentWithin policy (burst policy key k : List (Move κ π)) 0 span =
      (Budget.ofPolicy policy).size + k := by
  rw [sentWithin, (after_burst policy key k).2, List.countP_eq_length.mpr ?_]
  · simp
  · intro t ht
    rw [decide_eq_true_eq, Nat.zero_add]
    refine ⟨Nat.zero_le t, ?_⟩
    rcases List.mem_append.mp ht with hfirst | hlater
    · obtain ⟨-, rfl⟩ := List.mem_replicate.mp hfirst
      exact Nat.zero_lt_of_lt hspan
    · obtain ⟨i, hi, rfl⟩ := List.mem_map.mp hlater
      exact Nat.lt_of_le_of_lt (Nat.mul_le_mul_right _ (List.mem_range.mp hi)) hspan

/-! ## Whether a window keeps to the policy -/

/-- No window of a run sees more queries than the policy's calls. -/
def KeepsAllowance (κ π : Type) [DecidableEq κ] (policy : SourcePolicy) : Prop :=
  ∀ moves : List (Move κ π), (∀ m ∈ moves, m.isHonest = true) →
    ∀ start, sentWithin policy moves start policy.window ≤ policy.calls

/-- An interval within a window lets the window see one query too many. -/
theorem exists_overdrawn (key : κ) (hcalls : 1 ≤ policy.calls)
    (hinterval : (Budget.ofPolicy policy).interval < policy.window) :
    ¬ KeepsAllowance κ π policy := by
  intro hkeeps
  have hsent := sentWithin_burst (π := π) policy key (k := 1) (by rwa [Nat.one_mul])
  have hle := hkeeps (burst policy key 1) (isHonest_burst policy key 1) 0
  rw [hsent, Budget.size_ofPolicy hcalls] at hle
  exact absurd hle (Nat.not_succ_le_self _)

/-- **A policy's windows keep to its calls** exactly if there is but one call to a window, or a window is too
    short to be divided by its calls and is over before a token comes back all the same. -/
theorem keepsAllowance_iff [Inhabited κ] (hcalls : 1 ≤ policy.calls) (hwindow : 0 < policy.window) :
    KeepsAllowance κ π policy ↔ policy.calls = 1 ∨
      policy.window < policy.calls ∧ policy.window ≤ Duration.ofSeconds 1 / policy.calls := by
  rw [← Budget.window_le_interval_iff hcalls hwindow]
  constructor
  · intro hkeeps
    by_contra hlt
    exact exists_overdrawn default hcalls (Nat.lt_of_not_le hlt) hkeeps
  · intro hle moves hmoves start
    have hinterval : 0 < (Budget.ofPolicy policy).interval := Nat.lt_of_lt_of_le hwindow hle
    have hnone : returned policy policy.window = 0 := by
      refine Nat.div_eq_of_lt ?_
      unfold Duration at *
      omega
    have hsent := sentWithin_le hinterval start policy.window hmoves
    rwa [hnone, Nat.add_zero, Budget.size_ofPolicy hcalls] at hsent

/-- The traffic source allows ten queries in a minute, and its windows do not keep to that. -/
theorem keepsAllowance_iff_traffic : ¬ KeepsAllowance String Nat .traffic := by
  rw [keepsAllowance_iff (by decide) (by decide)]
  decide

/-- Ten queries at once and one after six seconds are eleven in a minute. -/
theorem traffic_overdrawn : ∃ moves : List (Move String Nat),
    (∀ m ∈ moves, m.isHonest = true) ∧
      SourcePolicy.traffic.calls < sentWithin .traffic moves 0 SourcePolicy.traffic.window :=
  ⟨burst .traffic "" 1, isHonest_burst .traffic "" 1, by
    rw [sentWithin_burst .traffic "" (by decide)]
    decide⟩

end Client.Clocked
end DriveAdvisory
