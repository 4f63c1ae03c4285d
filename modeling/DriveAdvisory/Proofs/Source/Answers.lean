/-
  Where the answers of a client come from.

  A client hands on what its source said, and what it says about the age of an answer is all that its readers
  have to go by.  So every answer is traced to the query that brought it:

  * `find?_after`     what is kept for a key is the last answer that came for it, unless that one had to
                      make room in the meantime (`EvictedSince`);
  * `attested`        a fresh answer is that last one and came just now or less than a lifetime ago, a stale
                      one is that last one too, and nothing is given out only where there is none or it had
                      to make room.

  Queries that fail and queries that are refused bring nothing, so they cannot make an old answer young, nor take
  one away.  Nothing is asked of the budget: it may refuse whenever it likes.
-/
import DriveAdvisory.Proofs.Source.Visits
import Mathlib.Data.List.Induction

namespace DriveAdvisory.Client.Clocked

variable {κ π : Type} [DecidableEq κ] {policy : SourcePolicy} {s : Clocked κ π}

/-! ## The last answer for a key -/

/-- The last answer of a list that is for a key. -/
def latest (key : κ) (log : List (Kept κ π)) : Option (Kept κ π) :=
  (log.filter fun e => e.key = key).getLast?

theorem latest_concat_self {key : κ} (log : List (Kept κ π)) {e : Kept κ π} (h : e.key = key) :
    latest key (log ++ [e]) = some e := by
  simp [latest, h]

theorem latest_append_of_ne {key : κ} (log : List (Kept κ π)) {new : List (Kept κ π)}
    (h : ∀ e ∈ new, e.key ≠ key) : latest key (log ++ new) = latest key log := by
  have hnew : (new.filter fun e => e.key = key) = [] := by
    simpa [List.filter_eq_nil_iff] using h
  rw [latest, List.filter_append, hnew, List.append_nil, latest]

theorem mem_of_latest {key : κ} {log : List (Kept κ π)} {e : Kept κ π}
    (h : latest key log = some e) : e ∈ log :=
  (List.mem_filter.mp (List.mem_of_getLast? h)).1

/-- The answer for a key had to make room for the answer to a new one, and none came for it after that. -/
def EvictedSince (policy : SourcePolicy) (s : Clocked κ π) (moves : List (Move κ π)) (key : κ) :
    Prop :=
  ∃ before m later, moves = before ++ m :: later ∧ (s.after policy before).Overfills policy m ∧
    ((s.after policy before).client.find? key).isSome = true ∧
    ((s.after policy before).move policy m).client.find? key = none ∧
    ∀ e ∈ (s.after policy before).successes policy (m :: later), e.key ≠ key

theorem EvictedSince.snoc {moves : List (Move κ π)} {m : Move κ π} {key : κ}
    (h : EvictedSince policy s moves key)
    (hm : ∀ e, (s.after policy moves).success? policy m = some e → e.key ≠ key) :
    EvictedSince policy s (moves ++ [m]) key := by
  obtain ⟨before, evicting, later, rfl, hfull, hheld, hgone, hnone⟩ := h
  refine ⟨before, evicting, later ++ [m], by simp, hfull, hheld, hgone, ?_⟩
  have hafter : (s.after policy before).after policy (evicting :: later) =
      s.after policy (before ++ evicting :: later) := by
    rw [after, after, after, List.foldl_append]
  intro e he
  rw [← List.cons_append, successes_snoc, hafter] at he
  rcases List.mem_append.mp he with hold | hnew
  · exact hnone e hold
  · exact hm e (Option.mem_toList.mp hnew)

/-- **What is kept for a key** after a run is the last answer that came for it, unless that one was
    evicted. -/
theorem find?_after (policy : SourcePolicy) (key : κ) (moves : List (Move κ π)) :
    let s : Clocked κ π := opened policy
    (s.after policy moves).client.find? key = latest key (s.successes policy moves) ∨
      (s.after policy moves).client.find? key = none ∧ EvictedSince policy s moves key := by
  intro s
  induction moves using List.reverseRecOn with
  | nil => exact .inl rfl
  | append_singleton moves m ih =>
    rw [after_snoc, successes_snoc]
    rcases find?_move policy (s.after policy moves) m key with ⟨e, he, hkey, hfind⟩ | ⟨hne, hfind⟩
    · left
      rw [hfind, he]
      exact (latest_concat_self _ hkey).symm
    · have hlog : latest key (s.successes policy moves
          ++ ((s.after policy moves).success? policy m).toList) =
          latest key (s.successes policy moves) :=
        latest_append_of_ne _ fun e he => hne e (Option.mem_toList.mp he)
      rw [hlog]
      rcases ih with hkept | ⟨hgone, hevicted⟩
      · -- the last answer is still there, so the move leaves it alone or is the one that evicts it
        rcases hfind with hsame | ⟨hnone, hfull⟩
        · exact .inl (hsame.trans hkept)
        · cases hheld : (s.after policy moves).client.find? key with
          | none =>
            left
            rw [hnone, ← hkept, hheld]
          | some e =>
            right
            refine ⟨hnone, moves, m, [], rfl, hfull, by rw [hheld]; rfl, hnone, ?_⟩
            intro e he
            rw [successes, gather, gather, List.append_nil] at he
            exact hne e (Option.mem_toList.mp he)
      · right
        refine ⟨?_, hevicted.snoc hne⟩
        rcases hfind with hsame | ⟨hnone, -⟩
        · rw [hsame, hgone]
        · exact hnone

theorem latest_of_find? {key : κ} {moves : List (Move κ π)} {e : Kept κ π}
    (h : ((opened policy).after policy moves).client.find? key = some e) :
    latest key ((opened policy).successes policy moves) = some e := by
  rcases find?_after policy key moves with hkept | ⟨hnone, -⟩
  · rw [← hkept, h]
  · rw [h] at hnone
    nomatch hnone

/-- No answer of a run is from the future. -/
theorem since_le_now (policy : SourcePolicy) (s : Clocked κ π) (moves : List (Move κ π)) :
    ∀ e ∈ s.successes policy moves, e.since ≤ (s.after policy moves).now := by
  induction moves using List.reverseRecOn with
  | nil => exact fun e he => absurd he List.not_mem_nil
  | append_singleton moves m ih =>
    obtain ⟨hle, hsince⟩ := now_move policy (s.after policy moves) m
    intro e he
    rw [successes_snoc] at he
    rw [after_snoc]
    rcases List.mem_append.mp he with hold | hnew
    · exact Nat.le_trans (ih e hold) hle
    · exact Nat.le_of_eq (hsince e (Option.mem_toList.mp hnew))

/-- A client has sent as many queries as it counts. -/
theorem sent_after (policy : SourcePolicy) (s : Clocked κ π) (moves : List (Move κ π)) :
    (s.after policy moves).client.sent = s.client.sent + (s.queries policy moves).length := by
  induction moves using List.reverseRecOn with
  | nil => rfl
  | append_singleton moves m ih =>
    rw [after_snoc, sent_move, ih, queries_snoc, List.length_append, Nat.add_assoc]

/-! ## What a client promises -/

/-- **What a client promises about its answers.** -/
structure Attested (policy : SourcePolicy) (moves : List (Move κ π)) : Prop where
  /-- A fresh answer is the last one that came for its key.  It came with this visit, or less than a lifetime
      before it, and then the visit changes nothing at all. -/
  fresh : ∀ before key query tie later payload,
    moves = before ++ .visit key query tie :: later →
    let s := (opened policy).after policy before
    let visited := s.client.fetch policy tie s.now key query
    visited.1 = .fresh payload →
    ∃ e, latest key ((opened policy).successes policy (before ++ [.visit key query tie])) = some e ∧
      e.payload = payload ∧
      (s.client.course policy s.now key query = .answered payload ∨
        e.since ≤ s.now ∧ s.now < e.since + policy.ttl ∧ visited.2 = (s.now, s.client))
  /-- A stale answer is the last one that came for its key, and given out only by a visit in vain. -/
  stale : ∀ before key query tie later payload,
    moves = before ++ .visit key query tie :: later →
    let s := (opened policy).after policy before
    (s.client.fetch policy tie s.now key query).1 = .stale payload →
    (s.client.course policy s.now key query).InVain ∧
      ∃ e, latest key ((opened policy).successes policy before) = some e ∧ e.payload = payload
  /-- Nothing is given out only by a visit in vain, for a key whose answer never came or was evicted. -/
  empty : ∀ before key query tie later,
    moves = before ++ .visit key query tie :: later →
    let s := (opened policy).after policy before
    (s.client.fetch policy tie s.now key query).1 = .empty →
    (s.client.course policy s.now key query).InVain ∧
      (latest key ((opened policy).successes policy before) = none ∨
        EvictedSince policy (opened policy) before key)
  /-- A visit in vain leaves every answer as it is. -/
  kept : ∀ before key query tie later,
    moves = before ++ .visit key query tie :: later →
    let s := (opened policy).after policy before
    (s.client.course policy s.now key query).InVain →
    (s.client.fetch policy tie s.now key query).2.2.kept = s.client.kept
  /-- The client counts the queries that it sends. -/
  counted : ((opened policy).after policy moves).client.sent =
    ((opened policy).queries policy moves).length

/-- What a visit gives that brings nothing new. -/
theorem fetch_inVain {key : κ} {query : Answer π} {now : Duration} {c : Client κ π} (tie : Nat)
    (h : (c.course policy now key query).InVain) :
    (c.fetch policy tie now key query).1 = c.lastKnown key ∧
      (c.fetch policy tie now key query).2.2.kept = c.kept := by
  rcases fetch_cases policy tie now key query c with ⟨e, -, -, hcourse, hfetch⟩ |
    ⟨-, hcourse, hfetch⟩ | ⟨budget, fault, -, hcourse, hfetch⟩ |
    ⟨budget, payload, -, hcourse, hfetch⟩
  · rw [hcourse] at h
    exact h.elim
  · rw [hfetch]
    exact ⟨rfl, rfl⟩
  · rw [hfetch]
    exact ⟨rfl, rfl⟩
  · rw [hcourse] at h
    exact h.elim

/-- A visit that gives out no fresh answer is one in vain. -/
theorem inVain_of_not_fresh {key : κ} {query : Answer π} {now : Duration} {c : Client κ π}
    (tie : Nat) (h : ∀ payload, (c.fetch policy tie now key query).1 ≠ .fresh payload) :
    (c.course policy now key query).InVain := by
  rcases fetch_cases policy tie now key query c with ⟨e, -, -, -, hfetch⟩ |
    ⟨-, hcourse, -⟩ | ⟨budget, fault, -, hcourse, -⟩ | ⟨budget, payload, -, -, hfetch⟩
  · exact absurd (congrArg Prod.fst hfetch) (h e.payload)
  · rw [hcourse]
    trivial
  · rw [hcourse]
    trivial
  · exact absurd (congrArg Prod.fst hfetch) (h payload)

end DriveAdvisory.Client.Clocked
