/-
  How many answers a client keeps, and which of them it gives up.

  A policy names the number of answers to keep, and the answer that has just come is always kept; so a client
  keeps at most `max 1 maxEntries` of them, one for each key.  To keep to that it gives up an answer when one
  comes for a new key and there is no room for it, never more than one at a time, and none of the others is
  older.  Which of several oldest ones goes is left open, and each of them may be the one (`exists_tie`).

  What a move does to the kept answers is `Upkeep`, one rule for each thing that can happen, and `upkeep_move`
  is the step.  The rest is read off the rules, but for what a lookup finds: that is `find?_move`.
-/
import DriveAdvisory.Proofs.Source.Visits
import Mathlib.Data.List.Induction
import Mathlib.Data.List.Nodup

namespace DriveAdvisory.Client

variable {κ π : Type}

/-! ## The oldest answer -/

/-- No other of the kept answers is older. -/
def IsOldest (kept : List (Kept κ π)) (e : Kept κ π) : Prop :=
  e ∈ kept ∧ ∀ other ∈ kept, e.since ≤ other.since

theorem IsOldest.since_eq {kept : List (Kept κ π)} {e other : Kept κ π} (h : IsOldest kept e)
    (hother : IsOldest kept other) : e.since = other.since :=
  Nat.le_antisymm (h.2 other hother.1) (hother.2 e h.1)

theorem exists_isOldest : ∀ {kept : List (Kept κ π)}, kept ≠ [] →
    ∃ e, IsOldest kept e ∧ oldest? kept = some e.since
  | [], h => absurd rfl h
  | [e], _ => ⟨e, ⟨List.mem_singleton_self e, List.forall_mem_singleton.mpr (Nat.le_refl _)⟩, rfl⟩
  | e :: next :: rest, _ => by
    obtain ⟨oldest, ⟨hmem, hle⟩, hmoment⟩ := exists_isOldest (List.cons_ne_nil next rest)
    rw [oldest?, hmoment]
    rcases Nat.le_total e.since oldest.since with h | h
    · have hall : ∀ other ∈ next :: rest, e.since ≤ other.since :=
        fun other hother => Nat.le_trans h (hle other hother)
      exact ⟨e, ⟨List.mem_cons_self, List.forall_mem_cons.mpr ⟨Nat.le_refl _, hall⟩⟩,
        congrArg some (Nat.min_eq_left h)⟩
    · exact ⟨oldest, ⟨List.mem_cons_of_mem e hmem, List.forall_mem_cons.mpr ⟨h, hle⟩⟩,
        congrArg some (Nat.min_eq_right h)⟩

theorem IsOldest.oldest?_eq {kept : List (Kept κ π)} {e : Kept κ π} (h : IsOldest kept e) :
    oldest? kept = some e.since := by
  obtain ⟨other, hother, hmoment⟩ := exists_isOldest (List.ne_nil_of_mem h.1)
  rw [hmoment, hother.since_eq h]

/-- Those that came at the oldest moment are the oldest ones. -/
theorem IsOldest.mem_filter_iff {kept : List (Kept κ π)} {e other : Kept κ π}
    (h : IsOldest kept e) :
    (other ∈ kept.filter fun o => o.since = e.since) ↔ IsOldest kept other := by
  rw [List.mem_filter, decide_eq_true_eq]
  constructor
  · rintro ⟨hmem, hsince⟩
    exact ⟨hmem, hsince ▸ h.2⟩
  · exact fun hother => ⟨hother.1, hother.since_eq h⟩

variable [DecidableEq κ]

/-- **What gives way** is an oldest answer. -/
theorem exists_victim (tie : Nat) {kept : List (Kept κ π)} (h : kept ≠ []) :
    ∃ victim, IsOldest kept victim ∧ evict tie kept = kept.filter fun e => e.key ≠ victim.key := by
  obtain ⟨e, he, hmoment⟩ := exists_isOldest h
  have hlt : tie % (kept.filter fun o => o.since = e.since).length <
      (kept.filter fun o => o.since = e.since).length :=
    Nat.mod_lt tie (List.length_pos_of_mem (he.mem_filter_iff.mpr he))
  refine ⟨_, he.mem_filter_iff.mp (List.getElem_mem hlt), ?_⟩
  unfold evict
  simp only [hmoment, List.getElem?_eq_getElem hlt]

/-- And each of the oldest may be the one. -/
theorem exists_tie {kept : List (Kept κ π)} {victim : Kept κ π} (h : IsOldest kept victim) :
    ∃ tie, evict tie kept = kept.filter fun e => e.key ≠ victim.key := by
  obtain ⟨i, hi, hget⟩ := List.mem_iff_getElem.mp (h.mem_filter_iff.mpr h)
  refine ⟨i, ?_⟩
  unfold evict
  simp only [h.oldest?_eq, Nat.mod_eq_of_lt hi, List.getElem?_eq_getElem hi, hget]

/-! ## What happens to the kept answers -/

/-- What becomes of the kept answers when an answer comes, or none. -/
inductive Upkeep (policy : SourcePolicy) (kept : List (Kept κ π)) :
    Option (Kept κ π) → List (Kept κ π) → Prop
  | idle : Upkeep policy kept none kept
  /-- One is kept for the key already. -/
  | refreshed (e old : Kept κ π) (held : old ∈ kept) (same : old.key = e.key) :
    Upkeep policy kept (some e) ((kept.filter fun o => o.key ≠ e.key) ++ [e])
  /-- The key is new, and there is room. -/
  | added (e : Kept κ π) (new : ∀ old ∈ kept, old.key ≠ e.key)
    (room : kept.length < max 1 policy.maxEntries) : Upkeep policy kept (some e) (kept ++ [e])
  /-- The key is new, and an oldest answer gives way. -/
  | replaced (e victim : Kept κ π) (new : ∀ old ∈ kept, old.key ≠ e.key)
    (full : policy.maxEntries ≤ kept.length) (oldest : IsOldest kept victim) :
    Upkeep policy kept (some e) ((kept.filter fun o => o.key ≠ victim.key) ++ [e])

theorem find?_eq_none_iff {key : κ} {c : Client κ π} :
    c.find? key = none ↔ ∀ e ∈ c.kept, e.key ≠ key := by
  simp [find?, List.find?_eq_none]

/-- What is kept beside an answer is what the rules say. -/
theorem upkeep_others (policy : SourcePolicy) (tie : Nat) (c : Client κ π) (e : Kept κ π) :
    Upkeep policy c.kept (some e) (c.others policy tie e.key ++ [e]) := by
  rw [others]
  cases hfind : c.find? e.key with
  | some old =>
    have hkey : old.key = e.key := by simpa using List.find?_some hfind
    rw [if_pos (by exact Option.isSome_some)]
    exact .refreshed e old (List.mem_of_find?_eq_some hfind) hkey
  | none =>
    have hnew : ∀ old ∈ c.kept, old.key ≠ e.key := find?_eq_none_iff.mp hfind
    rw [if_neg (by exact Bool.false_ne_true)]
    by_cases hfull : policy.maxEntries ≤ c.kept.length
    · rw [if_pos hfull]
      by_cases hnil : c.kept = []
      · -- there is nothing to give up, even if the policy wants nothing kept
        have hevict : evict tie c.kept = c.kept := by
          rw [hnil]
          rfl
        have hroom : c.kept.length < max 1 policy.maxEntries := by
          rw [hnil]
          exact Nat.lt_of_lt_of_le Nat.zero_lt_one (Nat.le_max_left 1 _)
        rw [hevict]
        exact .added e hnew hroom
      · obtain ⟨victim, hvictim, hevict⟩ := exists_victim tie hnil
        rw [hevict]
        exact .replaced e victim hnew hfull hvictim
    · rw [if_neg hfull]
      exact .added e hnew (Nat.lt_of_lt_of_le (Nat.lt_of_not_le hfull) (Nat.le_max_right 1 _))

/-- The answers that a client may keep. -/
structure Within (policy : SourcePolicy) (kept : List (Kept κ π)) : Prop where
  /-- No two of them are for one key. -/
  keys : (kept.map Kept.key).Nodup
  /-- There are no more than the policy allows, which cannot keep the client from keeping the newest. -/
  size : kept.length ≤ max 1 policy.maxEntries

variable {policy : SourcePolicy} {kept left : List (Kept κ π)} {brought : Option (Kept κ π)}

omit [DecidableEq κ] in
theorem nodup_keys_concat {e : Kept κ π} (h : (kept.map Kept.key).Nodup)
    (hnew : ∀ old ∈ kept, old.key ≠ e.key) : ((kept ++ [e]).map Kept.key).Nodup := by
  rw [List.map_append, List.map_singleton, ← List.concat_eq_append]
  refine List.Nodup.concat (fun hmem => ?_) h
  obtain ⟨old, hold, hkey⟩ := List.mem_map.mp hmem
  exact hnew old hold hkey

/-- One answer for another is no more than before. -/
theorem Within.exchange {e old : Kept κ π} (h : Within policy kept) (hold : old ∈ kept)
    (hnew : ∀ o ∈ kept, o.key ≠ old.key → o.key ≠ e.key) :
    Within policy ((kept.filter fun o => o.key ≠ old.key) ++ [e]) where
  keys := by
    refine nodup_keys_concat (h.keys.sublist (List.filter_sublist.map _)) fun o ho => ?_
    obtain ⟨hmem, hne⟩ := List.mem_filter.mp ho
    exact hnew o hmem (of_decide_eq_true hne)
  size := by
    have hless : (kept.filter fun o => o.key ≠ old.key).length < kept.length :=
      List.length_filter_lt_length_iff_exists.mpr ⟨old, hold, by simp⟩
    rw [List.length_append, List.length_singleton]
    exact Nat.le_trans hless h.size

/-- **The step**: the bound is kept. -/
theorem Upkeep.within (h : Upkeep policy kept brought left) (hkept : Within policy kept) :
    Within policy left := by
  cases h with
  | idle => exact hkept
  | refreshed e old held same =>
    rw [← same]
    exact hkept.exchange held fun o _ hne => same ▸ hne
  | added e new room =>
    refine ⟨nodup_keys_concat hkept.keys new, ?_⟩
    rw [List.length_append, List.length_singleton]
    exact room
  | replaced e victim new full oldest =>
    exact hkept.exchange oldest.1 fun o ho _ => new o ho

/-- **Who goes**: if a key is no longer among those kept, its answer had to give way to a new one. -/
theorem Upkeep.lost (h : Upkeep policy kept brought left) (hkeys : (kept.map Kept.key).Nodup) :
    (∀ e ∈ kept, ∃ o ∈ left, o.key = e.key) ∨
      ∃ new victim, brought = some new ∧ (∀ old ∈ kept, old.key ≠ new.key) ∧
        policy.maxEntries ≤ kept.length ∧ IsOldest kept victim ∧
        ∀ e ∈ kept, (∀ o ∈ left, o.key ≠ e.key) → e = victim := by
  cases h with
  | idle => exact .inl fun e he => ⟨e, he, rfl⟩
  | refreshed new old held same =>
    left
    intro e he
    by_cases hkey : e.key = new.key
    · exact ⟨new, by simp, hkey.symm⟩
    · exact ⟨e, by simp [he, hkey], rfl⟩
  | added new hnew room => exact .inl fun e he => ⟨e, List.mem_append_left _ he, rfl⟩
  | replaced new victim hnew full oldest =>
    right
    refine ⟨new, victim, rfl, hnew, full, oldest, fun e he hgone => ?_⟩
    by_contra hne
    have hkey : e.key ≠ victim.key := fun hkey =>
      hne (List.inj_on_of_nodup_map hkeys he oldest.1 hkey)
    exact hgone e (by simp [he, hkey]) rfl

namespace Clocked

/-! ## Runs -/

variable {s : Clocked κ π}

/-- A visit leaves the kept answers as they are, or puts the one that it brings behind those kept beside it. -/
theorem kept_visit (policy : SourcePolicy) (s : Clocked κ π) (key : κ) (query : Answer π)
    (tie : Nat) :
    (s.success? policy (.visit key query tie) = none ∧
      (s.move policy (.visit key query tie)).client.kept = s.client.kept) ∨
    ∃ e, s.success? policy (.visit key query tie) = some e ∧ e.key = key ∧
      (s.move policy (.visit key query tie)).client.kept =
        s.client.others policy tie key ++ [e] := by
  rw [success?, move]
  rcases fetch_cases policy tie s.now key query s.client with ⟨e, -, -, hcourse, hfetch⟩ |
    ⟨-, hcourse, hfetch⟩ | ⟨budget, fault, -, hcourse, hfetch⟩ |
    ⟨budget, payload, -, hcourse, hfetch⟩
  · rw [hcourse, hfetch]
    exact .inl ⟨rfl, rfl⟩
  · rw [hcourse, hfetch]
    exact .inl ⟨rfl, rfl⟩
  · rw [hcourse, hfetch]
    exact .inl ⟨rfl, rfl⟩
  · rw [hcourse, hfetch]
    exact .inr ⟨_, rfl, rfl, rfl⟩

/-- What a move does to the kept answers is upkeep. -/
theorem upkeep_move (policy : SourcePolicy) (s : Clocked κ π) (m : Move κ π) :
    Upkeep policy s.client.kept (s.success? policy m) (s.move policy m).client.kept := by
  cases m with
  | wait span => exact .idle
  | allow budget => exact .idle
  | visit key query tie =>
    rcases kept_visit policy s key query tie with ⟨hnone, hsame⟩ | ⟨e, he, rfl, hkept⟩
    · rw [hnone, hsame]
      exact .idle
    · rw [he, hkept]
      exact upkeep_others policy tie s.client e

theorem within_after (policy : SourcePolicy) (moves : List (Move κ π)) :
    Within policy ((opened policy : Clocked κ π).after policy moves).client.kept := by
  induction moves using List.reverseRecOn with
  | nil => exact ⟨List.nodup_nil, Nat.zero_le _⟩
  | append_singleton moves m ih =>
    rw [after_snoc]
    exact (upkeep_move policy _ m).within ih

/-- An answer is kept before a move, and none is kept for its key after it. -/
def Loses (policy : SourcePolicy) (s : Clocked κ π) (m : Move κ π) (e : Kept κ π) : Prop :=
  e ∈ s.client.kept ∧ (s.move policy m).client.find? e.key = none

/-- Nothing is lost, or one of the oldest answers to one that comes for a new key. -/
theorem loses_cases (policy : SourcePolicy) (m : Move κ π)
    (hkeys : (s.client.kept.map Kept.key).Nodup) :
    (∀ e, ¬ s.Loses policy m e) ∨
      ∃ victim, s.Overfills policy m ∧ IsOldest s.client.kept victim ∧
        ∀ e, s.Loses policy m e → e = victim := by
  rcases (upkeep_move policy s m).lost hkeys with hall |
    ⟨new, victim, hbrought, hnew, hfull, holdest, hvictim⟩
  · left
    rintro e ⟨hkept, hnone⟩
    obtain ⟨o, ho, hkey⟩ := hall e hkept
    exact find?_eq_none_iff.mp hnone o ho hkey
  · right
    refine ⟨victim, ⟨new, hbrought, find?_eq_none_iff.mpr hnew, hfull⟩, holdest, ?_⟩
    rintro e ⟨hkept, hnone⟩
    exact hvictim e hkept (find?_eq_none_iff.mp hnone)

/-- A visit loses what is evicted for the answer that it brings. -/
theorem loses_of_evict {key : κ} {query : Answer π} {tie : Nat} {victim : Kept κ π}
    (h : s.Overfills policy (.visit key query tie)) (hmem : victim ∈ s.client.kept)
    (hevict : evict tie s.client.kept = s.client.kept.filter fun e => e.key ≠ victim.key) :
    s.Loses policy (.visit key query tie) victim := by
  obtain ⟨e, he, hnone, hfull⟩ := h
  obtain ⟨brought, hbrought, rfl, hkept⟩ := (kept_visit policy s key query tie).resolve_left
    fun hidle => Option.some_ne_none e (he.symm.trans hidle.1)
  obtain rfl := Option.some.inj (he.symm.trans hbrought)
  have hnew : e.key ≠ victim.key := (find?_eq_none_iff.mp hnone victim hmem).symm
  have hothers : s.client.others policy tie e.key =
      s.client.kept.filter fun e => e.key ≠ victim.key := by
    rw [others, hnone, if_neg (by exact Bool.false_ne_true), if_pos hfull, hevict]
  refine ⟨hmem, ?_⟩
  rw [find?, hkept, hothers, find?_concat_of_ne (by exact decide_eq_false hnew)]
  exact find?_filter_self victim.key

/-- **What a client promises about the answers that it keeps**, whatever move comes next. -/
structure Bounded (policy : SourcePolicy) (s : Clocked κ π) : Prop
    extends Within policy s.client.kept where
  /-- An answer is lost only to one that comes for a new key when there is no room, and it is an oldest one. -/
  loss : ∀ m e, s.Loses policy m e → s.Overfills policy m ∧ IsOldest s.client.kept e
  /-- No move loses two. -/
  one : ∀ m e other, s.Loses policy m e → s.Loses policy m other → e = other
  /-- An answer for which there is no room does cost another its place, if there is another. -/
  price : ∀ m, s.Overfills policy m → s.client.kept ≠ [] → ∃ e, s.Loses policy m e
  /-- Each of the oldest ones may be the one. -/
  choice : ∀ key query tie e, s.Overfills policy (.visit key query tie) →
    IsOldest s.client.kept e → ∃ other, s.Loses policy (.visit key query other) e
  /-- The answer that has just come is kept. -/
  newest : ∀ m e, s.success? policy m = some e → (s.move policy m).client.find? e.key = some e
  /-- If there was one for its key before, the move leaves those for the other keys as they are. -/
  refreshed : ∀ m e, s.success? policy m = some e → (s.client.find? e.key).isSome = true →
    ∀ k, k ≠ e.key → (s.move policy m).client.find? k = s.client.find? k

/-- **A client keeps within its bounds**, after every run. -/
theorem bounded_after (policy : SourcePolicy) (moves : List (Move κ π)) :
    Bounded policy ((opened policy : Clocked κ π).after policy moves) where
  toWithin := within_after policy moves
  loss m e hlost := by
    rcases loses_cases policy m (within_after policy moves).keys with hnone |
      ⟨victim, hfull, holdest, hvictim⟩
    · exact absurd hlost (hnone e)
    · rw [hvictim e hlost]
      exact ⟨hfull, holdest⟩
  one m e other he hother := by
    rcases loses_cases policy m (within_after policy moves).keys with hnone |
      ⟨victim, -, -, hvictim⟩
    · exact absurd he (hnone e)
    · rw [hvictim e he, hvictim other hother]
  price m hfull hkept := by
    cases m with
    | wait span =>
      obtain ⟨e, he, -⟩ := hfull
      nomatch he
    | allow budget =>
      obtain ⟨e, he, -⟩ := hfull
      nomatch he
    | visit key query tie =>
      obtain ⟨victim, hvictim, hevict⟩ := exists_victim tie hkept
      exact ⟨victim, loses_of_evict hfull hvictim.1 hevict⟩
  choice key query _ e hfull holdest := by
    obtain ⟨tie, hevict⟩ := exists_tie holdest
    exact ⟨tie, loses_of_evict hfull holdest.1 hevict⟩
  newest m e he := by
    rcases find?_move policy _ m e.key with ⟨brought, hbrought, -, hfind⟩ | ⟨hne, -⟩
    · rw [hfind, ← hbrought, he]
    · exact absurd rfl (hne e he)
  refreshed m e he hheld k hk := by
    rcases find?_move policy _ m k with ⟨brought, hbrought, hkey, -⟩ |
      ⟨-, hsame | ⟨-, brought, hbrought, hnone, -⟩⟩
    · obtain rfl := Option.some.inj (he.symm.trans hbrought)
      exact absurd hkey.symm hk
    · exact hsame
    · obtain rfl := Option.some.inj (he.symm.trans hbrought)
      rw [hnone] at hheld
      nomatch hheld

/-- A policy that wants nothing kept still has the newest answer kept. -/
example :
    let policy : SourcePolicy := { maxEntries := 0 }
    let visit (key : String) : Move String Nat := .visit key { result := .ok 1 } 0
    ((opened policy).after policy [visit "a", visit "b"]).client.kept.map Kept.key = ["b"] := by
  decide

end Clocked
end DriveAdvisory.Client
