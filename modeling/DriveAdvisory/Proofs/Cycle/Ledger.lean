/-
  The books about cycles.

  A cycle is started; then it is taken in, when its report comes, or given up before that; and the report of
  one that was given up is thrown away.  `Note` has an entry for each of these, and the books are a list of
  them, in the order in which it happened.  `Ledger` says what bookkeeping allows:

  * a cycle is started only when none is under way, and gets the next number;
  * only the cycle under way is taken in or given up;
  * only a report of another one is thrown away.

  Next to the list stands what it comes to, the number of cycles that were started and the one under way.
  Everything here follows from the rules, whoever keeps them: the numbers are `1, 2, 3, …`
  (`Ledger.spawnedIn_eq`), the cycle under way is the only open one (`Ledger.openIn_eq`), and cycles are taken
  in in the order in which they were started (`Ledger.absorbedIn_pairwise`).  What was allowed stays so, so all
  of this holds at every moment in between as well (`Ledger.of_initial`).
-/
import DriveAdvisory.Cycle.Ticker
import Mathlib.Data.List.Induction

namespace DriveAdvisory

/-! ## Notes -/

/-- What can become of a cycle and its report. -/
inductive Note
  /-- It was started, at a moment. -/
  | spawned (number : Nat) (since : Duration)
  /-- Its report was sent. -/
  | sent (number : Nat)
  /-- Its report was taken in. -/
  | absorbed (number : Nat)
  /-- Its report was thrown away. -/
  | discarded (number : Nat)
  /-- It was given up. -/
  | abandoned (number : Nat)
deriving DecidableEq, Repr

namespace Note

@[simp] def spawned? : Note → Option Nat
  | .spawned number _ => some number
  | _ => none

@[simp] def sent? : Note → Option Nat
  | .sent number => some number
  | _ => none

@[simp] def absorbed? : Note → Option Nat
  | .absorbed number => some number
  | _ => none

@[simp] def discarded? : Note → Option Nat
  | .discarded number => some number
  | _ => none

@[simp] def abandoned? : Note → Option Nat
  | .abandoned number => some number
  | _ => none

/-- The report that a note disposes of. -/
@[simp] def judged? : Note → Option Nat
  | .absorbed number => some number
  | .discarded number => some number
  | _ => none

end Note

/-- The numbers that notes of one kind are about, in order. -/
def numbersIn (kind : Note → Option Nat) (ns : List Note) : List Nat := ns.filterMap kind

@[simp] theorem numbersIn_nil (kind : Note → Option Nat) : numbersIn kind [] = [] := rfl

theorem numbersIn_append (kind : Note → Option Nat) (ns ms : List Note) :
    numbersIn kind (ns ++ ms) = numbersIn kind ns ++ numbersIn kind ms := List.filterMap_append

@[simp] theorem numbersIn_cons (kind : Note → Option Nat) (x : Note) (ns : List Note) :
    numbersIn kind (x :: ns) = (kind x).toList ++ numbersIn kind ns := by
  rw [numbersIn, List.filterMap_cons]
  cases kind x <;> rfl

@[simp] theorem numbersIn_snoc (kind : Note → Option Nat) (ns : List Note) (x : Note) :
    numbersIn kind (ns ++ [x]) = numbersIn kind ns ++ (kind x).toList := by
  rw [numbersIn_append, numbersIn_cons, numbersIn_nil, List.append_nil]

theorem mem_numbersIn {kind : Note → Option Nat} {ns : List Note} {n : Nat} :
    n ∈ numbersIn kind ns ↔ ∃ x ∈ ns, kind x = some n := List.mem_filterMap

/-- The cycles that were started, in order. -/
abbrev spawnedIn (ns : List Note) : List Nat := numbersIn Note.spawned? ns

/-- The cycles that reported, in order. -/
abbrev sentIn (ns : List Note) : List Nat := numbersIn Note.sent? ns

/-- The cycles whose reports were taken in, in order. -/
abbrev absorbedIn (ns : List Note) : List Nat := numbersIn Note.absorbed? ns

/-- The cycles whose reports were thrown away, in order. -/
abbrev discardedIn (ns : List Note) : List Nat := numbersIn Note.discarded? ns

/-- The cycles that were given up, in order. -/
abbrev abandonedIn (ns : List Note) : List Nat := numbersIn Note.abandoned? ns

/-- The cycles whose reports were disposed of, in order. -/
abbrev judgedIn (ns : List Note) : List Nat := numbersIn Note.judged? ns

/-- The cycles that were started, and neither taken in nor given up. -/
def openIn (ns : List Note) : List Nat :=
  (spawnedIn ns).filter fun n => n ∉ absorbedIn ns ∧ n ∉ abandonedIn ns

/-- A report is disposed of by being taken in or thrown away. -/
theorem mem_judgedIn {ns : List Note} {n : Nat} :
    n ∈ judgedIn ns ↔ n ∈ absorbedIn ns ∨ n ∈ discardedIn ns := by
  simp only [mem_numbersIn]
  constructor
  · rintro ⟨x, hx, hn⟩
    cases x with
    | absorbed m => exact .inl ⟨_, hx, hn⟩
    | discarded m => exact .inr ⟨_, hx, hn⟩
    | spawned m since => nomatch hn
    | sent m => nomatch hn
    | abandoned m => nomatch hn
  · rintro (⟨x, hx, hn⟩ | ⟨x, hx, hn⟩)
    · cases x <;> first | exact ⟨_, hx, hn⟩ | nomatch hn
    · cases x <;> first | exact ⟨_, hx, hn⟩ | nomatch hn

/-! ## The rules -/

/-- **The rules of the books**, the number of cycles that were started, and the one under way. -/
inductive Ledger : List Note → Nat → Option Flight → Prop
  | empty : Ledger [] 0 none
  | spawned {ns : List Note} {k : Nat} (h : Ledger ns k none) (since : Duration) :
    Ledger (ns ++ [.spawned (k + 1) since]) (k + 1) (some ⟨k + 1, since⟩)
  | sent {ns : List Note} {k : Nat} {f : Option Flight} (h : Ledger ns k f) (number : Nat) :
    Ledger (ns ++ [.sent number]) k f
  | absorbed {ns : List Note} {k : Nat} {f : Flight} (h : Ledger ns k (some f)) :
    Ledger (ns ++ [.absorbed f.number]) k none
  | discarded {ns : List Note} {k : Nat} {f : Option Flight} (h : Ledger ns k f) {number : Nat}
    (hn : f.map (·.number) ≠ some number) : Ledger (ns ++ [.discarded number]) k f
  | abandoned {ns : List Note} {k : Nat} {f : Flight} (h : Ledger ns k (some f)) :
    Ledger (ns ++ [.abandoned f.number]) k none

namespace Ledger

variable {ns : List Note} {k : Nat} {f : Option Flight}

/-- What was allowed with one more note was allowed without it. -/
theorem init {x : Note} (h : Ledger (ns ++ [x]) k f) : ∃ k f, Ledger ns k f := by
  generalize hxs : ns ++ [x] = xs at h
  cases h with
  | empty => simp at hxs
  | spawned h | sent h | absorbed h | discarded h | abandoned h =>
    obtain ⟨rfl, -⟩ := List.append_inj' hxs rfl
    exact ⟨_, _, h⟩

/-- **The rules hold at every moment.** -/
theorem of_append (later : List Note) (h : Ledger (ns ++ later) k f) : ∃ k f, Ledger ns k f := by
  induction later using List.reverseRecOn generalizing k f with
  | nil => exact ⟨k, f, by rwa [List.append_nil] at h⟩
  | append_singleton later x ih =>
    rw [← List.append_assoc] at h
    obtain ⟨k', f', h'⟩ := h.init
    exact ih h'

theorem of_initial {ms : List Note} (h : Ledger ns k f) (hms : ms <+: ns) : ∃ k f, Ledger ms k f := by
  obtain ⟨later, rfl⟩ := hms
  exact h.of_append later

/-! ## What follows -/

/-- **Cycles are numbered from one.** -/
theorem spawnedIn_eq (h : Ledger ns k f) : spawnedIn ns = List.range' 1 k := by
  induction h with
  | empty => rfl
  | spawned h since ih => simp [ih, List.range'_1_concat, Nat.add_comm]
  | sent h number ih | discarded h hn ih => simpa using ih
  | absorbed h ih | abandoned h ih => simpa using ih

theorem mem_spawnedIn (h : Ledger ns k f) {n : Nat} : n ∈ spawnedIn ns ↔ 1 ≤ n ∧ n ≤ k := by
  rw [h.spawnedIn_eq, List.mem_range'_1]
  omega

/-- The cycle under way is the last one that was started. -/
theorem flight_number {fl : Flight} (h : Ledger ns k f) (hf : f = some fl) :
    fl.number = k ∧ 1 ≤ k := by
  induction h with
  | empty => nomatch hf
  | spawned h since ih =>
    obtain rfl := Option.some.inj hf
    exact ⟨rfl, Nat.le_add_left 1 _⟩
  | sent h number ih => exact ih hf
  | absorbed h ih => nomatch hf
  | discarded h hn ih => exact ih hf
  | abandoned h ih => nomatch hf

/-- **A cycle is taken in or given up as soon as it is not under way any more.** -/
theorem closed_iff (h : Ledger ns k f) {n : Nat} : n ∈ absorbedIn ns ∨ n ∈ abandonedIn ns ↔
    (1 ≤ n ∧ n ≤ k) ∧ f.map (·.number) ≠ some n := by
  induction h with
  | empty =>
    simp
    omega
  | spawned h since ih =>
    simp only [numbersIn_snoc, Note.absorbed?, Note.abandoned?, Option.toList_none,
      List.append_nil, ih]
    simp
    omega
  | sent h number ih | discarded h hn ih => simpa using ih
  | absorbed h ih =>
    obtain ⟨hnum, hk⟩ := h.flight_number rfl
    simp only [numbersIn_snoc, Note.absorbed?, Note.abandoned?, Option.toList_none,
      Option.toList_some, List.append_nil, List.mem_append, List.mem_singleton]
    rw [or_right_comm, ih]
    simp
    omega
  | abandoned h ih =>
    obtain ⟨hnum, hk⟩ := h.flight_number rfl
    simp only [numbersIn_snoc, Note.absorbed?, Note.abandoned?, Option.toList_none,
      Option.toList_some, List.append_nil, List.mem_append, List.mem_singleton]
    rw [← or_assoc, ih]
    simp
    omega

/-- **The cycle under way is the only open one.** -/
theorem openIn_eq (h : Ledger ns k f) : openIn ns = f.toList.map (·.number) := by
  have hopen : ∀ n, (decide (n ∉ absorbedIn ns ∧ n ∉ abandonedIn ns) = true ↔
      ¬ ((1 ≤ n ∧ n ≤ k) ∧ f.map (·.number) ≠ some n)) := by
    intro n
    rw [decide_eq_true_iff, ← not_or, h.closed_iff]
  rw [openIn, h.spawnedIn_eq]
  cases f with
  | none =>
    refine List.filter_eq_nil_iff.mpr ?_
    intro n hn
    rw [List.mem_range'_1] at hn
    rw [hopen]
    simp
    omega
  | some fl =>
    obtain ⟨hnum, hk⟩ := h.flight_number rfl
    obtain ⟨j, rfl⟩ : ∃ j, k = j + 1 := ⟨k - 1, by omega⟩
    -- every one but the last is closed
    rw [List.range'_1_concat, List.filter_append, List.filter_eq_nil_iff.mpr, List.filter_cons_of_pos]
    · simp [hnum, Nat.add_comm]
    · rw [hopen]
      simp [hnum, Nat.add_comm]
    · intro n hn
      rw [List.mem_range'_1] at hn
      rw [hopen]
      simp [hnum]
      omega

/-- There is no more than one. -/
theorem openIn_length (h : Ledger ns k f) : (openIn ns).length ≤ 1 := by
  rw [h.openIn_eq, List.length_map]
  cases f <;> simp

/-- **Cycles are taken in in the order in which they were started.** -/
theorem absorbedIn_pairwise (h : Ledger ns k f) : (absorbedIn ns).Pairwise (· < ·) := by
  induction h with
  | empty => exact List.Pairwise.nil
  | spawned h _ ih | sent h _ ih | discarded h _ ih | abandoned h ih => simpa using ih
  | @absorbed ns k fl h ih =>
    obtain ⟨hnum, -⟩ := h.flight_number rfl
    rw [absorbedIn, numbersIn_snoc]
    refine List.pairwise_append.mpr ⟨ih, List.pairwise_singleton _ fl.number, ?_⟩
    intro n hn m hm
    obtain rfl : m = fl.number := by simpa using hm
    -- what was taken in before is not under way, and this one was
    obtain ⟨⟨-, hle⟩, hne⟩ := h.closed_iff.mp (.inl hn)
    have hne' : fl.number ≠ n := fun heq => hne (congrArg some heq)
    omega

/-- The cycle under way was neither taken in nor given up. -/
theorem flight_not_closed {fl : Flight} (h : Ledger ns k (some fl)) :
    fl.number ∉ absorbedIn ns ∧ fl.number ∉ abandonedIn ns := by
  rw [← not_or, h.closed_iff]
  rintro ⟨-, hne⟩
  exact hne rfl

/-- A cycle that was taken in is not given up, before or after. -/
theorem absorbed_not_abandoned {n : Nat} (h : Ledger ns k f) (hn : n ∈ absorbedIn ns) :
    n ∉ abandonedIn ns := by
  induction h with
  | empty => nomatch hn
  | spawned h _ ih | sent h _ ih | discarded h _ ih =>
    simp at hn ⊢
    exact ih hn
  | absorbed h ih =>
    simp at hn ⊢
    rcases hn with hold | rfl
    · exact ih hold
    · exact h.flight_not_closed.2
  | abandoned h ih =>
    simp at hn ⊢
    refine ⟨ih hn, ?_⟩
    rintro rfl
    exact h.flight_not_closed.1 hn

/-- The cycle under way has been so since it was started. -/
theorem since_eq {fl : Flight} {since : Duration} (h : Ledger ns k f) (hf : f = some fl)
    (hs : .spawned fl.number since ∈ ns) : since = fl.since := by
  induction h with
  | empty => nomatch hs
  | spawned h began ih =>
    obtain rfl := Option.some.inj hf
    rcases List.mem_append.mp hs with hs | hs
    · -- its number is new
      have hle := (h.mem_spawnedIn.mp (mem_numbersIn.mpr ⟨_, hs, rfl⟩)).2
      exact absurd hle (Nat.not_succ_le_self _)
    · obtain ⟨-, rfl⟩ := Note.spawned.inj (List.mem_singleton.mp hs)
      rfl
  | sent h number ih => exact ih hf (by simpa using hs)
  | absorbed h ih => nomatch hf
  | discarded h hn ih => exact ih hf (by simpa using hs)
  | abandoned h ih => nomatch hf

end Ledger

end DriveAdvisory
