/-
  Several sightings on their way at once.

  Recording a sighting is two steps: the ring takes it or finds that it repeats another, and then the journal
  writes it down.  Each step is taken as a whole, but between the two of one call any others may come.  A run is a
  list of such steps in any order, and the journal may fail at any of them for reasons of its own.

  Two lists are read off a run, the sightings that went into the ring and those that went into the journal, each
  with the number of its call.  They are all that happened to the two tiers (`ring_after`, `journal_after`), they
  have of each call what its outcome says (`tallies_after`), and they are in the same order unless calls overlap
  (`lined_after`).  `faithful` puts this together.
-/
import DriveAdvisory.Proofs.Sighting.Journal
import DriveAdvisory.Proofs.Sighting.Ring
import DriveAdvisory.Sighting.Store
import Mathlib.Data.List.Induction

namespace DriveAdvisory

/-! ## One step of a store -/

namespace Store

variable {globe : Globe} {store : Store} {s : Sighting}

/-- The second half with a journal that may fail for a reason of its own. -/
def persistDespite (trouble : Option JournalFault) (store : Store) (s : Sighting) : Bool × Store :=
  match store.journal, trouble with
  | none, _ => (false, store)
  | some _, some fault => store.enter (.error fault)
  | some journal, none => store.enter (journal.append s)

theorem persistDespite_none : persistDespite none store s = store.persist s := by
  unfold persistDespite persist
  cases store.journal <;> rfl

theorem take_cases (globe : Globe) (store : Store) (s : Sighting) :
    store.take globe s = (false, store) ∨
      store.take globe s = (true, { store with ring := store.ring.push s }) := by
  unfold take Ring.take
  by_cases h : store.ring.near.repeatsAny globe s store.ring.recent = true
  · rw [if_pos h]
    exact .inl rfl
  · rw [if_neg h]
    exact .inr rfl

end Store

/-- The second half leaves the store as it is, or adds a row with a new identifier to the journal. -/
theorem Store.persistDespite_cases (trouble : Option JournalFault) (store : Store) (s : Sighting) :
    store.persistDespite trouble s = (false, store) ∨
      ∃ journal, store.journal = some journal ∧ (∀ r ∈ journal.rows, r.id ≠ s.id) ∧
        store.persistDespite trouble s =
          (true, { store with journal := some ⟨journal.rows ++ [Journal.row s]⟩ }) := by
  unfold persistDespite
  split
  · exact .inl rfl
  · exact .inl rfl
  · rename_i journal hjournal
    cases happend : journal.append s with
    | error fault => exact .inl rfl
    | ok journal' =>
      obtain ⟨rfl, hnew⟩ := Journal.append_eq_ok happend
      exact .inr ⟨journal, ‹_›, hnew, rfl⟩

/-! ## Calls -/

/-- A call: what it brings, and what it returns.  One that has not returned is on its way to the journal. -/
structure Desk.Call where
  sighting : Sighting
  outcome : Option Reception

/-- A store, and the calls that came to it, by number. -/
structure Desk where
  store : Store
  calls : List Desk.Call := []

namespace Desk

/-- A store to which no call came. -/
def opened (store : Store) : Desk := { store }

/-- What can happen at a desk. -/
inductive Move
  /-- A call comes, and its first half is done. -/
  | arrive (s : Sighting)
  /-- The second half of a call is done, if it is on its way.  The journal may have trouble of its own. -/
  | proceed (number : Nat) (trouble : Option JournalFault)

variable {globe : Globe} {d : Desk}

/-- What happens then. -/
def move (globe : Globe) (d : Desk) : Move → Desk
  | .arrive s =>
    let taken := d.store.take globe s
    ⟨taken.2, d.calls ++ [⟨s, if taken.1 then none else some .repeated⟩]⟩
  | .proceed number trouble =>
    match d.calls[number]? with
    | some ⟨s, none⟩ =>
      let persisted := d.store.persistDespite trouble s
      ⟨persisted.2, d.calls.set number ⟨s, some (.recorded persisted.1)⟩⟩
    | _ => d

/-- What is there after a run. -/
def after (globe : Globe) (d : Desk) (moves : List Move) : Desk := moves.foldl (move globe) d

/-- The sighting that a move puts into the ring, with the number of its call. -/
def pushed? (globe : Globe) (d : Desk) : Move → Option (Nat × Sighting)
  | .arrive s => if (d.store.take globe s).1 then some (d.calls.length, s) else none
  | .proceed .. => none

/-- The sighting that a move puts into the journal, with the number of its call. -/
def written? (d : Desk) : Move → Option (Nat × Sighting)
  | .arrive _ => none
  | .proceed number trouble =>
    match d.calls[number]? with
    | some ⟨s, none⟩ =>
      if (d.store.persistDespite trouble s).1 then some (number, s) else none
    | _ => none

/-- What a run puts into the ring. -/
def pushes (globe : Globe) : Desk → List Move → List (Nat × Sighting) :=
  gather (move globe) fun d m => (d.pushed? globe m).toList

/-- What a run puts into the journal. -/
def writes (globe : Globe) : Desk → List Move → List (Nat × Sighting) :=
  gather (move globe) fun d m => (d.written? m).toList

theorem after_snoc (moves : List Move) (m : Move) :
    d.after globe (moves ++ [m]) = (d.after globe moves).move globe m := by
  rw [after, List.foldl_append]
  rfl

theorem pushes_snoc (moves : List Move) (m : Move) : d.pushes globe (moves ++ [m]) =
    d.pushes globe moves ++ ((d.after globe moves).pushed? globe m).toList :=
  gather_snoc _ _ moves m d

theorem writes_snoc (moves : List Move) (m : Move) : d.writes globe (moves ++ [m]) =
    d.writes globe moves ++ ((d.after globe moves).written? m).toList :=
  gather_snoc _ _ moves m d

/-- The two halves of one call, with nothing in between, are what recording a sighting is. -/
theorem after_record (globe : Globe) (d : Desk) (s : Sighting) :
    d.after globe [.arrive s, .proceed d.calls.length none] =
      ⟨(d.store.record globe s).2, d.calls ++ [⟨s, some (d.store.record globe s).1⟩]⟩ := by
  rw [after, List.foldl_cons, List.foldl_cons, List.foldl_nil, Store.record]
  rcases Store.take_cases globe d.store s with htake | htake
  · simp [move, htake]
  · simp [move, htake, Store.persistDespite_none]

/-! ## What a move does -/

/-- **All that a move can do.** -/
theorem move_cases (globe : Globe) (d : Desk) (m : Move) :
    (∃ s, m = .arrive s ∧ d.pushed? globe m = none ∧ d.written? m = none ∧
      d.move globe m = ⟨d.store, d.calls ++ [⟨s, some .repeated⟩]⟩) ∨
    (∃ s, m = .arrive s ∧ d.pushed? globe m = some (d.calls.length, s) ∧ d.written? m = none ∧
      d.move globe m =
        ⟨{ d.store with ring := d.store.ring.push s }, d.calls ++ [⟨s, none⟩]⟩) ∨
    (d.pushed? globe m = none ∧ d.written? m = none ∧ d.move globe m = d) ∨
    (∃ number s, d.calls[number]? = some ⟨s, none⟩ ∧ d.pushed? globe m = none ∧
      d.written? m = none ∧
      d.move globe m = ⟨d.store, d.calls.set number ⟨s, some (.recorded false)⟩⟩) ∨
    (∃ number s journal, d.calls[number]? = some ⟨s, none⟩ ∧ d.store.journal = some journal ∧
      (∀ r ∈ journal.rows, r.id ≠ s.id) ∧ d.pushed? globe m = none ∧
      d.written? m = some (number, s) ∧
      d.move globe m = ⟨{ d.store with journal := some ⟨journal.rows ++ [Journal.row s]⟩ },
        d.calls.set number ⟨s, some (.recorded true)⟩⟩) := by
  cases m with
  | arrive s =>
    rcases Store.take_cases globe d.store s with htake | htake
    · exact .inl ⟨s, rfl, by rw [pushed?, htake]; rfl, rfl, by rw [move, htake]; rfl⟩
    · exact .inr (.inl ⟨s, rfl, by rw [pushed?, htake]; rfl, rfl, by rw [move, htake]; rfl⟩)
  | proceed number trouble =>
    right
    right
    rw [written?, move]
    split
    · rename_i s hcall
      right
      rcases Store.persistDespite_cases trouble d.store s with hfail | ⟨journal, hjournal, hnew, hdone⟩
      · exact .inl ⟨number, s, hcall, rfl, by rw [hfail]; rfl, by rw [hfail]⟩
      · exact .inr ⟨number, s, journal, hcall, hjournal, hnew, rfl, by rw [hdone]; rfl,
          by rw [hdone]⟩
    · exact .inl ⟨rfl, rfl, rfl⟩

theorem ring_after_foldl (globe : Globe) (d : Desk) (moves : List Move) :
    (d.after globe moves).store.ring =
      (d.pushes globe moves).foldl (fun ring p => ring.push p.2) d.store.ring := by
  induction moves using List.reverseRecOn with
  | nil => rfl
  | append_singleton moves m ih =>
    rw [after_snoc, pushes_snoc, List.foldl_append, ← ih]
    rcases move_cases globe (d.after globe moves) m with ⟨s, -, hpushed, -, hmove⟩ |
      ⟨s, -, hpushed, -, hmove⟩ | ⟨hpushed, -, hmove⟩ | ⟨number, s, -, hpushed, -, hmove⟩ |
      ⟨number, s, journal, -, -, -, hpushed, -, hmove⟩
    all_goals
      rw [hpushed, hmove]
      rfl

/-- **The ring** holds the end of what it held and what a run has pushed. -/
theorem ring_after (globe : Globe) (d : Desk) (moves : List Move) : (d.after globe moves).store.ring =
    { d.store.ring with
      recent := (d.store.ring.recent ++ (d.pushes globe moves).map (·.2)).rtake
        (max (max 1 d.store.ring.capacity) d.store.ring.recent.length) } := by
  rw [ring_after_foldl, ← Ring.foldl_push, List.foldl_map]

/-- **The journal** is what it was, and below that what a run has written. -/
theorem journal_after (globe : Globe) (d : Desk) (moves : List Move) :
    (d.after globe moves).store.journal = d.store.journal.map fun journal =>
      ⟨journal.rows ++ (d.writes globe moves).map fun w => Journal.row w.2⟩ := by
  induction moves using List.reverseRecOn with
  | nil =>
    cases h : d.store.journal <;> simp [after, h, writes, gather]
  | append_singleton moves m ih =>
    rw [after_snoc, writes_snoc]
    rcases move_cases globe (d.after globe moves) m with ⟨s, -, -, hwritten, hmove⟩ |
      ⟨s, -, -, hwritten, hmove⟩ | ⟨-, hwritten, hmove⟩ | ⟨number, s, -, -, hwritten, hmove⟩ |
      ⟨number, s, journal, -, hjournal, -, -, hwritten, hmove⟩
    · rw [hwritten, hmove, Option.toList_none, List.append_nil]
      exact ih
    · rw [hwritten, hmove, Option.toList_none, List.append_nil]
      exact ih
    · rw [hwritten, hmove, Option.toList_none, List.append_nil]
      exact ih
    · rw [hwritten, hmove, Option.toList_none, List.append_nil]
      exact ih
    · rw [ih, Option.map_eq_some_iff] at hjournal
      obtain ⟨first, hfirst, rfl⟩ := hjournal
      rw [hwritten, hmove, hfirst]
      simp

/-- No two rows of a journal have the same identifier, if none had at the start. -/
theorem nodup_after (globe : Globe) (d : Desk) (moves : List Move)
    (hjournal : ∀ journal, d.store.journal = some journal → (journal.rows.map (·.id)).Nodup) :
    ∀ journal, (d.after globe moves).store.journal = some journal →
      (journal.rows.map (·.id)).Nodup := by
  induction moves using List.reverseRecOn with
  | nil => exact hjournal
  | append_singleton moves m ih =>
    rw [after_snoc]
    rcases move_cases globe (d.after globe moves) m with ⟨s, -, -, -, hmove⟩ | ⟨s, -, -, -, hmove⟩ |
      ⟨-, -, hmove⟩ | ⟨number, s, -, -, -, hmove⟩ |
      ⟨number, s, journal, -, hbefore, hnew, -, -, hmove⟩
    · rwa [hmove]
    · rwa [hmove]
    · rwa [hmove]
    · rwa [hmove]
    · rw [hmove]
      intro journal' hjournal'
      obtain rfl := Option.some.inj hjournal'
      rw [List.map_append, List.map_singleton, List.nodup_append]
      refine ⟨ih journal hbefore, List.pairwise_singleton _ _, ?_⟩
      intro id hid id' hid' heq
      obtain ⟨r, hr, rfl⟩ := List.mem_map.mp hid
      exact hnew r hr (heq.trans (List.mem_singleton.mp hid'))

/-- The rows of a journal stay where they are. -/
theorem rows_prefix (globe : Globe) (d : Desk) (moves later : List Move) {journal journal' : Journal}
    (hbefore : (d.after globe moves).store.journal = some journal)
    (hafter : (d.after globe (moves ++ later)).store.journal = some journal') :
    journal.rows <+: journal'.rows := by
  have hlater : d.after globe (moves ++ later) = (d.after globe moves).after globe later := by
    rw [after, after, after, List.foldl_append]
  rw [hlater, journal_after, hbefore, Option.map_some] at hafter
  obtain rfl := Option.some.inj hafter
  exact List.prefix_append _ _

/-! ## What a call can tell -/

/-- The sightings of a list that a call brought. -/
def broughtBy (number : Nat) (log : List (Nat × Sighting)) : List Sighting :=
  (log.filter fun p => p.1 = number).map (·.2)

theorem broughtBy_append (number : Nat) (log new : List (Nat × Sighting)) :
    broughtBy number (log ++ new) = broughtBy number log ++ broughtBy number new := by
  rw [broughtBy, List.filter_append, List.map_append, broughtBy, broughtBy]

theorem broughtBy_self (number : Nat) (new : List Sighting) :
    broughtBy number (new.map (Prod.mk number)) = new := by
  induction new with
  | nil => rfl
  | cons s rest ih =>
    unfold broughtBy at ih ⊢
    rw [List.map_cons, List.filter_cons, if_pos (decide_eq_true rfl), List.map_cons, ih]

theorem broughtBy_of_ne {number other : Nat} (h : other ≠ number) (new : List Sighting) :
    broughtBy number (new.map (Prod.mk other)) = [] := by
  unfold broughtBy
  rw [List.filter_eq_nil_iff.mpr, List.map_nil]
  intro p hp
  obtain ⟨s, -, rfl⟩ := List.mem_map.mp hp
  exact fun hno => h (of_decide_eq_true hno)

/-- What a call has put into the ring. -/
def Call.pushed (c : Call) : List Sighting :=
  match c.outcome with
  | some .repeated => []
  | none | some (.recorded _) => [c.sighting]

/-- What a call has put into the journal. -/
def Call.written (c : Call) : List Sighting :=
  match c.outcome with
  | some (.recorded true) => [c.sighting]
  | none | some .repeated | some (.recorded false) => []

/-- A list has, of each call, a certain part of it. -/
def Tallies (part : Call → List Sighting) (calls : List Call) (log : List (Nat × Sighting)) : Prop :=
  ∀ number, broughtBy number log = (calls[number]?).toList.flatMap part

theorem Tallies.concat {part : Call → List Sighting} {calls : List Call}
    {log : List (Nat × Sighting)} (h : Tallies part calls log) (c : Call) :
    Tallies part (calls ++ [c]) (log ++ (part c).map (Prod.mk calls.length)) := by
  intro number
  rw [broughtBy_append, h number]
  by_cases hnumber : calls.length = number
  · subst hnumber
    rw [broughtBy_self]
    simp
  · rw [broughtBy_of_ne hnumber, List.append_nil]
    rcases Nat.lt_or_gt_of_ne hnumber with hbeyond | hwithin
    · have hlater : (calls ++ [c]).length ≤ number := by
        rw [List.length_append, List.length_singleton]
        exact hbeyond
      rw [List.getElem?_eq_none (Nat.le_of_lt hbeyond), List.getElem?_eq_none hlater]
    · rw [List.getElem?_append_left hwithin]

theorem Tallies.set {part : Call → List Sighting} {calls : List Call} {log : List (Nat × Sighting)}
    (h : Tallies part calls log) {k : Nat} {c : Call} (hcall : calls[k]? = some c) (c' : Call)
    (new : List Sighting) (hpart : part c' = part c ++ new) :
    Tallies part (calls.set k c') (log ++ new.map (Prod.mk k)) := by
  intro number
  rw [broughtBy_append, h number]
  by_cases hnumber : k = number
  · subst hnumber
    rw [broughtBy_self, hcall, List.getElem?_set_self (List.getElem?_eq_some_iff.mp hcall).1]
    simp [hpart]
  · rw [broughtBy_of_ne hnumber, List.append_nil, List.getElem?_set_ne hnumber]

/-- Of each call the ring and the journal have got what its outcome says. -/
theorem tallies_after (globe : Globe) (store : Store) (moves : List Move) :
    Tallies Call.pushed ((opened store).after globe moves).calls
        ((opened store).pushes globe moves) ∧
      Tallies Call.written ((opened store).after globe moves).calls
        ((opened store).writes globe moves) := by
  induction moves using List.reverseRecOn with
  | nil => exact ⟨fun _ => rfl, fun _ => rfl⟩
  | append_singleton moves m ih =>
    obtain ⟨hpushes, hwrites⟩ := ih
    rw [after_snoc, pushes_snoc, writes_snoc]
    rcases move_cases globe ((opened store).after globe moves) m with
      ⟨s, -, hpushed, hwritten, hmove⟩ | ⟨s, -, hpushed, hwritten, hmove⟩ |
      ⟨hpushed, hwritten, hmove⟩ | ⟨number, s, hcall, hpushed, hwritten, hmove⟩ |
      ⟨number, s, journal, hcall, -, -, hpushed, hwritten, hmove⟩
    · rw [hpushed, hwritten, hmove]
      exact ⟨hpushes.concat ⟨s, some .repeated⟩, hwrites.concat ⟨s, some .repeated⟩⟩
    · rw [hpushed, hwritten, hmove]
      exact ⟨hpushes.concat ⟨s, none⟩, hwrites.concat ⟨s, none⟩⟩
    · rw [hpushed, hwritten, hmove, Option.toList_none, List.append_nil, List.append_nil]
      exact ⟨hpushes, hwrites⟩
    · rw [hpushed, hwritten, hmove]
      exact ⟨hpushes.set hcall ⟨s, some (.recorded false)⟩ [] rfl,
        hwrites.set hcall ⟨s, some (.recorded false)⟩ [] rfl⟩
    · rw [hpushed, hwritten, hmove]
      exact ⟨hpushes.set hcall ⟨s, some (.recorded true)⟩ [] rfl,
        hwrites.set hcall ⟨s, some (.recorded true)⟩ [s] rfl⟩

/-! ## One call after the other -/

/-- No call comes while another is on its way. -/
def OneByOne (globe : Globe) (d : Desk) (moves : List Move) : Prop :=
  ∀ before s later, moves = before ++ .arrive s :: later →
    ∀ c ∈ (d.after globe before).calls, c.outcome ≠ none

theorem OneByOne.of_append {moves later : List Move} (h : d.OneByOne globe (moves ++ later)) :
    d.OneByOne globe moves := by
  rintro before s rest rfl
  exact h before s (rest ++ later) (by simp)

/-- Nobody is on the way and the journal keeps the order of the ring, or the last one that the ring took is. -/
def Lined (calls : List Call) (pushes writes : List (Nat × Sighting)) : Prop :=
  (∀ c ∈ calls, c.outcome ≠ none) ∧ writes.Sublist pushes ∨
    ∃ k s front, pushes = front ++ [(k, s)] ∧ writes.Sublist front ∧
      ∀ n s', calls[n]? = some ⟨s', none⟩ → n = k ∧ s' = s

theorem Lined.sublist {calls : List Call} {pushes writes : List (Nat × Sighting)}
    (h : Lined calls pushes writes) : writes.Sublist pushes := by
  rcases h with ⟨-, hsub⟩ | ⟨k, s, front, rfl, hsub, -⟩
  · exact hsub
  · exact hsub.trans (List.sublist_append_left _ _)

theorem Lined.settle {calls : List Call} {pushes writes : List (Nat × Sighting)} {k : Nat}
    {s : Sighting} (h : Lined calls pushes writes) (hcall : calls[k]? = some ⟨s, none⟩)
    (r : Reception) {new : List (Nat × Sighting)} (hnew : new.Sublist [(k, s)]) :
    Lined (calls.set k ⟨s, some r⟩) pushes (writes ++ new) := by
  rcases h with ⟨hnone, -⟩ | ⟨k', s', front, rfl, hsub, honly⟩
  · exact absurd rfl (hnone _ (List.mem_of_getElem? hcall))
  · obtain ⟨rfl, rfl⟩ := honly k s hcall
    refine .inl ⟨?_, hsub.append hnew⟩
    intro c hc hwaiting
    obtain ⟨n, hn⟩ := List.getElem?_of_mem hc
    by_cases hkn : k = n
    · subst hkn
      rw [List.getElem?_set_self (List.getElem?_eq_some_iff.mp hcall).1] at hn
      obtain rfl := Option.some.inj hn
      nomatch hwaiting
    · rw [List.getElem?_set_ne hkn] at hn
      obtain ⟨s', outcome⟩ := c
      obtain rfl : outcome = none := hwaiting
      exact hkn (honly n s' hn).1.symm

/-- If no call comes while another is on its way, the journal keeps the order of the ring. -/
theorem lined_after (globe : Globe) (store : Store) {moves : List Move}
    (h : OneByOne globe (opened store) moves) :
    Lined ((opened store).after globe moves).calls
      ((opened store).pushes globe moves) ((opened store).writes globe moves) := by
  induction moves using List.reverseRecOn with
  | nil => exact .inl ⟨fun c hc => absurd hc List.not_mem_nil, List.Sublist.refl _⟩
  | append_singleton moves m ih =>
    have hlined := ih h.of_append
    have hidle : ∀ s, m = .arrive s →
        ∀ c ∈ ((opened store).after globe moves).calls, c.outcome ≠ none := by
      rintro s rfl
      exact h moves s [] rfl
    rw [after_snoc, pushes_snoc, writes_snoc]
    rcases move_cases globe ((opened store).after globe moves) m with
      ⟨s, hm, hpushed, hwritten, hmove⟩ | ⟨s, hm, hpushed, hwritten, hmove⟩ |
      ⟨hpushed, hwritten, hmove⟩ | ⟨number, s, hcall, hpushed, hwritten, hmove⟩ |
      ⟨number, s, journal, hcall, -, -, hpushed, hwritten, hmove⟩
    · -- a repeated sighting: nobody was on the way, and nobody is
      rw [hpushed, hwritten, hmove, Option.toList_none, List.append_nil, List.append_nil]
      refine .inl ⟨?_, hlined.sublist⟩
      intro c hc
      rcases List.mem_append.mp hc with hold | hnew
      · exact hidle s hm c hold
      · obtain rfl := List.mem_singleton.mp hnew
        exact nofun
    · -- a new one: it alone is on the way
      rw [hpushed, hwritten, hmove, Option.toList_none, List.append_nil]
      refine .inr ⟨_, s, _, rfl, hlined.sublist, ?_⟩
      intro n s' hn
      rcases Nat.lt_trichotomy n ((opened store).after globe moves).calls.length with
        hlt | rfl | hgt
      · rw [List.getElem?_append_left hlt] at hn
        exact absurd rfl (hidle s hm _ (List.mem_of_getElem? hn))
      · rw [List.getElem?_concat_length] at hn
        exact ⟨rfl, (Call.mk.inj (Option.some.inj hn)).1.symm⟩
      · have hlater :
            (((opened store).after globe moves).calls ++ [(⟨s, none⟩ : Call)]).length ≤ n := by
          rw [List.length_append, List.length_singleton]
          exact hgt
        rw [List.getElem?_eq_none hlater] at hn
        nomatch hn
    · rw [hpushed, hwritten, hmove, Option.toList_none, List.append_nil, List.append_nil]
      exact hlined
    · rw [hpushed, hwritten, hmove, Option.toList_none, List.append_nil]
      exact hlined.settle hcall (.recorded false) (List.nil_sublist _)
    · rw [hpushed, hwritten, hmove, Option.toList_none, List.append_nil]
      exact hlined.settle hcall (.recorded true) (List.Sublist.refl _)

/-! ## What a store promises -/

/-- **What a store promises** of a run. -/
structure Faithful (globe : Globe) (store : Store) (moves : List Move) : Prop where
  /-- A call that repeats another has put its sighting nowhere. -/
  repeated : ∀ number s,
    ((opened store).after globe moves).calls[number]? = some ⟨s, some .repeated⟩ →
      broughtBy number ((opened store).pushes globe moves) = [] ∧
        broughtBy number ((opened store).writes globe moves) = []
  /-- A call whose sighting was persisted has put it once into each tier. -/
  persisted : ∀ number s,
    ((opened store).after globe moves).calls[number]? = some ⟨s, some (.recorded true)⟩ →
      broughtBy number ((opened store).pushes globe moves) = [s] ∧
        broughtBy number ((opened store).writes globe moves) = [s]
  /-- A call whose sighting was not has put it once into the ring alone. -/
  unpersisted : ∀ number s,
    ((opened store).after globe moves).calls[number]? = some ⟨s, some (.recorded false)⟩ →
      broughtBy number ((opened store).pushes globe moves) = [s] ∧
        broughtBy number ((opened store).writes globe moves) = []
  /-- The ring holds the last of what it held and what was pushed, in that order: as many as its capacity says, and
      never fewer than there were. -/
  ring : ((opened store).after globe moves).store.ring =
    { store.ring with
      recent := (store.ring.recent ++ ((opened store).pushes globe moves).map (·.2)).rtake
        (max (max 1 store.ring.capacity) store.ring.recent.length) }
  /-- The journal has grown by what was written, in that order. -/
  journal : ((opened store).after globe moves).store.journal =
    store.journal.map fun journal => ⟨journal.rows ++
      ((opened store).writes globe moves).map fun w => Journal.row w.2⟩
  /-- No two rows have the same identifier. -/
  distinct : ∀ journal, ((opened store).after globe moves).store.journal = some journal →
    (journal.rows.map (·.id)).Nodup
  /-- What the journal held at some time it holds, unchanged and in its place, at any later one. -/
  lasting : ∀ before later journal journal', moves = before ++ later →
    ((opened store).after globe before).store.journal = some journal →
    ((opened store).after globe moves).store.journal = some journal' →
    journal.rows <+: journal'.rows
  /-- When no call comes while another is on its way, what was written is in the order of the ring. -/
  ordered : OneByOne globe (opened store) moves →
    ((opened store).writes globe moves).Sublist ((opened store).pushes globe moves)
  /-- A call whose halves are done one right after the other, with a journal that has no trouble of its own, is one
      recording. -/
  alone : ∀ s, let d := (opened store).after globe moves
    d.after globe [.arrive s, .proceed d.calls.length none] =
      ⟨(d.store.record globe s).2, d.calls ++ [⟨s, some (d.store.record globe s).1⟩]⟩

/-- **The two tiers are what the calls were told**, whatever the order of their halves. -/
theorem faithful (globe : Globe) {store : Store} (moves : List Move)
    (hjournal : ∀ journal, store.journal = some journal → (journal.rows.map (·.id)).Nodup) :
    Faithful globe store moves := by
  obtain ⟨hpushes, hwrites⟩ := tallies_after globe store moves
  constructor
  case repeated =>
    intro number s hcall
    rw [hpushes number, hwrites number, hcall]
    exact ⟨rfl, rfl⟩
  case persisted =>
    intro number s hcall
    rw [hpushes number, hwrites number, hcall]
    exact ⟨rfl, rfl⟩
  case unpersisted =>
    intro number s hcall
    rw [hpushes number, hwrites number, hcall]
    exact ⟨rfl, rfl⟩
  case ring => exact ring_after globe _ moves
  case journal => exact journal_after globe _ moves
  case distinct => exact nodup_after globe _ moves hjournal
  case lasting =>
    rintro before later journal journal' rfl hbefore hafter
    exact rows_prefix globe _ before later hbefore hafter
  case ordered => exact fun h => (lined_after globe store h).sublist
  case alone => exact fun s => after_record globe _ s

/-- Two calls whose halves cross, at a store whose journal holds the sighting of the first one already. -/
theorem faithful_crossing :
    let pothole := Sighting.make 1 ⟨0, 0⟩ 0 .pothole .severe "deep" 1
    let debris := Sighting.make 2 ⟨0, 0⟩ 1 .debris .minor "a tyre" 1
    Faithful Globe.earth ⟨Ring.empty {} 100, some ⟨[Journal.row pothole]⟩⟩
      [.arrive pothole, .arrive debris, .proceed 1 none, .proceed 0 none] :=
  faithful Globe.earth _ fun journal h => by
    obtain rfl := Option.some.inj h
    exact List.pairwise_singleton _ _

end Desk
end DriveAdvisory
