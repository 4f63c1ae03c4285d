/-
  What the log gives back.

  A run is a list of requests, in any order: sightings that are to be appended, and readings.  The rows of the
  log are at any time those of the sightings that it has accepted (`rows_after`), and a row is read back as its
  sighting unless a number of it is not finite (`readRow_row`).  The log accepts such a sighting, and every
  reading that comes to its row fails from then on; `givesBack` has both.
-/
import DriveAdvisory.Proofs.Order.Gather
import DriveAdvisory.Proofs.Sighting.Document
import DriveAdvisory.Sighting.Journal

namespace DriveAdvisory

namespace Journal

variable {journal journal' : Journal} {s : Sighting}

/-! ## Rows -/

theorem append_eq_ok (h : journal.append s = .ok journal') :
    journal' = ⟨journal.rows ++ [row s]⟩ ∧ ∀ r ∈ journal.rows, r.id ≠ s.id := by
  unfold append at h
  split at h
  · nomatch h
  · split at h
    · nomatch h
    · split at h
      · nomatch h
      · rename_i hnone
        refine ⟨(Except.ok.inj h).symm, ?_⟩
        intro r hr hid
        exact hnone (List.any_eq_true.mpr ⟨r, hr, beq_iff_eq.mpr hid⟩)

/-- What a row needs to be read: a moment that clocks show, and numbers that are read back from their texts. -/
structure Readable (s : Sighting) : Prop where
  seenAt : s.seenAt.Valid
  legible : s.Legible

/-- **A row is read back** as its sighting, unless a number of it is not finite. -/
theorem readRow_row (h : Readable s) :
    readRow (row s) = if s.Plain then .ok s else .error .encoding := by
  have hdecode := Sighting.decode_toJson h.seenAt
  rw [readRow, row, Sighting.read?_render_toJson h.legible]
  dsimp only
  split
  · rename_i t ht
    obtain ⟨hplain, rfl⟩ := (hdecode t).mp ht
    rw [if_pos hplain]
  · rename_i hfailed
    rw [if_neg]
    intro hplain
    rw [(hdecode s).mpr ⟨hplain, rfl⟩] at hfailed
    nomatch hfailed

/-- The answer that sightings make if all of them can be read back. -/
def readable (sightings : List Sighting) : Except JournalFault (List Sighting) :=
  if ∀ s ∈ sightings, s.Plain then .ok sightings else .error .encoding

theorem mapM_readRow {sightings : List Sighting} (h : ∀ s ∈ sightings, Readable s) :
    (sightings.map row).mapM readRow = readable sightings := by
  induction sightings with
  | nil => rfl
  | cons s rest ih =>
    obtain ⟨hs, hrest⟩ := List.forall_mem_cons.mp h
    rw [List.map_cons, List.mapM_cons, readRow_row hs, ih hrest]
    unfold readable
    -- one row that cannot be read is enough, wherever it stands
    by_cases hplain : s.Plain
    · by_cases hothers : ∀ s ∈ rest, s.Plain
      · rw [if_pos hplain, if_pos hothers, if_pos (List.forall_mem_cons.mpr ⟨hplain, hothers⟩)]
        rfl
      · rw [if_pos hplain, if_neg hothers, if_neg fun hall => hothers (List.forall_mem_cons.mp hall).2]
        rfl
    · rw [if_neg hplain, if_neg fun hall => hplain (List.forall_mem_cons.mp hall).1]
      rfl

/-! ## Runs -/

/-- What can be asked of a log. -/
inductive Request
  | append (s : Sighting)
  | all
  | recent (limit : Nat)

/-- What it answers. -/
inductive Answer
  | accepted
  | refused (fault : JournalFault)
  | read (found : Except JournalFault (List Sighting))

/-- The answer to a request, and the log after it. -/
def serve (journal : Journal) : Request → Answer × Journal
  | .append s =>
    match journal.append s with
    | .ok journal => (.accepted, journal)
    | .error fault => (.refused fault, journal)
  | .all => (.read journal.all, journal)
  | .recent limit => (.read (journal.recent limit), journal)

/-- The log after a request. -/
def step (journal : Journal) (request : Request) : Journal := (journal.serve request).2

/-- The log after a run. -/
def after (journal : Journal) (requests : List Request) : Journal := requests.foldl step journal

/-- The sighting that a request brings, if the log accepts it. -/
def accepted? (journal : Journal) : Request → Option Sighting
  | .append s =>
    match (journal.serve (.append s)).1 with
    | .accepted => some s
    | _ => none
  | .all | .recent _ => none

/-- What a run brings into the log. -/
def accepted : Journal → List Request → List Sighting :=
  gather step fun journal request => (journal.accepted? request).toList

theorem after_append (journal : Journal) (requests later : List Request) :
    journal.after (requests ++ later) = (journal.after requests).after later := List.foldl_append

theorem after_cons (journal : Journal) (request : Request) (later : List Request) :
    journal.after (request :: later) = (journal.step request).after later := rfl

theorem accepted_append (journal : Journal) (requests later : List Request) :
    journal.accepted (requests ++ later) =
      journal.accepted requests ++ (journal.after requests).accepted later :=
  gather_append _ _ requests later journal

theorem accepted_cons (journal : Journal) (request : Request) (later : List Request) :
    journal.accepted (request :: later) =
      (journal.accepted? request).toList ++ (journal.step request).accepted later := rfl

/-- A request leaves the log as it is, or its sighting is accepted and gets a row. -/
theorem step_cases (journal : Journal) (request : Request) :
    journal.accepted? request = none ∧ journal.step request = journal ∨
      ∃ s, journal.accepted? request = some s ∧
        journal.step request = ⟨journal.rows ++ [row s]⟩ := by
  cases request with
  | append s =>
    cases happend : journal.append s with
    | error fault =>
      have hserve : journal.serve (.append s) = (.refused fault, journal) := by rw [serve, happend]
      rw [accepted?, step, hserve]
      exact .inl ⟨rfl, rfl⟩
    | ok journal' =>
      have hserve : journal.serve (.append s) = (.accepted, journal') := by rw [serve, happend]
      obtain ⟨rfl, -⟩ := append_eq_ok happend
      rw [accepted?, step, hserve]
      exact .inr ⟨s, rfl, rfl⟩
  | all => exact .inl ⟨rfl, rfl⟩
  | recent limit => exact .inl ⟨rfl, rfl⟩

/-- **The rows of the log** are those of what it has accepted. -/
theorem rows_after (requests : List Request) : ∀ journal : Journal,
    (journal.after requests).rows = journal.rows ++ (journal.accepted requests).map row := by
  induction requests with
  | nil => exact fun journal => (List.append_nil _).symm
  | cons request later ih =>
    intro journal
    -- the run may go on from any log, so the rest of it starts from the one after this request
    rw [after_cons, accepted_cons, ih]
    rcases step_cases journal request with ⟨hnone, hsame⟩ | ⟨s, hsome, hmore⟩
    · rw [hnone, hsame, Option.toList_none, List.nil_append]
    · rw [hsome, hmore, Option.toList_some, List.singleton_append, List.map_cons, List.append_assoc,
        List.singleton_append]

/-- Reading everything gives what was accepted, or fails. -/
theorem answer_all {requests : List Request} (h : ∀ s ∈ accepted {} requests, Readable s) :
    ((after {} requests).serve .all).1 = .read (readable (accepted {} requests)) := by
  have hrows : (after {} requests).rows = (accepted {} requests).map row := rows_after requests {}
  show Answer.read ((after {} requests).rows.mapM readRow) = _
  rw [hrows, mapM_readRow h]

/-- Reading the last ones gives the last of what was accepted, or fails. -/
theorem answer_recent {requests : List Request} (h : ∀ s ∈ accepted {} requests, Readable s)
    (limit : Nat) : ((after {} requests).serve (.recent limit)).1 =
      .read (readable ((accepted {} requests).reverse.take limit)) := by
  have hrows : (after {} requests).rows = (accepted {} requests).map row := rows_after requests {}
  have hlast : ∀ s ∈ (accepted {} requests).reverse.take limit, Readable s :=
    fun s hs => h s (List.mem_reverse.mp (List.mem_of_mem_take hs))
  show Answer.read (((after {} requests).rows.reverse.take limit).mapM readRow) = _
  rw [hrows, ← List.map_reverse, ← List.map_take, mapM_readRow hlast]

/-- **What a log promises** of a run that starts with an empty one. -/
structure GivesBack (requests : List Request) : Prop where
  /-- All that was accepted is given back, in that order, unless a number in it is not finite. -/
  all : ((after {} requests).serve .all).1 = .read (readable (accepted {} requests))
  /-- So are the last ones, newest first. -/
  recent : ∀ limit, ((after {} requests).serve (.recent limit)).1 =
    .read (readable ((accepted {} requests).reverse.take limit))
  /-- A request that brings nothing into the log might as well not have been made. -/
  unmoved : ∀ before request later, requests = before ++ request :: later →
    (after {} before).accepted? request = none →
      after {} requests = after {} (before ++ later) ∧
        accepted {} requests = accepted {} (before ++ later)

/-- **The log gives back what it accepted**, as long as what a reading comes to has finite numbers only. -/
theorem givesBack (requests : List Request) (h : ∀ s ∈ accepted {} requests, Readable s) :
    GivesBack requests := by
  constructor
  case all => exact answer_all h
  case recent => exact answer_recent h
  case unmoved =>
    rintro before request later rfl hnone
    have hsame : (after {} before).step request = after {} before := by
      rcases step_cases (after {} before) request with ⟨-, hsame⟩ | ⟨s, hsome, -⟩
      · exact hsame
      · nomatch hnone.symm.trans hsome
    constructor
    · rw [after_append, after_cons, hsame, after_append]
    · rw [accepted_append, accepted_cons, hsame, hnone, accepted_append]
      rfl

/-- A pothole that is brought twice and, in between, debris at an infinite speed. -/
theorem givesBack_pothole_debris :
    let pothole : Sighting :=
      { id := 1, seenAt := ⟨0, 0⟩, clock := 0, latitude := 27.95, longitude := 82.46
        issue := .pothole, severity := .severe, description := "deep", confidence := 0.7 }
    let debris : Sighting := { pothole with id := 2, issue := .debris, speed := Binary.infinite false }
    GivesBack [.append pothole, .append debris, .recent 1, .append pothole, .all] := by
  intro pothole debris
  have haccepted : accepted {} [.append pothole, .append debris, .recent 1, .append pothole, .all] =
      [pothole, debris] := by decide +kernel
  have hmoment : Moment.Valid ⟨0, 0⟩ := ⟨by decide, .inl (by decide)⟩
  have hnumbers : pothole.Legible := by
    constructor
    all_goals exact fun _ => JsonNumber.readsBack_of_unsigned (by decide +kernel)
  have hpothole : Readable pothole := ⟨hmoment, hnumbers⟩
  have hdebris : Readable debris :=
    ⟨hmoment, { hnumbers with speed := fun hfinite => absurd hfinite (by decide) }⟩
  refine givesBack _ ?_
  rw [haccepted]
  exact List.forall_mem_cons.mpr ⟨hpothole, List.forall_mem_singleton.mpr hdebris⟩

/-- The log accepts debris at an infinite speed, and from then on cannot be read. -/
theorem unreadable_debris :
    let debris : Sighting :=
      { Sighting.make 1 ⟨0, 0⟩ 0 .debris .minor "a tyre" 1 with speed := Binary.infinite false }
    Readable debris ∧ accepted {} [.append debris] = [debris] ∧
      ((after {} [.append debris]).serve .all).1 = .read (.error .encoding) ∧
      ((after {} [.append debris]).serve (.recent 1)).1 = .read (.error .encoding) := by
  intro debris
  have hreadable : Readable debris := by
    refine ⟨⟨by decide, .inl (by decide)⟩, ?_⟩
    constructor
    case speed => exact fun hfinite => absurd hfinite (by decide)
    all_goals exact fun _ => JsonNumber.readsBack_of_unsigned (by decide +kernel)
  have haccepted : accepted {} [.append debris] = [debris] := by decide +kernel
  have hall : ∀ s ∈ accepted {} [.append debris], Readable s := by
    rw [haccepted]
    exact List.forall_mem_singleton.mpr hreadable
  have hfails : readable [debris] = .error .encoding :=
    if_neg fun h => absurd (h debris (List.mem_singleton_self _)).speed (by decide)
  refine ⟨hreadable, haccepted, ?_, ?_⟩
  · rw [answer_all hall, haccepted, hfails]
  · rw [answer_recent hall, haccepted]
    exact congrArg Answer.read hfails

end Journal
end DriveAdvisory
