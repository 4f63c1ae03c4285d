/-
  What the ring of recent sightings holds, and what it refuses.

  That a sighting repeats an earlier one is a relation between the two (`Closeness.Repeats`), which is made for
  located sightings only.  The ring decides by it (`take_eq_false`, `take_eq_true`), and since it takes nothing in
  that repeats what it holds, no two sightings that it holds repeat each other, in the order in which they came
  (`apart_after`).  Pushing the oldest out keeps that, because a part of such a list is such a list, so clocks need
  not run forward for it.

  The list itself is the end of the list of all that was new (`recent_after`).  `kept_after` puts this together.
-/
import DriveAdvisory.Proofs.Order.Gather
import DriveAdvisory.Sighting.Ring
import Mathlib.Data.List.DropRight
import Mathlib.Tactic.MkIffOfInductiveProp

namespace DriveAdvisory

/-! ## Located sightings -/

namespace Sighting

/-- The coordinates of the sighting are a position. -/
@[mk_iff]
structure Located (s : Sighting) : Prop where
  latitude : s.latitude.isFinite = true
  longitude : s.longitude.isFinite = true
  not_zero : ¬ (s.latitude.isZero = true ∧ s.longitude.isZero = true)

instance (s : Sighting) : Decidable s.Located := decidable_of_iff _ (located_iff s).symm

/-- The coordinates as they were reported. -/
def point (s : Sighting) : Point := ⟨s.latitude, s.longitude⟩

theorem place_of_located {s : Sighting} (h : s.Located) : s.place = some s.point := by
  have hzero : (s.latitude.isZero && s.longitude.isZero) = false := by
    rw [Bool.eq_false_iff, ne_eq, Bool.and_eq_true]
    exact h.not_zero
  rw [place, Point.fix?, h.latitude, h.longitude, hzero]
  rfl

theorem place_of_not_located {s : Sighting} (h : ¬ s.Located) : s.place = none := by
  rw [place, Point.fix?]
  split
  · rfl
  · rename_i hfix
    rw [Bool.or_eq_true, Bool.or_eq_true, Bool.and_eq_true, Bool.not_eq_true', Bool.not_eq_true']
      at hfix
    push Not at hfix
    obtain ⟨⟨hlatitude, hlongitude⟩, hzero⟩ := hfix
    rw [ne_eq, Bool.not_eq_false] at hlatitude hlongitude
    have hlocated : s.Located := ⟨hlatitude, hlongitude, fun hboth => hzero hboth.1 hboth.2⟩
    exact absurd hlocated h

end Sighting

/-! ## Repeating an earlier sighting -/

/-- One sighting repeats an earlier one: it is of the same issue, and no more than the window and the radius lie
    between them.  A clock that ran backwards counts as one that stood. -/
structure Closeness.Repeats (globe : Globe) (near : Closeness) (later earlier : Sighting) : Prop where
  later_located : later.Located
  earlier_located : earlier.Located
  issue : earlier.issue = later.issue
  age : (0 : Double).max (later.clock - earlier.clock) ≤ near.window
  distance : globe.distance later.point earlier.point ≤ near.radius

namespace Closeness

variable {globe : Globe} {near : Closeness} {s prior : Sighting} {history : List Sighting}

theorem repeatsOne_iff (hs : s.Located) :
    near.repeatsOne globe s s.point prior = true ↔ near.Repeats globe s prior := by
  rw [repeatsOne, Bool.and_eq_true, Bool.and_eq_true, beq_iff_eq, decide_eq_true_iff]
  by_cases hprior : prior.Located
  · rw [Sighting.place_of_located hprior, decide_eq_true_iff]
    constructor
    · rintro ⟨⟨hissue, hage⟩, hdistance⟩
      exact ⟨hs, hprior, hissue, hage, hdistance⟩
    · intro h
      exact ⟨⟨h.issue, h.age⟩, h.distance⟩
  · rw [Sighting.place_of_not_located hprior]
    constructor
    · rintro ⟨-, hno⟩
      nomatch hno
    · intro h
      exact absurd h.earlier_located hprior

theorem repeatsAny_iff :
    near.repeatsAny globe s history = true ↔ ∃ prior ∈ history, near.Repeats globe s prior := by
  by_cases hs : s.Located
  · rw [repeatsAny, Sighting.place_of_located hs, List.any_eq_true]
    constructor
    · rintro ⟨prior, hprior, hone⟩
      exact ⟨prior, hprior, (repeatsOne_iff hs).mp hone⟩
    · rintro ⟨prior, hprior, hrepeats⟩
      exact ⟨prior, hprior, (repeatsOne_iff hs).mpr hrepeats⟩
  · rw [repeatsAny, Sighting.place_of_not_located hs]
    constructor
    · nofun
    · rintro ⟨prior, -, hrepeats⟩
      exact absurd hrepeats.later_located hs

end Closeness

namespace Ring

variable {globe : Globe} {ring : Ring}

/-! ## One sighting -/

theorem take_eq_false (globe : Globe) (ring : Ring) (s : Sighting) :
    ring.take globe s = (false, ring) ↔ ∃ prior ∈ ring.recent, ring.near.Repeats globe s prior := by
  rw [← Closeness.repeatsAny_iff, take]
  by_cases h : ring.near.repeatsAny globe s ring.recent = true
  · rw [if_pos h]
    exact ⟨fun _ => h, fun _ => rfl⟩
  · rw [if_neg h]
    exact ⟨nofun, fun hno => absurd hno h⟩

theorem take_eq_true (globe : Globe) (ring : Ring) (s : Sighting) :
    ring.take globe s = (true, ring.push s) ↔
      ∀ prior ∈ ring.recent, ¬ ring.near.Repeats globe s prior := by
  have hnone : (∀ prior ∈ ring.recent, ¬ ring.near.Repeats globe s prior) ↔
      ¬ ring.near.repeatsAny globe s ring.recent = true := by
    rw [Closeness.repeatsAny_iff]
    push Not
    exact Iff.rfl
  rw [hnone, take]
  by_cases h : ring.near.repeatsAny globe s ring.recent = true
  · rw [if_pos h]
    exact ⟨nofun, fun hno => absurd h hno⟩
  · rw [if_neg h]
    exact ⟨fun _ => h, fun _ => rfl⟩

/-- **All that taking a sighting can do.** -/
theorem take_cases (globe : Globe) (ring : Ring) (s : Sighting) :
    ring.take globe s = (false, ring) ∨
      ring.take globe s = (true, ring.push s) ∧
        ∀ prior ∈ ring.recent, ¬ ring.near.Repeats globe s prior := by
  by_cases h : ∃ prior ∈ ring.recent, ring.near.Repeats globe s prior
  · exact .inl ((take_eq_false globe ring s).mpr h)
  · push Not at h
    exact .inr ⟨(take_eq_true globe ring s).mpr h, h⟩

@[simp] theorem push_near (ring : Ring) (s : Sighting) : (ring.push s).near = ring.near := rfl

@[simp] theorem push_capacity (ring : Ring) (s : Sighting) : (ring.push s).capacity = ring.capacity :=
  rfl

/-- The end of a list, pushed to, is the end of the longer list, if a ring that has not used up the room for it has
    not reached its capacity either. -/
theorem recent_push {all : List Sighting} {room : Nat} (hroom : 0 < room) (hcapacity : ring.capacity ≤ room)
    (hfree : all.length < room → all.length < ring.capacity ∨ all = [])
    (h : ring.recent = all.rtake room) (s : Sighting) :
    (ring.push s).recent = (all ++ [s]).rtake room := by
  obtain ⟨n, rfl⟩ : ∃ n, room = n + 1 := ⟨room - 1, by omega⟩
  have hlength : ring.recent.length = all.length - (all.length - (n + 1)) := by
    rw [h, List.rtake, List.length_drop]
  have hkept : (if ring.capacity ≤ ring.recent.length then ring.recent.drop 1 else ring.recent) =
      all.rtake n := by
    by_cases hfull : ring.capacity ≤ ring.recent.length
    · rw [if_pos hfull, h, List.rtake, List.drop_drop, List.rtake]
      rcases Nat.lt_or_ge all.length (n + 1) with hless | hmore
      · -- a ring that is full before its room is used up has no capacity and holds nothing
        obtain rfl : all = [] := (hfree hless).resolve_left (by omega)
        rw [List.drop_nil, List.drop_nil]
      · have hstart : all.length - (n + 1) + 1 = all.length - n := by omega
        rw [hstart]
    · have hall : all.length - (n + 1) = all.length - n := by omega
      rw [if_neg hfull, h, List.rtake, hall, List.rtake]
  rw [push, hkept, List.rtake_concat_succ]

/-- **Pushes** leave the end of what the ring held and what was pushed, and change nothing else.  The ring never holds
    fewer than it did, nor fewer than its capacity lets it. -/
theorem foldl_push (ring : Ring) (new : List Sighting) : new.foldl push ring =
    { ring with
      recent := (ring.recent ++ new).rtake (max (max 1 ring.capacity) ring.recent.length) } := by
  induction new using List.reverseRecOn with
  | nil =>
    have hall : ring.recent.length - max (max 1 ring.capacity) ring.recent.length = 0 := by omega
    rw [List.append_nil, List.rtake, hall]
    rfl
  | append_singleton new s ih =>
    rw [List.foldl_append, ih]
    have hlonger : ring.recent.length ≤ (ring.recent ++ new).length := by
      rw [List.length_append]
      omega
    have hlast : (push { ring with
        recent := (ring.recent ++ new).rtake (max (max 1 ring.capacity) ring.recent.length) } s).recent =
          (ring.recent ++ new ++ [s]).rtake (max (max 1 ring.capacity) ring.recent.length) := by
      refine recent_push ?_ ?_ ?_ rfl s
      · omega
      · show ring.capacity ≤ _
        omega
      · intro hless
        show _ < ring.capacity ∨ _
        rcases Nat.eq_zero_or_pos (ring.recent ++ new).length with hnone | hsome
        · exact .inr (List.eq_nil_of_length_eq_zero hnone)
        · exact .inl (by omega)
    rw [List.append_assoc] at hlast
    exact congrArg (Ring.mk ring.near ring.capacity) hlast

/-! ## Runs -/

/-- The ring after a sighting. -/
def step (globe : Globe) (ring : Ring) (s : Sighting) : Ring := (ring.take globe s).2

/-- The ring after a run of sightings. -/
def after (globe : Globe) (ring : Ring) (run : List Sighting) : Ring := run.foldl (step globe) ring

/-- The sightings of a run that were new, in order. -/
def admitted (globe : Globe) : Ring → List Sighting → List Sighting :=
  gather (step globe) fun ring s => if (ring.take globe s).1 then [s] else []

theorem after_snoc (run : List Sighting) (s : Sighting) :
    ring.after globe (run ++ [s]) = ((ring.after globe run).take globe s).2 := by
  rw [after, List.foldl_append]
  rfl

theorem admitted_snoc (run : List Sighting) (s : Sighting) : ring.admitted globe (run ++ [s]) =
    ring.admitted globe run ++ if ((ring.after globe run).take globe s).1 then [s] else [] :=
  gather_snoc _ _ run s ring

theorem settings_after (globe : Globe) (ring : Ring) (run : List Sighting) :
    (ring.after globe run).near = ring.near ∧ (ring.after globe run).capacity = ring.capacity := by
  induction run using List.reverseRecOn with
  | nil => exact ⟨rfl, rfl⟩
  | append_singleton run s ih =>
    rw [after_snoc]
    rcases take_cases globe (ring.after globe run) s with htake | ⟨htake, -⟩
    · rw [htake]
      exact ih
    · rw [htake, push_near, push_capacity]
      exact ih

/-- **The ring holds** the last sightings that were new. -/
theorem recent_after (globe : Globe) (near : Closeness) (capacity : Nat) (run : List Sighting) :
    ((empty near capacity).after globe run).recent =
      ((empty near capacity).admitted globe run).rtake (max 1 capacity) := by
  induction run using List.reverseRecOn with
  | nil =>
    have hnone : (empty near capacity).admitted globe [] = [] := rfl
    rw [hnone, List.rtake_nil]
    rfl
  | append_singleton run s ih =>
    have hcapacity : ((empty near capacity).after globe run).capacity = max 1 capacity :=
      (settings_after globe (empty near capacity) run).2
    rw [after_snoc, admitted_snoc]
    rcases take_cases globe ((empty near capacity).after globe run) s with htake | ⟨htake, -⟩
    · rw [htake, if_neg Bool.false_ne_true, List.append_nil]
      exact ih
    · have hroom : 0 < ((empty near capacity).after globe run).capacity := by
        rw [hcapacity]
        omega
      have hpush := recent_push hroom (Nat.le_refl _) .inl (ih.trans (by rw [hcapacity])) s
      rw [htake, if_pos rfl, hpush, hcapacity]

/-- No sighting of a list repeats one before it. -/
def Apart (globe : Globe) (near : Closeness) (sightings : List Sighting) : Prop :=
  sightings.Pairwise fun earlier later => ¬ near.Repeats globe later earlier

/-- Pushing what repeats nothing in the ring keeps its sightings apart. -/
theorem apart_push {near : Closeness} {s : Sighting} (h : Apart globe near ring.recent)
    (hnew : ∀ prior ∈ ring.recent, ¬ near.Repeats globe s prior) :
    Apart globe near (ring.push s).recent := by
  have hkept : (if ring.capacity ≤ ring.recent.length then ring.recent.drop 1
      else ring.recent).Sublist ring.recent := by
    split
    · exact List.drop_sublist 1 ring.recent
    · exact List.Sublist.refl ring.recent
  rw [Apart, push, List.pairwise_append]
  refine ⟨h.sublist hkept, List.pairwise_singleton _ s, ?_⟩
  intro prior hprior later hlater
  rw [List.mem_singleton] at hlater
  rw [hlater]
  exact hnew prior (hkept.subset hprior)

/-- **Sightings in the ring** do not repeat each other. -/
theorem apart_after (globe : Globe) (near : Closeness) (capacity : Nat) (run : List Sighting) :
    Apart globe near ((empty near capacity).after globe run).recent := by
  induction run using List.reverseRecOn with
  | nil => exact List.Pairwise.nil
  | append_singleton run s ih =>
    have hnear : ((empty near capacity).after globe run).near = near :=
      (settings_after globe (empty near capacity) run).1
    rw [after_snoc]
    rcases take_cases globe ((empty near capacity).after globe run) s with htake | ⟨htake, hnew⟩
    · rw [htake]
      exact ih
    · rw [hnear] at hnew
      rw [htake]
      exact apart_push ih hnew

/-- The ring without its sightings that have no fix. -/
def located (ring : Ring) : Ring := { ring with recent := ring.recent.filter fun s => s.Located }

/-- What has no fix does not matter for what comes. -/
theorem take_located (globe : Globe) (ring : Ring) (s : Sighting) :
    (ring.located.take globe s).1 = (ring.take globe s).1 := by
  have hsame : (∃ prior ∈ ring.located.recent, ring.located.near.Repeats globe s prior) ↔
      ∃ prior ∈ ring.recent, ring.near.Repeats globe s prior := by
    constructor
    · rintro ⟨prior, hprior, hrepeats⟩
      exact ⟨prior, List.mem_of_mem_filter hprior, hrepeats⟩
    · rintro ⟨prior, hprior, hrepeats⟩
      have hlocated : decide prior.Located = true := decide_eq_true hrepeats.earlier_located
      exact ⟨prior, List.mem_filter.mpr ⟨hprior, hlocated⟩, hrepeats⟩
  rw [← take_eq_false, ← take_eq_false] at hsame
  rcases take_cases globe ring s with htake | ⟨htake, hnew⟩
  · rw [htake, hsame.mpr htake]
  · have hfewer : ∀ prior ∈ ring.located.recent, ¬ ring.located.near.Repeats globe s prior :=
      fun prior hprior => hnew prior (List.mem_of_mem_filter hprior)
    rw [htake, (take_eq_true globe ring.located s).mpr hfewer]

/-! ## What the ring promises -/

/-- What holds of a ring that began empty, after a run, and of any sighting that may come next. -/
structure Kept (globe : Globe) (near : Closeness) (capacity : Nat) (run : List Sighting) (ring : Ring) :
    Prop where
  /-- It holds the last sightings that were new, oldest first. -/
  holds : ring.recent = ((empty near capacity).admitted globe run).rtake (max 1 capacity)
  /-- It refuses what repeats one of them, and then stays as it is. -/
  refuses : ∀ s, ring.take globe s = (false, ring) ↔ ∃ prior ∈ ring.recent, near.Repeats globe s prior
  /-- It takes everything else in. -/
  admits : ∀ s, ring.take globe s = (true, ring.push s) ↔
    ∀ prior ∈ ring.recent, ¬ near.Repeats globe s prior
  /-- What has no fix is always new. -/
  unlocated : ∀ s : Sighting, ¬ s.Located → ring.take globe s = (true, ring.push s)
  /-- What has no fix never makes it refuse anything. -/
  harmless : ∀ s, (ring.located.take globe s).1 = (ring.take globe s).1
  /-- No sighting in it repeats another that came before. -/
  apart : Apart globe near ring.recent

/-- **The ring keeps apart** whatever comes, in whatever order and by whatever clocks. -/
theorem kept_after (globe : Globe) (near : Closeness) (capacity : Nat) (run : List Sighting) :
    Kept globe near capacity run ((empty near capacity).after globe run) := by
  have hnear : ((empty near capacity).after globe run).near = near :=
    (settings_after globe (empty near capacity) run).1
  have hadmits : ∀ s, ((empty near capacity).after globe run).take globe s =
      (true, ((empty near capacity).after globe run).push s) ↔
        ∀ prior ∈ ((empty near capacity).after globe run).recent, ¬ near.Repeats globe s prior := by
    intro s
    rw [take_eq_true, hnear]
  constructor
  case holds => exact recent_after globe near capacity run
  case refuses =>
    intro s
    rw [take_eq_false, hnear]
  case admits => exact hadmits
  case unlocated =>
    intro s hs
    exact (hadmits s).mpr fun prior _ hrepeats => hs hrepeats.later_located
  case harmless =>
    intro s
    exact take_located globe ((empty near capacity).after globe run) s
  case apart => exact apart_after globe near capacity run

end Ring

end DriveAdvisory
