/-
  From one published speed to the next.

  The filter limits the step of a speed against a reference, and the limit is a promise about MESSAGES only
  because the reference is the speed that stands on the channel.  Three things have to fit together:

  * what is current was filtered, so its speed is finite and under the cap (`Filtered`).  Without the cap the
    floor that it sets as a reference could lie above `maxSpeed`, where a speed cannot follow;
  * what stands on the channel is empty or still current (`Steady.published`).  This is the invariant of the
    loop: an advisory expires by being replaced by the empty one, never by an older one;
  * a report is filtered against the channel as the tick finds it, and nothing is published in between.

  `history_withinStep` is the promise: no two messages in a row, in whatever order ticks, reports, phases and
  the end of the run follow each other, take a speed down by more than one step.
-/
import DriveAdvisory.Proofs.Advisory.Enforcement
import DriveAdvisory.Proofs.Cycle.Run
import Mathlib.Data.List.Chain

namespace DriveAdvisory.Ticker

variable {setup : TickerSetup} {now : Duration} {snapshot : Option Snapshot} {t : Ticker}
  {limits : Limits}

/-! ## One step of a speed -/

/-- From an active speed to an active speed it goes down by one step at most. -/
def WithinStep (limits : Limits) (before after : SpeedAxis) : Prop :=
  before.active = true → after.active = true → before.target - limits.maxStep ≤ after.target

/-- A speed as the filter leaves it. -/
def Filtered (limits : Limits) (axis : SpeedAxis) : Prop :=
  axis.active = true → axis.target.isFinite = true ∧ axis.target ≤ limits.maxSpeed

theorem filtered_enforce (h : limits.Usable) (merged : Advisory) (reference : Option Single) :
    Filtered limits (limits.enforce merged reference).speed := by
  intro ha
  obtain ⟨ht, he⟩ := Limits.filterSpeed_of_active ha
  show (limits.filterSpeed reference merged.speed).target.isFinite = true ∧
    (limits.filterSpeed reference merged.speed).target ≤ limits.maxSpeed
  rw [he]
  exact ⟨h.isFinite_holdSpeed reference ht, (h.held reference ht).le_maxSpeed⟩

/-- Saying the same again is no step. -/
theorem withinStep_refl (h : limits.Usable) {axis : SpeedAxis} (hf : Filtered limits axis) :
    WithinStep limits axis axis := by
  intro ha _
  exact Binary.sub_le_self (hf ha).1 h.maxStep_pos

/-- Filtering against a speed keeps within a step of it.  The floor that the speed sets is under the
    cap, because the speed is. -/
theorem withinStep_enforce (h : limits.Usable) {axis : SpeedAxis} (hf : Filtered limits axis)
    (merged : Advisory) {reference : Option Single}
    (href : axis.active = true → reference = some axis.target) :
    WithinStep limits axis (limits.enforce merged reference).speed := by
  intro ha hb
  obtain ⟨hfin, hcap⟩ := hf ha
  obtain ⟨ht, he⟩ := Limits.filterSpeed_of_active hb
  have hstep : axis.target - limits.maxStep ≤ limits.maxSpeed :=
    Binary.le_trans (Binary.sub_le_self hfin h.maxStep_pos) hcap
  -- the cap does not lower the floor
  have hfloor := (h.held reference ht).floor_le axis.target (href ha) hfin
  rw [Binary.min_eq_left hstep] at hfloor
  show axis.target - limits.maxStep ≤ (limits.filterSpeed reference merged.speed).target
  rw [he]
  exact hfloor

/-! ## The invariant -/

/-- What is current was filtered, and what stands on the channel is empty or current. -/
structure Steady (limits : Limits) (t : Ticker) : Prop where
  filtered : ∀ a since, t.current = some (a, since) → Filtered limits a.speed
  published : t.advisories.latest.advisory = .empty ∨
    ∃ since, t.current = some (t.advisories.latest.advisory, since)

theorem steady_opened (opened : Duration) : Steady limits (Ticker.opened setup opened) where
  filtered a since h := by nomatch h
  published := .inl rfl

/-- The speed on the channel was filtered. -/
theorem Steady.latest_filtered (h : Steady limits t) :
    Filtered limits t.advisories.latest.advisory.speed := by
  rcases h.published with hempty | ⟨since, hcur⟩
  · rw [hempty]
    intro ha
    nomatch ha
  · exact h.filtered _ since hcur

/-- The reference of a tick is the speed on the channel, if there is one. -/
theorem reference_of_active (h : t.advisories.latest.advisory.speed.active = true) :
    t.reference snapshot = some t.advisories.latest.advisory.speed.target := if_pos h

/-- A tick publishes the current advisory or the empty one. -/
theorem advisory_cases (setup : TickerSetup) (now : Duration) (t : Ticker) :
    t.advisory setup now = .empty ∨ ∃ since, t.current = some (t.advisory setup now, since) := by
  rw [advisory]
  split
  · rename_i a since hcur
    split
    · exact .inr ⟨since, hcur⟩
    · exact .inl rfl
  · exact .inl rfl

/-- What draining leaves as current was filtered, and is within a step of the channel. -/
theorem Steady.drain (hl : setup.limits.Usable) (h : Steady setup.limits t) (now : Duration)
    (snapshot : Option Snapshot) {a : Advisory} {since : Duration}
    (ha : (t.drain setup now snapshot).2.current = some (a, since)) :
    Filtered setup.limits a.speed ∧
      WithinStep setup.limits t.advisories.latest.advisory.speed a.speed := by
  rcases drain_current setup now snapshot t with hkept | ⟨merged, hnew⟩
  · rw [hkept] at ha
    refine ⟨h.filtered a since ha, ?_⟩
    rcases h.published with hempty | ⟨since', hsame⟩
    · rw [hempty]
      intro hactive
      nomatch hactive
    · -- nothing but what is current can stand on the channel, so this says the same again
      rw [hsame] at ha
      obtain ⟨rfl, -⟩ := Prod.mk.inj (Option.some.inj ha)
      exact withinStep_refl hl h.latest_filtered
  · rw [hnew] at ha
    obtain ⟨rfl, -⟩ := Prod.mk.inj (Option.some.inj ha)
    exact ⟨filtered_enforce hl merged _,
      withinStep_enforce hl h.latest_filtered merged reference_of_active⟩

/-- **One tick** keeps the invariant, and its message keeps within a step of the one before. -/
theorem Steady.tick (hl : setup.limits.Usable) (h : Steady setup.limits t) (now : Duration)
    (snapshot : Option Snapshot) :
    Steady setup.limits (t.tick setup now snapshot).2 ∧
      WithinStep setup.limits t.advisories.latest.advisory.speed
        (t.tick setup now snapshot).2.advisories.latest.advisory.speed := by
  obtain ⟨hcur, hlatest⟩ := tick_eq setup now snapshot t
  have hcases := advisory_cases setup now (t.drain setup now snapshot).2
  have hpub : (t.tick setup now snapshot).2.advisories.latest.advisory = .empty ∨
      ∃ since, (t.tick setup now snapshot).2.current =
        some ((t.tick setup now snapshot).2.advisories.latest.advisory, since) := by
    rw [hlatest, hcur]
    exact hcases
  refine ⟨⟨?_, hpub⟩, ?_⟩
  · intro a since ha
    rw [hcur] at ha
    exact (h.drain hl now snapshot ha).1
  · rw [hlatest]
    rcases hcases with hempty | ⟨since, hsome⟩
    · rw [hempty]
      intro _ hactive
      nomatch hactive
    · exact (h.drain hl now snapshot hsome).2

/-- **One event** keeps the invariant, and if it publishes, its message keeps within a step of the one
    before. -/
theorem Steady.step (hl : setup.limits.Usable) (h : Steady setup.limits t) (e : Event) :
    Steady setup.limits (t.step setup e) ∧ (e.publishes = true →
      WithinStep setup.limits t.advisories.latest.advisory.speed
        (t.step setup e).advisories.latest.advisory.speed) := by
  cases e with
  | phase phase => exact ⟨⟨h.filtered, h.published⟩, fun he => nomatch he⟩
  | report number r => exact ⟨⟨h.filtered, h.published⟩, fun he => nomatch he⟩
  | tick now snapshot engineName engineAvailable =>
    have htick := @Steady.tick { setup with engineName, engineAvailable } t hl h now snapshot
    exact ⟨htick.1, fun _ => htick.2⟩
  | stop now =>
    refine ⟨⟨h.filtered, .inl rfl⟩, ?_⟩
    intro _ _ hactive
    nomatch hactive

/-! ## The history -/

/-- The messages of a run from a steady state, each within a step of the one before. -/
theorem Steady.isChain (hl : setup.limits.Usable) : ∀ (events : List Event) {t : Ticker},
    Steady setup.limits t → (t.history setup events).IsChain fun before after =>
      WithinStep setup.limits before.advisory.speed after.advisory.speed
  | [], t, _ => List.IsChain.singleton t.advisories.latest
  | e :: rest, t, h => by
    obtain ⟨hsteady, hwithin⟩ := h.step hl e
    have hrest := Steady.isChain hl rest hsteady
    rw [history_cons]
    split
    · rename_i he
      exact List.isChain_cons_cons.mpr ⟨hwithin he, hrest⟩
    · exact hrest

/-- **No published speed is more than a step below the one published before it**, whatever happens in
    between. -/
theorem history_withinStep (hl : setup.limits.Usable) (opened : Duration) (events : List Event) :
    ((Ticker.opened setup opened).history setup events).IsChain fun before after =>
      before.advisory.speed.active = true → after.advisory.speed.active = true →
        before.advisory.speed.target - setup.limits.maxStep ≤ after.advisory.speed.target :=
  Steady.isChain hl events (steady_opened opened)

/-- A ticker with the limits of a fresh configuration. -/
def fresh : TickerSetup :=
  { engineName := "engine", engineAvailable := true, calendar := fun _ => ⟨0, 0⟩ }

/-- A snapshot with the assistance on. -/
def driving : Snapshot := { takenAt := ⟨0, 0⟩, engagement := { enabled := true } }

/-- The report of a cycle that came to a speed. -/
def speedReport (target : Single) : Report :=
  { merged := some { speed := { active := true, target, confidence := 1 } } }

/-- A cycle that wants 40, then one that wants to all but stop. -/
def braking : List Event :=
  [.tick 0 (some driving) "engine" true, .report 1 (speedReport 40),
    .tick (Duration.ofSeconds 1) (some driving) "engine" true, .report 2 (speedReport 5),
    .tick (Duration.ofSeconds 2) none "engine" true]

/-- The second speed is reached halfway only. -/
theorem history_withinStep_braking : fresh.limits.Usable ∧
    (((Ticker.opened fresh 0).history fresh braking).IsChain fun before after =>
      before.advisory.speed.active = true → after.advisory.speed.active = true →
        before.advisory.speed.target - fresh.limits.maxStep ≤ after.advisory.speed.target) ∧
    ((Ticker.opened fresh 0).history fresh braking).map (·.advisory.speed.target)
      = [0, 0, 40, 20] := by
  have hl : fresh.limits.Usable := ⟨by decide, by decide⟩
  exact ⟨hl, history_withinStep hl 0 braking, by decide +kernel⟩

end DriveAdvisory.Ticker
