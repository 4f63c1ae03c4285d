/-
  The first speed after silence.

  While a speed stands on the channel the next one steps down from it (`StepLimit`).  When none does, the
  vehicle's own speed takes its place, and a ticker knows that one only through the snapshot of the tick it is
  in.  Reports come when they come: a report that is drained by a tick whose snapshot failed meets neither
  reference, and the filter is asked without one.  Snapshots of earlier ticks, the one that the cycle itself set
  out with among them, are not kept.

  `firstSpeed_limited_iff` draws the line.  With a snapshot the first speed keeps within a step of the
  vehicle's; without one the merged target is merely clamped, so it keeps to the last known speed of the vehicle
  just if it happened to lie high enough.  `firstSpeed_unlimited` is a run in which it does not.
-/
import DriveAdvisory.Proofs.Cycle.Intake
import DriveAdvisory.Proofs.Cycle.StepLimit

namespace DriveAdvisory.Ticker

variable {setup : TickerSetup} {now : Duration} {snapshot : Option Snapshot} {t : Ticker}

/-! ## What was seen -/

/-- The snapshot that an event brings. -/
def Event.snapshot? : Event → Option Snapshot
  | .phase _ => none
  | .report _ _ => none
  | .tick _ snapshot _ _ => snapshot
  | .stop _ => none

/-- The latest snapshot of a run. -/
def lastSeen (events : List Event) : Option Snapshot :=
  (events.filterMap Event.snapshot?).getLast?

/-- The snapshot of a tick is the latest one, if it has any. -/
theorem lastSeen_tick (events : List Event) (now : Duration) (s : Snapshot) (engineName : String)
    (engineAvailable : Bool) :
    lastSeen (events ++ [.tick now (some s) engineName engineAvailable]) = some s := by
  rw [lastSeen, List.filterMap_append]
  exact List.getLast?_concat

/-! ## What it is measured against -/

/-- While no speed is published the vehicle's own is the reference, as far as it is known. -/
theorem reference_of_inactive (h : t.advisories.latest.advisory.speed.active = false) :
    t.reference snapshot = snapshot.map (·.motion.speed) := by
  rw [reference]
  exact if_neg (by rw [h]; exact Bool.false_ne_true)

/-- Without a reference a target is clamped, and that is all. -/
theorem holdSpeed_none (limits : Limits) (target : Single) :
    limits.holdSpeed none target = target.clamp 0 limits.maxSpeed := rfl

/-! ## The first speed -/

/-- **The first speed after silence** keeps within a step of the last speed that the vehicle was seen at
    exactly if the tick that takes it in has a snapshot, or the merged target lies high enough by itself. -/
theorem firstSpeed_limited_iff (hl : setup.limits.Usable) (opened : Duration) (events : List Event)
    (now : Duration) (snapshot : Option Snapshot) (engineName : String) (engineAvailable : Bool)
    {i : Intake} {merged : Advisory} {seen : Snapshot}
    (htaken : ((Ticker.opened setup opened).after setup events).intake? now snapshot = some i)
    (hmerged : i.report.merged = some merged)
    (hsilent : ((Ticker.opened setup opened).after setup events).advisories.latest.advisory.speed.active
      = false)
    (hseen : lastSeen (events ++ [.tick now snapshot engineName engineAvailable]) = some seen)
    (hfinite : seen.motion.speed.isFinite = true) :
    ∃ out, ((Ticker.opened setup opened).after setup
        (events ++ [.tick now snapshot engineName engineAvailable])).current = some (out, now) ∧
      (out.speed.active = true →
        ((seen.motion.speed - setup.limits.maxStep).min setup.limits.maxSpeed ≤ out.speed.target ↔
          snapshot.isSome = true ∨
            (seen.motion.speed - setup.limits.maxStep).min setup.limits.maxSpeed
              ≤ merged.speed.target.clamp 0 setup.limits.maxSpeed)) := by
  obtain ⟨⟨number, r⟩, harrived, rfl⟩ := Option.map_eq_some_iff.mp htaken
  rw [reference_of_inactive hsilent] at htaken
  have hmerged' : r.merged = some merged := hmerged
  refine ⟨setup.limits.enforce merged (snapshot.map (·.motion.speed)), ?_, ?_⟩
  · rw [after_snoc]
    refine (tick_current _ now snapshot _).trans ?_
    rw [htaken]
    simp only [Option.bind_some, Intake.filtered?, hmerged', Option.map_some, Option.some_or]
  · intro ha
    obtain ⟨ht, he⟩ := Limits.filterSpeed_of_active ha
    show (seen.motion.speed - setup.limits.maxStep).min setup.limits.maxSpeed
      ≤ (setup.limits.filterSpeed (snapshot.map (·.motion.speed)) merged.speed).target ↔ _
    rw [he]
    cases snapshot with
    | some s =>
      rw [lastSeen_tick] at hseen
      obtain rfl : s = seen := Option.some.inj hseen
      have hfloor := (hl.held (some s.motion.speed) ht).floor_le s.motion.speed rfl hfinite
      exact iff_of_true hfloor (.inl rfl)
    | none =>
      show _ ≤ setup.limits.holdSpeed none merged.speed.target ↔ _
      rw [holdSpeed_none]
      simp

/-- A snapshot at speed, with the assistance on. -/
def cruising : Snapshot :=
  { takenAt := ⟨0, 0⟩, motion := { speed := 45 }, engagement := { enabled := true } }

/-- A slow speed. -/
def slow : Advisory := { speed := { active := true, target := 5, confidence := 1 } }

/-- The report of a cycle that wants to crawl. -/
def crawl : Report := { merged := some slow }

/-- A cycle sets out at speed and reports. -/
def setOut : List Event := [.tick 0 (some cruising) "engine" true, .report 1 crawl]

/-- It is taken in a second later, with a snapshot, against the vehicle's speed. -/
theorem intake?_setOut : ((Ticker.opened fresh 0).after fresh setOut).intake?
    (Duration.ofSeconds 1) (some cruising) = some ⟨1, crawl, Duration.ofSeconds 1, some 45⟩ := by
  rfl

/-- Taken in with a snapshot, it slows down to within a step. -/
theorem firstSpeed_limited_iff_cruising :
    ∃ out, ((Ticker.opened fresh 0).after fresh
        (setOut ++ [.tick (Duration.ofSeconds 1) (some cruising) "engine" true])).current
        = some (out, Duration.ofSeconds 1) ∧
      (out.speed.active = true →
        ((cruising.motion.speed - fresh.limits.maxStep).min fresh.limits.maxSpeed
            ≤ out.speed.target ↔ (some cruising).isSome = true ∨
          (cruising.motion.speed - fresh.limits.maxStep).min fresh.limits.maxSpeed
            ≤ slow.speed.target.clamp 0 fresh.limits.maxSpeed)) :=
  firstSpeed_limited_iff ⟨by decide, by decide⟩ 0 setOut (Duration.ofSeconds 1) (some cruising)
    "engine" true intake?_setOut rfl rfl rfl (by decide +kernel)

/-- The same report, with no snapshot at hand. -/
def blind : List Event := setOut ++ [.tick (Duration.ofSeconds 1) none "engine" true]

/-- Taken in without one, it crawls at once: the vehicle was seen at 45, and 5 is published after
    silence. -/
theorem firstSpeed_unlimited :
    fresh.limits.Usable ∧ (lastSeen blind).map (·.motion.speed) = some 45 ∧
    ((Ticker.opened fresh 0).history fresh blind).map (·.advisory.speed.active)
      = [false, false, true] ∧
    ((Ticker.opened fresh 0).history fresh blind).map (·.advisory.speed.target) = [0, 0, 5] ∧
    ¬ ((45 - fresh.limits.maxStep).min fresh.limits.maxSpeed ≤ (5 : Single)) := by
  refine ⟨⟨by decide, by decide⟩, by rfl, by decide +kernel, by decide +kernel, by decide +kernel⟩

end DriveAdvisory.Ticker
