/-
  Speeds that the data propose.

  Three skills propose a speed of their own accord: traffic advice and road issues shed a share of the reference
  speed, and a way out keeps to the vehicle's own speed as far as a cap allows.  None of them was told a speed, so
  none may ask for more than there is.  What bounds a proposal is a float, computed from other floats that come from
  anywhere, and the bound has to hold for a NaN and for infinities as well.

  It is proved for the three computations (`Slowdown`).  That a skill proposes nothing else is a matter of going
  through its steps, and `Always` does that without looking at the world that they are made in.
-/
import DriveAdvisory.Proofs.Number.Share
import DriveAdvisory.Skill.Evacuation
import DriveAdvisory.Skill.RoadIssue
import DriveAdvisory.Skill.Traffic

namespace DriveAdvisory

/-! ## Steps in any world -/

section Always

variable {σ α β : Type} {P : α → Prop} {Q : β → Prop}

/-- Whatever the state that it is made in, what a step gives is as said. -/
def Always (step : StateM σ α) (P : α → Prop) : Prop := ∀ s, P (step s).1

theorem Always.pure {a : α} (h : P a) : Always (pure a : StateM σ α) P := fun _ => h

theorem Always.bind {step : StateM σ α} {next : α → StateM σ β} (h : ∀ a, Always (next a) Q) :
    Always (step >>= next) Q := fun s => h _ (step s).2

theorem Always.withHub {step : StateM Hub α} (h : Always step P) : Always (World.withHub step) P :=
  fun w => h w.hub

end Always

/-! ## Slowing down -/

/-- A speed that is no more than what the vehicle does or is set to do.  `base` is the speed that it is computed
    from. -/
structure Slowdown (base : Single) (motion : Motion) (speed : SpeedProposal) : Prop where
  moving : 0 < base
  forward : 0 ≤ speed.target
  within_base : speed.target ≤ base
  within_reference : speed.target ≤ motion.speed.max motion.cruise

/-- All that a proposal says about the speed is as said. -/
def Proposal.Speeds (p : Proposal) (P : SpeedProposal → Prop) : Prop :=
  ∀ speed, p.speed = some speed → P speed

theorem Proposal.Speeds.of_none {p : Proposal} {P : SpeedProposal → Prop} (h : p.speed = none) :
    p.Speeds P := by
  intro speed hspeed
  rw [h] at hspeed
  nomatch hspeed

/-- A share of the reference speed slows down. -/
theorem Slowdown.of_share {motion : Motion} {speed : SpeedProposal} {share : Single}
    (hmoving : 0 < motion.reference) (hs : 0 < share) (hone : share ≤ 1)
    (htarget : speed.target = motion.reference * share) :
    Slowdown motion.reference motion speed := by
  obtain ⟨hforward, hwithin⟩ := Binary.single_mul_share hmoving hs hone
  rw [← htarget] at hforward hwithin
  exact ⟨hmoving, hforward, hwithin, hwithin⟩

/-! ## Traffic -/

namespace Traffic

/-- Whatever the impact, something is left of the speed. -/
theorem share_pos (i : Impact) : 0 < 1 - i.response.reduction := by
  cases i <;> decide +kernel

theorem share_le_one (i : Impact) : 1 - i.response.reduction ≤ 1 := by
  cases i <;> decide +kernel

variable {motion : Motion} {hits : List (Hit TrafficEvent)}

theorem slowdown?_slows {hit : Hit TrafficEvent} {speed : SpeedProposal}
    (h : slowdown? hit motion = some speed) : Slowdown motion.reference motion speed := by
  obtain ⟨⟨-, hmoving⟩, hspeed⟩ := Option.ite_none_right_eq_some.mp h
  obtain rfl := Option.some.inj hspeed
  exact .of_share hmoving (share_pos _) (share_le_one _) rfl

theorem advise_slows : (advise hits motion).Speeds (Slowdown motion.reference motion) := by
  rw [advise]
  split
  · exact .of_none rfl
  · exact fun _ => slowdown?_slows

theorem propose_slows (globe : Globe) (a : TrafficArguments) (origin : Point)
    (events : List TrafficEvent) :
    (propose globe a origin motion events).Speeds (Slowdown motion.reference motion) := by
  rw [propose]
  split
  · exact .of_none rfl
  · cases a.mode with
    | check => exact .of_none rfl
    | advise => exact advise_slows

theorem act_slows (surroundings : Surroundings) (a : TrafficArguments) (s : Snapshot) :
    Always (act surroundings a s) (·.Speeds (Slowdown s.motion.reference s.motion)) := by
  rw [act]
  split
  · exact .pure (.of_none rfl)
  · cases s.place with
    | none => exact .pure (.of_none rfl)
    | some origin =>
      refine .bind fun got => ?_
      cases got.payload? with
      | none => exact .pure (.of_none rfl)
      | some events => exact .pure (propose_slows _ _ _ _)

end Traffic

/-! ## Road issues -/

namespace RoadIssue

theorem share_pos (v : Severity) : 0 < 1 - v.reduction := by
  cases v <;> decide +kernel

theorem share_le_one (v : Severity) : 1 - v.reduction ≤ 1 := by
  cases v <;> decide +kernel

variable {motion : Motion}

theorem slowdown?_slows {issue : Sighting} {speed : SpeedProposal}
    (h : slowdown? issue motion = some speed) : Slowdown motion.reference motion speed := by
  obtain ⟨⟨-, -, hmoving⟩, hspeed⟩ := Option.ite_none_right_eq_some.mp h
  obtain rfl := Option.some.inj hspeed
  exact .of_share hmoving (share_pos _) (share_le_one _) rfl

theorem act_speed (surroundings : Surroundings) (a : RoadIssueArguments) (s : Snapshot) (w : World) :
    (act surroundings a s w).1.speed =
      slowdown? (a.sighting (surroundings.stamp w.sightings) s) s.motion := by
  rw [act]
  dsimp only [respond]

theorem act_slows (surroundings : Surroundings) (a : RoadIssueArguments) (s : Snapshot) :
    Always (act surroundings a s) (·.Speeds (Slowdown s.motion.reference s.motion)) := by
  intro w speed h
  rw [act_speed] at h
  exact slowdown?_slows h

end RoadIssue

/-! ## The way out -/

namespace Evacuation

/-- Fifty-five miles per hour in metres per second, to the nearest number. -/
def fastest : Single := 24.5872

theorem speedCap_eq : Plan.speedCap * mphToMs = fastest := by decide +kernel

theorem fastest_pos : 0 < fastest := by decide +kernel

/-- A speed for the way out, which is capped besides. -/
def Capped (motion : Motion) (speed : SpeedProposal) : Prop :=
  Slowdown motion.speed motion speed ∧ speed.target ≤ fastest

variable {motion : Motion}

theorem speed?_capped {globe : Globe} {p : Plan} {speed : SpeedProposal}
    (h : p.speed? globe motion = some speed) : Capped motion speed := by
  obtain ⟨hmoving, hspeed⟩ := Option.ite_none_right_eq_some.mp h
  obtain rfl := Option.some.inj hspeed
  rw [speedCap_eq]
  have hNaN := (Binary.zero_lt_iff.mp hmoving).1
  have hcap := (Binary.zero_lt_iff.mp fastest_pos).1
  have hwithin := Binary.min_le_left hNaN hcap
  refine ⟨⟨hmoving, ?_, hwithin, ?_⟩, Binary.min_le_right hNaN hcap⟩
  · show 0 ≤ motion.speed.min fastest
    rcases Binary.min_cases hNaN hcap with ⟨h, -⟩ | ⟨h, -⟩
    · rw [h]
      exact Binary.le_of_lt hmoving
    · rw [h]
      exact Binary.le_of_lt fastest_pos
  · exact Binary.le_trans hwithin (Binary.le_max_left motion.cruise hNaN)

/-- Infinitely fast, and with a set point that is no number: the way out is driven at the cap. -/
example : ((⟨⟨0, 0⟩, ⟨0, 0⟩, none, none, [], []⟩ : Plan).speed? ⟨fun _ _ => 0, fun x y => ⟨y, x⟩⟩
    { speed := .infinite false, cruise := .nan }).map (·.target) = some fastest := by decide +kernel

theorem planTo_capped (sources : Sources) (origin destination : Point) (shelter : Option Shelter) :
    Always (planTo sources origin destination shelter motion) (·.Speeds (Capped motion)) :=
  .bind fun _ => .bind fun _ => .bind fun _ => .pure fun _ => speed?_capped

theorem planRoute_capped (sources : Sources) (a : EvacuationArguments) (origin : Point) :
    Always (planRoute sources a origin motion) (·.Speeds (Capped motion)) := by
  rw [planRoute]
  cases a.destination? with
  | some destination => exact planTo_capped _ _ _ _
  | none =>
    refine .bind fun shelters => ?_
    cases shelters.head? with
    | some shelter => exact planTo_capped _ _ _ _
    | none => exact .pure (.of_none rfl)

theorem listShelters_speed (shelters : List Shelter) (radiusMiles : Double) :
    (listShelters shelters radiusMiles).speed = none := by
  rw [listShelters]
  dsimp only
  split <;> rfl

theorem act_capped (surroundings : Surroundings) (a : EvacuationArguments) (s : Snapshot) :
    Always (act surroundings a s) (·.Speeds (Capped s.motion)) := by
  rw [act]
  cases s.place with
  | none => exact .pure (.of_none rfl)
  | some origin =>
    refine .withHub ?_
    cases a.mode with
    | situation =>
      exact .bind fun _ => .bind fun _ => .bind fun _ => .bind fun _ => .pure (.of_none rfl)
    | route => exact planRoute_capped _ _ _
    | shelters => exact .bind fun _ => .pure (.of_none (listShelters_speed _ _))

end Evacuation

/-! ## The skills -/

namespace Skill

/-- With this snapshot the skill may propose the speed: told the right thing, in the right surroundings and the right
    world, it does. -/
def MayPropose (k : Skill Run) (s : Snapshot) (speed : SpeedProposal) : Prop :=
  ∃ surroundings arguments w q, (k.run surroundings arguments s w).1 = .ok q ∧ q.speed = some speed

/-- What a skill proposes is what it does with arguments that it can read. -/
theorem MayPropose.of_act {k : Skill Run} {α : Type} {decode : Decoder α}
    {act : Surroundings → α → Snapshot → StateM World Proposal} {s : Snapshot}
    {P : SpeedProposal → Prop} (hrun : k.run = runWith k.name decode act)
    (hact : ∀ surroundings a, Always (act surroundings a s) (·.Speeds P)) {speed : SpeedProposal}
    (h : k.MayPropose s speed) : P speed := by
  obtain ⟨surroundings, arguments, w, q, hrun', hspeed⟩ := h
  rw [hrun, runWith] at hrun'
  cases hread : readArguments k.name decode arguments with
  | error fault =>
    rw [hread] at hrun'
    nomatch hrun'
  | ok a =>
    rw [hread] at hrun'
    obtain rfl : (act surroundings a s w).1 = q := Except.ok.inj hrun'
    exact hact surroundings a w speed hspeed

/-- What the three skills promise of the speeds that they propose. -/
structure OnlySlow (s : Snapshot) : Prop where
  traffic : ∀ speed, traffic.MayPropose s speed → Slowdown s.motion.reference s.motion speed
  roadIssue : ∀ speed, roadIssue.MayPropose s speed → Slowdown s.motion.reference s.motion speed
  evacuation : ∀ speed, evacuation.MayPropose s speed →
    Slowdown s.motion.speed s.motion speed ∧ speed.target ≤ Evacuation.fastest

/-- **Data never ask for more speed**, however the vehicle moves. -/
theorem onlySlow (s : Snapshot) : OnlySlow s where
  traffic _ h := h.of_act rfl fun surroundings a => Traffic.act_slows surroundings a s
  roadIssue _ h := h.of_act rfl fun surroundings a => RoadIssue.act_slows surroundings a s
  evacuation _ h := h.of_act rfl fun surroundings a => Evacuation.act_capped surroundings a s

end Skill

end DriveAdvisory
