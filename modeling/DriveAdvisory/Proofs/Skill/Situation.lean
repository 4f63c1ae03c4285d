/-
  How serious a situation is.

  The tier of an alert is raised in three places, each for a reason of its own, and the text is chosen in a fourth.
  `Grounds` collects the reasons, one rule for each, and nothing of the report comes into it: an alert that is not
  listed any more is as good a ground as the first one.

  * `grounds_tier`        the tier is one that there are grounds for;
  * `Grounds.level_le`    there are grounds for no graver one;
  * `Grounds.mono`        more alerts and more closures leave all grounds as they are.

  Everything that is said about alerts here follows from these three.
-/
import DriveAdvisory.Skill.Evacuation

namespace DriveAdvisory

/-! ## The graver of several tiers -/

namespace Tier

theorem level_max (a b : Tier) : (a.max b).level = Nat.max a.level b.level := by
  cases a <;> cases b <;> rfl

/-- The graver of two tiers is one of them. -/
theorem max_cases (a b : Tier) : a.max b = a ∨ a.max b = b := by
  rw [max]
  split
  · exact .inr rfl
  · exact .inl rfl

theorem level_le_critical (t : Tier) : t.level ≤ critical.level := by
  cases t <;> decide

theorem eq_critical {t : Tier} (h : critical.level ≤ t.level) : t = critical := by
  cases t with
  | critical => rfl
  | info | warning => exact absurd h (by decide)

section Worst

variable {α : Type} (tier : α → Tier)

theorem foldl_max_cases : ∀ (items : List α) (start : Tier),
    items.foldl (fun worst a => worst.max (tier a)) start = start ∨
      ∃ a ∈ items, items.foldl (fun worst a => worst.max (tier a)) start = tier a
  | [], _ => .inl rfl
  | a :: items, start => by
    rw [List.foldl_cons]
    rcases foldl_max_cases items (start.max (tier a)) with h | ⟨b, hb, h⟩
    · rw [h]
      rcases max_cases start (tier a) with hmax | hmax
      · exact .inl hmax
      · exact .inr ⟨a, List.mem_cons_self, hmax⟩
    · exact .inr ⟨b, List.mem_cons_of_mem a hb, h⟩

theorem level_le_foldl_max : ∀ (items : List α) (start : Tier),
    start.level ≤ (items.foldl (fun worst a => worst.max (tier a)) start).level ∧
      ∀ a ∈ items, (tier a).level ≤ (items.foldl (fun worst a => worst.max (tier a)) start).level
  | [], start => ⟨Nat.le_refl start.level, fun _ ha => absurd ha List.not_mem_nil⟩
  | b :: items, start => by
    obtain ⟨hstart, hitems⟩ := level_le_foldl_max items (start.max (tier b))
    rw [level_max] at hstart
    rw [List.foldl_cons]
    refine ⟨Nat.le_trans (Nat.le_max_left _ _) hstart, fun a ha => ?_⟩
    rcases List.mem_cons.mp ha with rfl | ha
    · exact Nat.le_trans (Nat.le_max_right _ _) hstart
    · exact hitems a ha

end Worst

end Tier

namespace Evacuation.Situation

variable {s more : Situation} {t : Tier}

/-! ## Reasons -/

/-- Some alert may call for an evacuation. -/
def Threatened (s : Situation) : Prop := ∃ a ∈ s.alerts, a.callsForEvacuation = true

/-- The zone is one of those that are evacuated first. -/
def Urgent (s : Situation) : Prop := ∃ z, s.zone = some z ∧ z.priority ≤ 2

/-- There is something to say. -/
def Noteworthy (s : Situation) : Prop := s.Threatened ∨ s.closures ≠ []

/-- The reasons for a tier. -/
inductive Grounds (s : Situation) : Tier → Prop
  | calm : Grounds s .info
  /-- An alert that may call for an evacuation, listed in the report or not. -/
  | weather {a : WeatherAlert} (mem : a ∈ s.alerts) (calls : a.callsForEvacuation = true) :
    Grounds s a.tier
  | zone (threatened : s.Threatened) (urgent : s.Urgent) : Grounds s .critical
  | roads (closed : s.closures ≠ []) : Grounds s .warning

theorem Threatened.mono (halerts : s.alerts ⊆ more.alerts) (h : s.Threatened) :
    more.Threatened := by
  obtain ⟨a, mem, calls⟩ := h
  exact ⟨a, halerts mem, calls⟩

theorem closed_mono (hclosures : s.closures ⊆ more.closures) (h : s.closures ≠ []) :
    more.closures ≠ [] := by
  obtain ⟨hit, hhit⟩ := List.exists_mem_of_ne_nil _ h
  exact List.ne_nil_of_mem (hclosures hhit)

theorem Noteworthy.mono (halerts : s.alerts ⊆ more.alerts) (hclosures : s.closures ⊆ more.closures)
    (h : s.Noteworthy) : more.Noteworthy := h.imp (Threatened.mono halerts) (closed_mono hclosures)

/-- What is added, and wherever it is, takes no reason away. -/
theorem Grounds.mono (halerts : s.alerts ⊆ more.alerts) (hclosures : s.closures ⊆ more.closures)
    (hzone : more.zone = s.zone) (h : s.Grounds t) : more.Grounds t := by
  cases h with
  | calm => exact .calm
  | weather mem calls => exact .weather (halerts mem) calls
  | zone threatened urgent =>
    obtain ⟨z, hz, hpriority⟩ := urgent
    exact .zone (threatened.mono halerts) ⟨z, hzone.trans hz, hpriority⟩
  | roads closed => exact .roads (closed_mono hclosures closed)

/-! ## The tier -/

theorem mem_relevant {a : WeatherAlert} :
    a ∈ s.relevant ↔ a ∈ s.alerts ∧ a.callsForEvacuation = true := List.mem_filter

theorem threatened_iff : s.threatened = true ↔ s.Threatened := by
  rw [threatened, Bool.not_eq_true', List.isEmpty_eq_false_iff_exists_mem]
  constructor
  · rintro ⟨a, ha⟩
    exact ⟨a, mem_relevant.mp ha⟩
  · rintro ⟨a, ha⟩
    exact ⟨a, mem_relevant.mpr ha⟩

theorem urgentZone_eq_some_iff {z : EvacuationZone} :
    s.urgentZone = some z ↔ s.zone = some z ∧ z.priority ≤ 2 := by
  rw [urgentZone, Option.filter_eq_some_iff, EvacuationZone.isHighPriority, decide_eq_true_iff]

theorem urgentZone_isSome_iff : s.urgentZone.isSome = true ↔ s.Urgent := by
  rw [Option.isSome_iff_exists]
  exact exists_congr fun _ => urgentZone_eq_some_iff

/-- The tier before closed roads are looked at. -/
def zoned (s : Situation) : Tier :=
  if s.urgentZone.isSome ∧ s.threatened then .critical
  else s.relevant.foldl (fun worst a => worst.max a.tier) .info

theorem tier_eq (s : Situation) :
    s.tier = if s.closures.isEmpty then s.zoned else s.zoned.max .warning := rfl

theorem grounds_zoned (s : Situation) : s.Grounds s.zoned := by
  rw [zoned]
  split
  · rename_i h
    exact .zone (threatened_iff.mp h.2) (urgentZone_isSome_iff.mp h.1)
  · rcases Tier.foldl_max_cases WeatherAlert.tier s.relevant .info with h | ⟨a, ha, h⟩
    · rw [h]
      exact .calm
    · rw [h]
      obtain ⟨mem, calls⟩ := mem_relevant.mp ha
      exact .weather mem calls

/-- **There are grounds for the tier.** -/
theorem grounds_tier (s : Situation) : s.Grounds s.tier := by
  rw [tier_eq]
  split
  · exact grounds_zoned s
  · rename_i hclosed
    rcases Tier.max_cases s.zoned .warning with h | h
    · rw [h]
      exact grounds_zoned s
    · rw [h]
      exact .roads fun hnone => hclosed (List.isEmpty_iff.mpr hnone)

theorem zoned_level_le (s : Situation) : s.zoned.level ≤ s.tier.level := by
  rw [tier_eq]
  split
  · exact Nat.le_refl _
  · rw [Tier.level_max]
    exact Nat.le_max_left _ _

theorem weather_level_le {a : WeatherAlert} (ha : a ∈ s.relevant) :
    a.tier.level ≤ s.zoned.level := by
  rw [zoned]
  split
  · exact Tier.level_le_critical _
  · exact (Tier.level_le_foldl_max WeatherAlert.tier s.relevant .info).2 a ha

/-- **There are grounds for no graver tier.** -/
theorem Grounds.level_le (h : s.Grounds t) : t.level ≤ s.tier.level := by
  cases h with
  | calm => exact Nat.zero_le _
  | weather mem calls =>
    exact Nat.le_trans (weather_level_le (mem_relevant.mpr ⟨mem, calls⟩)) (zoned_level_le s)
  | zone threatened urgent =>
    have hzoned : s.zoned = .critical := by
      rw [zoned, if_pos ⟨urgentZone_isSome_iff.mpr urgent, threatened_iff.mpr threatened⟩]
    rw [← hzoned]
    exact zoned_level_le s
  | roads closed =>
    rw [tier_eq, if_neg fun hnone => closed (List.isEmpty_iff.mp hnone), Tier.level_max]
    exact Nat.le_max_right _ _

/-! ## The alert -/

/-- More than the least tier has a reason in the weather or on the roads. -/
theorem Grounds.noteworthy (h : s.Grounds t) (ht : Tier.info.level < t.level) : s.Noteworthy := by
  cases h with
  | calm => exact absurd ht (Nat.lt_irrefl _)
  | weather mem calls => exact .inl ⟨_, mem, calls⟩
  | zone threatened _ => exact .inl threatened
  | roads closed => exact .inr closed

theorem noteworthy_iff :
    s.Noteworthy ↔ Tier.info.level < s.tier.level ∨ s.threatened = true := by
  constructor
  · rintro (h | hclosed)
    · exact .inr (threatened_iff.mpr h)
    · exact .inl (Grounds.roads hclosed).level_le
  · rintro (hlt | h)
    · exact (grounds_tier s).noteworthy hlt
    · exact .inl (threatened_iff.mp h)

/-- There is an alert exactly where there is something to say, and it has the situation's text and tier. -/
theorem alert_eq_some_iff {a : AlertProposal} :
    s.assess.alert = some a ↔ s.Noteworthy ∧ alert s.text s.tier = a := by
  show (if _ then _ else _) = _ ↔ _
  rw [noteworthy_iff, Option.ite_none_right_eq_some, Option.some.injEq]

theorem alert_eq_none_iff : s.assess.alert = none ↔ ¬ s.Noteworthy := by
  rw [Option.eq_none_iff_forall_ne_some]
  constructor
  · intro h hnote
    exact h _ (alert_eq_some_iff.mpr ⟨hnote, rfl⟩)
  · intro h a ha
    exact h (alert_eq_some_iff.mp ha).1

/-! ## The text -/

/-- A call to leave begins with this word. -/
def call : String := "EVACUATE"

theorem call_prefix_text_iff : call.toList <+: s.text.toList ↔ s.Threatened ∧ s.Urgent := by
  rw [← threatened_iff, ← urgentZone_isSome_iff, text]
  cases s.threatened with
  | false =>
    refine iff_of_false (fun h => ?_) nofun
    dsimp only at h
    split at h
    · exact absurd h (by decide)
    · exact absurd h (by decide)
  | true =>
    cases s.urgentZone with
    | none =>
      refine iff_of_false (fun h => ?_) nofun
      dsimp only at h
      exact absurd h (by decide)
    | some z =>
      refine iff_of_true ⟨": Zone ".toList ++ (z.zone.toList ++ " active".toList), ?_⟩ ⟨rfl, rfl⟩
      simp [call]

/-- The display shows enough of a text to tell. -/
theorem call_prefix_cut_iff {text : String} :
    call.toList <+: (Text.cut displayLimit text).toList ↔ call.toList <+: text.toList := by
  rw [Text.toList_cut, List.prefix_take_iff]
  exact and_iff_left (by decide)

/-! ## What is promised -/

/-- What an assessment promises of its alert. -/
structure Assessed (s : Situation) : Prop where
  /-- There is none exactly where no weather threatens and no road is closed. -/
  silent : s.assess.alert = none ↔ ¬ s.Threatened ∧ s.closures = []
  /-- Its tier is the gravest that there are grounds for. -/
  gravest : ∀ a, s.assess.alert = some a →
    s.Grounds a.tier ∧ ∀ t, s.Grounds t → t.level ≤ a.tier.level
  /-- It calls to leave exactly where an urgent zone is threatened, and then it is critical. -/
  leave : ∀ a, s.assess.alert = some a →
    (call.toList <+: a.text.toList ↔ s.Threatened ∧ s.Urgent) ∧
      (call.toList <+: a.text.toList → a.tier = .critical)
  /-- More alerts and more closures, wherever they are put, neither silence it nor make it less grave. -/
  added : ∀ more : Situation, s.alerts ⊆ more.alerts → s.closures ⊆ more.closures →
    more.zone = s.zone → ∀ a, s.assess.alert = some a →
      ∃ b, more.assess.alert = some b ∧ a.tier.level ≤ b.tier.level

/-- A minor flood in an urgent zone is as critical as it gets, and a closed road does not change the text. -/
example : (assess
    { alerts := [⟨"Heat Advisory", "Extreme", "", "", "", "", ""⟩, ⟨"Flood Warning", "Minor", "", "", "", "", ""⟩]
      zone := some ⟨" b ", "Hillsborough", "Active"⟩
      closures := [⟨{ kind := "closures" }, 0⟩] }).alert =
    some ⟨"EVACUATE: Zone  b  active", .critical, 1⟩ := by decide +kernel

end Evacuation.Situation

end DriveAdvisory
