/-
  What traffic advice is about.

  Two orders meet in it, and neither is looked at by the function that relies on it.  The hits come nearest first,
  which is the search's doing; the advice then picks the first of the worst, and that the first one is the nearest
  follows from the order in which they come.  `IsFirstLeast.of_sort` says so for any two keys, so all that is left
  here is to read the two keys back: `IsWorst` is what the pick comes to, and `IsAbout` what is said about the event.

  A worse event is answered no less gravely (`response_level`), so no event that was found would have alerted the
  driver more gravely than the one picked.
-/
import DriveAdvisory.Proofs.Geo.Nearby
import DriveAdvisory.Skill.Traffic

namespace DriveAdvisory

namespace Traffic

variable {hits : List (Hit TrafficEvent)} {motion : Motion}

/-- An event no worse than another one is answered no more gravely. -/
theorem response_level {a b : Impact} (h : a.order ≤ b.order) :
    b.response.tier.level ≤ a.response.tier.level := by
  revert h
  cases a <;> cases b <;> decide

/-- One of the events found is the worst, and none that is as bad is nearer. -/
structure IsWorst (hits : List (Hit TrafficEvent)) (e : Hit TrafficEvent) : Prop where
  found : e ∈ hits
  worst : ∀ other ∈ hits, ¬ other.item.impact.order < e.item.impact.order
  gravest : ∀ other ∈ hits,
    ¬ e.item.impact.response.tier.level < other.item.impact.response.tier.level
  nearest : ∀ other ∈ hits, other.item.impact = e.item.impact → ¬ other.distance < e.distance

/-- What is proposed is about the event: an alert that fits the display and, where there is a speed to shed and the
    event is one for which to slow down, a lower speed. -/
structure IsAbout (e : Hit TrafficEvent) (motion : Motion) (p : Proposal) : Prop where
  alert : ∃ text, Text.size text ≤ displayLimit ∧
    p.alert = some ⟨text, e.item.impact.response.tier, e.item.impact.response.confidence⟩
  speed : ∀ speed, p.speed = some speed ↔
    (e.item.isSlowdown = true ∧ 0 < motion.speed.max motion.cruise) ∧
      speed = ⟨motion.speed.max motion.cruise * (1 - e.item.impact.response.reduction),
        "fl511_" ++ e.item.kind, e.item.impact.response.confidence, e.distance.toSingle⟩
  lane : p.lane = none

/-- What is proposed for the events found. -/
inductive Advised (hits : List (Hit TrafficEvent)) (motion : Motion) (p : Proposal) : Prop
  | nothing (none : hits = []) (empty : p.isEmpty = true)
  | event {e : Hit TrafficEvent} (worst : IsWorst hits e) (about : IsAbout e motion p)

/-! ## The event -/

theorem worst?_eq (hits : List (Hit TrafficEvent)) : worst? hits =
    Order.least? (Order.below fun hit : Hit TrafficEvent => hit.item.impact.order) hits := by
  have hless : (fun a b : Hit TrafficEvent => decide (a.item.impact.order < b.item.impact.order)) =
      Order.below fun hit : Hit TrafficEvent => hit.item.impact.order := by
    funext a b
    exact decide_eq_decide.mpr Iff.rfl
  rw [worst?, hless]

/-- **What is picked from the hits** of a search is the worst event and the nearest of those. -/
theorem isWorst_of_worst? {globe : Globe} {search : Search} {origin : Point}
    {events : List TrafficEvent} {e : Hit TrafficEvent}
    (h : worst? (search.hits globe origin events) = some e) :
    IsWorst (search.hits globe origin events) e := by
  have hfirst : Order.IsFirstLeast (fun hit : Hit TrafficEvent => hit.item.impact.order)
      (search.hits globe origin events) e := Order.least?_eq_some_iff.mp (worst?_eq _ ▸ h)
  have hkeys : ∀ other ∈ search.hits globe origin events,
      e.item.impact.order < other.item.impact.order ∨
        e.item.impact.order = other.item.impact.order ∧
          e.distance.orderKey ≤ other.distance.orderKey := by
    intro other hother
    rw [Search.hits_eq] at hfirst
    exact hfirst.of_sort (Search.mem_hits.mp hother)
  have horder : ∀ other ∈ search.hits globe origin events,
      e.item.impact.order ≤ other.item.impact.order := by
    intro other hother
    rcases hkeys other hother with hlt | ⟨heq, -⟩
    · exact Nat.le_of_lt hlt
    · exact Nat.le_of_eq heq
  refine ⟨hfirst.mem, fun other hother => ?_, fun other hother => ?_, fun other hother hequal => ?_⟩
  · exact Nat.not_lt.mpr (horder other hother)
  · exact Nat.not_lt.mpr (response_level (horder other hother))
  · rcases hkeys other hother with hlt | ⟨-, hle⟩
    · rw [hequal] at hlt
      exact absurd hlt (Nat.lt_irrefl _)
    · exact Binary.not_lt_of_orderKey_le hle

/-! ## What is said about it -/

theorem slowdown?_eq_some_iff {e : Hit TrafficEvent} {speed : SpeedProposal} :
    slowdown? e motion = some speed ↔
      (e.item.isSlowdown = true ∧ 0 < motion.speed.max motion.cruise) ∧
        speed = ⟨motion.speed.max motion.cruise * (1 - e.item.impact.response.reduction),
          "fl511_" ++ e.item.kind, e.item.impact.response.confidence, e.distance.toSingle⟩ := by
  rw [slowdown?, Motion.reference, Option.ite_none_right_eq_some, Option.some.injEq, eq_comm (b := speed)]

theorem isAbout_advise {e : Hit TrafficEvent} (h : worst? hits = some e) :
    IsAbout e motion (advise hits motion) := by
  rw [advise, h]
  exact ⟨⟨_, Text.size_cut_le displayLimit (alertText e), rfl⟩, fun _ => slowdown?_eq_some_iff, rfl⟩

theorem advise_of_none (h : worst? hits = none) : (advise hits motion).isEmpty = true := by
  rw [advise, h]
  rfl

end Traffic

end DriveAdvisory
