/-
  Who wins an axis.

  The three precedences are lexicographic comparisons, so each is a key in a linear order: `arrivalKey` for
  the order in which proposals are looked at, `speedKey` and `alertKey` for the axes that pick one
  proposal by several criteria.  A higher confidence is a lower key, hence the signs.

  What an axis picks is then described once for all of them (`IsWinner`): a proposal that contends and
  that is least by the axis' key and, among equals, by its arrival.  `winner_of_pick` and `pick_of_front`
  say that such a proposal is picked, and that of several such proposals the one at the front of the input
  is.  The main result follows a proposed speed through merging and filtering:

  * `enforce?_merge_speed`   what is published is the LOWEST proposed target, clamped, or the floor that the
                             reference sets; no other proposal can take its place.
-/
import DriveAdvisory.Advisory.Merge
import DriveAdvisory.Proofs.Advisory.Enforcement
import DriveAdvisory.Proofs.Order.Selection
import Mathlib.Data.String.Basic

namespace DriveAdvisory

/-! ## The total order -/

namespace Binary

variable {f : BinaryFormat} {x y : Binary f}

/-- Numbers of the same place in the total order are the same number, bit for bit. -/
theorem eq_of_orderKey (h : x.orderKey = y.orderKey) : x = y := by
  obtain ⟨xn, xm, hx⟩ := x
  obtain ⟨yn, ym, hy⟩ := y
  have hfields : xn = yn ∧ xm = ym := by
    cases xn <;> cases yn <;> simp [orderKey] at h ⊢ <;> omega
  obtain ⟨rfl, rfl⟩ := hfields
  rfl

/-- The total order refines the numeric one. -/
theorem le_of_orderKey_le (hx : x.isNaN = false) (hy : y.isNaN = false)
    (h : x.orderKey ≤ y.orderKey) : x ≤ y := by
  refine le_iff.mpr ⟨hx, hy, ?_⟩
  unfold orderKey at h
  unfold rank
  cases hxn : x.negative <;> cases hyn : y.negative <;> simp [hxn, hyn] at h ⊢ <;> omega

/-- What is no further on in the total order is not greater, be it a number or not. -/
theorem not_lt_of_orderKey_le (h : x.orderKey ≤ y.orderKey) : ¬ y < x := by
  intro hlt
  obtain ⟨hy, hx, -⟩ := lt_iff.mp hlt
  exact (not_lt hy hx).mpr (le_of_orderKey_le hx hy h) hlt

theorem totalCompare_ne_gt_iff : x.totalCompare y ≠ .gt ↔ x.orderKey ≤ y.orderKey := by
  rw [Ne, totalCompare, compare_gt_iff_gt, Int.not_lt]

end Binary

namespace Merge

/-! ## Keys -/

/-- The rank, then the skill's name. -/
def arrivalKey (p : Proposal) : Nat ×ₗ String := toLex (p.rank, p.skill)

theorem arrival_ne_gt_iff (p q : Proposal) :
    arrival p q ≠ .gt ↔ arrivalKey p ≤ arrivalKey q := by
  rw [Ne, arrival, Ordering.then_eq_gt, compare_gt_iff_gt, compare_gt_iff_gt, compare_eq_iff_eq,
    arrivalKey, arrivalKey, ← not_lt, Prod.Lex.toLex_lt_toLex]
  simp only [eq_comm]

theorem ordered_eq (proposals : List Proposal) :
    ordered proposals = Order.sort (Order.upTo arrivalKey) proposals := by
  have hle : (fun a b => arrival a b != .gt) = Order.upTo arrivalKey := by
    funext a b
    rw [Bool.eq_iff_iff, bne_iff_ne, decide_eq_true_iff, arrival_ne_gt_iff]
  rw [ordered, hle]

/-- A key of four parts, compared from the front. -/
abbrev Key : Type := (Int ×ₗ Int) ×ₗ (Nat ×ₗ String)

/-- The key of two numbers to be compared, a confidence, a rank and a text.  The higher confidence comes
    first. -/
def key (first confidence : Int) (rank : Nat) (text : String) : Key :=
  toLex (toLex (first, -confidence), toLex (rank, text))

theorem key_lt_iff {a b c d : Int} {m n : Nat} {s t : String} : key a c m s < key b d n t ↔
    (a < b ∨ a = b ∧ d < c) ∨ (a = b ∧ c = d) ∧ (m < n ∨ m = n ∧ s < t) := by
  have hlt : -c < -d ↔ d < c := by omega
  have heq : -c = -d ↔ c = d := by omega
  simp only [key, Prod.Lex.toLex_lt_toLex, EmbeddingLike.apply_eq_iff_eq, Prod.mk.injEq, hlt, heq]

theorem key_inj {a b c d : Int} {m n : Nat} {s t : String} : key a c m s = key b d n t ↔
    (a = b ∧ c = d) ∧ m = n ∧ s = t := by
  have heq : -c = -d ↔ c = d := by omega
  simp only [key, EmbeddingLike.apply_eq_iff_eq, Prod.mk.injEq, heq]

/-- The target and the confidence by the total order, the rank, the source. -/
def speedKey (a : Nat × SpeedProposal) : Key :=
  key a.2.target.orderKey a.2.confidence.orderKey a.1 a.2.source

theorem speedPrecedence_eq :
    (fun a b => speedPrecedence a b == .lt) = Order.below speedKey := by
  funext a b
  rw [Bool.eq_iff_iff, beq_iff_eq, decide_eq_true_iff, speedKey, speedKey, key_lt_iff]
  simp only [speedPrecedence, Binary.totalCompare, Ordering.then_eq_lt, Ordering.then_eq_eq,
    compare_lt_iff_lt, compare_eq_iff_eq, eq_comm (a := b.2.confidence.orderKey)]

/-- The tier, the higher one first, the confidence by the total order, the rank, the text. -/
def alertKey (a : Nat × AlertProposal) : Key :=
  key (-(a.2.tier.level : Int)) a.2.confidence.orderKey a.1 a.2.text

theorem alertPrecedence_eq :
    (fun a b => alertPrecedence a b == .lt) = Order.below alertKey := by
  funext a b
  have hlt : -(a.2.tier.level : Int) < -(b.2.tier.level : Int) ↔
      b.2.tier.level < a.2.tier.level := by omega
  have heq : -(a.2.tier.level : Int) = -(b.2.tier.level : Int) ↔
      b.2.tier.level = a.2.tier.level := by omega
  rw [Bool.eq_iff_iff, beq_iff_eq, decide_eq_true_iff, alertKey, alertKey, key_lt_iff, hlt, heq]
  simp only [alertPrecedence, Binary.totalCompare, Ordering.then_eq_lt, Ordering.then_eq_eq,
    compare_lt_iff_lt, compare_eq_iff_eq, eq_comm (a := b.2.confidence.orderKey)]

/-! ## The winner of an axis -/

section Winner

variable {β κ : Type} [LinearOrder κ] {view : Proposal → Option β} {key : β → κ}
  {proposals others : List Proposal} {p q : Proposal} {b c : β}

/-- `p` wins an axis with `b`: nothing that contends for the axis comes before it by the axis' key, and
    of those with the same key none arrives before it. -/
structure IsWinner (view : Proposal → Option β) (key : β → κ) (proposals : List Proposal)
    (p : Proposal) (b : β) : Prop where
  mem : p ∈ proposals
  contends : view p = some b
  first : ∀ q ∈ proposals, ∀ c, view q = some c →
    toLex (key b, arrivalKey p) ≤ toLex (key c, arrivalKey q)

/-- The pick of an axis: of what contends for it, in the order of arrival, the first with the least
    key. -/
def pick (view : Proposal → Option β) (key : β → κ) (proposals : List Proposal) : Option β :=
  Order.least? (Order.below key) ((ordered proposals).filterMap view)

/-- What is picked is what a winner brings. -/
theorem winner_of_pick (h : pick view key proposals = some b) :
    ∃ p, IsWinner view key proposals p b := by
  rw [pick, ordered_eq] at h
  obtain ⟨p, hmem, hview, hfirst⟩ := Order.pick_sort (Order.least?_eq_some_iff.mp h)
  exact ⟨p, hmem, hview, hfirst⟩

/-- A winner that arrives in front of everything else is the one that is picked. -/
theorem pick_of_front (h : IsWinner view key (p :: proposals) p b) :
    pick view key (p :: proposals) = some b := by
  rw [pick, ordered_eq, Order.least?_eq_some_iff]
  exact Order.pick_sort_cons h.contends fun q hq => h.first q (List.mem_cons_of_mem p hq)

/-- Nothing is picked only where nothing contends. -/
theorem pick_eq_none_iff : pick view key proposals = none ↔ ∀ p ∈ proposals, view p = none := by
  rw [pick, Order.least?_eq_none_iff, List.filterMap_eq_nil_iff, ordered]
  simp only [Order.mem_sort]

/-- Who wins does not depend on the order of the input. -/
theorem IsWinner.perm (h : IsWinner view key proposals p b) (hperm : proposals.Perm others) :
    IsWinner view key others p b where
  mem := hperm.mem_iff.mp h.mem
  contends := h.contends
  first q hq := h.first q (hperm.mem_iff.mpr hq)

/-- Two winners of one axis agree on everything that is compared. -/
theorem IsWinner.key_eq (hp : IsWinner view key proposals p b)
    (hq : IsWinner view key proposals q c) : key b = key c ∧ arrivalKey p = arrivalKey q := by
  have hle := hp.first q hq.mem c hq.contends
  have hge := hq.first p hp.mem b hp.contends
  have heq := toLex.injective (le_antisymm hle hge)
  exact Prod.mk.inj heq

end Winner

/-- What a proposal contends with: its bid for the axis, if it has one that may win, and its rank. -/
theorem contender_eq_some_iff {α : Type} (may : α → Bool) {p : Proposal} {bid : Option α}
    {b : Nat × α} : (bid.map (p.rank, ·)).filter (may ·.2) = some b ↔
      bid = some b.2 ∧ b.1 = p.rank ∧ may b.2 = true := by
  obtain ⟨rank, a⟩ := b
  rw [Option.filter_eq_some_iff, Option.map_eq_some_iff]
  constructor
  · rintro ⟨⟨a', ha', he⟩, hmay⟩
    obtain ⟨rfl, rfl⟩ := Prod.mk.inj he
    exact ⟨ha', rfl, hmay⟩
  · rintro ⟨ha, rfl, hmay⟩
    exact ⟨⟨a, ha, rfl⟩, hmay⟩

/-! ## The speed -/

/-- The speed a proposal contends with, if it does. -/
def speedContender (p : Proposal) : Option (Nat × SpeedProposal) :=
  (p.speed.map (p.rank, ·)).filter (·.2.target.isFinite)

theorem speedContenders_eq (proposals : List Proposal) :
    speedContenders proposals = proposals.filterMap speedContender := List.filter_filterMap

theorem speedContender_eq_some_iff {p : Proposal} {b : Nat × SpeedProposal} :
    speedContender p = some b ↔ p.speed = some b.2 ∧ b.1 = p.rank ∧ b.2.target.isFinite = true :=
  contender_eq_some_iff fun s : SpeedProposal => s.target.isFinite

theorem speed_ordered_eq (proposals : List Proposal) :
    speed (ordered proposals) = ((pick speedContender speedKey proposals).map (·.2.axis)).getD {} := by
  rw [speed, speedPrecedence_eq, speedContenders_eq, pick]
  split
  · rename_i hpick; rw [hpick]; rfl
  · rename_i hpick; rw [hpick]; rfl

/-- `p` proposes the speed `s`, and no proposed speed comes before it: none has a lower target, none of
    the same target a higher confidence, and so on through rank and source. -/
structure FirstSpeed (proposals : List Proposal) (p : Proposal) (s : SpeedProposal) : Prop where
  mem : p ∈ proposals
  proposes : p.speed = some s
  finite : s.target.isFinite = true
  first : ∀ q ∈ proposals, ∀ t, q.speed = some t → t.target.isFinite = true →
    speedKey (p.rank, s) ≤ speedKey (q.rank, t)

theorem IsWinner.firstSpeed {proposals : List Proposal} {p : Proposal} {b : Nat × SpeedProposal}
    (h : IsWinner speedContender speedKey proposals p b) : FirstSpeed proposals p b.2 := by
  obtain ⟨hs, hrank, hfin⟩ := speedContender_eq_some_iff.mp h.contends
  refine ⟨h.mem, hs, hfin, ?_⟩
  intro q hq t ht htfin
  have hview : speedContender q = some (q.rank, t) :=
    speedContender_eq_some_iff.mpr ⟨ht, rfl, htfin⟩
  have hle := h.first q hq _ hview
  -- the arrival, which comes last, is given away here
  have hp : (p.rank, b.2) = b := by rw [← hrank]
  rw [hp]
  rcases Prod.Lex.toLex_le_toLex.mp hle with hlt | ⟨heq, -⟩
  · exact le_of_lt hlt
  · exact le_of_eq heq

/-- The first speed is the lowest one, also in the numeric order. -/
theorem FirstSpeed.lowest {proposals : List Proposal} {p : Proposal} {s : SpeedProposal}
    (h : FirstSpeed proposals p s) {q : Proposal} (hq : q ∈ proposals) {t : SpeedProposal}
    (ht : q.speed = some t) (hfin : t.target.isFinite = true) : s.target ≤ t.target := by
  have hkey := not_lt.mpr (h.first q hq t ht hfin)
  rw [speedKey, speedKey, key_lt_iff] at hkey
  refine Binary.le_of_orderKey_le (Binary.not_isNaN_of_isFinite h.finite)
    (Binary.not_isNaN_of_isFinite hfin) ?_
  by_contra hgt
  exact hkey (.inl (.inl (not_le.mp hgt)))

/-- **The merged speed** is the first speed that was proposed, word for word, and the axis is active
    exactly if there is one. -/
theorem speed_ordered_cases (proposals : List Proposal) :
    (speed (ordered proposals) = {} ∧
      ∀ p ∈ proposals, ∀ s, p.speed = some s → s.target.isFinite = false) ∨
    ∃ p s, FirstSpeed proposals p s ∧ speed (ordered proposals) = s.axis := by
  rw [speed_ordered_eq]
  cases hpick : pick speedContender speedKey proposals with
  | none =>
    left
    refine ⟨rfl, ?_⟩
    intro p hp s hs
    have hnone := pick_eq_none_iff.mp hpick p hp
    rw [← Bool.not_eq_true]
    intro hfin
    rw [speedContender_eq_some_iff (b := (p.rank, s)) |>.mpr ⟨hs, rfl, hfin⟩] at hnone
    nomatch hnone
  | some b =>
    right
    obtain ⟨p, hwins⟩ := winner_of_pick hpick
    exact ⟨p, b.2, hwins.firstSpeed, rfl⟩

theorem speed_active_iff (proposals : List Proposal) : (speed (ordered proposals)).active = true ↔
    ∃ p ∈ proposals, ∃ s, p.speed = some s ∧ s.target.isFinite = true := by
  rcases speed_ordered_cases proposals with ⟨he, hnone⟩ | ⟨p, s, hfirst, he⟩
  · rw [he]
    constructor
    · intro h
      nomatch h
    · rintro ⟨p, hp, s, hs, hfin⟩
      rw [hnone p hp s hs] at hfin
      nomatch hfin
  · rw [he]
    exact ⟨fun _ => ⟨p, hfirst.mem, s, hfirst.proposes, hfirst.finite⟩, fun _ => rfl⟩

/-! ## The published speed -/

/-- What becomes of the winning speed `s` when it is published.  It is clamped, or raised to the floor
    where it would be below (`Limits.Held`); a winner that is too weak leaves the axis off, and what is
    published is not faster than any proposal, the floor apart. -/
structure Published (limits : Limits) (reference : Option Single) (proposals : List Proposal)
    (s : SpeedProposal) (out : SpeedAxis) : Prop where
  gated : Limits.unitConfidence s.confidence < limits.minConfidence → out = {}
  passed : ¬ Limits.unitConfidence s.confidence < limits.minConfidence →
    out.active = true ∧ out.source = s.source
  held : out.active = true → Limits.Held limits reference s.target out.target
  no_faster : out.active = true → ∀ q ∈ proposals, ∀ t, q.speed = some t → t.target.isFinite = true →
    out.target ≤ t.target.clamp 0 limits.maxSpeed ∨
      ∃ r, reference = some r ∧ r.isFinite = true ∧ out.target ≤ r - limits.maxStep

theorem FirstSpeed.published {limits : Limits} (h : limits.Usable) (reference : Option Single)
    {proposals : List Proposal} {p : Proposal} {s : SpeedProposal}
    (hfirst : FirstSpeed proposals p s) :
    Published limits reference proposals s (limits.filterSpeed reference s.axis) := by
  -- the merged axis is active and its target finite, so its confidence alone decides
  have hpasses : (limits.filterSpeed reference s.axis).active = true ↔
      ¬ Limits.unitConfidence s.confidence < limits.minConfidence :=
    Limits.filterSpeed_passes_iff rfl hfirst.finite
  have hout (ha : (limits.filterSpeed reference s.axis).active = true) :
      (limits.filterSpeed reference s.axis).target = limits.holdSpeed reference s.target ∧
        (limits.filterSpeed reference s.axis).source = s.source := by
    rw [(Limits.filterSpeed_of_active ha).2]
    exact ⟨rfl, rfl⟩
  refine ⟨?_, ?_, ?_, ?_⟩
  · intro hweak
    apply Limits.filterSpeed_of_inactive
    rw [← Bool.not_eq_true, hpasses]
    exact not_not.mpr hweak
  · intro hpass
    have ha := hpasses.mpr hpass
    exact ⟨ha, (hout ha).2⟩
  · intro ha
    rw [(hout ha).1]
    exact h.held reference hfirst.finite
  · intro ha q hq t ht hfin
    rw [(hout ha).1]
    rcases h.holdSpeed_cases reference hfirst.finite with ⟨he, -⟩ | ⟨floor, hf, -, he⟩
    · left
      rw [he]
      exact Binary.clamp_mono h.bounds (hfirst.lowest hq ht hfin)
    · right
      obtain ⟨r, hr, hrfin, rfl⟩ := Limits.floor?_eq_some_iff.mp hf
      refine ⟨r, hr, hrfin, ?_⟩
      rw [he]
      exact Binary.min_le_left (h.floor_number hf) (Binary.not_isNaN_of_le_right h.bounds)

/-- **The most careful speed is published**, and no other proposal takes its place. -/
theorem enforce?_merge_speed {limits : Limits} (h : limits.Usable) (policy : MergePolicy)
    (proposals : List Proposal) (reference : Option Single) :
    ((merge policy proposals).speed.active = true ↔
      ∃ p ∈ proposals, ∃ s, p.speed = some s ∧ s.target.isFinite = true) ∧
    ∃ out, limits.enforce? (merge policy proposals) reference = some out ∧
      ((merge policy proposals).speed.active = false →
        (merge policy proposals).speed = {} ∧ out.speed = {}) ∧
      ((merge policy proposals).speed.active = true → ∃ p s, FirstSpeed proposals p s ∧
        (merge policy proposals).speed = s.axis ∧
        Published limits reference proposals s out.speed) := by
  refine ⟨speed_active_iff proposals, _,
    Limits.enforce?_eq_some h.maxSpeed_pos (merge policy proposals) reference, ?_, ?_⟩
  · intro hoff
    rcases speed_ordered_cases proposals with ⟨he, -⟩ | ⟨p, s, -, he⟩
    · refine ⟨he, Limits.filterSpeed_of_inactive ?_⟩
      rw [show (merge policy proposals).speed = {} from he]
      rfl
    · rw [show (merge policy proposals).speed = s.axis from he] at hoff
      nomatch hoff
  · intro hon
    rcases speed_ordered_cases proposals with ⟨he, -⟩ | ⟨p, s, hfirst, he⟩
    · rw [show (merge policy proposals).speed = {} from he] at hon
      nomatch hon
    · refine ⟨p, s, hfirst, he, ?_⟩
      show Published limits reference proposals s
        (limits.filterSpeed reference (speed (ordered proposals)))
      rw [he]
      exact hfirst.published h reference

/-- A weak slow proposal beside a confident fast one: the axis is switched off. -/
def weakAndSlow : List Proposal :=
  [{ skill := "guess", rank := 1, speed := some ⟨10, "guess", Binary.zero true, 100⟩ },
    { skill := "sign", rank := 0, speed := some ⟨30, "sign", 1, 50⟩ }]

theorem enforce?_merge_speed_weakAndSlow : Limits.Usable {} ∧
    ∃ out, Limits.enforce? {} (merge {} weakAndSlow) (some 20) = some out ∧ out.speed = {} := by
  have h : Limits.Usable {} := ⟨by decide, by decide⟩
  obtain ⟨hiff, out, hout, hoff, hon⟩ := enforce?_merge_speed h {} weakAndSlow (some 20)
  refine ⟨h, out, hout, ?_⟩
  cases ha : (merge {} weakAndSlow).speed.active with
  | false => exact (hoff ha).2
  | true =>
    obtain ⟨p, s, -, he, hpub⟩ := hon ha
    apply hpub.gated
    have hs : (merge {} weakAndSlow).speed.confidence = Binary.zero true := by decide +kernel
    rw [he] at hs
    rw [show s.confidence = Binary.zero true from hs]
    decide

end Merge
end DriveAdvisory
