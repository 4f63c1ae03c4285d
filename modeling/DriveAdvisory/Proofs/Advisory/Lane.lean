/-
  Who gets the lane.

  A proposal bids for the lane if its confidence is a finite number that the policy does not find too low
  (`LaneBid`).  Of the bids only those count whose confidence equals the highest (`TopBid`): one zero equals the
  other, and no NaN is left to spoil a comparison.  They are not weighed against each other.  If they point two
  ways, the lane points nowhere and says why; if they point one way, the bid of the lowest rank speaks for all of
  them (`Arbitrated`).

  To work the lane out it is enough to look at whether all of them point where the FIRST of them points (`lane?`).
  That asks for a first one where there is a highest confidence.  There is one because a bid is finite, so that
  the highest confidence equals itself (`merge_lane_arbitrated`).
-/
import DriveAdvisory.Proofs.Advisory.Arrival

namespace DriveAdvisory.Merge

variable {policy : MergePolicy} {proposals : List Proposal} {p q : Proposal} {l m : LaneProposal}
  {top : Single}

/-! ## Who may win -/

theorem eligible_iff {confidence : Single} : eligible policy confidence = true ↔
    confidence.isFinite = true ∧ policy.minConfidence ≤ confidence := by
  rw [eligible, Bool.and_eq_true, decide_eq_true_iff]

/-- Some proposal may win the lane. -/
def LaneOffered (policy : MergePolicy) (proposals : List Proposal) : Prop :=
  ∃ p ∈ proposals, ∃ l, p.lane = some l ∧ l.confidence.isFinite = true ∧
    policy.minConfidence ≤ l.confidence

/-- `p` bids for the lane with `l`, which may win it. -/
structure LaneBid (policy : MergePolicy) (proposals : List Proposal) (p : Proposal)
    (l : LaneProposal) : Prop where
  mem : p ∈ proposals
  proposes : p.lane = some l
  finite : l.confidence.isFinite = true
  enough : policy.minConfidence ≤ l.confidence

theorem laneContender_eq_some_iff {b : Nat × LaneProposal} : laneContender policy p = some b ↔
    p.lane = some b.2 ∧ b.1 = p.rank ∧ eligible policy b.2.confidence = true :=
  contender_eq_some_iff fun a : LaneProposal => eligible policy a.confidence

/-- What contends for the lane is what bids for it. -/
theorem LaneBid.of_contender {b : Nat × LaneProposal} (hp : p ∈ proposals)
    (h : laneContender policy p = some b) : LaneBid policy proposals p b.2 := by
  obtain ⟨hlane, -, helig⟩ := laneContender_eq_some_iff.mp h
  obtain ⟨hfinite, henough⟩ := eligible_iff.mp helig
  exact ⟨hp, hlane, hfinite, henough⟩

theorem LaneBid.contender (h : LaneBid policy proposals p l) :
    laneContender policy p = some (p.rank, l) :=
  laneContender_eq_some_iff.mpr ⟨h.proposes, rfl, eligible_iff.mpr ⟨h.finite, h.enough⟩⟩

theorem LaneBid.offered (h : LaneBid policy proposals p l) : LaneOffered policy proposals :=
  ⟨p, h.mem, l, h.proposes, h.finite, h.enough⟩

theorem LaneOffered.exists_bid (h : LaneOffered policy proposals) :
    ∃ p l, LaneBid policy proposals p l := by
  obtain ⟨p, hp, l, hlane, hfinite, henough⟩ := h
  exact ⟨p, l, hp, hlane, hfinite, henough⟩

/-! ## The highest confidence -/

/-- `top` is the highest confidence that bids for the lane. -/
structure TopConfidence (policy : MergePolicy) (proposals : List Proposal) (top : Single) :
    Prop where
  reached : ∃ p l, LaneBid policy proposals p l ∧ l.confidence = top
  highest : ∀ p l, LaneBid policy proposals p l → l.confidence ≤ top
  /-- Of the two zeros it is the positive one, if somebody has that. -/
  last : ∀ p l, LaneBid policy proposals p l → l.confidence.totalCompare top ≠ .gt

/-- `p` bids for the lane with `l`, and with a confidence that equals `top`. -/
structure TopBid (policy : MergePolicy) (proposals : List Proposal) (top : Single) (p : Proposal)
    (l : LaneProposal) : Prop extends LaneBid policy proposals p l where
  ties : l.confidence.eqv top = true

/-- What the merge takes for the highest confidence is it. -/
theorem topConfidence_of_laneTop? (h : laneTop? policy proposals = some top) :
    TopConfidence policy proposals top := by
  rw [laneTop?, topConfidence?_eq, Order.least?_eq_some_iff, laneContenders_eq] at h
  have hkey : ∀ p l, LaneBid policy proposals p l → l.confidence.orderKey ≤ top.orderKey := by
    intro p l hbid
    have hcontends := List.mem_filterMap.mpr ⟨p, hbid.mem, hbid.contender⟩
    have hle : -top.orderKey ≤ -l.confidence.orderKey :=
      h.le (List.mem_map.mpr ⟨(p.rank, l), hcontends, rfl⟩)
    omega
  obtain ⟨b, hb, hconfidence⟩ := List.mem_map.mp h.mem
  obtain ⟨q, hq, hview⟩ := List.mem_filterMap.mp hb
  have hbid := LaneBid.of_contender hq hview
  refine ⟨⟨q, b.2, hbid, hconfidence⟩, ?_, ?_⟩
  · intro p l hp
    refine Binary.le_of_orderKey_le (Binary.not_isNaN_of_isFinite hp.finite) ?_ (hkey p l hp)
    rw [← hconfidence]
    exact Binary.not_isNaN_of_isFinite hbid.finite
  · intro p l hp
    exact Binary.totalCompare_ne_gt_iff.mpr (hkey p l hp)

theorem not_offered_of_no_top (h : laneTop? policy proposals = none) :
    ¬ LaneOffered policy proposals := by
  rw [laneTop?, topConfidence?_eq, Order.least?_eq_none_iff, List.map_eq_nil_iff, laneContenders_eq,
    List.filterMap_eq_nil_iff] at h
  intro hoffered
  obtain ⟨p, l, hbid⟩ := hoffered.exists_bid
  have hnone := h p hbid.mem
  rw [hbid.contender] at hnone
  exact Option.some_ne_none _ hnone

/-- There is only one highest confidence, bit for bit. -/
theorem TopConfidence.laneTop?_eq (h : TopConfidence policy proposals top) :
    laneTop? policy proposals = some top := by
  obtain ⟨p, l, hbid, hl⟩ := h.reached
  cases hfound : laneTop? policy proposals with
  | none => exact absurd hbid.offered (not_offered_of_no_top hfound)
  | some other =>
    have hother := topConfidence_of_laneTop? hfound
    obtain ⟨q, m, hbid', hm⟩ := hother.reached
    have hle := Binary.totalCompare_ne_gt_iff.mp (h.last q m hbid')
    have hge := Binary.totalCompare_ne_gt_iff.mp (hother.last p l hbid)
    rw [hm] at hle
    rw [hl] at hge
    rw [Binary.eq_of_orderKey (le_antisymm hle hge)]

/-! ## Those that tie for it -/

theorem tiedLane_eq_some_iff {b : Nat × LaneProposal} (hp : p ∈ proposals) :
    tiedLane policy top p = some b ↔ TopBid policy proposals top p b.2 ∧ b.1 = p.rank := by
  rw [tiedLane, Option.filter_eq_some_iff]
  constructor
  · rintro ⟨hcontends, hties⟩
    exact ⟨⟨LaneBid.of_contender hp hcontends, hties⟩, (laneContender_eq_some_iff.mp hcontends).2.1⟩
  · rintro ⟨hbid, hrank⟩
    refine ⟨?_, hbid.ties⟩
    rw [hbid.toLaneBid.contender, ← hrank]

/-- Somebody ties for the highest confidence: it is a number, and equals itself. -/
theorem TopConfidence.exists_topBid (h : TopConfidence policy proposals top) :
    ∃ p l, TopBid policy proposals top p l := by
  obtain ⟨p, l, hbid, rfl⟩ := h.reached
  exact ⟨p, l, hbid, Binary.eqv_self_iff.mpr (Binary.not_isNaN_of_isFinite hbid.finite)⟩

theorem agreed_iff : Agreed policy top proposals ↔
    ∀ p l q m, TopBid policy proposals top p l → TopBid policy proposals top q m →
      l.side = m.side := by
  constructor
  · intro h p l q m hp hq
    exact h q hq.mem (q.rank, m) ((tiedLane_eq_some_iff hq.mem).mpr ⟨hq, rfl⟩) p hp.mem (p.rank, l)
      ((tiedLane_eq_some_iff hp.mem).mpr ⟨hp, rfl⟩)
  · intro h p hp b hb q hq c hc
    exact h q c.2 p b.2 ((tiedLane_eq_some_iff hq).mp hc).1 ((tiedLane_eq_some_iff hp).mp hb).1

/-- Where those that tie agree, the lane is that of one of them, and none has a lower rank. -/
theorem TopConfidence.lane_of_agreed (h : TopConfidence policy proposals top)
    (hagreed : Agreed policy top proposals) :
    ∃ p l, TopBid policy proposals top p l ∧
      (∀ q m, TopBid policy proposals top q m → p.rank ≤ q.rank) ∧
      lane policy (ordered proposals) = l.axis := by
  rw [Merge.lane_of_agreed h.laneTop?_eq hagreed]
  cases hpick : pick (tiedLane policy top) Prod.fst proposals with
  | none =>
    obtain ⟨p, l, hbid⟩ := h.exists_topBid
    have hnone := pick_eq_none_iff.mp hpick p hbid.mem
    rw [(tiedLane_eq_some_iff (b := (p.rank, l)) hbid.mem).mpr ⟨hbid, rfl⟩] at hnone
    nomatch hnone
  | some b =>
    obtain ⟨p, hwins⟩ := winner_of_pick hpick
    obtain ⟨hbid, hrank⟩ := (tiedLane_eq_some_iff hwins.mem).mp hwins.contends
    refine ⟨p, b.2, hbid, ?_, rfl⟩
    intro q m hq
    have hle := hwins.first q hq.mem (q.rank, m) ((tiedLane_eq_some_iff hq.mem).mpr ⟨hq, rfl⟩)
    rw [← hrank]
    rcases Prod.Lex.toLex_le_toLex.mp hle with hlt | ⟨heq, -⟩
    · exact le_of_lt hlt
    · exact le_of_eq heq

/-! ## Arbitration -/

/-- What the lane owes the bids. -/
structure Arbitrated (policy : MergePolicy) (proposals : List Proposal) (axis : LaneAxis) :
    Prop where
  /-- Where nobody bids, the axis is off. -/
  nobody : (∀ p l, ¬ LaneBid policy proposals p l) → axis = {}
  /-- Where somebody does, there is a highest confidence, and only one. -/
  decided : ∀ p l, LaneBid policy proposals p l → ∃! top, TopConfidence policy proposals top
  /-- Bids of the highest confidence that point two ways make a dispute, whatever else is bid. -/
  dispute : ∀ top, TopConfidence policy proposals top → ∀ p l q m,
    TopBid policy proposals top p l → TopBid policy proposals top q m → l.side ≠ m.side →
    axis = { active := true, side := .none, reason := conflictReason, confidence := top }
  /-- If they point one way, the lowest rank speaks for them. -/
  agreement : ∀ top, TopConfidence policy proposals top →
    (∀ p l q m, TopBid policy proposals top p l → TopBid policy proposals top q m →
      l.side = m.side) →
    axis.active = true ∧ (∀ p l, TopBid policy proposals top p l → axis.side = l.side) ∧
    ∃ p l, TopBid policy proposals top p l ∧
      (∀ q m, TopBid policy proposals top q m → p.rank ≤ q.rank) ∧
      axis.reason = l.reason ∧ axis.confidence = l.confidence

theorem arbitrated_lane (policy : MergePolicy) (proposals : List Proposal) :
    Arbitrated policy proposals (lane policy (ordered proposals)) where
  nobody hnobody := by
    cases htop : laneTop? policy proposals with
    | none => exact lane_of_no_top htop
    | some top =>
      obtain ⟨p, l, hbid, -⟩ := (topConfidence_of_laneTop? htop).reached
      exact absurd hbid (hnobody p l)
  decided p l hbid := by
    cases htop : laneTop? policy proposals with
    | none => exact absurd hbid.offered (not_offered_of_no_top htop)
    | some top =>
      refine ⟨top, topConfidence_of_laneTop? htop, ?_⟩
      intro other hother
      exact Option.some.inj (hother.laneTop?_eq.symm.trans htop)
  dispute top htop p l q m hp hq hne := by
    refine lane_of_disputed htop.laneTop?_eq ?_
    intro hagreed
    exact hne (agreed_iff.mp hagreed p l q m hp hq)
  agreement top htop hsides := by
    obtain ⟨p, l, hbid, hrank, hlane⟩ := htop.lane_of_agreed (agreed_iff.mpr hsides)
    rw [hlane]
    refine ⟨rfl, ?_, p, l, hbid, hrank, rfl, rfl⟩
    intro q m hq
    exact hsides p l q m hbid hq

/-! ## Working it out -/

/-- The lane by the first of those that tie for it.  It has no value where nobody ties for a highest
    confidence. -/
def lane? (policy : MergePolicy) (proposals : List Proposal) : Option LaneAxis :=
  let contenders := laneContenders policy proposals
  match topConfidence? contenders with
  | none => some {}
  | some top =>
    let tied := contenders.filter (·.2.confidence.eqv top)
    match tied.head? with
    | none => none
    | some first =>
      if tied.any (·.2.side != first.2.side) then some (disputed top)
      else some ((Order.least? (fun a b => decide (a.1 < b.1)) tied).elim {} (·.2.axis))

/-- Whether all point where the first one points does not depend on which is the first. -/
theorem all_side_of_mem {tied : List (Nat × LaneProposal)} {a b : Nat × LaneProposal}
    (ha : a ∈ tied) (hb : b ∈ tied) :
    tied.any (·.2.side != a.2.side) = !tied.all (·.2.side == b.2.side) := by
  rw [Bool.eq_iff_iff, List.any_eq_true, Bool.not_eq_true', List.all_eq_false]
  constructor
  · rintro ⟨c, hc, hne⟩
    by_cases hcb : c.2.side = b.2.side
    · refine ⟨a, ha, ?_⟩
      rw [beq_iff_eq, ← hcb]
      exact fun h => (bne_iff_ne.mp hne) h.symm
    · exact ⟨c, hc, by rwa [beq_iff_eq]⟩
  · rintro ⟨c, hc, hne⟩
    rw [beq_iff_eq] at hne
    by_cases hca : c.2.side = a.2.side
    · refine ⟨b, hb, bne_iff_ne.mpr ?_⟩
      rw [← hca]
      exact Ne.symm hne
    · exact ⟨c, hc, bne_iff_ne.mpr hca⟩

/-- Working the lane out never fails, and comes to the same. -/
theorem lane?_eq (policy : MergePolicy) (proposals : List Proposal) :
    lane? policy proposals = some (lane policy proposals) := by
  simp only [lane?, lane]
  cases htop : topConfidence? (laneContenders policy proposals) with
  | none => rfl
  | some top =>
    obtain ⟨p, l, hbid⟩ := (topConfidence_of_laneTop? htop).exists_topBid
    have hmem : (p.rank, l) ∈ (laneContenders policy proposals).filter (·.2.confidence.eqv top) := by
      rw [List.mem_filter, laneContenders_eq, List.mem_filterMap]
      exact ⟨⟨p, hbid.mem, hbid.toLaneBid.contender⟩, hbid.ties⟩
    dsimp only
    generalize (laneContenders policy proposals).filter (·.2.confidence.eqv top) = tied at hmem
    cases tied with
    | nil => nomatch hmem
    | cons first rest =>
      cases hleast : Order.least? (fun a b => decide (a.1 < b.1)) (first :: rest) with
      | none => nomatch Order.least?_eq_none_iff.mp hleast
      | some winner =>
        have hwins : Order.IsFirstLeast Prod.fst (first :: rest) winner :=
          Order.least?_eq_some_iff.mp hleast
        have hsides : (first :: rest).any (·.2.side != first.2.side) =
            !(first :: rest).all (·.2.side == winner.2.side) :=
          all_side_of_mem List.mem_cons_self hwins.mem
        simp only [List.head?_cons, hsides]
        cases (first :: rest).all (·.2.side == winner.2.side) with
        | true => rfl
        | false => rfl

/-- **The lane is arbitrated**, and there is always somebody to look at. -/
theorem merge_lane_arbitrated (policy : MergePolicy) (proposals : List Proposal) :
    lane? policy (ordered proposals) = some (merge policy proposals).lane ∧
      Arbitrated policy proposals (merge policy proposals).lane :=
  ⟨lane?_eq policy (ordered proposals), arbitrated_lane policy proposals⟩

end DriveAdvisory.Merge
