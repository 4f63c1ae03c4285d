/-
  Who gets the alert.

  A proposal bids for the alert if its confidence is a finite number that the policy does not find too low
  (`AlertBid`).  One bid beats another by its tier, then by its confidence, then by its rank, then by its text
  (`Beats`, one constructor for each).  The text that is compared is the whole one: it is cut to the display after
  the choice, so two texts that look alike there are still told apart.

  Nothing of an alert is left out of that comparison.  Bids that do not beat each other therefore show the same,
  though there may be several of them, and it does not matter which of them is taken
  (`AlertArbitrated.shown`).  That the order of arrival does not matter, and that one more proposal cannot lower
  the tier, are consequences.

  Confidences are compared as numbers, but for one thing: of the two zeros the positive one counts as the higher
  (`Higher`).  Without that they would leave the sign of a zero to the order of arrival.
-/
import DriveAdvisory.Proofs.Advisory.Lane
import DriveAdvisory.Proofs.Advisory.Shadow

namespace DriveAdvisory.Merge

variable {policy : MergePolicy} {proposals others : List Proposal} {p q : Proposal}
  {a b : AlertProposal}

/-! ## Higher confidences -/

/-- The greater of two numbers is the higher one, and of the two zeros the positive one. -/
def Higher (x y : Single) : Prop := y < x ∨ y = Binary.zero true ∧ x = Binary.zero false

/-- Of numbers the higher one is further up in the total order. -/
theorem higher_iff {x y : Single} (hx : x.isNaN = false) (hy : y.isNaN = false) :
    Higher x y ↔ y.orderKey < x.orderKey := by
  constructor
  · rintro (hlt | ⟨rfl, rfl⟩)
    · by_contra hge
      exact (Binary.not_lt hy hx).mpr (Binary.le_of_orderKey_le hx hy (not_lt.mp hge)) hlt
    · decide
  · intro hlt
    by_cases h : y < x
    · exact .inl h
    · -- then they are equal, and yet not the same
      have hle := (Binary.not_lt hy hx).mp h
      have hge := Binary.le_of_orderKey_le hy hx (le_of_lt hlt)
      have hne : x ≠ y := by
        rintro rfl
        exact lt_irrefl _ hlt
      exact .inr (zeros_of_eqv (Binary.eqv_iff.mpr ⟨hle, hge⟩) (le_of_lt hlt) hne)

/-! ## Bids -/

/-- `p` bids for the alert with `a`, which may win it. -/
structure AlertBid (policy : MergePolicy) (proposals : List Proposal) (p : Proposal)
    (a : AlertProposal) : Prop where
  mem : p ∈ proposals
  proposes : p.alert = some a
  finite : a.confidence.isFinite = true
  enough : policy.minConfidence ≤ a.confidence

theorem alertContender_eq_some_iff {b : Nat × AlertProposal} : alertContender policy p = some b ↔
    p.alert = some b.2 ∧ b.1 = p.rank ∧ eligible policy b.2.confidence = true :=
  contender_eq_some_iff fun a : AlertProposal => eligible policy a.confidence

/-- What contends for the alert is what bids for it, with its rank. -/
theorem AlertBid.of_contender {b : Nat × AlertProposal} (hp : p ∈ proposals)
    (h : alertContender policy p = some b) : ∃ a, b = (p.rank, a) ∧ AlertBid policy proposals p a := by
  obtain ⟨halert, hrank, helig⟩ := alertContender_eq_some_iff.mp h
  obtain ⟨hfinite, henough⟩ := eligible_iff.mp helig
  exact ⟨b.2, by rw [← hrank], hp, halert, hfinite, henough⟩

theorem AlertBid.contender (h : AlertBid policy proposals p a) :
    alertContender policy p = some (p.rank, a) :=
  alertContender_eq_some_iff.mpr ⟨h.proposes, rfl, eligible_iff.mpr ⟨h.finite, h.enough⟩⟩

theorem AlertBid.of_subset (hsubset : ∀ p ∈ proposals, p ∈ others)
    (h : AlertBid policy proposals p a) : AlertBid policy others p a :=
  { h with mem := hsubset p h.mem }

/-! ## What beats a bid -/

/-- Why one of two ranked bids beats the other. -/
inductive Beats (a b : Nat × AlertProposal) : Prop
  /-- It is more serious. -/
  | tier (h : b.2.tier.level < a.2.tier.level)
  /-- As serious, and more certain. -/
  | confidence (htier : a.2.tier = b.2.tier) (h : Higher a.2.confidence b.2.confidence)
  /-- As serious and as certain, and of a lower rank. -/
  | rank (htier : a.2.tier = b.2.tier) (hconfidence : a.2.confidence = b.2.confidence)
    (h : a.1 < b.1)
  /-- Alike in all of these, and its text is the lesser one. -/
  | text (htier : a.2.tier = b.2.tier) (hconfidence : a.2.confidence = b.2.confidence)
    (hrank : a.1 = b.1) (h : a.2.text < b.2.text)

theorem level_lt_iff {s t : Tier} : -(s.level : Int) < -(t.level : Int) ↔ t.level < s.level := by
  omega

theorem level_eq_iff {s t : Tier} : -(s.level : Int) = -(t.level : Int) ↔ s = t := by
  constructor
  · intro h
    exact level_inj (by omega)
  · rintro rfl
    rfl

/-- Beating is having the lesser key. -/
theorem beats_iff {a b : Nat × AlertProposal} (ha : a.2.confidence.isFinite = true)
    (hb : b.2.confidence.isFinite = true) : Beats a b ↔ alertKey a < alertKey b := by
  have hhigher := higher_iff (Binary.not_isNaN_of_isFinite ha) (Binary.not_isNaN_of_isFinite hb)
  rw [alertKey, alertKey, key_lt_iff, level_lt_iff, level_eq_iff, ← hhigher]
  constructor
  · rintro (h | ⟨htier, h⟩ | ⟨htier, hconfidence, h⟩ | ⟨htier, hconfidence, hrank, h⟩)
    · exact .inl (.inl h)
    · exact .inl (.inr ⟨htier, h⟩)
    · exact .inr ⟨⟨htier, congrArg _ hconfidence⟩, .inl h⟩
    · exact .inr ⟨⟨htier, congrArg _ hconfidence⟩, .inr ⟨hrank, h⟩⟩
  · rintro ((h | ⟨htier, h⟩) | ⟨⟨htier, hconfidence⟩, h | ⟨hrank, h⟩⟩)
    · exact .tier h
    · exact .confidence htier h
    · exact .rank htier (Binary.eq_of_orderKey hconfidence) h
    · exact .text htier (Binary.eq_of_orderKey hconfidence) hrank h

/-- A bid that no other bid beats. -/
structure Unbeaten (policy : MergePolicy) (proposals : List Proposal) (p : Proposal)
    (a : AlertProposal) : Prop extends AlertBid policy proposals p a where
  unbeaten : ∀ q b, AlertBid policy proposals q b → ¬ Beats (q.rank, b) (p.rank, a)

theorem Unbeaten.key_le (h : Unbeaten policy proposals p a) (hb : AlertBid policy proposals q b) :
    alertKey (p.rank, a) ≤ alertKey (q.rank, b) := by
  rw [← not_lt, ← beats_iff hb.finite h.finite]
  exact h.unbeaten q b hb

/-- An unbeaten bid is as serious as any, and of those as certain as any. -/
theorem Unbeaten.level_le (h : Unbeaten policy proposals p a) (hb : AlertBid policy proposals q b) :
    b.tier.level ≤ a.tier.level := by
  by_contra hlt
  exact h.unbeaten q b hb (.tier (not_le.mp hlt))

theorem Unbeaten.confidence_le (h : Unbeaten policy proposals p a)
    (hb : AlertBid policy proposals q b) (htier : b.tier = a.tier) :
    b.confidence ≤ a.confidence := by
  rw [← Binary.not_lt (Binary.not_isNaN_of_isFinite h.finite) (Binary.not_isNaN_of_isFinite hb.finite)]
  intro hlt
  exact h.unbeaten q b hb (.confidence htier (.inl hlt))

/-- Unbeaten bids are alike in all that an alert shows, and more. -/
theorem Unbeaten.eq (h : Unbeaten policy proposals p a) (hb : Unbeaten policy proposals q b) :
    a = b := by
  have hkey := le_antisymm (h.key_le hb.toAlertBid) (hb.key_le h.toAlertBid)
  obtain ⟨⟨htier, hconfidence⟩, -, htext⟩ := key_inj.mp hkey
  have htier' := level_eq_iff.mp htier
  have hconfidence' := Binary.eq_of_orderKey hconfidence
  obtain ⟨atext, atier, aconfidence⟩ := a
  obtain ⟨btext, btier, bconfidence⟩ := b
  subst htext htier' hconfidence'
  rfl

/-! ## Arbitration -/

/-- The merged alert is off where nobody bids, and else shows an unbeaten bid. -/
theorem alert_unbeaten (policy : MergePolicy) (proposals : List Proposal) :
    (alert policy (ordered proposals) = {} ∧ ∀ p a, ¬ AlertBid policy proposals p a) ∨
    ∃ p a, Unbeaten policy proposals p a ∧ alert policy (ordered proposals) = shownAlert policy a := by
  rw [alert_ordered_eq]
  cases hpick : pick (alertContender policy) alertKey proposals with
  | none =>
    left
    refine ⟨rfl, ?_⟩
    intro p a hbid
    have hnone := pick_eq_none_iff.mp hpick p hbid.mem
    rw [hbid.contender] at hnone
    nomatch hnone
  | some b =>
    right
    obtain ⟨p, hwins⟩ := winner_of_pick hpick
    obtain ⟨a, rfl, hbid⟩ := AlertBid.of_contender hwins.mem hwins.contends
    refine ⟨p, a, ⟨hbid, ?_⟩, rfl⟩
    intro q c hc hbeats
    have hlt : alertKey (q.rank, c) < alertKey (p.rank, a) :=
      (beats_iff hc.finite hbid.finite).mp hbeats
    -- the arrival is looked at only where the keys are equal
    rcases Prod.Lex.toLex_le_toLex.mp (hwins.first q hc.mem _ hc.contender) with hgt | ⟨heq, -⟩
    · exact lt_asymm hlt hgt
    · exact ne_of_gt hlt heq

/-- What the alert owes the bids. -/
structure AlertArbitrated (policy : MergePolicy) (proposals : List Proposal) (axis : AlertAxis) :
    Prop where
  /-- The axis is on exactly where somebody bids. -/
  active_iff : axis.active = true ↔ ∃ p a, AlertBid policy proposals p a
  /-- Where it is off, nothing of an alert shows. -/
  off : axis.active = false → axis = {}
  /-- Where somebody bids, somebody is unbeaten. -/
  decided : ∀ p a, AlertBid policy proposals p a → ∃ q b, Unbeaten policy proposals q b
  /-- Whoever is unbeaten has the axis, with the first characters of the text, as many as the policy allows. -/
  shown : ∀ p a, Unbeaten policy proposals p a → axis.active = true ∧ axis.tier = a.tier ∧
    axis.confidence = a.confidence ∧
      axis.text = String.ofList (a.text.toList.take policy.alertLimit)
  /-- No bid is more serious than what is shown. -/
  level_le : ∀ p a, AlertBid policy proposals p a → a.tier.level ≤ axis.tier.level
  /-- And none that is as serious has a greater confidence. -/
  confidence_le : ∀ p a, AlertBid policy proposals p a → a.tier = axis.tier →
    a.confidence ≤ axis.confidence

theorem arbitrated_alert (policy : MergePolicy) (proposals : List Proposal) :
    AlertArbitrated policy proposals (alert policy (ordered proposals)) := by
  rcases alert_unbeaten policy proposals with ⟨hoff, hnobody⟩ | ⟨p, a, hwins, hshown⟩
  · rw [hoff]
    exact {
      active_iff := ⟨nofun, fun ⟨p, a, hbid⟩ => absurd hbid (hnobody p a)⟩
      off := fun _ => rfl
      decided := fun p a hbid => absurd hbid (hnobody p a)
      shown := fun p a h => absurd h.toAlertBid (hnobody p a)
      level_le := fun p a hbid => absurd hbid (hnobody p a)
      confidence_le := fun p a hbid => absurd hbid (hnobody p a) }
  · rw [hshown]
    exact {
      active_iff := ⟨fun _ => ⟨p, a, hwins.toAlertBid⟩, fun _ => rfl⟩
      off := nofun
      decided := fun _ _ _ => ⟨p, a, hwins⟩
      shown := by
        intro q b hb
        obtain rfl := hwins.eq hb
        exact ⟨rfl, rfl, rfl, rfl⟩
      level_le := fun _ _ hbid => hwins.level_le hbid
      confidence_le := fun _ _ hbid htier => hwins.confidence_le hbid htier }

/-- More proposals do not make an alert less serious. -/
theorem alert_mono (policy : MergePolicy) (hsubset : ∀ p ∈ proposals, p ∈ others) :
    ((alert policy (ordered proposals)).active = true →
      (alert policy (ordered others)).active = true) ∧
    (alert policy (ordered proposals)).tier.level ≤ (alert policy (ordered others)).tier.level := by
  have hfew := arbitrated_alert policy proposals
  have hmany := arbitrated_alert policy others
  constructor
  · intro hactive
    obtain ⟨p, a, hbid⟩ := hfew.active_iff.mp hactive
    exact hmany.active_iff.mpr ⟨p, a, hbid.of_subset hsubset⟩
  · rcases alert_unbeaten policy proposals with ⟨hoff, -⟩ | ⟨p, a, hwins, hshown⟩
    · rw [hoff]
      exact Nat.zero_le _
    · rw [hshown]
      exact hmany.level_le p a (hwins.toAlertBid.of_subset hsubset)

/-- **The alert is arbitrated.**  Hence it does not depend on the order of the proposals, and one more of them
    cannot lower it. -/
theorem merge_alert_arbitrated (policy : MergePolicy) (proposals : List Proposal) :
    AlertArbitrated policy proposals (merge policy proposals).alert ∧
      (∀ others : List Proposal, others.Perm proposals →
        (merge policy others).alert = (merge policy proposals).alert) ∧
      ∀ others : List Proposal, (∀ p ∈ proposals, p ∈ others) →
        ((merge policy proposals).alert.active = true → (merge policy others).alert.active = true) ∧
        (merge policy proposals).alert.tier.level ≤ (merge policy others).alert.tier.level :=
  ⟨arbitrated_alert policy proposals, fun _ => alert_perm policy, fun _ => alert_mono policy⟩

end DriveAdvisory.Merge
