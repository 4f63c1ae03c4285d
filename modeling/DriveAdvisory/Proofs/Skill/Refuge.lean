/-
  Where to go when no destination is given.

  The plan takes the first of the shelters around the vehicle, and these are whatever the hub gives out: an answer
  that came just now, one that is kept, or one that is out of date.  All of them are answers of the two layers
  (`vouched_after`), and those have the nearest shelter first.  So it does not matter which one it is: the shelter
  is a nearest one of the answer that it is taken from.

  A hub changes by `Deed`s only, and all but one of them have nothing to do with shelters.
-/
import DriveAdvisory.Proofs.Source.Hub
import DriveAdvisory.Proofs.Source.Shelters
import DriveAdvisory.Skill.Evacuation

namespace DriveAdvisory

namespace Hub

variable {sources : Sources} {hub : Hub}

/-! ## What happens on a hub -/

/-- What can be done with a hub. -/
inductive Deed
  /-- Time passes. -/
  | clock (now : Duration)
  /-- Somebody makes a request of his own. -/
  | exchange (limit : Duration) (r : Request)
  /-- The traffic feed is visited; each of the others has a deed of its own. -/
  | events
  | alerts (p : Point)
  | zone (p : Point)
  | shelters (p : Point) (radiusMiles : Double)
  | routes (p : Point) (radiusMiles : Double)
  | drive (origin destination : Point)
  | reach

/-- What becomes of the hub. -/
def done (sources : Sources) (hub : Hub) : Deed → Hub
  | .clock now => { hub with now }
  | .exchange limit r => (exchange sources limit r hub).2
  | .events => (findEvents sources hub).2
  | .alerts p => (findAlerts sources p hub).2
  | .zone p => (findZone sources p hub).2
  | .shelters p radiusMiles => (findShelters sources p radiusMiles hub).2
  | .routes p radiusMiles => (findRoutes sources p radiusMiles hub).2
  | .drive origin destination => (findDrive sources origin destination hub).2
  | .reach => (findReach sources hub).2

/-- The hub after all that was done with it since it was made. -/
def after (sources : Sources) (deeds : List Deed) : Hub :=
  deeds.foldl (done sources) (.ofPolicies sources.policies)

/-- The two layers gave this answer for the cell, some time or other. -/
def Returned (sources : Sources) (cell : Cell) (shelters : List Shelter) : Prop :=
  ∃ before, (askShelters sources cell before).1.result = .ok shelters

/-- The first shelter of an answer is a nearest one of it. -/
theorem Returned.head_nearest {cell : Cell} {shelters : List Shelter} {s : Shelter}
    (h : Returned sources cell shelters) (hhead : shelters.head? = some s) :
    ∀ other ∈ shelters, s.distance ≤ other.distance := by
  obtain ⟨before, hresult⟩ := h
  have hlayers := combined sources cell before
  obtain ⟨opened, planned, -, -, hfirst⟩ := hlayers.finds shelters hresult
  have hnumber := (hlayers.reached shelters hresult s (List.mem_of_head? hhead)).isNumber
  exact Shelter.head_nearest hfirst.nearest hnumber hhead

theorem asks_askShelters (sources : Sources) (cell : Cell) : Asks (askShelters sources cell) := by
  intro hub
  by_cases hscarce : Scarce sources cell hub
  · exact ⟨_, (combined sources cell hub).asks hscarce⟩
  · exact ⟨_, (combined sources cell hub).spares hscarce⟩

/-- **A visit for shelters** gives out an answer of the layers, and keeps nothing else. -/
theorem findShelters_vouched (h : hub.shelters.Vouched (Returned sources)) (p : Point)
    (radiusMiles : Double) :
    (∀ shelters, (findShelters sources p radiusMiles hub).1.payload? = some shelters →
      Returned sources (areaCell p radiusMiles) shelters) ∧
    (findShelters sources p radiusMiles hub).2.shelters.Vouched (Returned sources) := by
  have hplace : Place Hub.shelters fun c hub => { hub with shelters := c } :=
    ⟨fun _ _ => rfl, fun _ _ => rfl, fun _ _ => rfl, fun _ _ => rfl⟩
  obtain ⟨before, hgot, hclient⟩ := visit_fetch hplace
    (asks_askShelters sources (areaCell p radiusMiles)) sources.policies.shelters
    (areaCell p radiusMiles) hub
  rw [findShelters, hgot, hclient]
  exact h.fetch _ _ _ fun shelters hresult => ⟨before, hresult⟩

/-- One deed leaves answers of the layers. -/
theorem vouched_done (h : hub.shelters.Vouched (Returned sources)) (deed : Deed) :
    (done sources hub deed).shelters.Vouched (Returned sources) := by
  have hleaves {κ π : Type} [DecidableEq κ] {policy : SourcePolicy} {client : Hub → Client κ π}
      {store : Client κ π → Hub → Hub} {key : κ} {query : StateM Hub (Answer π)}
      (hstore : ∀ c hub, (store c hub).shelters = hub.shelters) (hquery : Asks query) :
      (visit policy client store key query hub).2.shelters.Vouched (Returned sources) := by
    rw [visit_leaves hstore (fun _ _ => rfl) (fun _ _ => rfl) hquery]
    exact h
  cases deed with
  | clock now => exact h
  | exchange limit r => exact h
  | events =>
    refine hleaves (fun _ _ => rfl) ?_
    cases sources.endpoints.trafficKey with
    | none => exact asks_pure _
    | some key => exact asks_ask _ _ _
  | alerts p => exact hleaves (fun _ _ => rfl) (asks_ask _ _ _)
  | zone p => exact hleaves (fun _ _ => rfl) (asks_ask _ _ _)
  | shelters p radiusMiles => exact (findShelters_vouched h p radiusMiles).2
  | routes p radiusMiles => exact hleaves (fun _ _ => rfl) (asks_ask _ _ _)
  | drive origin destination => exact hleaves (fun _ _ => rfl) (asks_ask _ _ _)
  | reach => exact hleaves (fun _ _ => rfl) (asks_askProbe _)

/-- So do any number of them. -/
theorem vouched_after (sources : Sources) (deeds : List Deed) :
    (after sources deeds).shelters.Vouched (Returned sources) := by
  induction deeds using List.reverseRecOn with
  | nil => exact Client.vouched_ofPolicy _
  | append_singleton deeds deed ih =>
    rw [after, List.foldl_append]
    exact vouched_done ih deed

end Hub

/-! ## Plans -/

namespace Evacuation

open Hub (Combined Deed Returned)

/-- A plan without a destination leads to the first shelter that is given out. -/
theorem planRoute_eq {sources : Sources} {a : EvacuationArguments} {origin : Point} {hub : Hub}
    {near : Fetched (List Shelter) × Hub} (hnowhere : a.destination? = none)
    (hnear : Hub.findShelters sources origin 50 hub = near) (motion : Motion) :
    planRoute sources a origin motion hub =
      match (near.1.payload?.getD []).head? with
      | some s => planTo sources origin s.location (some s) motion near.2
      | none => (nowhere, near.2) := by
  unfold planRoute
  rw [hnowhere]
  dsimp only [bind, StateT.bind, sheltersNear, pure, StateT.pure]
  rw [hnear]
  obtain ⟨got, _⟩ := near
  dsimp only
  cases (got.payload?.getD []).head? with
  | none => rfl
  | some s => rfl

/-- What is promised to somebody who looks for shelter. -/
structure Sheltering (sources : Sources) : Prop where
  /-- The two layers of a cell are put together. -/
  combined : ∀ cell hub, Combined sources cell hub
  /-- A plan without a destination leads to a nearest one of the shelters that the layers returned, and nowhere only
      if there are none. -/
  chosen : ∀ deeds (a : EvacuationArguments) origin motion, a.destination? = none →
    let hub := Hub.after sources deeds
    let near := Hub.findShelters sources origin 50 hub
    (near.1.payload?.getD [] = [] ∧ planRoute sources a origin motion hub = (nowhere, near.2)) ∨
    ∃ returned s, near.1.payload? = some returned ∧ Returned sources (Hub.areaCell origin 50) returned ∧
      s ∈ returned ∧ (∀ other ∈ returned, s.distance ≤ other.distance) ∧
      planRoute sources a origin motion hub =
        planTo sources origin s.location (some s) motion near.2

/-- **Looking for shelter**, with any sources and whatever happened before. -/
theorem sheltering (sources : Sources) : Sheltering sources where
  combined := Hub.combined sources
  chosen deeds a origin motion hnowhere := by
    intro hub near
    have hplan := planRoute_eq hnowhere (rfl : Hub.findShelters sources origin 50 hub = near) motion
    cases hhead : (near.1.payload?.getD []).head? with
    | none =>
      left
      rw [hplan, hhead]
      exact ⟨List.head?_eq_none_iff.mp hhead, rfl⟩
    | some s =>
      right
      -- there is a first shelter, so something was given out
      obtain ⟨returned, hgot⟩ : ∃ returned, near.1.payload? = some returned := by
        cases hgot : near.1.payload? with
        | none =>
          rw [hgot] at hhead
          nomatch hhead
        | some returned => exact ⟨returned, rfl⟩
      rw [hgot, Option.getD_some] at hhead
      have hreturned : Returned sources (Hub.areaCell origin 50) returned :=
        (Hub.findShelters_vouched (Hub.vouched_after sources deeds) origin 50).1 returned hgot
      refine ⟨returned, s, hgot, hreturned, List.mem_of_head? hhead, hreturned.head_nearest hhead, ?_⟩
      rw [hplan, hgot, Option.getD_some, hhead]

end Evacuation

end DriveAdvisory
