/-
  Asking for shelters: the open layer first, and the inventory where that is not enough.

  Two requests go out at most, and the second one goes out after the first, so what comes back from it may depend
  on the first one too.  Everything else is a matter of the two replies: `Scarce` says when the second one is asked
  for, and `Combined` what the two of them come to, for every transport and every globe.

  * a layer that cannot be reached, refuses, takes too long or sends what cannot be read tells of nothing;
  * a layer whose rows all lie too far away tells of no shelters, which is something else.  Nothing has failed
    then, and the answer may be an empty one.
-/
import DriveAdvisory.Proofs.Feed.Shelters
import DriveAdvisory.Source.Hub

namespace DriveAdvisory.Hub

open Shelter (Told Adds InReach NearestFirst)

variable {sources : Sources} {cell : Cell} {hub : Hub}

/-! ## Two requests -/

/-- The request for a layer as it is sent. -/
def layerRequest (sources : Sources) (cell : Cell) (layer : ShelterLayer) : Request :=
  let r := shelterRequest sources.endpoints cell layer
  { r with headers := ("user-agent", agentName) :: r.headers }

/-- What comes back from a layer after the given requests. -/
def reply (sources : Sources) (cell : Cell) (before : List Request) (layer : ShelterLayer) :
    Except SourceFault Json :=
  ((sources.transport before (layerRequest sources cell layer)).within responseLimit).document

/-- What comes back from the open layer. -/
def openReply (sources : Sources) (cell : Cell) (hub : Hub) : Except SourceFault Json :=
  reply sources cell hub.requests .active

/-- What comes back from the inventory, which is asked after the open layer. -/
def plannedReply (sources : Sources) (cell : Cell) (hub : Hub) : Except SourceFault Json :=
  reply sources cell (layerRequest sources cell .active :: hub.requests) .inventory

/-- The open layer tells of fewer than five shelters, or of none because it failed. -/
def Scarce (sources : Sources) (cell : Cell) (hub : Hub) : Prop :=
  ∀ found, Told sources.globe cell (openReply sources cell hub) .active found → found.length < 5

/-- What the two layers come to. -/
structure Combined (sources : Sources) (cell : Cell) (hub : Hub) : Prop where
  /-- Where open shelters are scarce the inventory is asked too, and nothing else happens. -/
  asks : Scarce sources cell hub → (askShelters sources cell hub).2 =
    { hub with requests := layerRequest sources cell .inventory :: layerRequest sources cell .active ::
        hub.requests }
  /-- Elsewhere it is spared. -/
  spares : ¬ Scarce sources cell hub → (askShelters sources cell hub).2 =
    { hub with requests := layerRequest sources cell .active :: hub.requests }
  /-- Asking fails if both layers do. -/
  fails : (∃ fault, (askShelters sources cell hub).1.result = .error fault) ↔
    (∀ found, ¬ Told sources.globe cell (openReply sources cell hub) .active found) ∧
    (∀ found, ¬ Told sources.globe cell (plannedReply sources cell hub) .inventory found)
  /-- Else all that the layers tell comes back, the nearest first, and open shelters first among equally near ones. -/
  finds : ∀ shelters, (askShelters sources cell hub).1.result = .ok shelters → ∃ opened planned,
    Adds True (Told sources.globe cell (openReply sources cell hub) .active) opened ∧
    Adds (Scarce sources cell hub) (Told sources.globe cell (plannedReply sources cell hub) .inventory)
      planned ∧
    NearestFirst (opened ++ planned) shelters
  /-- And it lies where it is said to lie. -/
  reached : ∀ shelters, (askShelters sources cell hub).1.result = .ok shelters → ∀ s ∈ shelters,
    InReach sources.globe cell.point (milesToMetres cell.radiusMiles) s

/-! ## What is heard -/

/-- What a layer says, as far as it can be understood. -/
def heard (sources : Sources) (cell : Cell) (layer : ShelterLayer) (reply : Except SourceFault Json) :
    Except SourceFault (List Shelter) :=
  reply.bind (Shelter.ofBody sources.globe layer cell.point cell.radiusMiles)

theorem told_iff_heard {layer : ShelterLayer} {reply : Except SourceFault Json} {found : List Shelter} :
    Told sources.globe cell reply layer found ↔ heard sources cell layer reply = .ok found :=
  Shelter.told_iff

/-- A layer that tells of no shelters, not even that there are none, has failed. -/
theorem silent_iff {layer : ShelterLayer} {reply : Except SourceFault Json} :
    (∀ found, ¬ Told sources.globe cell reply layer found) ↔
      ∃ fault, heard sources cell layer reply = .error fault := by
  simp only [told_iff_heard]
  cases heard sources cell layer reply with
  | error fault => exact ⟨fun _ => ⟨fault, rfl⟩, fun _ => nofun⟩
  | ok found => exact ⟨fun h => absurd rfl (h found), nofun⟩

theorem adds_heard (sources : Sources) (cell : Cell) (layer : ShelterLayer)
    (reply : Except SourceFault Json) {asked : Prop} (hasked : asked) :
    Adds asked (Told sources.globe cell reply layer) (Shelter.findings (heard sources cell layer reply)) :=
  Shelter.adds_findings (fun _ => told_iff_heard) hasked

theorem inReach_of_adds {asked : Prop} {layer : ShelterLayer} {reply : Except SourceFault Json}
    {found : List Shelter} (h : Adds asked (Told sources.globe cell reply layer) found) :
    ∀ s ∈ found, InReach sources.globe cell.point (milesToMetres cell.radiusMiles) s :=
  h.forall_mem fun _ => Told.inReach

theorem scarce_iff : Scarce sources cell hub ↔
    Shelter.needsInventory (heard sources cell .active (openReply sources cell hub)) = true := by
  unfold Scarce
  simp only [told_iff_heard]
  cases heard sources cell .active (openReply sources cell hub) with
  | error fault => exact ⟨fun _ => rfl, fun _ _ => nofun⟩
  | ok found =>
    constructor
    · exact fun h => decide_eq_true (h found rfl)
    · intro h found' hfound
      rw [← Except.ok.inj hfound]
      exact of_decide_eq_true h

/-! ## Asking -/

/-- Where open shelters are scarce, both layers are asked. -/
theorem askShelters_of_scarce (h : Scarce sources cell hub) :
    (askShelters sources cell hub).1.result =
      Shelter.combine (heard sources cell .active (openReply sources cell hub))
        (some (heard sources cell .inventory (plannedReply sources cell hub))) ∧
    (askShelters sources cell hub).2 = { hub with
      requests := layerRequest sources cell .inventory :: layerRequest sources cell .active ::
        hub.requests } := by
  have hask : askShelters sources cell hub =
      (if Shelter.needsInventory (heard sources cell .active (openReply sources cell hub)) then _ else _ :
        StateM Hub (Answer (List Shelter))) _ := rfl
  rw [hask, if_pos (scarce_iff.mp h)]
  exact ⟨rfl, rfl⟩

/-- Elsewhere only the open one is. -/
theorem askShelters_of_plenty (h : ¬ Scarce sources cell hub) :
    (askShelters sources cell hub).1.result =
      Shelter.combine (heard sources cell .active (openReply sources cell hub)) none ∧
    (askShelters sources cell hub).2 = { hub with
      requests := layerRequest sources cell .active :: hub.requests } := by
  have hask : askShelters sources cell hub =
      (if Shelter.needsInventory (heard sources cell .active (openReply sources cell hub)) then _ else _ :
        StateM Hub (Answer (List Shelter))) _ := rfl
  rw [hask, if_neg (scarce_iff.not.mp h)]
  exact ⟨rfl, rfl⟩

/-- Whatever comes back is what the layers add, sorted. -/
theorem exists_sort_of_ok {shelters : List Shelter}
    (h : (askShelters sources cell hub).1.result = .ok shelters) : ∃ opened planned,
      Adds True (Told sources.globe cell (openReply sources cell hub) .active) opened ∧
      Adds (Scarce sources cell hub) (Told sources.globe cell (plannedReply sources cell hub) .inventory)
        planned ∧
      Order.sort Shelter.noFarther (opened ++ planned) = shelters := by
  have hopened := adds_heard sources cell .active (openReply sources cell hub) trivial
  by_cases hscarce : Scarce sources cell hub
  · rw [(askShelters_of_scarce hscarce).1] at h
    exact ⟨_, _, hopened, adds_heard sources cell .inventory _ hscarce, Shelter.eq_sort_of_combine h⟩
  · rw [(askShelters_of_plenty hscarce).1] at h
    exact ⟨_, [], hopened, .nothing fun hasked => absurd hasked hscarce, Shelter.eq_sort_of_combine h⟩

/-- **What the two layers come to**, whatever comes back from them. -/
theorem combined (sources : Sources) (cell : Cell) (hub : Hub) : Combined sources cell hub where
  asks hscarce := (askShelters_of_scarce hscarce).2
  spares hplenty := (askShelters_of_plenty hplenty).2
  fails := by
    rw [silent_iff, silent_iff]
    by_cases hscarce : Scarce sources cell hub
    · rw [(askShelters_of_scarce hscarce).1, Shelter.combine_eq_error_iff]
      simp only [Option.some.injEq]
    · rw [(askShelters_of_plenty hscarce).1, Shelter.combine_eq_error_iff]
      -- enough open shelters: neither side holds
      constructor
      · rintro ⟨-, _, h⟩
        nomatch h
      · rintro ⟨hopen, -⟩
        exact absurd (fun found hfound => absurd hfound (silent_iff.mpr hopen found)) hscarce
  finds shelters h := by
    obtain ⟨opened, planned, hopened, hplanned, rfl⟩ := exists_sort_of_ok h
    refine ⟨opened, planned, hopened, hplanned, Shelter.nearestFirst_sort ?_⟩
    intro s hs
    rcases List.mem_append.mp hs with hs | hs
    · exact (inReach_of_adds hopened s hs).isNumber
    · exact (inReach_of_adds hplanned s hs).isNumber
  reached shelters h := by
    obtain ⟨opened, planned, hopened, hplanned, rfl⟩ := exists_sort_of_ok h
    intro s hs
    rcases List.mem_append.mp (Order.mem_sort.mp hs) with hs | hs
    · exact inReach_of_adds hopened s hs
    · exact inReach_of_adds hplanned s hs

/-- Nobody answers. -/
example (e : Endpoints) (p : SourcePolicies) (globe : Globe) (cell : Cell) (hub : Hub) :
    (askShelters ⟨e, p, .down, globe⟩ cell hub).1.result = .error .exchange := rfl

end DriveAdvisory.Hub
