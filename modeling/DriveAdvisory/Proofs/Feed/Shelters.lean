/-
  Shelters from two layers.

  What a layer says of a cell is a matter of its document alone: rows that can be located are taken in their order
  as far as they lie within the radius (`Kept`), and a document that cannot be read says nothing (`Told`).  The two
  layers are then put together by `Shelter.combine`, and whatever was heard comes back, each shelter once and the
  nearest first (`NearestFirst`).

  Distances are sorted by the total order of numbers, in which the negative zero stands in front of the other one.
  A distance that is the same number is therefore always one tie; numerically equal ones are as long as none of them
  is a negative zero.  No distance within a radius is a NaN, so nothing is asked of the globe.
-/
import DriveAdvisory.Feed.Emergency
import DriveAdvisory.Geo.Grid
import DriveAdvisory.Proofs.Advisory.Precedence
import DriveAdvisory.Proofs.Json.Records
import DriveAdvisory.Proofs.Order.Stability

namespace DriveAdvisory

open Fields (map_eq_ok)

/-! ## Positions -/

/-- The coordinates are a position. -/
structure Point.Usable (p : Point) : Prop where
  lat_finite : p.lat.isFinite = true
  lon_finite : p.lon.isFinite = true
  somewhere : ¬ (p.lat.isZero = true ∧ p.lon.isZero = true)

theorem Point.fix?_eq_some_iff {lat lon : Double} {p : Point} :
    Point.fix? lat lon = some p ↔ ⟨lat, lon⟩ = p ∧ p.Usable := by
  unfold Point.fix?
  constructor
  · intro h
    split at h
    · nomatch h
    · rename_i hsound
      obtain rfl := Option.some.inj h
      simp only [Bool.or_eq_true, Bool.not_eq_true', Bool.and_eq_true, not_or,
        Bool.not_eq_false] at hsound
      exact ⟨rfl, hsound.1.1, hsound.1.2, hsound.2⟩
  · rintro ⟨rfl, hlat, hlon, hsomewhere⟩
    rw [if_neg]
    simpa [hlat, hlon] using hsomewhere

/-- Wherever a row is placed, that is a position. -/
theorem MapPoint.usable_of_toPoint? {globe : Globe} {place : MapPoint} {location : Point}
    (h : place.toPoint? globe = some location) : location.Usable := by
  unfold toPoint? at h
  split at h
  · exact (Point.fix?_eq_some_iff.mp h).2
  · exact (Point.fix?_eq_some_iff.mp h).2

namespace Shelter

/-! ## One layer -/

section Rows

variable {α : Type} {globe : Globe} {origin location : Point} {radius distance : Double}
  {make : α → Point → Double → Shelter} {row : Feature α} {rows : List (Feature α)}
  {found : List Shelter} {s : Shelter}

/-- The row lies within the radius, so far from the origin. -/
structure Within (globe : Globe) (origin : Point) (radius : Double) (row : Feature α) (location : Point)
    (distance : Double) : Prop where
  place : ∃ place, row.place = some place ∧ place.toPoint? globe = some location
  measured : globe.distance origin location = distance
  near : distance ≤ radius

/-- The shelters of the rows within the radius, in their order. -/
inductive Kept (globe : Globe) (origin : Point) (radius : Double) (make : α → Point → Double → Shelter) :
    List (Feature α) → List Shelter → Prop
  | nil : Kept globe origin radius make [] []
  | keep {row : Feature α} {rows : List (Feature α)} {found : List Shelter} {location : Point}
    {distance : Double} (within : Within globe origin radius row location distance)
    (rest : Kept globe origin radius make rows found) :
    Kept globe origin radius make (row :: rows) (make row.about location distance :: found)
  | leave {row : Feature α} {rows : List (Feature α)} {found : List Shelter}
    (without : ∀ location distance, ¬ Within globe origin radius row location distance)
    (rest : Kept globe origin radius make rows found) :
    Kept globe origin radius make (row :: rows) found

theorem placed?_eq_some_iff : placed? globe origin radius row.place = some (location, distance) ↔
    Within globe origin radius row location distance := by
  unfold placed?
  constructor
  · intro h
    obtain ⟨place, hplace, h⟩ := Option.bind_eq_some_iff.mp h
    obtain ⟨there, hthere, h⟩ := Option.bind_eq_some_iff.mp h
    dsimp only at h
    split at h
    · rename_i hnear
      obtain ⟨rfl, rfl⟩ := Prod.mk.inj (Option.some.inj h)
      exact ⟨⟨place, hplace, hthere⟩, rfl, hnear⟩
    · nomatch h
  · rintro ⟨⟨place, hplace, hthere⟩, rfl, hnear⟩
    refine Option.bind_eq_some_iff.mpr ⟨place, hplace, Option.bind_eq_some_iff.mpr ⟨location, hthere, ?_⟩⟩
    exact if_pos hnear

/-- **Taking the rows within the radius.** -/
theorem kept_iff : ∀ {rows : List (Feature α)} {found : List Shelter},
    Kept globe origin radius make rows found ↔ ofRows globe origin radius make rows = found
  | [], found => by
    constructor
    · rintro ⟨⟩
      rfl
    · rintro rfl
      exact .nil
  | row :: rows, found => by
    unfold ofRows
    cases hplaced : placed? globe origin radius row.place with
    | none =>
      have hwithout : ∀ location distance, ¬ Within globe origin radius row location distance := by
        intro location distance hwithin
        rw [placed?_eq_some_iff.mpr hwithin] at hplaced
        nomatch hplaced
      rw [List.filterMap_cons_none (by rw [hplaced]; rfl)]
      constructor
      · rintro (_ | ⟨hwithin, -⟩ | ⟨-, hrest⟩)
        · exact absurd hwithin (hwithout _ _)
        · exact kept_iff.mp hrest
      · exact fun hrest => .leave hwithout (kept_iff.mpr hrest)
    | some placed =>
      obtain ⟨location, distance⟩ := placed
      have hwithin := placed?_eq_some_iff.mp hplaced
      rw [List.filterMap_cons_some (by rw [hplaced]; rfl)]
      constructor
      · rintro (_ | ⟨hthere, hrest⟩ | ⟨hwithout, -⟩)
        · -- a row lies in one place only
          have hsame := placed?_eq_some_iff.mpr hthere
          rw [hplaced] at hsame
          obtain ⟨rfl, rfl⟩ := Prod.mk.inj (Option.some.inj hsame)
          exact congrArg _ (kept_iff.mp hrest)
        · exact absurd hwithin (hwithout _ _)
      · rintro rfl
        exact .keep hwithin (kept_iff.mpr rfl)

/-- The shelter lies in a position within the radius, and that is how far away it is said to be. -/
structure InReach (globe : Globe) (origin : Point) (radius : Double) (s : Shelter) : Prop where
  usable : s.location.Usable
  measured : s.distance = globe.distance origin s.location
  near : s.distance ≤ radius

theorem InReach.isNumber (h : InReach globe origin radius s) : s.distance.isNaN = false :=
  Binary.not_isNaN_of_le_left h.near

/-- What is kept of the rows is in reach, if shelters are made where the rows are. -/
theorem Kept.inReach (h : Kept globe origin radius make rows found)
    (hmake : ∀ about location distance, (make about location distance).location = location ∧
      (make about location distance).distance = distance) :
    ∀ s ∈ found, InReach globe origin radius s := by
  induction h with
  | nil => exact fun s hs => absurd hs List.not_mem_nil
  | @keep row rows found location distance within rest ih =>
    refine List.forall_mem_cons.mpr ⟨?_, ih⟩
    obtain ⟨place, -, hplace⟩ := within.place
    obtain ⟨hlocation, hdistance⟩ := hmake row.about location distance
    constructor
    · rw [hlocation]
      exact MapPoint.usable_of_toPoint? hplace
    · rw [hlocation, hdistance, within.measured]
    · rw [hdistance]
      exact within.near
  | leave _ _ ih => exact ih

end Rows

/-- What a layer tells of a cell, given what came back from it. -/
inductive Told (globe : Globe) (cell : Cell) (reply : Except SourceFault Json) :
    ShelterLayer → List Shelter → Prop
  | active {body : Json} {rows : List (Feature OpenRow)} {found : List Shelter} (came : reply = .ok body)
    (read : layerRows "fdem open shelters" OpenRow.decode {} body = .ok rows)
    (kept : Kept globe cell.point (milesToMetres cell.radiusMiles) ofOpenRow rows found) :
    Told globe cell reply .active found
  | inventory {body : Json} {rows : List (Feature PlannedRow)} {found : List Shelter}
    (came : reply = .ok body)
    (read : layerRows "fdem shelter inventory" PlannedRow.decode {} body = .ok rows)
    (kept : Kept globe cell.point (milesToMetres cell.radiusMiles) ofPlannedRow rows found) :
    Told globe cell reply .inventory found

section Layers

variable {globe : Globe} {cell : Cell} {reply : Except SourceFault Json} {layer : ShelterLayer}
  {found : List Shelter}

theorem told_iff : Told globe cell reply layer found ↔
    reply.bind (ofBody globe layer cell.point cell.radiusMiles) = .ok found := by
  rw [Fields.bind_eq_ok]
  constructor
  · rintro (⟨hcame, hread, hkept⟩ | ⟨hcame, hread, hkept⟩)
    · exact ⟨_, hcame, map_eq_ok.mpr ⟨_, hread, kept_iff.mp hkept⟩⟩
    · exact ⟨_, hcame, map_eq_ok.mpr ⟨_, hread, kept_iff.mp hkept⟩⟩
  · rintro ⟨body, hcame, hbody⟩
    cases layer with
    | active =>
      obtain ⟨rows, hread, hkept⟩ := map_eq_ok.mp hbody
      exact .active hcame hread (kept_iff.mpr hkept)
    | inventory =>
      obtain ⟨rows, hread, hkept⟩ := map_eq_ok.mp hbody
      exact .inventory hcame hread (kept_iff.mpr hkept)

theorem Told.inReach (h : Told globe cell reply layer found) :
    ∀ s ∈ found, InReach globe cell.point (milesToMetres cell.radiusMiles) s := by
  cases h with
  | active _ _ kept => exact kept.inReach fun _ _ _ => ⟨rfl, rfl⟩
  | inventory _ _ kept => exact kept.inReach fun _ _ _ => ⟨rfl, rfl⟩

end Layers

/-! ## Both layers -/

/-- The same shelters, the nearest first, and equally near ones in the order in which they were found. -/
structure NearestFirst (found sorted : List Shelter) : Prop where
  perm : sorted.Perm found
  nearest : sorted.Pairwise fun a b => a.distance ≤ b.distance
  /-- Shelters of the same distance keep their order. -/
  ties : ∀ distance, (sorted.filter fun s => s.distance = distance) =
    found.filter fun s => s.distance = distance
  /-- So do those of equal distances, as long as no distance is the negative zero. -/
  equals : (∀ s ∈ found, s.distance ≠ Binary.zero true) → ∀ distance : Double,
    (sorted.filter fun s => s.distance.eqv distance) = found.filter fun s => s.distance.eqv distance

theorem noFarther_eq : noFarther = Order.upTo fun s : Shelter => s.distance.orderKey := by
  funext a b
  rw [Bool.eq_iff_iff, noFarther, bne_iff_ne, decide_eq_true_iff, Binary.totalCompare_ne_gt_iff]

/-- **Sorting by distance**, as far as distances are numbers. -/
theorem nearestFirst_sort {found : List Shelter} (hnumber : ∀ s ∈ found, s.distance.isNaN = false) :
    NearestFirst found (Order.sort noFarther found) where
  perm := Order.sort_perm _ _
  nearest := by
    rw [noFarther_eq]
    refine (Order.sort_pairwise _ found).imp_of_mem fun ha hb h => ?_
    exact Binary.le_of_orderKey_le (hnumber _ (Order.mem_sort.mp ha)) (hnumber _ (Order.mem_sort.mp hb)) h
  ties distance := by
    rw [noFarther_eq]
    apply Order.sort_level
    intro a ha b hb
    rw [List.mem_filter, decide_eq_true_iff] at ha hb
    rw [ha.2, hb.2]
  equals hsigned distance := by
    rw [noFarther_eq]
    apply Order.sort_level
    intro a ha b hb
    rw [List.mem_filter] at ha hb
    have hequal := Binary.eqv_trans ha.2 (Binary.eqv_symm hb.2)
    rw [Binary.eq_of_eqv (hsigned a ha.1) (hsigned b hb.1) hequal]

/-- The first of them is a nearest one. -/
theorem head_nearest {sorted : List Shelter} {s : Shelter}
    (hnearest : sorted.Pairwise fun a b => a.distance ≤ b.distance) (hnumber : s.distance.isNaN = false)
    (hs : sorted.head? = some s) : ∀ other ∈ sorted, s.distance ≤ other.distance := by
  obtain ⟨rest, rfl⟩ := List.head?_eq_some_iff.mp hs
  exact List.forall_mem_cons.mpr ⟨Binary.le_refl_iff.mpr hnumber, (List.pairwise_cons.mp hnearest).1⟩

/-- What a layer adds: the shelters that it tells of, or nothing, if it was not asked or cannot be understood. -/
inductive Adds (asked : Prop) (told : List Shelter → Prop) : List Shelter → Prop
  | something {found : List Shelter} (hasked : asked) (htold : told found) : Adds asked told found
  | nothing (hsilent : asked → ∀ found, ¬ told found) : Adds asked told []

/-- What a layer's answer adds; a failure adds nothing. -/
def findings : Except SourceFault (List Shelter) → List Shelter
  | .ok found => found
  | .error _ => []

section Adds

variable {asked : Prop} {told : List Shelter → Prop} {found : List Shelter}
  {answer opened : Except SourceFault (List Shelter)} {planned : Option (Except SourceFault (List Shelter))}

theorem adds_findings (htold : ∀ found, told found ↔ answer = .ok found) (hasked : asked) :
    Adds asked told (findings answer) := by
  cases answer with
  | error fault => exact .nothing fun _ found h => nomatch (htold found).mp h
  | ok found => exact .something hasked ((htold found).mpr rfl)

/-- What holds of all that a layer tells of holds of all that it adds. -/
theorem Adds.forall_mem {P : Shelter → Prop} (h : Adds asked told found)
    (htold : ∀ found, told found → ∀ s ∈ found, P s) : ∀ s ∈ found, P s := by
  cases h with
  | something _ h => exact htold _ h
  | nothing => exact fun s hs => absurd hs List.not_mem_nil

/-- Putting the layers together fails if both were asked and failed. -/
theorem combine_eq_error_iff : (∃ fault, combine opened planned = .error fault) ↔
    (∃ fault, opened = .error fault) ∧ ∃ fault, planned = some (.error fault) := by
  constructor
  · rintro ⟨fault, h⟩
    unfold combine at h
    split at h
    · exact ⟨⟨_, rfl⟩, _, rfl⟩
    · nomatch h
  · rintro ⟨⟨_, rfl⟩, fault, rfl⟩
    exact ⟨fault, rfl⟩

/-- Else it is sorting what they add. -/
theorem eq_sort_of_combine {shelters : List Shelter} (h : combine opened planned = .ok shelters) :
    Order.sort noFarther (findings opened ++ (planned.map findings).getD []) = shelters := by
  unfold combine at h
  split at h
  · nomatch h
  · exact Except.ok.inj h

end Adds

/-- Of two that are equally near the open one comes first, and a nearer one comes before both. -/
example : (combine (.ok [ofOpenRow {} ⟨28, -82⟩ 900])
    (some (.ok [ofPlannedRow {} ⟨28, -82⟩ 900, ofPlannedRow {} ⟨28, -83⟩ 400]))).toOption.map
      (·.map fun s => (s.layer, s.distance)) =
    some [(.inventory, 400), (.active, 900), (.inventory, 900)] := by decide +kernel

end Shelter

end DriveAdvisory
