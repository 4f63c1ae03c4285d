/-
  What of a published advisory can be read back from its document.

  Documents have no numbers but finite ones, and reading an advisory takes every number of it, so its document is
  an advisory's exactly if all its numbers are finite (`Advisory.decode_toJson`).  The filter sees to that for each
  number in its own way: a target that is not finite switches its axis off, a confidence that is not finite counts
  as none.  A distance is only held above zero, and so an infinite one stays (`isFinite_ahead_iff`).  It is the
  one thing that can spoil a published advisory's document, and where it does nothing of the advisory is read.
-/
import DriveAdvisory.Proofs.Advisory.Projection
import DriveAdvisory.Proofs.Sighting.Document
import DriveAdvisory.Advisory.Merge
import DriveAdvisory.Skill.Direct

namespace DriveAdvisory

/-! ## Single values -/

theorem Decoder.bool_toJson (a b : Bool) : Decoder.bool (toJson a) = .ok b ↔ a = b := by
  have hread : Decoder.bool (toJson a) = .ok a := rfl
  rw [hread, Except.ok.injEq]

theorem Decoder.strings_toJson (texts others : List String) :
    Decoder.string.list (toJson texts) = .ok others ↔ texts = others := by
  have hread : (texts.map fun text => (toJson text : Json)).mapM Decoder.string = .ok texts := by
    induction texts with
    | nil => rfl
    | cons text rest ih =>
      rw [List.map_cons, List.mapM_cons, ih]
      rfl
  have hlist : Decoder.string.list (toJson texts) = .ok texts := hread
  rw [hlist, Except.ok.injEq]

theorem Side.decode_toJson (a b : Side) : Side.decode (toJson a) = .ok b ↔ a = b := by
  have hread : Side.decode (toJson a) = .ok a := by
    cases a <;> rfl
  rw [hread, Except.ok.injEq]

theorem Tier.decode_toJson (a b : Tier) : Tier.decode (toJson a) = .ok b ↔ a = b := by
  have hread : Tier.decode (toJson a) = .ok a := by
    cases a <;> rfl
  rw [hread, Except.ok.injEq]

/-! ## Axes -/

namespace SpeedAxis

/-- The members of a speed axis' document, as they are declared. -/
def members (a : SpeedAxis) : List (String × Json) :=
  [("active", toJson a.active), ("target_ms", toJson a.target), ("source", toJson a.source),
    ("confidence", toJson a.confidence), ("distance_ahead_m", toJson a.ahead)]

theorem toJson_eq (a : SpeedAxis) : toJson a = .object (Json.sortMembers a.members) := rfl

theorem nodup_members (a : SpeedAxis) : (a.members.map Prod.fst).Nodup := by
  show ["active", "target_ms", "source", "confidence", "distance_ahead_m"].Nodup
  decide

theorem decode_toJson (a b : SpeedAxis) : decode (toJson a) = .ok b ↔
    (a.target.isFinite = true ∧ a.confidence.isFinite = true ∧ a.ahead.isFinite = true) ∧ a = b := by
  have hsorted := Json.ascending_sortMembers a.members
  have hfound : ∀ m ∈ a.members, Json.lookup m.1 (Json.sortMembers a.members) = some m.2 :=
    fun m hm => Json.lookup_sortMembers a.nodup_members hm
  have hactive := hfound ("active", toJson a.active) (by simp [members])
  have htarget := hfound ("target_ms", toJson a.target) (by simp [members])
  have hsource := hfound ("source", toJson a.source) (by simp [members])
  have hconfidence := hfound ("confidence", toJson a.confidence) (by simp [members])
  have hahead := hfound ("distance_ahead_m", toJson a.ahead) (by simp [members])
  rw [toJson_eq, decode, Fields.record_eq_ok hsorted]
  simp only [Fields.seq_reads, Fields.map_reads, Fields.required_reads hsorted hactive,
    Fields.required_reads hsorted htarget, Fields.required_reads hsorted hsource,
    Fields.required_reads hsorted hconfidence, Fields.required_reads hsorted hahead,
    Decoder.bool_toJson, Decoder.single_toJson, Decoder.string_toJson]
  simp only [and_assoc, exists_and_left, exists_eq_left']

end SpeedAxis

namespace LaneAxis

def members (a : LaneAxis) : List (String × Json) :=
  [("active", toJson a.active), ("direction", toJson a.side), ("reason", toJson a.reason),
    ("confidence", toJson a.confidence)]

theorem toJson_eq (a : LaneAxis) : toJson a = .object (Json.sortMembers a.members) := rfl

theorem nodup_members (a : LaneAxis) : (a.members.map Prod.fst).Nodup := by
  show ["active", "direction", "reason", "confidence"].Nodup
  decide

theorem decode_toJson (a b : LaneAxis) :
    decode (toJson a) = .ok b ↔ a.confidence.isFinite = true ∧ a = b := by
  have hsorted := Json.ascending_sortMembers a.members
  have hfound : ∀ m ∈ a.members, Json.lookup m.1 (Json.sortMembers a.members) = some m.2 :=
    fun m hm => Json.lookup_sortMembers a.nodup_members hm
  have hactive := hfound ("active", toJson a.active) (by simp [members])
  have hside := hfound ("direction", toJson a.side) (by simp [members])
  have hreason := hfound ("reason", toJson a.reason) (by simp [members])
  have hconfidence := hfound ("confidence", toJson a.confidence) (by simp [members])
  rw [toJson_eq, decode, Fields.record_eq_ok hsorted]
  simp only [Fields.seq_reads, Fields.map_reads, Fields.required_reads hsorted hactive,
    Fields.required_reads hsorted hside, Fields.required_reads hsorted hreason,
    Fields.required_reads hsorted hconfidence, Decoder.bool_toJson, Side.decode_toJson,
    Decoder.single_toJson, Decoder.string_toJson]
  simp only [and_assoc, exists_and_left, exists_eq_left']

end LaneAxis

namespace AlertAxis

def members (a : AlertAxis) : List (String × Json) :=
  [("active", toJson a.active), ("text", toJson a.text), ("severity", toJson a.tier),
    ("confidence", toJson a.confidence)]

theorem toJson_eq (a : AlertAxis) : toJson a = .object (Json.sortMembers a.members) := rfl

theorem nodup_members (a : AlertAxis) : (a.members.map Prod.fst).Nodup := by
  show ["active", "text", "severity", "confidence"].Nodup
  decide

theorem decode_toJson (a b : AlertAxis) :
    decode (toJson a) = .ok b ↔ a.confidence.isFinite = true ∧ a = b := by
  have hsorted := Json.ascending_sortMembers a.members
  have hfound : ∀ m ∈ a.members, Json.lookup m.1 (Json.sortMembers a.members) = some m.2 :=
    fun m hm => Json.lookup_sortMembers a.nodup_members hm
  have hactive := hfound ("active", toJson a.active) (by simp [members])
  have htext := hfound ("text", toJson a.text) (by simp [members])
  have htier := hfound ("severity", toJson a.tier) (by simp [members])
  have hconfidence := hfound ("confidence", toJson a.confidence) (by simp [members])
  rw [toJson_eq, decode, Fields.record_eq_ok hsorted]
  simp only [Fields.seq_reads, Fields.map_reads, Fields.required_reads hsorted hactive,
    Fields.required_reads hsorted htext, Fields.required_reads hsorted htier,
    Fields.required_reads hsorted hconfidence, Decoder.bool_toJson, Tier.decode_toJson,
    Decoder.single_toJson, Decoder.string_toJson]
  simp only [and_assoc, exists_and_left, exists_eq_left']

end AlertAxis

/-! ## Advisories -/

namespace Advisory

/-- Every number of the advisory is finite. -/
@[mk_iff]
structure Plain (a : Advisory) : Prop where
  target : a.speed.target.isFinite = true
  speed : a.speed.confidence.isFinite = true
  ahead : a.speed.ahead.isFinite = true
  lane : a.lane.confidence.isFinite = true
  alert : a.alert.confidence.isFinite = true

instance (a : Advisory) : Decidable a.Plain := decidable_of_iff _ (plain_iff a).symm

def members (a : Advisory) : List (String × Json) :=
  [("speed", toJson a.speed), ("lane", toJson a.lane), ("alert", toJson a.alert),
    ("capabilities", toJson a.skills), ("reason", toJson a.reason)]

theorem toJson_eq (a : Advisory) : toJson a = .object (Json.sortMembers a.members) := rfl

theorem nodup_members (a : Advisory) : (a.members.map Prod.fst).Nodup := by
  show ["speed", "lane", "alert", "capabilities", "reason"].Nodup
  decide

/-- **An advisory's document** is read as the advisory, unless a number of it is not finite. -/
theorem decode_toJson (a b : Advisory) : decode (toJson a) = .ok b ↔ a.Plain ∧ a = b := by
  have hsorted := Json.ascending_sortMembers a.members
  have hfound : ∀ m ∈ a.members, Json.lookup m.1 (Json.sortMembers a.members) = some m.2 :=
    fun m hm => Json.lookup_sortMembers a.nodup_members hm
  have hspeed := hfound ("speed", toJson a.speed) (by simp [members])
  have hlane := hfound ("lane", toJson a.lane) (by simp [members])
  have halert := hfound ("alert", toJson a.alert) (by simp [members])
  have hskills := hfound ("capabilities", toJson a.skills) (by simp [members])
  have hreason := hfound ("reason", toJson a.reason) (by simp [members])
  rw [toJson_eq, decode, Fields.record_eq_ok hsorted]
  simp only [Fields.seq_reads, Fields.map_reads, Fields.required_reads hsorted hspeed,
    Fields.required_reads hsorted hlane, Fields.required_reads hsorted halert,
    Fields.required_reads hsorted hskills, Fields.required_reads hsorted hreason,
    SpeedAxis.decode_toJson, LaneAxis.decode_toJson, AlertAxis.decode_toJson,
    Decoder.strings_toJson, Decoder.string_toJson]
  simp only [and_assoc, exists_and_left, exists_eq_left', plain_iff]

/-- An advisory with only finite numbers is equal to itself. -/
theorem Plain.eqv_self {a : Advisory} (h : a.Plain) : a.eqv a = true := by
  have htarget := Binary.eqv_self_iff.mpr (Binary.not_isNaN_of_isFinite h.target)
  have hspeed := Binary.eqv_self_iff.mpr (Binary.not_isNaN_of_isFinite h.speed)
  have hahead := Binary.eqv_self_iff.mpr (Binary.not_isNaN_of_isFinite h.ahead)
  have hlane := Binary.eqv_self_iff.mpr (Binary.not_isNaN_of_isFinite h.lane)
  have halert := Binary.eqv_self_iff.mpr (Binary.not_isNaN_of_isFinite h.alert)
  refine Advisory.eqv_iff.mpr ⟨?_, ?_, ?_, rfl, rfl⟩
  · exact SpeedAxis.eqv_iff.mpr ⟨rfl, htarget, rfl, hspeed, hahead⟩
  · exact LaneAxis.eqv_iff.mpr ⟨rfl, rfl, rfl, hlane⟩
  · exact AlertAxis.eqv_iff.mpr ⟨rfl, rfl, rfl, halert⟩

/-! ## Texts -/

/-- The finite numbers of the advisory are read back from their texts. -/
structure Legible (a : Advisory) : Prop where
  target : Sighting.NumberReadsBack a.speed.target
  speed : Sighting.NumberReadsBack a.speed.confidence
  ahead : Sighting.NumberReadsBack a.speed.ahead
  lane : Sighting.NumberReadsBack a.lane.confidence
  alert : Sighting.NumberReadsBack a.alert.confidence

/-- An object that is made of members which fit fits one deeper. -/
theorem fits_object {members : List (String × Json)} {depth : Nat}
    (h : ∀ m ∈ members, Json.Fits depth m.2) :
    Json.Fits (depth + 1) (.object (Json.sortMembers members)) :=
  ⟨Json.ascending_sortMembers members, fun m hm => h m (Json.mem_sortMembers hm)⟩

theorem fits_speed {a : Advisory} (h : a.Legible) (depth : Nat) :
    Json.Fits (depth + 2) (toJson a.speed) := by
  rw [SpeedAxis.toJson_eq]
  apply fits_object
  simp only [SpeedAxis.members, List.forall_mem_cons]
  exact ⟨trivial, h.target.fits _, trivial, h.speed.fits _, h.ahead.fits _, nofun⟩

theorem fits_lane {a : Advisory} (h : a.Legible) (depth : Nat) :
    Json.Fits (depth + 2) (toJson a.lane) := by
  rw [LaneAxis.toJson_eq]
  apply fits_object
  simp only [LaneAxis.members, List.forall_mem_cons]
  exact ⟨trivial, trivial, trivial, h.lane.fits _, nofun⟩

theorem fits_alert {a : Advisory} (h : a.Legible) (depth : Nat) :
    Json.Fits (depth + 2) (toJson a.alert) := by
  rw [AlertAxis.toJson_eq]
  apply fits_object
  simp only [AlertAxis.members, List.forall_mem_cons]
  exact ⟨trivial, trivial, trivial, h.alert.fits _, nofun⟩

/-- **An advisory's text** is read as its document. -/
theorem read?_render_toJson {a : Advisory} (h : a.Legible) :
    Json.read? (toJson a).render = some (toJson a) := by
  have hmembers : ∀ m ∈ a.members, Json.Fits 126 m.2 := by
    simp only [members, List.forall_mem_cons]
    refine ⟨fits_speed h 124, fits_lane h 124, fits_alert h 124, ?_, trivial, nofun⟩
    intro j hj
    obtain ⟨text, -, rfl⟩ := List.mem_map.mp hj
    trivial
  rw [toJson_eq]
  exact Json.read?_render (fits_object hmembers)

end Advisory

/-! ## What the filter lets through -/

namespace Limits

variable {limits : Limits} {reference : Option Single}

theorem isFinite_unitConfidence (confidence : Single) : (unitConfidence confidence).isFinite = true := by
  have hunit := unitConfidence_bounds confidence
  exact Binary.isFinite_of_between isFinite_zero isFinite_one hunit.1 hunit.2

/-- Holding a distance above zero takes everything out of it that is not finite, but infinity. -/
theorem isFinite_ahead_iff (ahead : Single) :
    ((0 : Single).max ahead).isFinite = true ↔ ahead ≠ Binary.infinite false := by
  by_cases hpos : 0 < ahead
  · rw [Binary.max_zero_of_pos hpos]
    constructor
    · rintro hfinite rfl
      exact absurd hfinite (by decide)
    · intro hne
      have hnumber := Binary.isNaN_eq_false_iff.mp (Binary.zero_lt_iff.mp hpos).1
      obtain ⟨hsign, -⟩ := Binary.pos_fields hpos
      rw [Binary.isFinite_iff]
      have hmagnitude : ahead.magnitude ≠ single.infinity := by
        intro hinfinite
        obtain ⟨sign, magnitude, hlt⟩ := ahead
        obtain rfl : sign = false := hsign
        obtain rfl : magnitude = single.infinity := hinfinite
        exact hne rfl
      omega
  · have hzero : (0 : Single).max ahead = 0 := by
      rw [Binary.max, if_neg (by simp), if_neg hpos]
    rw [hzero]
    constructor
    · rintro - rfl
      exact hpos (by decide)
    · intro _
      exact isFinite_zero

theorem default_plain : Advisory.Plain {} := by decide

theorem isFinite_filterLane (limits : Limits) (axis : LaneAxis) :
    (limits.filterLane axis).confidence.isFinite = true := by
  cases ha : (limits.filterLane axis).active with
  | false =>
    rw [filterLane_of_inactive ha]
    exact default_plain.lane
  | true =>
    rw [filterLane_of_active ha]
    exact isFinite_unitConfidence axis.confidence

theorem isFinite_filterAlert (limits : Limits) (axis : AlertAxis) :
    (limits.filterAlert axis).confidence.isFinite = true := by
  cases ha : (limits.filterAlert axis).active with
  | false =>
    rw [filterAlert_of_inactive ha]
    exact default_plain.alert
  | true =>
    rw [filterAlert_of_active ha]
    exact isFinite_unitConfidence axis.confidence

/-- What is published has an infinite distance at worst, and then the merged advisory had it. -/
theorem Sound.plain_iff (h : limits.Sound) (reference : Option Single) (merged : Advisory) :
    (limits.enforce merged reference).Plain ↔
      ¬ ((limits.enforce merged reference).speed.active = true ∧
        merged.speed.ahead = Binary.infinite false) := by
  have hlane := isFinite_filterLane limits merged.lane
  have halert := isFinite_filterAlert limits merged.alert
  cases ha : (limits.filterSpeed reference merged.speed).active with
  | false =>
    have hoff : (limits.enforce merged reference).speed = {} := filterSpeed_of_inactive ha
    constructor
    · rintro - ⟨hon, -⟩
      rw [hoff] at hon
      nomatch hon
    · intro _
      constructor
      case target => rw [hoff]; exact default_plain.target
      case speed => rw [hoff]; exact default_plain.speed
      case ahead => rw [hoff]; exact default_plain.ahead
      case lane => exact hlane
      case alert => exact halert
  | true =>
    obtain ⟨htarget, haxis⟩ := filterSpeed_of_active ha
    have hspeed : (limits.enforce merged reference).speed = _ := haxis
    have hahead : (limits.enforce merged reference).speed.ahead.isFinite = true ↔
        merged.speed.ahead ≠ Binary.infinite false := by
      rw [hspeed]
      exact isFinite_ahead_iff merged.speed.ahead
    constructor
    · rintro hplain ⟨-, hinfinite⟩
      exact hahead.mp hplain.ahead hinfinite
    · intro hbounded
      constructor
      case target => rw [hspeed]; exact h.isFinite_holdSpeed reference htarget
      case speed => rw [hspeed]; exact isFinite_unitConfidence merged.speed.confidence
      case ahead => exact hahead.mpr fun hinfinite => hbounded ⟨ha, hinfinite⟩
      case lane => exact hlane
      case alert => exact halert

/-! ## What reaches the planner -/

/-- What the planner can read of an advisory that was merged and then filtered. -/
structure Delivered (merged out : Advisory) : Prop where
  /-- Its numbers are finite, unless it has taken over an infinite distance. -/
  plain_iff : out.Plain ↔ ¬ (out.speed.active = true ∧ merged.speed.ahead = Binary.infinite false)
  /-- If they are, its document is read as an advisory that is the same and so equal. -/
  returned : out.Plain → Advisory.decode (toJson out) = .ok out ∧ out.eqv out = true
  /-- If not, nothing is read of it. -/
  lost : ¬ out.Plain → ∃ mismatch, Advisory.decode (toJson out) = .error mismatch
  /-- Its text is read as its document in either case. -/
  text : out.Legible → Json.read? (toJson out).render = some (toJson out)

/-- **An advisory is delivered** unless it is about something infinitely far ahead. -/
theorem Sound.delivered (h : limits.Sound) (merged : Advisory) (reference : Option Single) :
    ∃ out, limits.enforce? merged reference = some out ∧ Delivered merged out := by
  refine ⟨limits.enforce merged reference, enforce?_eq_some h.maxSpeed_pos merged reference, ?_⟩
  constructor
  case plain_iff => exact h.plain_iff reference merged
  case returned =>
    intro hplain
    exact ⟨(Advisory.decode_toJson _ _).mpr ⟨hplain, rfl⟩, hplain.eqv_self⟩
  case lost =>
    intro hnot
    cases hread : Advisory.decode (toJson (limits.enforce merged reference)) with
    | error mismatch => exact ⟨mismatch, rfl⟩
    | ok back => exact absurd ((Advisory.decode_toJson _ _).mp hread).1 hnot
  case text => exact Advisory.read?_render_toJson

/-- The limits of a fresh configuration, and the advisory that no cycle would make. -/
theorem delivered_wild : Limits.Sound {} ∧
    ∃ out, Limits.enforce? {} wild (some 100) = some out ∧ Delivered wild out := by
  exact ⟨sound_fresh, Sound.delivered sound_fresh wild (some 100)⟩

/-- What an engine may say of cones that are farther away than numbers of this width go. -/
def distantCones : Json := .object
  [("confidence", .number (.real 0.9)), ("distance_ahead_m", .number (.real 1e39)),
    ("reason", .string "cones"), ("speed_mph", .number (.whole 45))]

/-- The skill makes a proposal of it, and what is published of that has a document that is no advisory's. -/
theorem lost_distantCones : Limits.Sound {} ∧ (({} : Limits).maxSpeed).isFinite = true ∧
    ∃ a, Skill.readArguments "set_speed_advisory" SpeedArguments.decode distantCones = .ok a ∧
      ∃ out, Limits.enforce? {} (merge {} [a.proposal]) none = some out ∧
        ¬ out.Plain ∧ Advisory.decode (toJson out) = .error (.wrongType "null" "f32") := by
  have hread : Skill.readArguments "set_speed_advisory" SpeedArguments.decode distantCones =
      .ok ⟨45, "cones", 0.9, Binary.infinite false⟩ := by decide +kernel
  refine ⟨sound_fresh, by decide, _, hread, _, enforce?_eq_some sound_fresh.maxSpeed_pos _ none, ?_, ?_⟩
  · decide +kernel
  · rfl

end Limits

end DriveAdvisory
