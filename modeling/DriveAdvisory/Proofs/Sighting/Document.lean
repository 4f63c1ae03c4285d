/-
  A sighting is read back from its document, and its document from its text.

  Documents have no numbers but finite ones, so a sighting with another number has a document that is no
  sighting's (`decode_toJson`).  Its text is read as that document, no sighting's as it may be, if each of the
  finite numbers is read back from its own (`read?_render_toJson`).
-/
import DriveAdvisory.Proofs.Json.Records
import DriveAdvisory.Proofs.Json.RoundTrip
import DriveAdvisory.Proofs.Number.Conversion
import DriveAdvisory.Proofs.Text.Identifier
import DriveAdvisory.Proofs.Time.Moment
import DriveAdvisory.Sighting.Record
import Mathlib.Tactic.MkIffOfInductiveProp

namespace DriveAdvisory

/-! ## Single values -/

theorem Decoder.double_toJson (x y : Double) :
    Decoder.double (toJson x) = .ok y ↔ x.isFinite = true ∧ x = y := by
  by_cases h : x.isFinite = true
  · have hdoc : toJson x = .number (.real x.convert) := if_pos h
    have hread : Decoder.double (.number (.real x.convert)) = .ok ((x.convert : Double).convert) := rfl
    rw [hdoc, hread, Binary.convert_self h, Binary.convert_self h]
    simp [h]
  · have hdoc : toJson x = .null := if_neg h
    rw [hdoc]
    exact ⟨nofun, fun hx => absurd hx.1 h⟩

theorem Decoder.single_toJson (x y : Single) :
    Decoder.single (toJson x) = .ok y ↔ x.isFinite = true ∧ x = y := by
  by_cases h : x.isFinite = true
  · have hdoc : toJson x = .number (.real x.convert) := if_pos h
    have hread : Decoder.single (.number (.real x.convert)) = .ok ((x.convert : Double).convert) := rfl
    rw [hdoc, hread, Binary.convert_widened BinaryFormat.widens_single h]
    simp [h]
  · have hdoc : toJson x = .null := if_neg h
    rw [hdoc]
    exact ⟨nofun, fun hx => absurd hx.1 h⟩

theorem Decoder.string_toJson (s t : String) : Decoder.string (toJson s) = .ok t ↔ s = t := by
  have hread : Decoder.string (toJson s) = .ok s := rfl
  rw [hread, Except.ok.injEq]

theorem Decoder.nullable_string_toJson (s t : Option String) :
    Decoder.string.nullable (toJson s) = .ok t ↔ s = t := by
  have hread : Decoder.string.nullable (toJson s) = .ok s := by
    cases s <;> rfl
  rw [hread, Except.ok.injEq]

theorem Issue.decode_toJson (a b : Issue) : Issue.decode (toJson a) = .ok b ↔ a = b := by
  have hread : Issue.decode (toJson a) = .ok a := by
    cases a <;> rfl
  rw [hread, Except.ok.injEq]

theorem Severity.decode_toJson (a b : Severity) : Severity.decode (toJson a) = .ok b ↔ a = b := by
  have hread : Severity.decode (toJson a) = .ok a := by
    cases a <;> rfl
  rw [hread, Except.ok.injEq]

theorem Lane.decode_toJson (a b : Lane) : Lane.decode (toJson a) = .ok b ↔ a = b := by
  have hread : Lane.decode (toJson a) = .ok a := by
    cases a <;> rfl
  rw [hread, Except.ok.injEq]

namespace Sighting

theorem decodeId_toJson (a b : Identifier) : decodeId (toJson a) = .ok b ↔ a = b := by
  have hread : decodeId (toJson a) = .ok a := by
    have hdoc : toJson a = .string (Identifier.text a) := rfl
    rw [hdoc, decodeId, Identifier.ofText?_text]
  rw [hread, Except.ok.injEq]

theorem decodeMoment_documentText {a : Moment} (h : a.Valid) (b : Moment) :
    decodeMoment (.string a.documentText) = .ok b ↔ a = b := by
  have hread : decodeMoment (.string a.documentText) = .ok a := by
    rw [decodeMoment, (Moment.ofText?_written h).2]
  rw [hread, Except.ok.injEq]

/-! ## Sightings -/

/-- Every number of the sighting is finite. -/
@[mk_iff]
structure Plain (s : Sighting) : Prop where
  clock : s.clock.isFinite = true
  latitude : s.latitude.isFinite = true
  longitude : s.longitude.isFinite = true
  accuracy : s.accuracy.isFinite = true
  bearing : s.bearing.isFinite = true
  speed : s.speed.isFinite = true
  confidence : s.confidence.isFinite = true

instance (s : Sighting) : Decidable s.Plain := decidable_of_iff _ (plain_iff s).symm

/-- The members of a sighting's document, as they are declared. -/
def members (s : Sighting) : List (String × Json) :=
  [("id", toJson s.id), ("timestamp", .string s.seenAt.documentText), ("monotonic_s", toJson s.clock),
    ("latitude", toJson s.latitude), ("longitude", toJson s.longitude),
    ("accuracy_m", toJson s.accuracy), ("bearing_deg", toJson s.bearing),
    ("speed_ms", toJson s.speed), ("road_name", toJson s.road), ("category", toJson s.issue),
    ("severity", toJson s.severity), ("lane_position", toJson s.lane),
    ("description", toJson s.description), ("confidence", toJson s.confidence)]

theorem toJson_eq (s : Sighting) : toJson s = .object (Json.sortMembers s.members) := rfl

theorem nodup_members (s : Sighting) : (s.members.map Prod.fst).Nodup := by
  show ["id", "timestamp", "monotonic_s", "latitude", "longitude", "accuracy_m", "bearing_deg",
    "speed_ms", "road_name", "category", "severity", "lane_position", "description",
    "confidence"].Nodup
  decide

/-- **A sighting's document** is read as the sighting, unless a number of it is not finite. -/
theorem decode_toJson {s : Sighting} (h : s.seenAt.Valid) (t : Sighting) :
    decode (toJson s) = .ok t ↔ s.Plain ∧ s = t := by
  have hsorted := Json.ascending_sortMembers s.members
  have hfound : ∀ m ∈ s.members, Json.lookup m.1 (Json.sortMembers s.members) = some m.2 :=
    fun m hm => Json.lookup_sortMembers s.nodup_members hm
  have hid := hfound ("id", toJson s.id) (by simp [members])
  have hseenAt := hfound ("timestamp", .string s.seenAt.documentText) (by simp [members])
  have hclock := hfound ("monotonic_s", toJson s.clock) (by simp [members])
  have hlatitude := hfound ("latitude", toJson s.latitude) (by simp [members])
  have hlongitude := hfound ("longitude", toJson s.longitude) (by simp [members])
  have haccuracy := hfound ("accuracy_m", toJson s.accuracy) (by simp [members])
  have hbearing := hfound ("bearing_deg", toJson s.bearing) (by simp [members])
  have hspeed := hfound ("speed_ms", toJson s.speed) (by simp [members])
  have hroad := hfound ("road_name", toJson s.road) (by simp [members])
  have hissue := hfound ("category", toJson s.issue) (by simp [members])
  have hseverity := hfound ("severity", toJson s.severity) (by simp [members])
  have hlane := hfound ("lane_position", toJson s.lane) (by simp [members])
  have hdescription := hfound ("description", toJson s.description) (by simp [members])
  have hconfidence := hfound ("confidence", toJson s.confidence) (by simp [members])
  -- the record is read if every field finds its member and likes it, and only numbers can be disliked
  rw [toJson_eq, decode, Fields.record_eq_ok hsorted]
  simp only [Fields.seq_reads, Fields.map_reads, Fields.required_reads hsorted hid,
    Fields.required_reads hsorted hseenAt, Fields.required_reads hsorted hclock,
    Fields.required_reads hsorted hlatitude, Fields.required_reads hsorted hlongitude,
    Fields.required_reads hsorted haccuracy, Fields.required_reads hsorted hbearing,
    Fields.required_reads hsorted hspeed, Fields.optional_reads hsorted hroad,
    Fields.required_reads hsorted hissue, Fields.required_reads hsorted hseverity,
    Fields.required_reads hsorted hlane, Fields.required_reads hsorted hdescription,
    Fields.required_reads hsorted hconfidence, decodeId_toJson, decodeMoment_documentText h,
    Decoder.double_toJson, Decoder.single_toJson, Decoder.string_toJson,
    Decoder.nullable_string_toJson, Issue.decode_toJson, Severity.decode_toJson,
    Lane.decode_toJson]
  -- so the values that were read are those that were written
  simp only [and_assoc, exists_and_left, exists_eq_left', plain_iff]

/-! ## Texts -/

/-- The number, if it is finite, is read back from its text. -/
def NumberReadsBack {f : BinaryFormat} (x : Binary f) : Prop :=
  x.isFinite = true → (JsonNumber.real x.convert).ReadsBack

/-- The finite numbers of the sighting are read back from their texts. -/
structure Legible (s : Sighting) : Prop where
  clock : NumberReadsBack s.clock
  latitude : NumberReadsBack s.latitude
  longitude : NumberReadsBack s.longitude
  accuracy : NumberReadsBack s.accuracy
  bearing : NumberReadsBack s.bearing
  speed : NumberReadsBack s.speed
  confidence : NumberReadsBack s.confidence

theorem NumberReadsBack.fits {f : BinaryFormat} {x : Binary f} (h : NumberReadsBack x) (depth : Nat) :
    Json.Fits depth (toJson x) := by
  by_cases hfinite : x.isFinite = true
  · have hdoc : toJson x = .number (.real x.convert) := if_pos hfinite
    rw [hdoc]
    cases depth <;> exact h hfinite
  · have hdoc : toJson x = .null := if_neg hfinite
    rw [hdoc]
    cases depth <;> trivial

theorem fits_members {s : Sighting} (h : s.Legible) (depth : Nat) :
    ∀ m ∈ s.members, Json.Fits (depth + 1) m.2 := by
  simp only [members, List.forall_mem_cons]
  refine ⟨trivial, trivial, h.clock.fits _, h.latitude.fits _, h.longitude.fits _, h.accuracy.fits _,
    h.bearing.fits _, h.speed.fits _, ?_, trivial, trivial, trivial, trivial, h.confidence.fits _,
    nofun⟩
  cases s.road <;> trivial

/-- **A sighting's text** is read as its document. -/
theorem read?_render_toJson {s : Sighting} (h : s.Legible) :
    Json.read? (toJson s).render = some (toJson s) := by
  have hmembers : ∀ m ∈ Json.sortMembers s.members, Json.Fits 126 m.2 :=
    fun m hm => fits_members h 125 m (Json.mem_sortMembers hm)
  exact Json.read?_render ⟨Json.ascending_sortMembers s.members, hmembers⟩

end Sighting
end DriveAdvisory
