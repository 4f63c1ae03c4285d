/-
  Feeds are read row by row.

  Rows are careless about types and each feed is careless in its own way, so it matters that nothing of this leaks
  from one row into another.  `RowByRow` says so with a reading of SINGLE rows beside the reading of bodies: a row is
  read to an item, is dropped, or cannot be read, and a body is read to what its rows are read to.  That two bodies
  can be read together exactly if each can, and then to what the one and the other are read to, is a consequence; so
  is that one row which cannot be read spoils the body.

  What stands around the rows is an `Envelope`: an object with any other members, or the plain list of its fields.
-/
import DriveAdvisory.Feed.Emergency
import DriveAdvisory.Feed.Traffic
import DriveAdvisory.Feed.Weather
import DriveAdvisory.Proofs.Json.Records
import Mathlib.Data.List.Forall2
import Mathlib.Data.List.ReduceOption

namespace DriveAdvisory

open Fields (bind_eq_ok map_eq_ok)

/-! ## Lists of values -/

section Lists

variable {ε α β γ : Type} {f : α → Except ε β}

theorem map_eq_error {x : Except ε α} {g : α → β} {e : ε} (h : x.map g = .error e) : x = .error e := by
  cases x with
  | error e' => exact congrArg _ (Except.error.inj h)
  | ok a => nomatch h

theorem mapM_cons_eq_ok {item : α} {items : List α} {results : List β} :
    (item :: items).mapM f = .ok results ↔
      ∃ b rest, f item = .ok b ∧ items.mapM f = .ok rest ∧ b :: rest = results := by
  rw [List.mapM_cons]
  constructor
  · intro h
    obtain ⟨b, hb, hrest⟩ := bind_eq_ok.mp h
    obtain ⟨rest, hrest, hcons⟩ := bind_eq_ok.mp hrest
    exact ⟨b, rest, hb, hrest, Except.ok.inj hcons⟩
  · rintro ⟨b, rest, hb, hrest, rfl⟩
    exact bind_eq_ok.mpr ⟨b, hb, bind_eq_ok.mpr ⟨rest, hrest, rfl⟩⟩

/-- The items of a list are read one by one. -/
theorem mapM_eq_ok : ∀ {items : List α} {results : List β},
    items.mapM f = .ok results ↔ List.Forall₂ (fun item b => f item = .ok b) items results
  | [], results => by
    rw [List.mapM_nil, List.forall₂_nil_left_iff]
    exact ⟨fun h => (Except.ok.inj h).symm, fun h => congrArg Except.ok h.symm⟩
  | item :: items, results => by
    rw [mapM_cons_eq_ok]
    constructor
    · rintro ⟨b, rest, hb, hrest, rfl⟩
      exact .cons hb (mapM_eq_ok.mp hrest)
    · rintro (_ | ⟨hb, hrest⟩)
      exact ⟨_, _, hb, mapM_eq_ok.mpr hrest, rfl⟩

/-- A list is read in two parts. -/
theorem mapM_append_eq_ok {xs ys : List α} {results : List β} :
    (xs ++ ys).mapM f = .ok results ↔
      ∃ first second, xs.mapM f = .ok first ∧ ys.mapM f = .ok second ∧ first ++ second = results := by
  rw [List.mapM_append]
  constructor
  · intro h
    obtain ⟨first, hfirst, hsecond⟩ := bind_eq_ok.mp h
    obtain ⟨second, hsecond, happend⟩ := bind_eq_ok.mp hsecond
    exact ⟨first, second, hfirst, hsecond, Except.ok.inj happend⟩
  · rintro ⟨first, second, hfirst, hsecond, rfl⟩
    exact bind_eq_ok.mpr ⟨first, hfirst, bind_eq_ok.mpr ⟨second, hsecond, rfl⟩⟩

/-- What cannot be read has an item that cannot. -/
theorem exists_of_mapM_error : ∀ {items : List α} {e : ε}, items.mapM f = .error e →
    ∃ item ∈ items, f item = .error e
  | [], _, h => nomatch h
  | item :: items, e, h => by
    rw [List.mapM_cons] at h
    cases hitem : f item with
    | error e' =>
      rw [hitem] at h
      obtain rfl : e' = e := Except.error.inj h
      exact ⟨item, List.mem_cons_self, hitem⟩
    | ok b =>
      rw [hitem] at h
      cases hrest : items.mapM f with
      | error e' =>
        rw [hrest] at h
        obtain rfl : e' = e := Except.error.inj h
        obtain ⟨other, hmem, hother⟩ := exists_of_mapM_error hrest
        exact ⟨other, List.mem_cons_of_mem item hmem, hother⟩
      | ok rest =>
        rw [hrest] at h
        nomatch h

theorem mapM_ne_ok_of_mem {items : List α} {item : α} {e : ε} (hmem : item ∈ items)
    (h : f item = .error e) (results : List β) : items.mapM f ≠ .ok results := by
  obtain ⟨front, back, rfl⟩ := List.append_of_mem hmem
  intro hok
  obtain ⟨-, second, -, hsecond, -⟩ := mapM_append_eq_ok.mp hok
  obtain ⟨b, -, hb, -⟩ := mapM_cons_eq_ok.mp hsecond
  rw [h] at hb
  nomatch hb

/-- What is made of each value can be made of it afterwards. -/
theorem mapM_map_eq_ok {g : β → γ} {items : List α} {results : List γ} :
    items.mapM (fun item => (f item).map g) = .ok results ↔
      ∃ found, items.mapM f = .ok found ∧ found.map g = results := by
  rw [mapM_eq_ok]
  constructor
  · intro h
    induction h with
    | nil => exact ⟨[], rfl, rfl⟩
    | cons hitem _ ih =>
      obtain ⟨b, hb, rfl⟩ := map_eq_ok.mp hitem
      obtain ⟨found, hfound, rfl⟩ := ih
      exact ⟨b :: found, mapM_cons_eq_ok.mpr ⟨b, found, hb, hfound, rfl⟩, rfl⟩
  · rintro ⟨found, hfound, rfl⟩
    rw [List.forall₂_map_right_iff]
    exact (mapM_eq_ok.mp hfound).imp fun _ _ h => map_eq_ok.mpr ⟨_, h, rfl⟩

end Lists

/-! ## Rows -/

section Rows

variable {α : Type} {read : Json → Except Mismatch (Option α)}
  {parse : List Json → Except SourceFault (List α)}

/-- A feed is read row by row: `read` is what becomes of a single row, which may be an item or nothing, and `parse`
    is what becomes of the body with the given rows. -/
structure RowByRow (read : Json → Except Mismatch (Option α))
    (parse : List Json → Except SourceFault (List α)) : Prop where
  /-- A body can be read if each of its rows can, and it is read to their items, in their order. -/
  accepts : ∀ rows items, parse rows = .ok items ↔
    ∃ found, List.Forall₂ (fun row item => read row = .ok item) rows found ∧
      found.reduceOption = items
  /-- Bodies can be read together exactly if each of them can, and they are read to what the one and the other
      are read to. -/
  together : ∀ xs ys items, parse (xs ++ ys) = .ok items ↔
    ∃ first second, parse xs = .ok first ∧ parse ys = .ok second ∧ first ++ second = items
  /-- One row that cannot be read spoils the body, and nothing else does. -/
  refuses : ∀ rows, (∃ row ∈ rows, ∃ m, read row = .error m) ↔
    ∃ message, parse rows = .error (.badResponse message)
  /-- There is no other way to fail. -/
  faults : ∀ rows fault, parse rows = .error fault → ∃ message, fault = .badResponse message

/-- A body is read row by row if its rows are decoded one after the other, some are dropped for what they say, and
    nothing else can go wrong. -/
theorem RowByRow.of_mapM {β : Type} {decode : Decoder β} {keep : β → Option α}
    (hread : ∀ row, read row = (decode row).map keep)
    (hparse : ∀ rows items, parse rows = .ok items ↔
      ∃ found, rows.mapM decode = .ok found ∧ found.filterMap keep = items)
    (hfaults : ∀ rows fault, parse rows = .error fault → ∃ message, fault = .badResponse message) :
    RowByRow read parse where
  accepts rows items := by
    obtain rfl : read = fun row => (decode row).map keep := funext hread
    rw [hparse]
    constructor
    · rintro ⟨found, hfound, rfl⟩
      exact ⟨found.map keep, mapM_eq_ok.mp (mapM_map_eq_ok.mpr ⟨found, hfound, rfl⟩),
        List.filterMap_map⟩
    · rintro ⟨_, hrows, rfl⟩
      obtain ⟨found, hfound, rfl⟩ := mapM_map_eq_ok.mp (mapM_eq_ok.mpr hrows)
      refine ⟨found, hfound, ?_⟩
      rw [List.reduceOption, List.filterMap_map]
      rfl
  together xs ys items := by
    constructor
    · intro h
      obtain ⟨found, hfound, rfl⟩ := (hparse _ _).mp h
      obtain ⟨first, second, hfirst, hsecond, rfl⟩ := mapM_append_eq_ok.mp hfound
      exact ⟨_, _, (hparse _ _).mpr ⟨first, hfirst, rfl⟩, (hparse _ _).mpr ⟨second, hsecond, rfl⟩,
        List.filterMap_append.symm⟩
    · rintro ⟨_, _, hxs, hys, rfl⟩
      obtain ⟨first, hfirst, rfl⟩ := (hparse _ _).mp hxs
      obtain ⟨second, hsecond, rfl⟩ := (hparse _ _).mp hys
      exact (hparse _ _).mpr ⟨first ++ second,
        mapM_append_eq_ok.mpr ⟨first, second, hfirst, hsecond, rfl⟩, List.filterMap_append⟩
  refuses rows := by
    constructor
    · rintro ⟨row, hmem, m, hrow⟩
      have hdecode : decode row = .error m := map_eq_error ((hread row).symm.trans hrow)
      cases hresult : parse rows with
      | error fault =>
        obtain ⟨message, rfl⟩ := hfaults rows fault hresult
        exact ⟨message, rfl⟩
      | ok items =>
        obtain ⟨found, hfound, -⟩ := (hparse _ _).mp hresult
        exact absurd hfound (mapM_ne_ok_of_mem hmem hdecode found)
    · rintro ⟨message, hresult⟩
      cases hrows : rows.mapM decode with
      | error m =>
        obtain ⟨row, hmem, hrow⟩ := exists_of_mapM_error hrows
        refine ⟨row, hmem, m, ?_⟩
        rw [hread, hrow]
        rfl
      | ok found =>
        rw [(hparse rows _).mpr ⟨found, hrows, rfl⟩] at hresult
        nomatch hresult
  faults := hfaults

end Rows

/-! ## Bodies -/

/-- What stands around the rows of a body: an object with whatever else it holds, as long as it reports no error,
    or the list of the fields. -/
inductive Envelope
  | object (members : List (String × Json)) (ascending : Json.Ascending members)
      (sound : Json.lookup "error" members = none)
  | array

/-- The body with these rows; `left` are the fields that come after them in a list. -/
def Envelope.body (left rows : List Json) : Envelope → Json
  | object members _ _ => .object (Json.insertMember "features" (.array rows) members)
  | array => .array (.array rows :: left)

/-- The rows are found where they were put. -/
theorem lookup_features (rows : List Json) (members : List (String × Json)) :
    Json.lookup "features" (Json.insertMember "features" (.array rows) members) =
      some (.array rows) := by
  rw [Json.lookup_insertMember, if_pos rfl]

theorem decodeBody_eq_ok {α : Type} {feed : String} {decode : Decoder α} {body : Json} {a : α} :
    decodeBody feed decode body = .ok a ↔ decode body = .ok a := by
  unfold decodeBody
  cases decode body with
  | error m => exact ⟨nofun, nofun⟩
  | ok b =>
    constructor
    · exact fun h => congrArg Except.ok (Except.ok.inj h)
    · exact fun h => congrArg Except.ok (Except.ok.inj h)

theorem decodeBody_eq_error {α : Type} {feed : String} {decode : Decoder α} {body : Json}
    {fault : SourceFault} (h : decodeBody feed decode body = .error fault) :
    ∃ message, fault = .badResponse message := by
  unfold decodeBody at h
  split at h
  · nomatch h
  · exact ⟨_, (Except.error.inj h).symm⟩

/-! ### Traffic -/

namespace TrafficEvent

/-- A row is an event. -/
def readRow (row : Json) : Except Mismatch (Option TrafficEvent) := (decode row).map some

theorem rowByRow : RowByRow readRow fun rows => ofBody (.array rows) := by
  refine .of_mapM (fun _ => rfl) (fun rows items => ?_) fun rows fault h => decodeBody_eq_error h
  have hbody : ofBody (.array rows) = .ok items ↔ rows.mapM decode = .ok items := decodeBody_eq_ok
  simp only [hbody, List.filterMap_some, exists_eq_right]

end TrafficEvent

/-! ### Weather -/

namespace WeatherAlert

/-- A row is an alert, which is cut where it is long. -/
def readRow (row : Json) : Except Mismatch (Option WeatherAlert) :=
  (decodeRow row).map fun a => some a.kept

/-- Only the rows of a body are looked at. -/
theorem decodeBody_body (e : Envelope) (rows : List Json) (found : List WeatherAlert) :
    decodeBody (e.body [] rows) = .ok found ↔ rows.mapM decodeRow = .ok found := by
  cases e with
  | object members ascending sound =>
    have hmembers := ascending.insertMember "features" (.array rows)
    exact (Fields.record_eq_ok hmembers _ _ _).trans
      (Fields.one_reads hmembers (lookup_features rows members) _ _ _ _)
  | array =>
    refine (Fields.record_array_eq_ok _ _ _ _).trans ?_
    constructor
    · rintro ⟨next, h⟩
      exact (Fields.one_ofItems_eq_ok.mp h).1
    · exact fun h => ⟨1, Fields.one_ofItems_eq_ok.mpr ⟨h, rfl, rfl⟩⟩

theorem rowByRow (e : Envelope) : RowByRow readRow fun rows => ofBody (e.body [] rows) := by
  refine .of_mapM (fun _ => rfl) (fun rows items => ?_)
    fun rows fault h => decodeBody_eq_error (map_eq_error h)
  have hbody : ofBody (e.body [] rows) = .ok items ↔
      ∃ found, rows.mapM decodeRow = .ok found ∧ found.map kept = items := by
    rw [ofBody, map_eq_ok]
    exact exists_congr fun found =>
      and_congr_left' (decodeBody_eq_ok.trans (decodeBody_body e rows found))
  rw [hbody]
  exact exists_congr fun found => and_congr_right' (by rw [← List.filterMap_eq_map]; rfl)

end WeatherAlert

/-! ### The emergency layers -/

section Layers

variable {α β : Type} {feed : String} {about : Decoder α} {blank : α} {keep : Feature α → Option β}

/-- Only the rows of a layer are looked at, and it reports no error. -/
theorem Layer.decode_body (e : Envelope) (rows : List Json) (layer : Layer α) :
    Layer.decode about blank (e.body [.null] rows) = .ok layer ↔
      ∃ found, rows.mapM (Feature.decode about blank) = .ok found ∧ ⟨found, none⟩ = layer := by
  cases e with
  | object members ascending sound =>
    have hmembers := ascending.insertMember "features" (.array rows)
    have hrows := lookup_features rows members
    have hsound : Json.lookup "error" (Json.insertMember "features" (.array rows) members) = none := by
      rw [Json.lookup_insertMember, if_neg (by decide), sound]
    refine (Fields.record_eq_ok hmembers _ _ _).trans ((Fields.seq_reads _ _ _).trans ?_)
    constructor
    · rintro ⟨_, error, hfields, herror, rfl⟩
      obtain ⟨found, hfound, rfl⟩ := (Fields.map_reads _ _ _).mp hfields
      obtain rfl := Option.some.inj ((Fields.one_reads_of_missing hsound _ _ _ _).mp herror)
      exact ⟨found, (Fields.one_reads hmembers hrows _ _ _ _).mp hfound, rfl⟩
    · rintro ⟨found, hfound, rfl⟩
      exact ⟨_, none,
        (Fields.map_reads _ _ _).mpr ⟨found, (Fields.one_reads hmembers hrows _ _ _ _).mpr hfound, rfl⟩,
        (Fields.one_reads_of_missing hsound _ _ _ _).mpr rfl, rfl⟩
  | array =>
    refine (Fields.record_array_eq_ok _ _ _ _).trans ?_
    constructor
    · rintro ⟨next, h⟩
      obtain ⟨_, middle, left, hfields, error, herror, rfl⟩ := (Fields.seq_ofItems_eq_ok _ _ _).mp h
      obtain ⟨found, hfound, rfl⟩ := (Fields.map_ofItems_eq_ok _ _ _).mp hfields
      obtain ⟨hrows, rfl, rfl⟩ := Fields.one_ofItems_eq_ok.mp hfound
      obtain ⟨hnull, -, -⟩ := Fields.one_ofItems_eq_ok.mp herror
      obtain rfl : none = error := Except.ok.inj hnull
      exact ⟨found, hrows, rfl⟩
    · rintro ⟨found, hfound, rfl⟩
      exact ⟨2, (Fields.seq_ofItems_eq_ok _ _ _).mpr ⟨_, 1, [.null],
        (Fields.map_ofItems_eq_ok _ _ _).mpr
          ⟨found, Fields.one_ofItems_eq_ok.mpr ⟨hfound, rfl, rfl⟩, rfl⟩,
        none, Fields.one_ofItems_eq_ok.mpr ⟨rfl, rfl, rfl⟩, rfl⟩⟩

theorem layerRows_body (e : Envelope) (rows : List Json) (found : List (Feature α)) :
    layerRows feed about blank (e.body [.null] rows) = .ok found ↔
      rows.mapM (Feature.decode about blank) = .ok found := by
  refine bind_eq_ok.trans ?_
  simp only [decodeBody_eq_ok, Layer.decode_body]
  constructor
  · rintro ⟨_, ⟨found', hfound, rfl⟩, h⟩
    obtain rfl := Except.ok.inj h
    exact hfound
  · exact fun hfound => ⟨_, ⟨found, hfound, rfl⟩, rfl⟩

theorem layerRows_eq_error {body : Json} {fault : SourceFault}
    (h : layerRows feed about blank body = .error fault) : ∃ message, fault = .badResponse message := by
  unfold layerRows at h
  cases hbody : decodeBody feed (Layer.decode about blank) body with
  | error fault' =>
    rw [hbody] at h
    obtain rfl : fault' = fault := Except.error.inj h
    exact decodeBody_eq_error hbody
  | ok layer =>
    rw [hbody] at h
    obtain ⟨rows, error⟩ := layer
    cases error with
    | some error => exact ⟨_, (Except.error.inj h).symm⟩
    | none => nomatch h

/-- A layer is read row by row, whatever is kept of its rows. -/
theorem rowByRow_layer (feed : String) (about : Decoder α) (blank : α) (keep : Feature α → Option β)
    (e : Envelope) :
    RowByRow (fun row => (Feature.decode about blank row).map keep) fun rows =>
      (layerRows feed about blank (e.body [.null] rows)).map fun found => found.filterMap keep := by
  refine .of_mapM (fun _ => rfl) (fun rows items => ?_)
    fun rows fault h => layerRows_eq_error (map_eq_error h)
  simp only [map_eq_ok, layerRows_body]

end Layers

namespace Shelter

/-- A row is a shelter if it lies within the radius. -/
def readRow (globe : Globe) (layer : ShelterLayer) (origin : Point) (radiusMiles : Double) (row : Json) :
    Except Mismatch (Option Shelter) :=
  let placed (place : Option MapPoint) := placed? globe origin (milesToMetres radiusMiles) place
  match layer with
  | .active => (Feature.decode OpenRow.decode {} row).map fun row =>
      (placed row.place).map fun (location, distance) => ofOpenRow row.about location distance
  | .inventory => (Feature.decode PlannedRow.decode {} row).map fun row =>
      (placed row.place).map fun (location, distance) => ofPlannedRow row.about location distance

theorem rowByRow (globe : Globe) (layer : ShelterLayer) (origin : Point) (radiusMiles : Double)
    (e : Envelope) :
    RowByRow (readRow globe layer origin radiusMiles) fun rows =>
      ofBody globe layer origin radiusMiles (e.body [.null] rows) := by
  cases layer with
  | active => exact rowByRow_layer _ _ _ _ e
  | inventory => exact rowByRow_layer _ _ _ _ e

end Shelter

namespace EvacuationRoute

/-- A row is a route if it can be named. -/
def readRow (row : Json) : Except Mismatch (Option EvacuationRoute) :=
  (Feature.decode decode ⟨"", "", "", ""⟩ row).map fun row => row.about.named?

theorem rowByRow (e : Envelope) : RowByRow readRow fun rows => ofBody (e.body [.null] rows) :=
  rowByRow_layer _ _ _ _ e

end EvacuationRoute

/-! ## All feeds -/

/-- **Feeds are read row by row**: traffic events, weather alerts, shelters of either layer around any position,
    and evacuation routes, whatever stands around their rows. -/
theorem rowByRow_feeds :
    RowByRow TrafficEvent.readRow (fun rows => TrafficEvent.ofBody (.array rows)) ∧
    ∀ e : Envelope,
      RowByRow WeatherAlert.readRow (fun rows => WeatherAlert.ofBody (e.body [] rows)) ∧
      (∀ globe layer origin radiusMiles,
        RowByRow (Shelter.readRow globe layer origin radiusMiles) fun rows =>
          Shelter.ofBody globe layer origin radiusMiles (e.body [.null] rows)) ∧
      RowByRow EvacuationRoute.readRow (fun rows => EvacuationRoute.ofBody (e.body [.null] rows)) :=
  ⟨TrafficEvent.rowByRow, fun e => ⟨WeatherAlert.rowByRow e,
    fun globe layer origin radiusMiles => Shelter.rowByRow globe layer origin radiusMiles e,
    EvacuationRoute.rowByRow e⟩⟩

end DriveAdvisory
