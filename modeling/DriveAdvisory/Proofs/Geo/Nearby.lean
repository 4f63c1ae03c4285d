/-
  What a search around a position finds.

  What a search is for is said item by item (`Wants`), and `Picked` collects the items it is for, in the order of the
  input.  A search then gives exactly these, each once, nearest first: what `Picked` leaves open is only the order,
  and the order is that of a stable sort (`Finds`).

  A wider radius lets more items in and is otherwise no other search.  Leaving out what is too far commutes with
  sorting, and what is left out stands behind all the rest, so the narrower search gives a front part of what the
  wider one gives.

  Sorting is by the total order of numbers and not by the numeric one, and the difference is one pair of numbers:
  the negative zero stands in front of the other one although it is no less.  A distance that is the same number is
  therefore always one tie; numerically equal distances are one as long as none of them is a negative zero.

  Words are compared in lower case, so it does not matter in which case a request is written (`word?_congr`), nor in
  which case items say what they say of themselves (`hits_retold`).

  Nothing is known of the globe but that its distances are numbers.
-/
import DriveAdvisory.Feed.Traffic
import DriveAdvisory.Geo.Nearby
import DriveAdvisory.Proofs.Advisory.Precedence
import DriveAdvisory.Proofs.Order.Stability
import DriveAdvisory.Proofs.Text.Lower

namespace DriveAdvisory

/-! ## Words in texts -/

theorem Text.occursIn_iff {inner : List Char} : ∀ {outer : List Char},
    Text.occursIn inner outer = true ↔ inner <:+: outer
  | [] => by rw [Text.occursIn, List.isEmpty_iff, List.infix_nil]
  | c :: rest => by
    rw [Text.occursIn, Bool.or_eq_true, List.isPrefixOf_iff_prefix, occursIn_iff, List.infix_cons_iff]

namespace Search

/-- What an item says of itself holds the wanted word, whatever its case.  An item that says nothing holds no word,
    and where no word is wanted there is none to hold. -/
def Holds (wanted found : Option String) : Prop :=
  ∀ word ∈ wanted, ∃ text ∈ found, word.toList <:+: (Text.lower text).toList

theorem matchesWord_iff {wanted found : Option String} :
    matchesWord wanted found = true ↔ Holds wanted found := by
  cases wanted with
  | none => simp [matchesWord, Holds]
  | some word =>
    cases found with
    | none => simp [matchesWord, Holds]
    | some text => simp [matchesWord, Holds, Text.contains, Text.occursIn_iff]

/-- What is asked for, blanks at its ends and its case aside, is held; a blank request asks for nothing. -/
def Heeds (request found : Option String) : Prop :=
  ∀ text ∈ request, Text.trim text ≠ "" →
    ∃ said ∈ found, (Text.lower (Text.trim text)).toList <:+: (Text.lower said).toList

theorem holds_word?_iff {request found : Option String} :
    Holds (word? request) found ↔ Heeds request found := by
  cases request with
  | none => simp [Holds, Heeds, word?]
  | some text =>
    by_cases h : Text.trim text = ""
    · simp [Holds, Heeds, word?, Text.trimmed?, h]
    · simp [Holds, Heeds, word?, Text.trimmed?, h]

/-- In ASCII what is asked for is held if it is said somewhere, in whatever case. -/
theorem heeds_iff_of_ascii {text said : String} (htext : Text.IsAscii text) (hsaid : Text.IsAscii said) :
    Heeds (some text) (some said) ↔
      (Text.trim text ≠ "" → Text.small (Text.trim text) <:+: Text.small said) := by
  simp [Heeds, Text.toList_lower hsaid, Text.toList_lower htext.trim]

/-- The case of a request does not matter. -/
theorem word?_congr {request other : Option String} (h : Text.SameWords request other) :
    word? request = word? other := by
  cases request with
  | none =>
    cases other with
    | none => rfl
    | some b => nomatch h
  | some a =>
    cases other with
    | none => nomatch h
    | some b =>
      have hsmall : Text.small a = Text.small b := Option.some.inj h
      have htrim : Text.small (Text.trim a) = Text.small (Text.trim b) := by
        rw [Text.small_trim, Text.small_trim, hsmall]
      have hblank := Text.trim_eq_empty_congr hsmall
      by_cases hb : Text.trim b = ""
      · simp [word?, Text.trimmed?, hb, hblank.mpr hb]
      · simp [word?, Text.trimmed?, hb, mt hblank.mp hb, Text.lower_congr htrim]

/-- Neither does the case of what an item says. -/
theorem matchesWord_congr {found other : Option String} (h : Text.SameWords found other)
    (wanted : Option String) : matchesWord wanted found = matchesWord wanted other := by
  cases found with
  | none =>
    cases other with
    | none => rfl
    | some b => nomatch h
  | some a =>
    cases other with
    | none => nomatch h
    | some b => simp [matchesWord, Text.lower_congr (Option.some.inj h)]

/-- Two accounts of the same items: by both they lie in the same place, and say the same of themselves, if in another
    case. -/
structure Retold {α : Type} (one other : Located α) : Prop where
  position : ∀ item, one.position item = other.position item
  direction : ∀ item, Text.SameWords (one.direction item) (other.direction item)
  corridor : ∀ item, Text.SameWords (one.corridor item) (other.corridor item)

/-- By both the same items are found. -/
theorem hits_retold {α : Type} {one other : Located α} (h : Retold one other) (globe : Globe)
    (search : Search) (origin : Point) (items : List α) :
    @hits α one globe search origin items = @hits α other globe search origin items := by
  have hone : @hit? α one globe search origin = @hit? α other globe search origin := by
    funext item
    unfold hit?
    rw [h.position, matchesWord_congr (h.direction item), matchesWord_congr (h.corridor item)]
  unfold hits
  rw [hone]

/-! ## What a search is for -/

section Wanted

variable {α : Type} [located : Located α] {globe : Globe} {search : Search} {origin : Point} {item : α}
  {items : List α} {found : List (Hit α)} {radius : Double}

/-- The search is for the item, which is that far away. -/
structure Wants (globe : Globe) (search : Search) (origin : Point) (item : α)
    (distance : Double) : Prop where
  place : ∃ position, Located.position item = some position ∧
    globe.distance position origin = distance
  near : distance ≤ search.radius
  direction : Holds search.direction (Located.direction item)
  corridor : Holds search.corridor (Located.corridor item)

/-- The items that a search is for, in their order and each with its distance. -/
inductive Picked (globe : Globe) (search : Search) (origin : Point) :
    List α → List (Hit α) → Prop
  | nil : Picked globe search origin [] []
  | keep {item : α} {distance : Double} {items : List α} {found : List (Hit α)}
    (wanted : Wants globe search origin item distance) (rest : Picked globe search origin items found) :
    Picked globe search origin (item :: items) (⟨item, distance⟩ :: found)
  | leave {item : α} {items : List α} {found : List (Hit α)}
    (unwanted : ∀ distance, ¬ Wants globe search origin item distance)
    (rest : Picked globe search origin items found) :
    Picked globe search origin (item :: items) found

/-- **Finding one item.** -/
theorem hit?_eq_some_iff (hglobe : ∀ a b, (globe.distance a b).isNaN = false)
    (hradius : search.radius.isNaN = false) {hit : Hit α} :
    search.hit? globe origin item = some hit ↔
      hit.item = item ∧ Wants globe search origin item hit.distance := by
  unfold hit?
  cases hplace : Located.position item with
  | none =>
    refine ⟨nofun, fun ⟨_, hwants⟩ => ?_⟩
    obtain ⟨position, hposition, -⟩ := hwants.place
    rw [hplace] at hposition
    nomatch hposition
  | some position =>
    have hnear := Binary.not_lt hradius (hglobe position origin)
    simp only [bind, Option.bind, ite_eq_iff, Bool.and_eq_true, matchesWord_iff]
    constructor
    · rintro (⟨-, h⟩ | ⟨hfar, ⟨⟨hdirection, hcorridor⟩, h⟩ | ⟨-, h⟩⟩)
      · nomatch h
      · obtain rfl := Option.some.inj h
        exact ⟨rfl, ⟨position, hplace, rfl⟩, hnear.mp hfar, hdirection, hcorridor⟩
      · nomatch h
    · rintro ⟨rfl, ⟨there, hthere, hdistance⟩, hclose, hdirection, hcorridor⟩
      obtain rfl : position = there := Option.some.inj (hplace.symm.trans hthere)
      rw [hdistance] at hnear
      rw [hdistance]
      exact .inr ⟨hnear.mpr hclose, .inl ⟨⟨hdirection, hcorridor⟩, rfl⟩⟩

/-- **Picking the items of a list.** -/
theorem picked_filterMap (hglobe : ∀ a b, (globe.distance a b).isNaN = false)
    (hradius : search.radius.isNaN = false) : ∀ items : List α,
    Picked globe search origin items (items.filterMap (search.hit? globe origin))
  | [] => .nil
  | item :: items => by
    have hrest := picked_filterMap hglobe hradius items
    cases hhit : search.hit? globe origin item with
    | none =>
      rw [List.filterMap_cons_none hhit]
      refine .leave (fun distance hwants => ?_) hrest
      have hsome : search.hit? globe origin item = some ⟨item, distance⟩ :=
        (hit?_eq_some_iff hglobe hradius).mpr ⟨rfl, hwants⟩
      rw [hhit] at hsome
      nomatch hsome
    | some hit =>
      obtain ⟨rfl, hwants⟩ := (hit?_eq_some_iff hglobe hradius).mp hhit
      rw [List.filterMap_cons_some hhit]
      exact .keep hwants hrest

theorem Picked.wants {hit : Hit α} (h : Picked globe search origin items found)
    (hhit : hit ∈ found) : Wants globe search origin hit.item hit.distance := by
  induction h with
  | nil => nomatch hhit
  | keep wanted _ ih =>
    rcases List.mem_cons.mp hhit with rfl | hhit
    · exact wanted
    · exact ih hhit
  | leave _ _ ih => exact ih hhit

/-- A narrower search is for the items of a wider one that are not too far. -/
theorem wants_iff_wider (h : search.radius ≤ radius) {distance : Double} :
    Wants globe search origin item distance ↔
      Wants globe { search with radius } origin item distance ∧ distance ≤ search.radius := by
  constructor
  · rintro ⟨hplace, hnear, hdirection, hcorridor⟩
    exact ⟨⟨hplace, Binary.le_trans hnear h, hdirection, hcorridor⟩, hnear⟩
  · rintro ⟨⟨hplace, -, hdirection, hcorridor⟩, hnear⟩
    exact ⟨hplace, hnear, hdirection, hcorridor⟩

theorem hit?_eq_filter (hglobe : ∀ a b, (globe.distance a b).isNaN = false)
    (h : search.radius ≤ radius) (item : α) : search.hit? globe origin item =
      (({ search with radius } : Search).hit? globe origin item).filter fun hit =>
        hit.distance ≤ search.radius := by
  have hnarrow := Binary.not_isNaN_of_le_left h
  have hwide := Binary.not_isNaN_of_le_right h
  apply Option.ext
  intro hit
  rw [Option.filter_eq_some_iff, decide_eq_true_iff, hit?_eq_some_iff hglobe hnarrow,
    hit?_eq_some_iff hglobe hwide, wants_iff_wider h, and_assoc]

/-! ## What it finds -/

/-- What a search promises of what it finds. -/
structure Finds (globe : Globe) (search : Search) (origin : Point) (items : List α) : Prop where
  /-- It finds the items that it is for, each once.  Items of the same distance stay in the order of the input, and
      so do those of equal distances, as long as no distance is the negative zero. -/
  wanted : ∃ found, Picked globe search origin items found ∧
    (search.hits globe origin items).Perm found ∧
    (∀ distance, (search.hits globe origin items).filter (fun hit => hit.distance = distance) =
      found.filter fun hit => hit.distance = distance) ∧
    ((∀ hit ∈ found, hit.distance ≠ Binary.zero true) → ∀ distance : Double,
      (search.hits globe origin items).filter (fun hit => hit.distance.eqv distance) =
        found.filter fun hit => hit.distance.eqv distance)
  /-- The nearest comes first. -/
  sorted : (search.hits globe origin items).Pairwise fun a b => a.distance ≤ b.distance
  /-- A wider search begins with what a narrower one finds. -/
  wider : ∀ radius, search.radius ≤ radius →
    search.hits globe origin items <+: ({ search with radius } : Search).hits globe origin items
  /-- A search along a direction and a corridor heeds what was asked for. -/
  asked : ∀ miles direction corridor, search = withinMiles miles direction corridor → ∀ said,
    (Holds search.direction said ↔ Heeds direction said) ∧
      (Holds search.corridor said ↔ Heeds corridor said)
  /-- In ASCII it does if that is said somewhere once all capitals are small. -/
  ascii : ∀ text said, Text.IsAscii text → Text.IsAscii said →
    (Heeds (some text) (some said) ↔
      (Text.trim text ≠ "" → Text.small (Text.trim text) <:+: Text.small said))
  /-- So it does not matter in which case it is asked, nor in which case items say what they say. -/
  caseless : ∀ miles direction corridor, search = withinMiles miles direction corridor →
    ∀ direction' corridor', Text.SameWords direction' direction → Text.SameWords corridor' corridor →
    ∀ told : Located α, Retold told located →
      @hits α told globe (withinMiles miles direction' corridor') origin items =
        @hits α located globe search origin items

theorem hits_eq (globe : Globe) (search : Search) (origin : Point) (items : List α) :
    search.hits globe origin items = Order.sort (Order.upTo fun hit : Hit α => hit.distance.orderKey)
      (items.filterMap (search.hit? globe origin)) := by
  have hle : (Hit.noFarther : Hit α → Hit α → Bool) =
      Order.upTo fun hit => hit.distance.orderKey := by
    funext a b
    rw [Bool.eq_iff_iff, Hit.noFarther, bne_iff_ne, decide_eq_true_iff,
      Binary.totalCompare_ne_gt_iff]
  rw [hits, hle]

/-- Nothing stands in front of something strictly nearer, whatever the distances are. -/
theorem hits_not_nearer (globe : Globe) (search : Search) (origin : Point) (items : List α) :
    (search.hits globe origin items).Pairwise fun a b => a.distance.orderKey ≤ b.distance.orderKey := by
  rw [hits_eq]
  exact Order.sort_pairwise _ _

theorem mem_hits {hit : Hit α} : hit ∈ search.hits globe origin items ↔
    hit ∈ items.filterMap (search.hit? globe origin) := Order.mem_sort

/-- **Nearest first**: what stands in front is no farther. -/
theorem hits_sorted (hglobe : ∀ a b, (globe.distance a b).isNaN = false)
    (hradius : search.radius.isNaN = false) (items : List α) :
    (search.hits globe origin items).Pairwise fun a b => a.distance ≤ b.distance := by
  have hnumber : ∀ hit ∈ search.hits globe origin items, hit.distance.isNaN = false := by
    intro hit hhit
    have hwants := (picked_filterMap hglobe hradius items).wants (mem_hits.mp hhit)
    exact Binary.not_isNaN_of_le_left hwants.near
  refine (hits_not_nearer globe search origin items).imp_of_mem fun ha hb h => ?_
  exact Binary.le_of_orderKey_le (hnumber _ ha) (hnumber _ hb) h

/-- **Widening**: what a narrower search leaves out stands behind all that it finds. -/
theorem hits_prefix (hglobe : ∀ a b, (globe.distance a b).isNaN = false)
    (h : search.radius ≤ radius) (items : List α) : search.hits globe origin items <+:
      ({ search with radius } : Search).hits globe origin items := by
  have hnarrow : search.hits globe origin items =
      (({ search with radius } : Search).hits globe origin items).filter fun hit =>
        hit.distance ≤ search.radius := by
    rw [hits_eq, hits_eq, ← Order.sort_filter, List.filter_filterMap]
    congr 2
    funext item
    exact hit?_eq_filter hglobe h item
  rw [hnarrow]
  refine Order.filter_prefix ((hits_sorted hglobe (Binary.not_isNaN_of_le_right h) items).imp ?_)
  intro a b hab hb
  rw [decide_eq_true_iff] at hb ⊢
  exact Binary.le_trans hab hb

/-- **What a search finds**, on every globe. -/
theorem finds (globe : Globe) (search : Search) (origin : Point) (items : List α)
    (hglobe : ∀ a b, (globe.distance a b).isNaN = false) (hradius : search.radius.isNaN = false) :
    Finds globe search origin items where
  wanted := by
    refine ⟨_, picked_filterMap hglobe hradius items, ?_⟩
    rw [hits_eq]
    refine ⟨Order.sort_perm _ _, fun distance => ?_, fun hsigned distance => ?_⟩
    · apply Order.sort_level
      intro a ha b hb
      rw [List.mem_filter, decide_eq_true_iff] at ha hb
      rw [ha.2, hb.2]
    · apply Order.sort_level
      intro a ha b hb
      rw [List.mem_filter] at ha hb
      have hequal := Binary.eqv_trans ha.2 (Binary.eqv_symm hb.2)
      rw [Binary.eq_of_eqv (hsigned a ha.1) (hsigned b hb.1) hequal]
  sorted := hits_sorted hglobe hradius items
  wider radius h := hits_prefix hglobe h items
  asked := by
    rintro miles direction corridor rfl said
    exact ⟨holds_word?_iff, holds_word?_iff⟩
  ascii text said := heeds_iff_of_ascii
  caseless := by
    rintro miles direction corridor rfl direction' corridor' hdirection hcorridor told htold
    rw [hits_retold htold, withinMiles, withinMiles, word?_congr hdirection, word?_congr hcorridor]

end Wanted

/-- A globe that measures along meridians, on which a degree is a mile. -/
def meridian : Globe where
  distance a b := Binary.ofMagnitude false (milesToMetres (a.lat - b.lat)).magnitude
  unproject x y := ⟨y, x⟩

/-- Events on the way north and elsewhere. -/
def events : List TrafficEvent :=
  [{ id := "edge", latitude := -1, roadway := "I-75", direction := "Northbound" },
    { id := "beyond", latitude := 2, roadway := "I-75", direction := "Northbound" },
    { id := "opposite", latitude := 0.25, roadway := "I-75", direction := "Southbound" },
    { id := "elsewhere", latitude := 0.25, roadway := "SR-60", direction := "Northbound" },
    { id := "near", latitude := 0.5, roadway := "i-75 Express", direction := "NORTHBOUND" }]

/-- Within one mile along a direction and a corridor, with an event at the edge. -/
theorem finds_meridian :
    let search := withinMiles 1 (some " north ") (some "I-75")
    (∀ a b, (meridian.distance a b).isNaN = false) ∧ search.radius.isNaN = false ∧
      Finds meridian search ⟨0, 0⟩ events ∧
      (search.hits meridian ⟨0, 0⟩ events).map (·.item.id) = ["near", "edge"] := by
  intro search
  have hglobe : ∀ a b, (meridian.distance a b).isNaN = false := fun a b =>
    Binary.isNaN_eq_false_iff.mpr (Nat.min_le_right _ _)
  have hradius : search.radius.isNaN = false := by decide +kernel
  refine ⟨hglobe, hradius, finds meridian search ⟨0, 0⟩ events hglobe hradius, ?_⟩
  decide +kernel

/-- The negative zero goes in front of the other one. -/
example : (Search.hits ⟨fun a _ => Binary.zero (a.lon < 0), fun x y => ⟨y, x⟩⟩ ⟨1, none, none⟩ ⟨0, 0⟩
    [(⟨0, 1⟩ : Point), ⟨0, -1⟩]).map Hit.item = [⟨0, -1⟩, ⟨0, 1⟩] := by decide +kernel

end Search

end DriveAdvisory
