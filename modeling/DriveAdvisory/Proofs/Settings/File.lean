/-
  Settings are read back from their file.

  A file holds every setting by its name, but for what it need not hold: blank keys and places that are not given.
  It holds numbers as wide as they come and knows one NaN.  So what is read back is what was kept (`Settings.kept`),
  and nothing else changes: each field finds its own value, or its default in place of one that was left out
  (`decode_members`).
-/
import DriveAdvisory.Proofs.Json.Records
import DriveAdvisory.Proofs.Number.Conversion
import DriveAdvisory.Proofs.Toml.File
import DriveAdvisory.Settings.File
import Mathlib.Data.List.Nodup

namespace DriveAdvisory

/-! ## Numbers -/

namespace Binary

variable {f : BinaryFormat} {shift : Nat}

/-- The number, every NaN being the same. -/
def canonical (x : Binary f) : Binary f := if x.isNaN then nan else x

/-- A number that was widened is narrowed to what it was, but for which NaN it is. -/
theorem convert_convert (hwide : BinaryFormat.Widens f double shift) (x : Binary f) :
    ((x.convert : Double).convert : Binary f) = x.canonical := by
  unfold canonical
  split
  · rename_i hx
    have hnan : (x.convert : Double) = nan := if_pos hx
    rw [hnan]
    rfl
  · rename_i hx
    by_cases hinfinite : x.isInfinite = true
    · rw [convert_of_isInfinite hinfinite, convert_of_isInfinite (beq_self_eq_true _)]
      exact (eq_infinite hinfinite).symm
    · exact convert_widened hwide (isFinite_of_not hx hinfinite)

/-- Widening makes one NaN. -/
theorem convert_of_isNaN {x : Binary f} (h : (x.convert : Double).isNaN = true) :
    (x.convert : Double) = nan := by
  by_cases hx : x.isNaN = true
  · exact if_pos hx
  · by_cases hinfinite : x.isInfinite = true
    · rw [convert_of_isInfinite hinfinite] at h
      nomatch h
    · rw [convert_of_isFinite (isFinite_of_not hx hinfinite), isNaN_ofQuanta] at h
      nomatch h

end Binary

namespace Settings

/-- A number of settings is one that a file can hold. -/
theorem plain_number {f : BinaryFormat} (x : Binary f) : Toml.Plain (number x) :=
  Binary.convert_of_isNaN

end Settings

/-! ## Members that may be left out -/

section Given

/-- The members that are given. -/
def given (entries : List (String × Option Json)) : List (String × Json) :=
  entries.filterMap fun entry => entry.2.map fun value => (entry.1, value)

variable {entries : List (String × Option Json)} {name : String} {value? : Option Json}

theorem mem_given {m : String × Json} : m ∈ given entries ↔ (m.1, some m.2) ∈ entries := by
  rw [given, List.mem_filterMap]
  constructor
  · rintro ⟨⟨known, value?⟩, hentry, hm⟩
    obtain ⟨value, rfl, rfl⟩ := Option.map_eq_some_iff.mp hm
    exact hentry
  · exact fun hm => ⟨_, hm, rfl⟩

theorem sublist_given (entries : List (String × Option Json)) :
    ((given entries).map Prod.fst).Sublist (entries.map Prod.fst) := by
  induction entries with
  | nil => exact List.Sublist.slnil
  | cons entry entries ih =>
    obtain ⟨known, value?⟩ := entry
    cases value? with
    | none => exact ih.cons known
    | some value => exact ih.cons_cons known

theorem given_append (entries more : List (String × Option Json)) :
    given (entries ++ more) = given entries ++ given more := List.filterMap_append

/-- Members that are never left out. -/
def always (members : List (String × Json)) : List (String × Option Json) :=
  members.map fun m => (m.1, some m.2)

theorem given_always (members : List (String × Json)) : given (always members) = members := by
  induction members with
  | nil => rfl
  | cons m members ih => exact congrArg (m :: ·) ih

/-- A name has the value that is given with it, or none. -/
theorem lookup_given (hdistinct : (entries.map Prod.fst).Nodup) (hentry : (name, value?) ∈ entries) :
    Json.lookup name (Json.sortMembers (given entries)) = value? := by
  cases value? with
  | some value =>
    exact Json.lookup_sortMembers (hdistinct.sublist (sublist_given entries)) (m := (name, value))
      (mem_given.mpr hentry)
  | none =>
    refine Json.lookup_eq_none fun m hm heq => ?_
    have hgiven := mem_given.mp (Json.mem_sortMembers hm)
    have hsame := List.inj_on_of_nodup_map hdistinct hentry hgiven heq.symm
    nomatch (Prod.mk.inj hsame).2

/-- A field is read as what is given with its name, or as its default. -/
theorem Fields.one_reads_given {α : Type} (hdistinct : (entries.map Prod.fst).Nodup)
    (hentry : (name, value?) ∈ entries) {decode : Decoder α} {absent left : Option α} {a : α}
    (h : value?.elim (absent = some a) fun value => decode value = .ok a) :
    (Fields.one name decode absent left).Reads (Json.sortMembers (given entries)) a := by
  have hfound := lookup_given hdistinct hentry
  cases value? with
  | some value => exact (Fields.one_reads (Json.ascending_sortMembers _) hfound _ _ _ _).mpr h
  | none => exact (Fields.one_reads_of_missing hfound _ _ _ _).mpr h

end Given

theorem Fields.Reads.seq {α β : Type} {members : List (String × Json)} {fields : Fields (α → β)}
    {more : Fields α} {f : α → β} {a : α} (hf : fields.Reads members f) (ha : more.Reads members a) :
    (fields <*> more).Reads members (f a) := (Fields.seq_reads _ _ _).mpr ⟨f, a, hf, ha, rfl⟩

/-! ## Settings -/

/-- The key as a file keeps it. -/
def ApiKey.kept (k : ApiKey) : ApiKey := if k.isBlank then {} else k

namespace Settings

/-- The settings as a file keeps them: a blank key is none, and a NaN any. -/
def kept (s : Settings) : Settings :=
  { s with
    anthropicKey := s.anthropicKey.kept, openAIKey := s.openAIKey.kept, trafficKey := s.trafficKey.kept
    rate := s.rate.canonical, reasoningTimeout := s.reasoningTimeout.canonical
    cycleDeadline := s.cycleDeadline.canonical, advisoryMaxAge := s.advisoryMaxAge.canonical
    maxSpeed := s.maxSpeed.canonical, maxStep := s.maxStep.canonical
    minConfidence := s.minConfidence.canonical, repeatRadius := s.repeatRadius.canonical
    repeatWindow := s.repeatWindow.canonical }

/-- What is given of a key. -/
def keyValue? (k : ApiKey) : Option Json := if k.isBlank then none else some (.string k.raw)

/-- All settings with their names, in the order of the file, and what is given of them. -/
def entries (s : Settings) : List (String × Option Json) :=
  always [("provider", .string s.provider.name), ("model", .string s.model),
    ("ollama_fallback", .bool s.localFallback), ("ollama_model", .string s.localModel),
    ("anthropic_url", .string s.anthropicAddress), ("openai_url", .string s.openAIAddress),
    ("ollama_url", .string s.localAddress)]
  ++ [("anthropic_api_key", keyValue? s.anthropicKey)] ++ [("openai_api_key", keyValue? s.openAIKey)]
  ++ [("fl511_api_key", keyValue? s.trafficKey)]
  ++ always [("rate_hz", number s.rate), ("reasoning_timeout_s", number s.reasoningTimeout),
    ("cycle_deadline_s", number s.cycleDeadline), ("advisory_max_age_s", number s.advisoryMaxAge),
    ("require_frame", .bool s.needsFrame), ("max_speed_ms", number s.maxSpeed),
    ("max_step_ms", number s.maxStep), ("min_confidence", number s.minConfidence),
    ("dedup_radius_m", number s.repeatRadius), ("dedup_window_s", number s.repeatWindow),
    ("ring_capacity", .number (.whole s.ringCapacity))]
  ++ [("observation_db", s.journalPath.map .string)] ++ always [("context_path", .string s.contextPath)]
  ++ [("frame_path", s.framePath.map .string)]

theorem given_key (name : String) (k : ApiKey) : given [(name, keyValue? k)] = keyMember name k := by
  unfold keyMember keyValue?
  split
  · rfl
  · rfl

theorem given_place (name : String) (place : Option String) :
    given [(name, place.map .string)] = placeMember name place := by
  cases place with
  | none => rfl
  | some place => rfl

theorem members_eq (s : Settings) : s.members = given s.entries := by
  rw [entries, given_append, given_append, given_append, given_append, given_append, given_append,
    given_append, given_always, given_always, given_always, given_key, given_key, given_key,
    given_place, given_place]
  rfl

/-- The names of all settings. -/
def names : List String :=
  ["provider", "model", "ollama_fallback", "ollama_model", "anthropic_url", "openai_url", "ollama_url",
    "anthropic_api_key", "openai_api_key", "fl511_api_key", "rate_hz", "reasoning_timeout_s",
    "cycle_deadline_s", "advisory_max_age_s", "require_frame", "max_speed_ms", "max_step_ms",
    "min_confidence", "dedup_radius_m", "dedup_window_s", "ring_capacity", "observation_db",
    "context_path", "frame_path"]

theorem names_eq (s : Settings) : s.entries.map Prod.fst = names := rfl

theorem nodup_entries (s : Settings) : (s.entries.map Prod.fst).Nodup := by
  rw [names_eq]
  decide

/-! ## Reading -/

section Kinds

variable {s : Settings} {name : String}

theorem provider_reads {absent provider : Provider} (h : (name, some (.string provider.name)) ∈ s.entries) :
    (Fields.defaulted name Provider.decode absent).Reads (Json.sortMembers (given s.entries)) provider := by
  refine Fields.one_reads_given s.nodup_entries h ?_
  cases provider with
  | anthropic => rfl
  | openAI => rfl
  | ollama => rfl

theorem text_reads {absent text : String} (h : (name, some (.string text)) ∈ s.entries) :
    (Fields.defaulted name .string absent).Reads (Json.sortMembers (given s.entries)) text :=
  Fields.one_reads_given s.nodup_entries h rfl

theorem path_reads {absent path : String} (h : (name, some (.string path)) ∈ s.entries) :
    (Fields.defaulted name .path absent).Reads (Json.sortMembers (given s.entries)) path :=
  Fields.one_reads_given s.nodup_entries h rfl

theorem place_reads {place : Option String} (h : (name, place.map .string) ∈ s.entries) :
    (Fields.defaultedOption name .path none).Reads (Json.sortMembers (given s.entries)) place := by
  refine Fields.one_reads_given s.nodup_entries h ?_
  cases place with
  | none => rfl
  | some place => rfl

theorem key_reads {k : ApiKey} (h : (name, keyValue? k) ∈ s.entries) :
    (Fields.defaulted name ApiKey.decode {}).Reads (Json.sortMembers (given s.entries)) k.kept := by
  refine Fields.one_reads_given s.nodup_entries h ?_
  unfold keyValue? ApiKey.kept
  split
  · rfl
  · rfl

theorem flag_reads {absent flag : Bool} (h : (name, some (.bool flag)) ∈ s.entries) :
    (Fields.defaulted name .bool absent).Reads (Json.sortMembers (given s.entries)) flag :=
  Fields.one_reads_given s.nodup_entries h rfl

theorem double_reads {absent x : Double} (h : (name, some (number x)) ∈ s.entries) :
    (Fields.defaulted name .double absent).Reads (Json.sortMembers (given s.entries)) x.canonical :=
  Fields.one_reads_given s.nodup_entries h
    (congrArg Except.ok (Binary.convert_convert BinaryFormat.widens_double x))

theorem single_reads {absent x : Single} (h : (name, some (number x)) ∈ s.entries) :
    (Fields.defaulted name .single absent).Reads (Json.sortMembers (given s.entries)) x.canonical :=
  Fields.one_reads_given s.nodup_entries h
    (congrArg Except.ok (Binary.convert_convert BinaryFormat.widens_single x))

theorem count_reads {absent count : Nat} (h : (name, some (.number (.whole count))) ∈ s.entries) :
    (Fields.defaulted name .count absent).Reads (Json.sortMembers (given s.entries)) count :=
  Fields.one_reads_given s.nodup_entries h (by
    rw [Option.elim_some, Decoder.count, if_neg (Int.not_lt.mpr (Int.natCast_nonneg count)),
      Int.toNat_natCast])

end Kinds

/-- **The members of settings** are read as the settings that are kept. -/
theorem decode_members (s : Settings) : decode (.object (Json.sortMembers s.members)) = .ok s.kept := by
  rw [members_eq, decode, Fields.record_eq_ok (Json.ascending_sortMembers _), kept]
  -- fields are applied one after another, so the last one comes off first
  refine .seq ?_ (place_reads (by simp [entries, always]))
  refine .seq ?_ (path_reads (by simp [entries, always]))
  refine .seq ?_ (place_reads (by simp [entries, always]))
  refine .seq ?_ (count_reads (by simp [entries, always]))
  refine .seq ?_ (double_reads (by simp [entries, always]))
  refine .seq ?_ (double_reads (by simp [entries, always]))
  refine .seq ?_ (single_reads (by simp [entries, always]))
  refine .seq ?_ (single_reads (by simp [entries, always]))
  refine .seq ?_ (single_reads (by simp [entries, always]))
  refine .seq ?_ (flag_reads (by simp [entries, always]))
  refine .seq ?_ (double_reads (by simp [entries, always]))
  refine .seq ?_ (double_reads (by simp [entries, always]))
  refine .seq ?_ (double_reads (by simp [entries, always]))
  refine .seq ?_ (double_reads (by simp [entries, always]))
  refine .seq ?_ (key_reads (by simp [entries, always]))
  refine .seq ?_ (key_reads (by simp [entries, always]))
  refine .seq ?_ (key_reads (by simp [entries, always]))
  refine .seq ?_ (text_reads (by simp [entries, always]))
  refine .seq ?_ (text_reads (by simp [entries, always]))
  refine .seq ?_ (text_reads (by simp [entries, always]))
  refine .seq ?_ (text_reads (by simp [entries, always]))
  refine .seq ?_ (flag_reads (by simp [entries, always]))
  refine .seq ?_ (text_reads (by simp [entries, always]))
  exact (Fields.map_reads mk _ _).mpr ⟨_, provider_reads (by simp [entries, always]), rfl⟩

/-! ## The file -/

theorem bareKey_names : ∀ name ∈ names, Toml.BareKey name := by
  have hchars : ∀ name ∈ names, name.toList ≠ [] ∧ name.toList.all Toml.isKeyChar = true := by
    decide
  exact fun name hname => ⟨(hchars name hname).1, List.all_eq_true.mp (hchars name hname).2⟩

theorem plain_keyMember (name : String) (k : ApiKey) : ∀ m ∈ keyMember name k, Toml.Plain m.2 := by
  intro m hm
  unfold keyMember at hm
  split at hm
  · nomatch hm
  · obtain rfl := List.mem_singleton.mp hm
    trivial

theorem plain_placeMember (name : String) (place : Option String) :
    ∀ m ∈ placeMember name place, Toml.Plain m.2 := by
  cases place with
  | none => exact nofun
  | some place =>
    intro m hm
    obtain rfl := List.mem_singleton.mp hm
    trivial

/-- A file can hold settings if it can hold their count. -/
theorem plain_members {s : Settings} (h : s.ringCapacity ≤ largestInteger) :
    ∀ m ∈ s.members, Toml.Plain m.2 := by
  have hcount : Toml.Plain (.number (.whole s.ringCapacity)) := by
    unfold largestInteger at h
    constructor
    · omega
    · omega
  simp only [members, List.forall_mem_append, List.forall_mem_cons, List.not_mem_nil, false_implies,
    implies_true, and_true, and_assoc]
  exact ⟨trivial, trivial, trivial, trivial, trivial, trivial, trivial, plain_keyMember _ _,
    plain_keyMember _ _, plain_keyMember _ _, plain_number _, plain_number _, plain_number _,
    plain_number _, trivial, plain_number _, plain_number _, plain_number _, plain_number _,
    plain_number _, hcount, plain_placeMember _ _, trivial, plain_placeMember _ _⟩

theorem writable_members {s : Settings} (h : s.ringCapacity ≤ largestInteger) :
    Toml.Writable s.members := by
  have hsublist : (s.members.map Prod.fst).Sublist names := by
    rw [members_eq, ← names_eq s]
    exact sublist_given s.entries
  constructor
  case keys => exact fun m hm => bareKey_names m.1 (hsublist.subset (List.mem_map_of_mem hm))
  case plain => exact plain_members h
  case distinct => exact List.Nodup.sublist hsublist (by decide)

/-- A plain value is no table, so no name stands in one. -/
theorem plainVariant_eq {value : Json} (h : Toml.Plain value) : plainVariant value = value := by
  unfold plainVariant
  split
  · nomatch h
  · nomatch h
  · rfl

theorem plainDocument_eq {members : List (String × Json)} (h : ∀ m ∈ members, Toml.Plain m.2) :
    plainDocument (.object members) = .object members := by
  have hsame : (members.map fun m =>
      (m.1, if m.1 = "provider" then plainVariant m.2 else m.2)) = members := by
    refine (List.map_congr_left fun m hm => ?_).trans (List.map_id members)
    rw [plainVariant_eq (h m hm), ite_self]
    rfl
  exact congrArg Json.object hsame

theorem ofText?_eq (text : String) : ofText? text =
    (Toml.read? text).bind fun j => (decode (plainDocument j)).toOption := rfl

/-- **Settings are read back** from their text, as they are kept. -/
theorem ofText_toText {s : Settings} {text : String} (h : s.toText = .ok text) : ofText text = .ok s.kept := by
  unfold toText at h
  split at h
  · rename_i hcount
    obtain rfl := Except.ok.inj h
    have hplain := plain_members hcount
    have hread : ofText? (Toml.text s.members) = some s.kept := by
      rw [ofText?_eq, Toml.read?_text (writable_members hcount), Option.bind_some,
        Json.ofMembers_eq_object, plainDocument_eq fun m hm => hplain m (Json.mem_sortMembers hm),
        decode_members]
      rfl
    rw [ofText, hread]
  · nomatch h

end Settings

end DriveAdvisory
