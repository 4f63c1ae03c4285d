/-
  Whatever is offered, is accepted.

  The engine sees of a skill only the schema that it is offered, a document like any other.  What such a document
  allows is `Json.Valid`, which knows nothing of skills: it says rule by rule which values its keywords let pass.

  From there to the skill the way has two halves.  A schema that was made of arguments allows the objects that
  those arguments admit, and no others (`Schema.valid_iff`); and what the arguments admit, their fields read
  (`Arguments.Faithful`).  The second half is put together as the arguments themselves are, with one rule for an
  argument of any kind and one for two of them, and so a skill keeps what it offers by its arguments alone
  (`keepsOffer_of_faithful`).
-/
import DriveAdvisory.Proofs.Json.Records
import DriveAdvisory.Proofs.Skill.Reading

namespace DriveAdvisory

/-! ## What a schema allows -/

namespace Json

/-- What schemas call the type of a document.  Their `integer` is left out, for none that is offered here
    asks for one. -/
def typeName : Json → String
  | null => "null"
  | bool _ => "boolean"
  | number _ => "number"
  | string _ => "string"
  | array _ => "array"
  | object _ => "object"

/-- The document is of the type that is named, or of one of them. -/
def IsOfType (j : Json) : Json → Prop
  | string name => j.typeName = name
  | array names => string j.typeName ∈ names
  | _ => False

/-- The schema names the member among those that an object must have. -/
def Requires (schema : Json) (name : String) : Prop :=
  ∃ names, schema.get? "required" = some (.array names) ∧ string name ∈ names

/-- The schema says what the member is to be like. -/
def Describes (schema : Json) (name : String) (part : Json) : Prop :=
  ∃ parts, schema.get? "properties" = some (.object parts) ∧ lookup name parts = some part

/-- The document is valid under the schema.  Members that are not described may be anything.  An enumeration says
    nothing about `null`, which is for the type to allow: a nullable choice does not list it. -/
inductive Valid : Json → Json → Prop
  | intro {schema j : Json}
      (type : ∀ named, schema.get? "type" = some named → j.IsOfType named)
      (enum : ∀ values, schema.get? "enum" = some (.array values) → j = .null ∨ j ∈ values)
      (required : ∀ name, schema.Requires name →
        ∀ members, j = .object members → (lookup name members).isSome)
      (properties : ∀ name part item, schema.Describes name part → j.get? name = some item →
        Valid part item) :
      Valid schema j

end Json

/-! ## One argument -/

namespace Shape

variable {j : Json}

/-- The values of a shape. -/
inductive Allows : Shape → Json → Prop
  | number (format : String) (n : JsonNumber) : Allows (.number format) (.number n)
  | text (s : String) : Allows .text (.string s)
  | choice {names : List String} {s : String} (h : s ∈ names) : Allows (.choice names) (.string s)
  | null (shape : Shape) : Allows (.orNull shape) .null
  | value {shape : Shape} {j : Json} (h : Allows shape j) : Allows (.orNull shape) j

/-- The value is one of those that the shape enumerates, if it does. -/
def Lists (shape : Shape) (j : Json) : Prop :=
  ∀ values, ("enum", Json.array values) ∈ shape.details → j = .null ∨ j ∈ values

theorem lists_choice {names : List String} :
    (choice names).Lists j ↔ j = .null ∨ ∃ s ∈ names, j = .string s := by
  constructor
  · intro h
    have hlisted := h (names.map toJson) (List.mem_singleton.mpr rfl)
    refine hlisted.imp_right fun hmem => ?_
    obtain ⟨s, hs, heq⟩ := List.mem_map.mp hmem
    exact ⟨s, hs, heq.symm⟩
  · intro h values hvalues
    have heq : Json.array values = .array (names.map toJson) :=
      (Prod.mk.inj (List.mem_singleton.mp hvalues)).2
    obtain rfl := Json.array.inj heq
    refine h.imp_right fun ⟨s, hs, hj⟩ => ?_
    exact List.mem_map.mpr ⟨s, hs, hj.symm⟩

/-- Of `null` apart, a shape allows what is of its type and in its list. -/
theorem allows_iff_of_ne_null (hj : j ≠ .null) (shape : Shape) :
    shape.Allows j ↔ j.typeName = shape.typeName ∧ shape.Lists j := by
  induction shape with
  | number format =>
    constructor
    · rintro ⟨⟩
      exact ⟨rfl, by simp [Lists, details]⟩
    · rintro ⟨htype, -⟩
      cases j with
      | number n => exact .number format n
      | null | bool _ | string _ | array _ | object _ => simp [Json.typeName, typeName] at htype
  | text =>
    constructor
    · rintro ⟨⟩
      exact ⟨rfl, by simp [Lists, details]⟩
    · rintro ⟨htype, -⟩
      cases j with
      | string s => exact .text s
      | null | bool _ | number _ | array _ | object _ => simp [Json.typeName, typeName] at htype
  | choice names =>
    rw [lists_choice]
    constructor
    · intro h
      cases h with
      | choice hs => exact ⟨rfl, .inr ⟨_, hs, rfl⟩⟩
    · rintro ⟨-, hnull | ⟨s, hs, rfl⟩⟩
      · exact absurd hnull hj
      · exact .choice hs
  | orNull shape ih =>
    -- type and list are those of the shape within
    refine Iff.trans ?_ ih
    constructor
    · intro h
      cases h with
      | null => exact absurd rfl hj
      | value h => exact h
    · exact .value

theorem isOfType_iff_of_ne_null (hj : j ≠ .null) (shape : Shape) :
    j.IsOfType shape.typeJson ↔ j.typeName = shape.typeName := by
  have hnamed : j.typeName ≠ "null" := by
    cases j with
    | null => exact absurd rfl hj
    | bool _ | number _ | string _ | array _ | object _ => simp [Json.typeName]
  cases shape with
  | number _ | text | choice _ => exact Iff.rfl
  | orNull shape => simp [Json.IsOfType, typeJson, typeName, hnamed]

/-- **The type and the list of a shape**, as they are offered, allow its values. -/
theorem allows_iff (shape : Shape) :
    shape.Allows j ↔ j.IsOfType shape.typeJson ∧ shape.Lists j := by
  by_cases hj : j = .null
  · subst hj
    have hlists : shape.Lists .null := fun _ _ => .inl rfl
    cases shape with
    | number _ | text | choice _ =>
      constructor
      · rintro ⟨⟩
      · rintro ⟨htype, -⟩
        simp [Json.IsOfType, typeJson, typeName, Json.typeName] at htype
    | orNull shape =>
      refine ⟨fun _ => ⟨?_, hlists⟩, fun _ => .null shape⟩
      simp [Json.IsOfType, typeJson, Json.typeName]
  · rw [allows_iff_of_ne_null hj, isOfType_iff_of_ne_null hj]

theorem details_names (shape : Shape) :
    shape.details.map Prod.fst = [] ∨ shape.details.map Prod.fst = ["format"] ∨
      shape.details.map Prod.fst = ["enum"] := by
  induction shape with
  | number format => exact .inr (.inl rfl)
  | text => exact .inl rfl
  | choice names => exact .inr (.inr rfl)
  | orNull shape ih => exact ih

end Shape

namespace Offer

variable {members : List (String × Json)} {j : Json}

/-- The keywords of an argument's schema. -/
def keywords (o : Offer) : List (String × Json) :=
  [("type", o.shape.typeJson)] ++ o.shape.details
    ++ (o.note.map fun note => ("description", Json.string note)).toList
    ++ (o.standard.map fun standard => ("default", standard)).toList

theorem nodup_keywords (o : Offer) : (o.keywords.map Prod.fst).Nodup := by
  unfold keywords
  simp only [List.map_append]
  rcases o.shape.details_names with h | h | h <;> rw [h] <;> cases o.note <;> cases o.standard <;>
    simp

theorem get?_iff (o : Offer) {name : String} {value : Json} :
    o.toJson.get? name = some value ↔ (name, value) ∈ o.keywords :=
  Json.get?_ofMembers_iff o.nodup_keywords

theorem get?_type (o : Offer) : o.toJson.get? "type" = some o.shape.typeJson :=
  o.get?_iff.mpr (by simp [keywords])

theorem get?_enum (o : Offer) {value : Json} :
    o.toJson.get? "enum" = some value ↔ ("enum", value) ∈ o.shape.details := by
  rw [get?_iff]
  simp [keywords]

theorem name_of_keyword {o : Offer} {m : String × Json} (h : m ∈ o.keywords) :
    m.1 ∈ ["type", "format", "enum", "description", "default"] := by
  simp only [keywords, List.mem_append, List.mem_singleton, Option.mem_toList,
    Option.map_eq_some_iff] at h
  rcases h with ((rfl | hdetail) | ⟨_, -, rfl⟩) | ⟨_, -, rfl⟩
  · simp
  · have hname := List.mem_map_of_mem (f := Prod.fst) hdetail
    rcases o.shape.details_names with hnames | hnames | hnames <;> rw [hnames] at hname
    · exact absurd hname List.not_mem_nil
    · simp [List.mem_singleton.mp hname]
    · simp [List.mem_singleton.mp hname]
  · simp
  · simp

theorem get?_none (o : Offer) {name : String}
    (h : name ∉ ["type", "format", "enum", "description", "default"]) : o.toJson.get? name = none := by
  rw [Option.eq_none_iff_forall_ne_some]
  intro value hvalue
  exact h (name_of_keyword (o.get?_iff.mp hvalue))

/-- **The schema of an argument** allows the values of its shape. -/
theorem valid_iff (o : Offer) : Json.Valid o.toJson j ↔ o.shape.Allows j := by
  rw [Shape.allows_iff]
  constructor
  · rintro ⟨type, enum, -, -⟩
    exact ⟨type _ o.get?_type, fun values hvalues => enum values (o.get?_enum.mpr hvalues)⟩
  · rintro ⟨htype, hlists⟩
    refine .intro ?_ (fun values h => hlists values (o.get?_enum.mp h)) ?_ ?_
    · intro named h
      obtain rfl := Option.some.inj (o.get?_type.symm.trans h)
      exact htype
    · rintro name ⟨names, h, -⟩
      rw [o.get?_none (by simp)] at h
      nomatch h
    · rintro name part item ⟨parts, h, -⟩
      rw [o.get?_none (by simp)] at h
      nomatch h

/-- The members of an object give the argument a value of its shape, or none if it may be left out. -/
def Admits (o : Offer) (members : List (String × Json)) : Prop :=
  match Json.lookup o.name members with
  | some j => o.shape.Allows j
  | none => o.required = false

theorem admits_iff {o : Offer} : o.Admits members ↔
    (o.required = true → (Json.lookup o.name members).isSome = true) ∧
      ∀ j, Json.lookup o.name members = some j → o.shape.Allows j := by
  unfold Admits
  cases Json.lookup o.name members with
  | none => simp
  | some j => simp

end Offer

/-! ## All arguments of a skill -/

namespace Schema

variable {s : Schema} {members : List (String × Json)} {name : String}

/-- The keywords of a skill's schema. -/
def keywords (s : Schema) : List (String × Json) :=
  [("type", Json.string "object"), ("title", Json.string s.title),
    ("properties", Json.ofMembers (s.offers.map fun o => (o.name, o.toJson)))]
    ++ (s.note.map fun note => ("description", Json.string note)).toList
    ++ if s.requiredNames.isEmpty then [] else [("required", DriveAdvisory.toJson s.requiredNames)]

theorem nodup_keywords (s : Schema) : (s.keywords.map Prod.fst).Nodup := by
  unfold keywords
  cases s.note <;> split <;> simp

theorem get?_iff (s : Schema) {value : Json} :
    s.toJson.get? name = some value ↔ (name, value) ∈ s.keywords :=
  Json.get?_ofMembers_iff s.nodup_keywords

theorem get?_type (s : Schema) : s.toJson.get? "type" = some (.string "object") :=
  s.get?_iff.mpr (by simp [keywords])

theorem get?_properties (s : Schema) : s.toJson.get? "properties" =
    some (Json.ofMembers (s.offers.map fun o => (o.name, o.toJson))) :=
  s.get?_iff.mpr (by simp [keywords])

theorem get?_required (s : Schema) {value : Json} : s.toJson.get? "required" = some value ↔
    s.requiredNames ≠ [] ∧ value = DriveAdvisory.toJson s.requiredNames := by
  rw [get?_iff]
  simp [keywords]

theorem get?_enum (s : Schema) : s.toJson.get? "enum" = none := by
  rw [Option.eq_none_iff_forall_ne_some]
  intro value hvalue
  have hkey := s.get?_iff.mp hvalue
  simp [keywords] at hkey

theorem mem_requiredNames :
    name ∈ s.requiredNames ↔ ∃ o ∈ s.offers, o.required = true ∧ o.name = name := by
  simp [requiredNames, and_assoc]

/-- The schema requires the arguments that have to be given. -/
theorem requires_iff :
    s.toJson.Requires name ↔ ∃ o ∈ s.offers, o.required = true ∧ o.name = name := by
  rw [← mem_requiredNames]
  constructor
  · rintro ⟨names, h, hname⟩
    rw [Json.array.inj (s.get?_required.mp h).2] at hname
    obtain ⟨_, hmem, heq⟩ := List.mem_map.mp hname
    exact Json.string.inj heq ▸ hmem
  · intro hname
    refine ⟨s.requiredNames.map DriveAdvisory.toJson, ?_, List.mem_map_of_mem hname⟩
    exact s.get?_required.mpr ⟨List.ne_nil_of_mem hname, rfl⟩

/-- The schema describes each argument as it is offered. -/
theorem describes_iff (hnames : (s.offers.map (·.name)).Nodup) {part : Json} :
    s.toJson.Describes name part ↔ ∃ o ∈ s.offers, o.name = name ∧ o.toJson = part := by
  have hlookup :
      Json.lookup name (Json.sortMembers (s.offers.map fun o => (o.name, o.toJson))) = some part ↔
        ∃ o ∈ s.offers, o.name = name ∧ o.toJson = part := by
    rw [Json.lookup_sortMembers_eq_some_iff (by simpa [Function.comp_def] using hnames)]
    simp
  rw [← hlookup, Json.Describes, get?_properties, Json.ofMembers_eq_object]
  simp

/-- **A skill's schema** allows the objects that its arguments admit, whatever else these hold. -/
theorem valid_iff (hnames : (s.offers.map (·.name)).Nodup) :
    Json.Valid s.toJson (.object members) ↔ ∀ o ∈ s.offers, o.Admits members := by
  constructor
  · rintro ⟨-, -, required, properties⟩ o ho
    rw [Offer.admits_iff]
    constructor
    · intro hrequired
      exact required o.name (requires_iff.mpr ⟨o, ho, hrequired, rfl⟩) members rfl
    · intro j hj
      rw [← o.valid_iff]
      exact properties o.name o.toJson j ((describes_iff hnames).mpr ⟨o, ho, rfl, rfl⟩) hj
  · intro hadmits
    refine .intro ?_ ?_ ?_ ?_
    · intro named h
      obtain rfl := Option.some.inj (s.get?_type.symm.trans h)
      rfl
    · intro values h
      rw [s.get?_enum] at h
      nomatch h
    · rintro name hrequired _ ⟨⟩
      obtain ⟨o, ho, hmust, rfl⟩ := requires_iff.mp hrequired
      exact (Offer.admits_iff.mp (hadmits o ho)).1 hmust
    · intro name part item hpart hitem
      obtain ⟨o, ho, rfl, rfl⟩ := (describes_iff hnames).mp hpart
      exact o.valid_iff.mpr ((Offer.admits_iff.mp (hadmits o ho)).2 item hitem)

end Schema

/-! ## Reading what is offered -/

namespace ArgumentKind

variable {α : Type} {kind : ArgumentKind α}

/-- Whatever has the shape that is offered, is read. -/
def Faithful (kind : ArgumentKind α) : Prop :=
  ∀ j, kind.shape.Allows j → ∃ a, kind.decode j = .ok a

theorem faithful_single : single.Faithful := by
  rintro _ ⟨⟩
  exact ⟨_, rfl⟩

theorem faithful_double : double.Faithful := by
  rintro _ ⟨⟩
  exact ⟨_, rfl⟩

theorem faithful_text : text.Faithful := by
  rintro _ ⟨⟩
  exact ⟨_, rfl⟩

theorem faithful_suggestion (all : List α) (name : α → String) :
    (suggestion all name).Faithful := by
  intro j h
  cases h with
  | choice => exact ⟨_, rfl⟩

/-- A choice is read by its name, which is one of those that are offered. -/
theorem faithful_choice (all : List α) (name : α → String) : (choice all name).Faithful := by
  intro j h
  cases h with
  | @choice _ s hs =>
    have hknown : ((all.map fun a => (name a, a)).lookup s).isSome = true := by
      rw [List.lookup_isSome_iff]
      obtain ⟨a, ha, rfl⟩ := List.mem_map.mp hs
      exact ⟨(name a, a), List.mem_map_of_mem ha, beq_self_eq_true _⟩
    obtain ⟨a, ha⟩ := Option.isSome_iff_exists.mp hknown
    refine ⟨a, ?_⟩
    simp only [choice, Decoder.named, Decoder.variant, Decoder.variant.named, ha]

/-- The kind of argument that may be `null` as well. -/
def orNull (kind : ArgumentKind α) : ArgumentKind (Option α) :=
  ⟨.orNull kind.shape, kind.decode.nullable⟩

theorem Faithful.orNull (h : kind.Faithful) : kind.orNull.Faithful := by
  intro j hj
  cases hj with
  | null => exact ⟨none, rfl⟩
  | value hvalue =>
    obtain ⟨a, ha⟩ := h j hvalue
    cases j with
    | null => exact ⟨none, rfl⟩
    | bool _ | number _ | string _ | array _ | object _ =>
      refine ⟨some a, ?_⟩
      show (kind.decode _).map some = .ok (some a)
      rw [ha]
      rfl

end ArgumentKind

namespace Arguments

variable {α β : Type} {kind : ArgumentKind α} {members : List (String × Json)}

/-- The fields read every object that the offers admit, and none without what these require. -/
structure Faithful (args : Arguments α) : Prop where
  reads : ∀ {members}, Json.Ascending members → (∀ o ∈ args.offers, o.Admits members) →
    ∃ a, args.fields.Reads members a
  insists : ∀ {members a}, args.fields.Reads members a → ∀ o ∈ args.offers, o.required = true →
    Json.lookup o.name members ≠ none

/-- One argument: it is required exactly if there is no value for when it is missing. -/
theorem faithful_one (hkind : kind.Faithful) {o : Offer} (hshape : o.shape = kind.shape)
    {absent left : Option α} (hrequired : o.required = absent.isNone) :
    Faithful ⟨[o], .one o.name kind.decode absent left⟩ := by
  constructor
  · intro members hmembers hadmits
    have hadmit := hadmits o (List.mem_singleton.mpr rfl)
    unfold Offer.Admits at hadmit
    cases hfound : Json.lookup o.name members with
    | none =>
      rw [hfound, hrequired] at hadmit
      obtain ⟨a, rfl⟩ := Option.isSome_iff_exists.mp (Option.isNone_eq_false_iff.mp hadmit)
      exact ⟨a, (Fields.one_reads_of_missing hfound _ _ _ a).mpr rfl⟩
    | some j =>
      rw [hfound, hshape] at hadmit
      obtain ⟨a, ha⟩ := hkind j hadmit
      exact ⟨a, (Fields.one_reads hmembers hfound _ _ _ a).mpr ha⟩
  · intro members a hreads other hother hmust hmissing
    obtain rfl := List.mem_singleton.mp hother
    obtain rfl := (Fields.one_reads_of_missing hmissing _ _ _ a).mp hreads
    rw [hrequired] at hmust
    nomatch hmust

theorem faithful_required (hkind : kind.Faithful) (name : String) (note : Option String) :
    (required name kind note).Faithful :=
  faithful_one hkind rfl rfl

theorem faithful_quiet (hkind : kind.Faithful) (name : String) (a : α) (note : Option String) :
    (quiet name kind a note).Faithful :=
  faithful_one hkind rfl rfl

theorem faithful_defaulted [ToJson α] (hkind : kind.Faithful) (name : String) (a : α)
    (note : Option String) : (defaulted name kind a note).Faithful :=
  faithful_one hkind rfl rfl

theorem faithful_optional (hkind : kind.Faithful) (name : String) (note : Option String) :
    (optional name kind note).Faithful :=
  faithful_one hkind.orNull rfl rfl

theorem faithful_pure (a : α) : (pure a : Arguments α).Faithful := by
  constructor
  · exact fun _ _ => ⟨a, (Fields.pure_reads a a).mpr rfl⟩
  · exact fun _ o ho => absurd ho List.not_mem_nil

/-- One argument after the other. -/
theorem Faithful.seq {f : Arguments (α → β)} {x : Arguments α} (hf : f.Faithful) (hx : x.Faithful) :
    (f <*> x).Faithful := by
  constructor
  · intro members hmembers hadmits
    have hsplit := List.forall_mem_append.mp hadmits
    obtain ⟨g, hg⟩ := hf.reads hmembers hsplit.1
    obtain ⟨a, ha⟩ := hx.reads hmembers hsplit.2
    exact ⟨g a, (Fields.seq_reads f.fields x.fields (g a)).mpr ⟨g, a, hg, ha, rfl⟩⟩
  · intro members b hreads o ho hmust
    obtain ⟨g, a, hg, ha, -⟩ := (Fields.seq_reads f.fields x.fields b).mp hreads
    rcases List.mem_append.mp ho with hleft | hright
    · exact hf.insists hg o hleft hmust
    · exact hx.insists ha o hright hmust

theorem Faithful.map {x : Arguments α} (hx : x.Faithful) (g : α → β) : (g <$> x).Faithful :=
  (faithful_pure g).seq hx

end Arguments

/-! ## The skills -/

section Skills

open ArgumentKind Arguments

theorem SpeedArguments.faithful_arguments : arguments.Faithful :=
  (faithful_required faithful_single _ _).map _
    |>.seq (faithful_required faithful_text _ _)
    |>.seq (faithful_required faithful_single _ _)
    |>.seq (faithful_defaulted faithful_single _ _ _)

theorem LaneArguments.faithful_arguments : arguments.Faithful :=
  (faithful_required (faithful_choice _ _) _ _).map _
    |>.seq (faithful_required faithful_text _ _)
    |>.seq (faithful_required faithful_single _ _)

theorem AlertArguments.faithful_arguments : arguments.Faithful :=
  (faithful_required faithful_text _ _).map _
    |>.seq (faithful_required (faithful_choice _ _) _ _)
    |>.seq (faithful_defaulted faithful_single _ _ _)

theorem TrafficArguments.faithful_arguments : arguments.Faithful :=
  (faithful_quiet (faithful_choice _ _) _ _ _).map _
    |>.seq (faithful_defaulted faithful_double _ _ _)
    |>.seq (faithful_optional faithful_text _ _)
    |>.seq (faithful_optional faithful_text _ _)

theorem RoadIssueArguments.faithful_arguments : arguments.Faithful :=
  (faithful_required (faithful_suggestion _ _) _ _).map _
    |>.seq (faithful_required (faithful_suggestion _ _) _ _)
    |>.seq (faithful_optional (faithful_suggestion _ _) _ _)
    |>.seq (faithful_required faithful_text _ _)
    |>.seq (faithful_required faithful_single _ _)

theorem EvacuationArguments.faithful_arguments : arguments.Faithful :=
  (faithful_quiet (faithful_choice _ _) _ _ _).map _
    |>.seq (faithful_optional faithful_double _ _)
    |>.seq (faithful_optional faithful_double _ _)
    |>.seq (faithful_optional faithful_double _ _)

theorem ConnectivityMode.faithful_arguments : arguments.Faithful :=
  faithful_quiet (faithful_choice _ _) _ _ _

end Skills

namespace Skill

variable {α : Type} {k : Skill Run}

/-- The skill takes its schema at its word: it accepts every object that is valid under it and refuses those that
    lack a required member, as it refuses everything that is neither an object nor a list of values. -/
structure KeepsOffer (k : Skill Run) : Prop where
  valid : ∀ members, Json.Ascending members → Json.Valid k.schema (.object members) →
    k.Accepts (.object members)
  lacking : ∀ members name, Json.Ascending members → k.schema.Requires name →
    Json.lookup name members = none → k.Refuses (.object members)
  plain : ∀ j : Json, j.typeName ∈ ["string", "number", "boolean", "null"] → k.Refuses j

/-- **A skill keeps what it offers** if schema and reading come from the same arguments. -/
theorem keepsOffer_of_faithful {args : Arguments α} (hargs : args.Faithful)
    (hnames : (args.offers.map (·.name)).Nodup) {title : String} {note : Option String}
    {act : Surroundings → α → Snapshot → StateM World Proposal}
    (hschema : k.schema = (args.schema title note).toJson)
    (hrun : k.run = runWith k.name (args.decode title) act) : k.KeepsOffer := by
  constructor
  · intro members hmembers hvalid
    rw [hschema, Schema.valid_iff hnames] at hvalid
    obtain ⟨a, ha⟩ := hargs.reads hmembers hvalid
    exact accepts_of_decode hrun ((Fields.record_eq_ok hmembers title args.fields a).mpr ha)
  · intro members name hmembers hrequires hmissing
    rw [hschema, Schema.requires_iff] at hrequires
    obtain ⟨o, ho, hmust, rfl⟩ := hrequires
    refine refuses_of_unreadable hrun fun a hread => ?_
    have hreads := (Fields.record_eq_ok hmembers title args.fields a).mp hread
    exact hargs.insists hreads o ho hmust hmissing
  · intro j htype
    cases j with
    | null | bool _ | number _ | string _ => exact refuses_of_decode hrun rfl
    | array _ | object _ => simp [Json.typeName] at htype

theorem keepsOffer_of_mem_builtin (h : k ∈ builtin) : k.KeepsOffer := by
  simp only [builtin, List.mem_cons, List.not_mem_nil, or_false] at h
  rcases h with rfl | rfl | rfl | rfl | rfl | rfl | rfl
  · exact keepsOffer_of_faithful SpeedArguments.faithful_arguments (by decide) rfl rfl
  · exact keepsOffer_of_faithful LaneArguments.faithful_arguments (by decide) rfl rfl
  · exact keepsOffer_of_faithful AlertArguments.faithful_arguments (by decide) rfl rfl
  · exact keepsOffer_of_faithful TrafficArguments.faithful_arguments (by decide) rfl rfl
  · exact keepsOffer_of_faithful RoadIssueArguments.faithful_arguments (by decide) rfl rfl
  · exact keepsOffer_of_faithful EvacuationArguments.faithful_arguments (by decide) rfl rfl
  · exact keepsOffer_of_faithful ConnectivityMode.faithful_arguments (by decide) rfl rfl

/-- A report of a pothole on no lane in particular, with a member that nobody asked for. -/
def potholeReport : List (String × Json) :=
  [("confidence", .number (.whole 1)), ("description", .string "a deep one"),
    ("issue_type", .string "pothole"), ("lane_position", .null), ("severity", .string "minor"),
    ("weather", .array [])]

theorem valid_potholeReport : Json.Valid roadIssue.schema (.object potholeReport) := by
  refine (Schema.valid_iff (s := RoadIssueArguments.arguments.schema _ _) (by decide)).mpr ?_
  have hissue : Shape.Allows (.choice (Issue.all.map Issue.name)) (.string "pothole") :=
    .choice (by decide)
  have hseverity : Shape.Allows (.choice (Severity.all.map Severity.name)) (.string "minor") :=
    .choice (by decide)
  exact List.forall_mem_cons.mpr ⟨hissue, List.forall_mem_cons.mpr ⟨hseverity,
    List.forall_mem_cons.mpr ⟨.null _, List.forall_mem_cons.mpr ⟨.text _,
      List.forall_mem_cons.mpr ⟨.number _ _, nofun⟩⟩⟩⟩⟩

/-- The report is accepted, without its description it is not, and neither is nothing at all. -/
theorem keepsOffer_potholeReport : roadIssue ∈ builtin ∧
    roadIssue.Accepts (.object potholeReport) ∧
    roadIssue.Refuses (.object (potholeReport.filter fun m => m.1 ≠ "description")) ∧
    roadIssue.Refuses .null := by
  have hmem : roadIssue ∈ builtin := by simp [builtin]
  have hkeeps := keepsOffer_of_mem_builtin hmem
  have hrequires : roadIssue.schema.Requires "description" :=
    (Schema.requires_iff (s := RoadIssueArguments.arguments.schema _ _)).mpr
      ⟨_, .tail _ (.tail _ (.tail _ (.head _))), rfl, rfl⟩
  refine ⟨hmem, hkeeps.valid _ ?_ valid_potholeReport,
    hkeeps.lacking _ "description" ?_ hrequires (by decide), hkeeps.plain _ (by decide)⟩
  · show List.Pairwise _ _
    decide
  · show List.Pairwise _ _
    decide

end Skill

end DriveAdvisory
