/-
  Saved settings are loaded again.

  Of the files no more is asked than that what was written is there and is read (`Disk.Faithful`).  The settings that
  are loaded are those that a file keeps of the saved ones (`Settings.ofText_toText`), and whoever asks either of them
  gets the same answer: nothing tells one NaN from another, or a blank key from none (`Alike.agrees`).
-/
import DriveAdvisory.Proofs.Number.Order
import DriveAdvisory.Proofs.Settings.File
import DriveAdvisory.Settings.Storage

namespace DriveAdvisory

/-! ## Files -/

/-- What was written is there, and is read as it was written. -/
structure Disk.Faithful {W : Type} (disk : Disk (StateM W)) (content : W → String → Option String) :
    Prop where
  isThere : ∀ w path, (disk.isThere path).run w = ((content w path).isSome, w)
  read : ∀ w path text, content w path = some text → (disk.read path).run w = (.ok text, w)
  write : ∀ w path text after, (disk.write path text).run w = (.ok (), after) →
    content after path = some text

section Outcome

variable {W α β : Type}

/-- What a program that may fail gives, and the files that it leaves. -/
def outcome (program : ExceptT Fault (StateM W) α) (w : W) : Except Fault α × W := program.run.run w

theorem outcome_bind (program : ExceptT Fault (StateM W) α) (next : α → ExceptT Fault (StateM W) β)
    (w : W) : outcome (program >>= next) w =
      match outcome program w with
      | (.ok a, between) => outcome (next a) between
      | (.error fault, between) => (.error fault, between) := by
  have hshape : outcome (program >>= next) w =
      (ExceptT.bindCont next (outcome program w).1).run (outcome program w).2 := rfl
  rw [hshape]
  rcases outcome program w with ⟨result | result, between⟩
  · rfl
  · rfl

/-- One program after another one. -/
theorem outcome_bind_eq_ok {program : ExceptT Fault (StateM W) α} {next : α → ExceptT Fault (StateM W) β}
    {w after : W} {b : β} : outcome (program >>= next) w = (.ok b, after) ↔
      ∃ a between, outcome program w = (.ok a, between) ∧ outcome (next a) between = (.ok b, after) := by
  rw [outcome_bind]
  rcases outcome program w with ⟨fault | a, between⟩
  · simp
  · simp

/-- An operation on files gives what it gives, be it a failure. -/
theorem outcome_lift_eq_ok {operation : StateM W α} {w after : W} {a : α} :
    outcome (monadLift operation) w = (.ok a, after) ↔ operation.run w = (a, after) := by
  have hshape : outcome (monadLift operation) w = (.ok (operation.run w).1, (operation.run w).2) := rfl
  rw [hshape]
  constructor
  · intro h
    obtain ⟨hfirst, hsecond⟩ := Prod.mk.inj h
    exact Prod.ext (Except.ok.inj hfirst) hsecond
  · intro h
    rw [h]

theorem outcome_liftExcept (result : Except Fault α) (w : W) :
    outcome (liftExcept result) w = (result, w) := by
  cases result with
  | error fault => rfl
  | ok a => rfl

end Outcome

/-- Files in memory, each of which may be written and read. -/
def Disk.inMemory : Disk (StateM (String → Option String)) where
  isThere path := fun files => ((files path).isSome, files)
  read path := fun files =>
    match files path with
    | some text => (.ok text, files)
    | none => (.error noSuchFile, files)
  makeDirectory _ := return .ok ()
  closeDirectory _ := return .ok ()
  write path text := fun files => (.ok (), fun other => if other = path then some text else files other)

theorem Disk.faithful_inMemory : Disk.inMemory.Faithful fun files path => files path where
  isThere _ _ := rfl
  read files path text h := by
    have hread : (Disk.inMemory.read path).run files =
        match files path with
        | some text => (.ok text, files)
        | none => (.error noSuchFile, files) := rfl
    rw [hread, h]
  write files path text after h := by
    obtain rfl := (Prod.mk.inj h).2
    exact if_pos rfl

/-! ## Numbers up to NaN -/

namespace Binary

variable {f : BinaryFormat} {x y : Binary f}

/-- Equal, every NaN being equal to every other one. -/
def Same (x y : Binary f) : Prop := x = y ∨ x.isNaN = true ∧ y.isNaN = true

theorem same_canonical (hnan : (nan : Binary f).isNaN = true) (x : Binary f) : x.canonical.Same x := by
  unfold canonical
  split
  · rename_i hx
    exact .inr ⟨hnan, hx⟩
  · exact .inl rfl

theorem isFinite_of_isNaN (h : x.isNaN = true) : x.isFinite = false := by
  rw [isNaN, decide_eq_true_eq] at h
  rw [isFinite, decide_eq_false_iff_not]
  omega

namespace Same

theorem isFinite_eq (h : x.Same y) : x.isFinite = y.isFinite := by
  rcases h with rfl | ⟨hx, hy⟩
  · rfl
  · rw [isFinite_of_isNaN hx, isFinite_of_isNaN hy]

theorem lt_iff (h : x.Same y) (z : Binary f) : z < x ↔ z < y := by
  rcases h with rfl | ⟨hx, hy⟩
  · rfl
  · rw [Binary.lt_iff, Binary.lt_iff, hx, hy]
    simp

theorem le_iff (h : x.Same y) (z : Binary f) : z ≤ x ↔ z ≤ y := by
  rcases h with rfl | ⟨hx, hy⟩
  · rfl
  · rw [Binary.le_iff, Binary.le_iff, hx, hy]
    simp

theorem ge_iff (h : x.Same y) (z : Binary f) : x ≤ z ↔ y ≤ z := by
  rcases h with rfl | ⟨hx, hy⟩
  · rfl
  · rw [Binary.le_iff, Binary.le_iff, hx, hy]
    simp

theorem prose_eq (h : x.Same y) : x.prose = y.prose := by
  rcases h with rfl | ⟨hx, hy⟩
  · rfl
  · rw [prose, prose, text, text, if_pos hx, if_pos hy]

end Same

end Binary

namespace Settings

theorem seconds_eq {x y : Double} (h : x.Same y) (name : String) : seconds name x = seconds name y := by
  have hspan : Duration.ofFloatSeconds x = Duration.ofFloatSeconds y := by
    rcases h with rfl | ⟨hx, hy⟩
    · rfl
    · rw [Duration.ofFloatSeconds, Duration.ofFloatSeconds, if_pos hx, if_pos hy]
  rw [seconds, seconds, hspan, h.prose_eq]

/-! ## Settings that are alike -/

/-- The second settings are the first ones, but for NaNs, and for blank keys, of which none is left. -/
structure Alike (s t : Settings) : Prop where
  provider : t.provider = s.provider
  model : t.model = s.model
  localFallback : t.localFallback = s.localFallback
  localModel : t.localModel = s.localModel
  anthropicAddress : t.anthropicAddress = s.anthropicAddress
  openAIAddress : t.openAIAddress = s.openAIAddress
  localAddress : t.localAddress = s.localAddress
  anthropicKey : t.anthropicKey = s.anthropicKey.kept
  openAIKey : t.openAIKey = s.openAIKey.kept
  trafficKey : t.trafficKey = s.trafficKey.kept
  rate : t.rate.Same s.rate
  reasoningTimeout : t.reasoningTimeout.Same s.reasoningTimeout
  cycleDeadline : t.cycleDeadline.Same s.cycleDeadline
  advisoryMaxAge : t.advisoryMaxAge.Same s.advisoryMaxAge
  needsFrame : t.needsFrame = s.needsFrame
  maxSpeed : t.maxSpeed.Same s.maxSpeed
  maxStep : t.maxStep.Same s.maxStep
  minConfidence : t.minConfidence.Same s.minConfidence
  repeatRadius : t.repeatRadius.Same s.repeatRadius
  repeatWindow : t.repeatWindow.Same s.repeatWindow
  ringCapacity : t.ringCapacity = s.ringCapacity
  journalPath : t.journalPath = s.journalPath
  contextPath : t.contextPath = s.contextPath
  framePath : t.framePath = s.framePath

/-- What is kept of settings is like them. -/
theorem alike_kept (s : Settings) : s.Alike s.kept := by
  have hdouble : (Binary.nan : Double).isNaN = true := rfl
  have hsingle : (Binary.nan : Single).isNaN = true := rfl
  constructor
  case rate => exact Binary.same_canonical hdouble s.rate
  case reasoningTimeout => exact Binary.same_canonical hdouble s.reasoningTimeout
  case cycleDeadline => exact Binary.same_canonical hdouble s.cycleDeadline
  case advisoryMaxAge => exact Binary.same_canonical hdouble s.advisoryMaxAge
  case maxSpeed => exact Binary.same_canonical hsingle s.maxSpeed
  case maxStep => exact Binary.same_canonical hsingle s.maxStep
  case minConfidence => exact Binary.same_canonical hsingle s.minConfidence
  case repeatRadius => exact Binary.same_canonical hdouble s.repeatRadius
  case repeatWindow => exact Binary.same_canonical hdouble s.repeatWindow
  all_goals rw [kept]

/-! ## What follows from them -/

/-- Both give the same, or the same fault. -/
def Agree {α : Type} (same : α → α → Prop) : Except Fault α → Except Fault α → Prop
  | .ok a, .ok b => same a b
  | .error fault, .error other => fault = other
  | _, _ => False

/-- Everything that the program asks of settings. -/
structure Agrees (s t : Settings) : Prop where
  anthropicKey : t.anthropicKey.exposed? = s.anthropicKey.exposed?
  openAIKey : t.openAIKey.exposed? = s.openAIKey.exposed?
  trafficKey : t.trafficKey.exposed? = s.trafficKey.exposed?
  limits : t.limits.maxSpeed.Same s.limits.maxSpeed ∧ t.limits.maxStep.Same s.limits.maxStep ∧
    t.limits.minConfidence.Same s.limits.minConfidence ∧ t.limits.alertLimit = s.limits.alertLimit
  closeness : t.closeness.radius.Same s.closeness.radius ∧ t.closeness.window.Same s.closeness.window
  ticker : Agree (fun a b => a.rate.Same b.rate ∧ a.deadline = b.deadline ∧ a.maxAge = b.maxAge)
    t.ticker? s.ticker?
  cycle : Agree (fun a b => a.timeout = b.timeout ∧ a.needsFrame = b.needsFrame ∧
    a.policy.minConfidence.Same b.policy.minConfidence ∧ a.policy.alertLimit = b.policy.alertLimit)
    t.cycle? s.cycle?
  journal : ∀ home, t.journalFile home = s.journalFile home
  probe : t.probeAddress = s.probeAddress
  verdict : t.validate = s.validate

/-- A blank key is never sent. -/
theorem exposed?_kept (k : ApiKey) : k.kept.exposed? = k.exposed? := by
  unfold ApiKey.kept
  split
  · rename_i hblank
    have htrim : Text.trim k.raw = "" := eq_of_beq hblank
    rw [ApiKey.exposed?, ApiKey.exposed?, Text.trimmed?, Text.trimmed?, htrim]
    rfl
  · rfl

namespace Alike

variable {s t : Settings}

theorem reasoningTimeout?_eq (h : s.Alike t) : t.reasoningTimeout? = s.reasoningTimeout? :=
  seconds_eq h.reasoningTimeout _

theorem cycleDeadline?_eq (h : s.Alike t) : t.cycleDeadline? = s.cycleDeadline? :=
  seconds_eq h.cycleDeadline _

theorem advisoryMaxAge?_eq (h : s.Alike t) : t.advisoryMaxAge? = s.advisoryMaxAge? :=
  seconds_eq h.advisoryMaxAge _

/-- **No check** tells a NaN from another one. -/
theorem validate_eq (h : s.Alike t) : t.validate = s.validate := by
  unfold validate
  simp only [h.reasoningTimeout?_eq, h.cycleDeadline?_eq, h.advisoryMaxAge?_eq, h.rate.isFinite_eq,
    h.rate.lt_iff, h.rate.prose_eq, h.minConfidence.le_iff, h.minConfidence.ge_iff,
    h.minConfidence.prose_eq, h.maxSpeed.ge_iff, h.maxStep.ge_iff]

theorem ticker_agree (h : s.Alike t) :
    Agree (fun a b => a.rate.Same b.rate ∧ a.deadline = b.deadline ∧ a.maxAge = b.maxAge)
      t.ticker? s.ticker? := by
  unfold ticker?
  rw [h.cycleDeadline?_eq, h.advisoryMaxAge?_eq]
  cases s.cycleDeadline? with
  | error fault => exact rfl
  | ok deadline =>
    cases s.advisoryMaxAge? with
    | error fault => exact rfl
    | ok maxAge => exact ⟨h.rate, rfl, rfl⟩

theorem cycle_agree (h : s.Alike t) :
    Agree (fun a b => a.timeout = b.timeout ∧ a.needsFrame = b.needsFrame ∧
      a.policy.minConfidence.Same b.policy.minConfidence ∧ a.policy.alertLimit = b.policy.alertLimit)
      t.cycle? s.cycle? := by
  unfold cycle?
  rw [h.reasoningTimeout?_eq]
  cases s.reasoningTimeout? with
  | error fault => exact rfl
  | ok timeout => exact ⟨rfl, h.needsFrame, h.minConfidence, rfl⟩

/-- **Settings that are alike** agree on everything that the program asks of them. -/
theorem agrees (h : s.Alike t) : s.Agrees t where
  anthropicKey := by rw [h.anthropicKey, exposed?_kept]
  openAIKey := by rw [h.openAIKey, exposed?_kept]
  trafficKey := by rw [h.trafficKey, exposed?_kept]
  limits := ⟨h.maxSpeed, h.maxStep, h.minConfidence, rfl⟩
  closeness := ⟨h.repeatRadius, h.repeatWindow⟩
  ticker := h.ticker_agree
  cycle := h.cycle_agree
  journal home := by rw [journalFile, journalFile, h.journalPath]
  probe := by rw [probeAddress, probeAddress, h.provider, h.anthropicAddress, h.openAIAddress, h.localAddress]
  verdict := h.validate_eq

end Alike

/-! ## Saving and loading -/

/-- An operation that is attempted has to do what it is for. -/
theorem outcome_attempt_eq_ok {W α : Type} {what path : String} {operation : StateM W (FileContent α)}
    {w after : W} {a : α} :
    outcome (attempt what path operation) w = (.ok a, after) ↔ operation.run w = (.ok a, after) := by
  unfold attempt
  refine outcome_bind_eq_ok.trans ?_
  constructor
  · -- a failure would be thrown, so there was none
    rintro ⟨result, between, hrun, hresult⟩
    have hrun := outcome_lift_eq_ok.mp hrun
    cases result with
    | error reason => nomatch hresult
    | ok b =>
      have hsame : ((.ok b, between) : Except Fault α × W) = (.ok a, after) := hresult
      obtain ⟨hvalue, rfl⟩ := Prod.mk.inj hsame
      obtain rfl := Except.ok.inj hvalue
      exact hrun
  · exact fun hrun => ⟨.ok a, after, outcome_lift_eq_ok.mpr hrun, rfl⟩

variable {W : Type} {disk : Disk (StateM W)} {content : W → String → Option String} {path : String}

/-- Settings that were saved are the content of their file. -/
theorem content_of_saveTo (hdisk : disk.Faithful content) {s : Settings} {before after : W}
    (hsaved : outcome (saveTo disk path s) before = (.ok (), after)) :
    ∃ text, s.toText = .ok text ∧ content after path = some text := by
  unfold saveTo at hsaved
  obtain ⟨_, _, -, hsaved⟩ := outcome_bind_eq_ok.mp hsaved
  obtain ⟨_, _, -, hsaved⟩ := outcome_bind_eq_ok.mp hsaved
  obtain ⟨text, between, htext, hsaved⟩ := outcome_bind_eq_ok.mp hsaved
  rw [outcome_liftExcept] at htext
  exact ⟨text, (Prod.mk.inj htext).1, hdisk.write between path text after (outcome_attempt_eq_ok.mp hsaved)⟩

/-- The content of a file is loaded. -/
theorem loadFrom_of_content (hdisk : disk.Faithful content) {text : String} {w : W}
    (hcontent : content w path = some text) {s : Settings} (hread : ofText text = .ok s) :
    outcome (loadFrom disk path) w = (.ok (some s), w) := by
  have hthere := hdisk.isThere w path
  have htext : outcome (attempt "read" path (disk.read path)) w = (.ok text, w) :=
    outcome_attempt_eq_ok.mpr (hdisk.read w path text hcontent)
  rw [hcontent] at hthere
  unfold loadFrom
  refine outcome_bind_eq_ok.mpr ⟨true, w, ?_, ?_⟩
  · exact outcome_lift_eq_ok.mpr hthere
  · rw [if_pos rfl]
    refine outcome_bind_eq_ok.mpr ⟨text, w, htext, ?_⟩
    refine outcome_bind_eq_ok.mpr ⟨s, w, ?_, rfl⟩
    rw [outcome_liftExcept, hread]

/-- **Saved settings are loaded again**, as long as their file is not touched.  Every setting is what it was, one NaN
    being as good as another one, except that a blank key is none; so nothing that the program asks of them
    has changed. -/
theorem loadFrom_saveTo (hdisk : disk.Faithful content) {s : Settings} {before after later : W}
    (hsaved : outcome (saveTo disk path s) before = (.ok (), after))
    (huntouched : content later path = content after path) :
    ∃ loaded, outcome (loadFrom disk path) later = (.ok (some loaded), later) ∧
      s.Alike loaded ∧ s.Agrees loaded := by
  obtain ⟨text, htext, hcontent⟩ := content_of_saveTo hdisk hsaved
  exact ⟨s.kept, loadFrom_of_content hdisk (huntouched.trans hcontent) (ofText_toText htext),
    s.alike_kept, s.alike_kept.agrees⟩

/-- In memory all settings are saved that a file can hold. -/
theorem outcome_saveTo_inMemory {s : Settings} (h : s.ringCapacity ≤ largestInteger) (path : String)
    (files : String → Option String) : outcome (s.saveTo Disk.inMemory path) files =
      (.ok (), fun other => if other = path then some (Toml.text s.members) else files other) := by
  have htext : outcome (liftExcept s.toText) files = (.ok (Toml.text s.members), files) := by
    rw [outcome_liftExcept, toText, if_pos h]
  unfold saveTo
  refine outcome_bind_eq_ok.mpr ⟨(), files, rfl, ?_⟩
  refine outcome_bind_eq_ok.mpr ⟨(), files, rfl, ?_⟩
  exact outcome_bind_eq_ok.mpr ⟨_, files, htext, rfl⟩

/-- Settings with a blank key, with blanks around another one, and with a rate that is no number. -/
def unusual : Settings :=
  { provider := .ollama, model := "a \"b\" 'c'\n", anthropicKey := ⟨"  "⟩, trafficKey := ⟨" k "⟩
    rate := Binary.nan, maxStep := Binary.infinite true }

theorem loadFrom_saveTo_unusual : ∃ after loaded,
    outcome (unusual.saveTo Disk.inMemory "config.toml") (fun _ => none) = (.ok (), after) ∧
      outcome (loadFrom Disk.inMemory "config.toml") after = (.ok (some loaded), after) ∧
      loaded.model = "a \"b\" 'c'\n" ∧ loaded.anthropicKey = {} ∧ loaded.trafficKey = ⟨" k "⟩ ∧
      loaded.rate.isNaN = true ∧ loaded.maxStep = Binary.infinite true ∧ unusual.Agrees loaded := by
  obtain ⟨after, hsaved⟩ : ∃ after,
      outcome (unusual.saveTo Disk.inMemory "config.toml") (fun _ => none) = (.ok (), after) :=
    ⟨_, outcome_saveTo_inMemory (by decide) "config.toml" _⟩
  have huntouched : after "config.toml" = after "config.toml" := rfl
  obtain ⟨loaded, hloaded, halike, hagrees⟩ :=
    loadFrom_saveTo Disk.faithful_inMemory hsaved huntouched
  refine ⟨_, loaded, hsaved, hloaded, halike.model, halike.anthropicKey, halike.trafficKey, ?_, ?_,
    hagrees⟩
  · rcases halike.rate with hsame | ⟨hnan, -⟩
    · rw [hsame]
      rfl
    · exact hnan
  · rcases halike.maxStep with hsame | ⟨-, hnan⟩
    · exact hsame
    · nomatch hnan

end Settings

end DriveAdvisory
