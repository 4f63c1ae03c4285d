/-
  The channels and those who read them, over any run of updates.

  An update edits the status where it is held, and says itself whether that was a change (`StatusChannel.Edit`).
  Readers are woken by what an edit SAYS, and what they then find is what it DID.  The two updates find out in
  different ways: one compares the whole value with what would take its place, after the summary was cut, and
  the other one compares the phases before it puts the new one.  Both are honest (`Update.honest`), so the count of
  changes goes up exactly when the value becomes another one.

  From there a run is an induction from its end:

  * `latest_after`    the value held is the last status that was published, cut, with the last phase that came with a
                      status or alone;
  * `hasNews_after`   there is news for a reader exactly if an update changed the value since the reader last looked.

  A reader who joins later looks when joining, so a run has all its readers from the start on.
-/
import DriveAdvisory.Proofs.Cycle.Detached

namespace DriveAdvisory

/-! ## Edits -/

namespace StatusChannel

/-- What is done to the value that is held: what it becomes, and whether that is said to be a change. -/
abbrev Edit := Status → Status × Bool

namespace Edit

/-- Another value, unless it is the same. -/
def replace (s : Status) : Edit := fun held => if held = s then (held, false) else (s, true)

/-- Another phase. -/
def rephase (phase : Phase) : Edit := fun held => ({ held with phase }, held.phase != phase)

/-- What is said to be a change is one, and the other way round. -/
def Honest (e : Edit) : Prop := ∀ held, (e held).2 = true ↔ (e held).1 ≠ held

theorem honest_replace (s : Status) : (replace s).Honest := by
  intro held
  unfold replace
  split
  · exact ⟨nofun, fun h => absurd rfl h⟩
  · rename_i hne
    exact ⟨fun _ => Ne.symm hne, fun _ => rfl⟩

theorem honest_rephase (phase : Phase) : (rephase phase).Honest := by
  intro held
  show (held.phase != phase) = true ↔ { held with phase } ≠ held
  rw [bne_iff_ne]
  apply not_congr
  constructor
  · rintro rfl
    rfl
  · intro hsame
    exact (congrArg Status.phase hsame).symm

end Edit

/-- Edits the value that is held.  What the edit says is a change counts as one. -/
def edit (e : Edit) (c : StatusChannel) : StatusChannel :=
  ⟨(e c.latest).1, if (e c.latest).2 then c.changes + 1 else c.changes⟩

theorem put_eq_edit (s : Status) (c : StatusChannel) : c.put s = c.edit (.replace s) := by
  unfold put edit Edit.replace
  split <;> rfl

theorem setPhase_eq_edit (phase : Phase) (c : StatusChannel) :
    c.setPhase phase = c.edit (.rephase phase) := by
  have hsaid := Edit.honest_rephase phase c.latest
  unfold setPhase put edit
  split
  · rename_i hsame
    have hnot : ¬ (Edit.rephase phase c.latest).2 = true := fun h => hsaid.mp h hsame.symm
    rw [if_neg hnot]
    exact congrArg₂ StatusChannel.mk hsame rfl
  · rename_i hne
    rw [if_pos (hsaid.mpr (Ne.symm hne))]
    rfl

/-- An honest edit counts exactly if the value becomes another one. -/
theorem changes_edit {e : Edit} (h : e.Honest) (c : StatusChannel) :
    (c.edit e).changes = if (c.edit e).latest ≠ c.latest then c.changes + 1 else c.changes :=
  if_congr (h c.latest) rfl rfl

/-! ## Updates -/

/-- What may change the status. -/
inductive Update
  | publish (s : Status)
  | setPhase (phase : Phase)
deriving DecidableEq, Repr

namespace Update

/-- What the channel is after the update. -/
def act : Update → StatusChannel → StatusChannel
  | publish s => StatusChannel.publish s
  | setPhase phase => StatusChannel.setPhase phase

/-- What the update does to the value that is held. -/
def edit : Update → Edit
  | publish s => .replace s.shown
  | setPhase phase => .rephase phase

/-- The status that is published, if one is. -/
def status? : Update → Option Status
  | publish s => some s
  | setPhase _ => none

/-- The phase that comes with a status or alone. -/
def phase : Update → Phase
  | publish s => s.phase
  | setPhase phase => phase

theorem act_eq_edit (u : Update) (c : StatusChannel) : u.act c = c.edit u.edit := by
  cases u with
  | publish s => exact put_eq_edit s.shown c
  | setPhase phase => exact setPhase_eq_edit phase c

theorem honest (u : Update) : u.edit.Honest := by
  cases u with
  | publish s => exact Edit.honest_replace s.shown
  | setPhase phase => exact Edit.honest_rephase phase

/-- The update makes the value another one. -/
def Changes (u : Update) (c : StatusChannel) : Prop := (u.act c).latest ≠ c.latest

instance (u : Update) (c : StatusChannel) : Decidable (u.Changes c) :=
  inferInstanceAs (Decidable (_ ≠ _))

/-- **The step**: an update counts as a change exactly if it changes the value. -/
theorem changes_act (u : Update) (c : StatusChannel) :
    (u.act c).changes = if u.Changes c then c.changes + 1 else c.changes := by
  have hcount := changes_edit u.honest c
  rw [← act_eq_edit] at hcount
  exact hcount

/-- An update that changes nothing leaves the channel as it is. -/
theorem act_of_not_changes {u : Update} {c : StatusChannel} (h : ¬ u.Changes c) :
    u.act c = c := by
  have hcount := u.changes_act c
  rw [if_neg h] at hcount
  exact congrArg₂ StatusChannel.mk (not_not.mp h) hcount

end Update

end StatusChannel

/-! ## Runs -/

/-- The two channels, and those who read them. -/
structure Board (κ : Type) where
  advisories : AdvisoryChannel
  status : StatusChannel := {}
  readers : κ → Reader := fun _ => {}

namespace Board

open StatusChannel (Update)

/-- What can happen. -/
inductive Deed (κ : Type)
  /-- An advisory is published. -/
  | advise (now : Moment) (a : Advisory)
  /-- The status is published, or its phase. -/
  | update (u : Update)
  /-- A reader looks at both channels. -/
  | look (reader : κ)

variable {κ : Type}

/-- The updates of a run. -/
def updates : List (Deed κ) → List Update :=
  List.filterMap fun
    | .update u => some u
    | .advise .. | .look _ => none

theorem updates_snoc (deeds : List (Deed κ)) (d : Deed κ) :
    updates (deeds ++ [d]) = updates deeds ++ updates [d] := List.filterMap_append

/-- The last status that was published. -/
def lastPublished (deeds : List (Deed κ)) : Status :=
  ((updates deeds).filterMap Update.status?).getLast?.getD {}

/-- The last phase, whether it came with a status or alone. -/
def lastPhase (deeds : List (Deed κ)) : Phase := ((updates deeds).map Update.phase).getLast?.getD .idle

variable [DecidableEq κ]

/-- What is there then. -/
def move (b : Board κ) : Deed κ → Board κ
  | .advise now a => { b with advisories := b.advisories.publish now a }
  | .update u => { b with status := u.act b.status }
  | .look reader =>
    { b with readers := fun other =>
        if other = reader then .look b.advisories b.status else b.readers other }

/-- What is there after a run, nothing having been published before. -/
def after (now : Moment) (deeds : List (Deed κ)) : Board κ :=
  deeds.foldl move { advisories := .opened now }

/-- There is a status that the reader has not seen. -/
def hasNews (b : Board κ) (reader : κ) : Bool := (b.readers reader).hasStatus b.status

variable {now : Moment} {deeds : List (Deed κ)} {reader : κ}

theorem after_snoc (deeds : List (Deed κ)) (d : Deed κ) :
    after now (deeds ++ [d]) = (after now deeds).move d := by
  rw [after, List.foldl_append]
  rfl

/-! ### What is shown -/

/-- **The value held** is the last status that was published, with its summary cut and the last phase. -/
theorem latest_after (now : Moment) (deeds : List (Deed κ)) :
    (after now deeds).status.latest =
      { (lastPublished deeds).shown with phase := lastPhase deeds } := by
  induction deeds using List.reverseRecOn with
  | nil => rfl
  | append_singleton deeds d ih =>
    rw [after_snoc]
    unfold lastPublished lastPhase at ih ⊢
    rw [updates_snoc, List.filterMap_append, List.map_append]
    cases d with
    | advise | look =>
      show (after now deeds).status.latest = _
      simpa [updates] using ih
    | update u =>
      cases u with
      | publish s =>
        show ((after now deeds).status.publish s).latest = _
        rw [StatusChannel.publish_latest]
        simp [updates, Update.status?, Update.phase, Status.shown]
      | setPhase phase =>
        show ((after now deeds).status.setPhase phase).latest = _
        rw [StatusChannel.setPhase_latest, ih]
        simp [updates, Update.status?, Update.phase]

/-! ### Who is told -/

/-- An update of the run has changed the value since the reader last looked, or since the start. -/
def Missed (now : Moment) (deeds : List (Deed κ)) (reader : κ) : Prop :=
  ∃ before u later, deeds = before ++ .update u :: later ∧ .look reader ∉ later ∧
    u.Changes (after now before).status

theorem not_missed_nil : ¬ Missed now [] reader := by
  rintro ⟨before, u, later, hsplit, -⟩
  simp at hsplit

/-- What a reader has missed after one more deed. -/
theorem missed_snoc (d : Deed κ) : Missed now (deeds ++ [d]) reader ↔
    (Missed now deeds reader ∧ d ≠ .look reader) ∨
      ∃ u, d = .update u ∧ u.Changes (after now deeds).status := by
  constructor
  · rintro ⟨before, u, later, hsplit, hlooks, hchanges⟩
    -- the update is the last deed, or it came before
    cases later using List.reverseRecOn with
    | nil =>
      obtain ⟨rfl, hd⟩ := List.append_inj' hsplit rfl
      obtain rfl := (List.cons.inj hd).1
      exact .inr ⟨u, rfl, hchanges⟩
    | append_singleton later last =>
      rw [← List.cons_append, ← List.append_assoc] at hsplit
      obtain ⟨rfl, hd⟩ := List.append_inj' hsplit rfl
      obtain rfl := (List.cons.inj hd).1
      rw [List.mem_append, not_or, List.mem_singleton] at hlooks
      exact .inl ⟨⟨before, u, later, rfl, hlooks.1, hchanges⟩, Ne.symm hlooks.2⟩
  · rintro (⟨⟨before, u, later, rfl, hlooks, hchanges⟩, hd⟩ | ⟨u, rfl, hchanges⟩)
    · refine ⟨before, u, later ++ [d], by simp, ?_, hchanges⟩
      rw [List.mem_append, not_or, List.mem_singleton]
      exact ⟨hlooks, Ne.symm hd⟩
    · exact ⟨deeds, u, [], rfl, List.not_mem_nil, hchanges⟩

/-- No reader has seen more changes than there were. -/
theorem seenStatus_le (now : Moment) (deeds : List (Deed κ)) (reader : κ) :
    ((after now deeds).readers reader).seenStatus ≤ (after now deeds).status.changes := by
  induction deeds using List.reverseRecOn with
  | nil => exact Nat.le_refl _
  | append_singleton deeds d ih =>
    rw [after_snoc]
    cases d with
    | advise => exact ih
    | update u =>
      show _ ≤ (u.act (after now deeds).status).changes
      rw [u.changes_act]
      split
      · exact Nat.le_succ_of_le ih
      · exact ih
    | look other =>
      show (if reader = other then Reader.look _ _ else _).seenStatus ≤ _
      split
      · exact Nat.le_refl _
      · exact ih

/-- **The step**: after an update there is news for those for whom there was news before, and, if it changed the
    value, for everybody. -/
theorem hasNews_update (now : Moment) (deeds : List (Deed κ)) (u : Update) (reader : κ) :
    (after now (deeds ++ [.update u])).hasNews reader = true ↔
      (after now deeds).hasNews reader = true ∨ u.Changes (after now deeds).status := by
  have hle := seenStatus_le now deeds reader
  rw [after_snoc]
  show (_ != (u.act (after now deeds).status).changes) = true ↔
    (_ != (after now deeds).status.changes) = true ∨ _
  rw [bne_iff_ne, bne_iff_ne, u.changes_act]
  show ((after now deeds).readers reader).seenStatus ≠ _ ↔ _
  by_cases hchanges : u.Changes (after now deeds).status
  · -- the count passes everything that anybody has seen
    rw [if_pos hchanges]
    exact ⟨fun _ => .inr hchanges, fun _ => by omega⟩
  · rw [if_neg hchanges, or_iff_left hchanges]

/-- **There is news** for a reader exactly if an update changed the value since the reader last looked. -/
theorem hasNews_after (now : Moment) (deeds : List (Deed κ)) (reader : κ) :
    (after now deeds).hasNews reader = true ↔ Missed now deeds reader := by
  induction deeds using List.reverseRecOn with
  | nil => exact ⟨nofun, fun h => absurd h not_missed_nil⟩
  | append_singleton deeds d ih =>
    rw [missed_snoc, ← ih]
    cases d with
    | advise =>
      rw [after_snoc]
      simp [move, hasNews]
    | update u =>
      rw [hasNews_update]
      simp
    | look other =>
      rw [after_snoc]
      by_cases hreader : reader = other
      · simp [move, hasNews, hreader, Reader.hasStatus, Reader.look]
      · simp [move, hasNews, hreader, Ne.symm hreader]

/-! ## What readers can rely on -/

/-- What holds after a run, and of any update that may come next. -/
structure Informs (now : Moment) (deeds : List (Deed κ)) : Prop where
  /-- The summary has 200 characters at most, -/
  short : (after now deeds).status.latest.summary.length ≤ 200
  /-- and the one that was published last begins with it. -/
  begins : (after now deeds).status.latest.summary.toList <+: (lastPublished deeds).summary.toList
  /-- The value held is what was published last, but that 200 characters of the summary are left and that the phase
      is the last one. -/
  latest : (after now deeds).status.latest =
    { lastPublished deeds with
      summary := String.ofList ((lastPublished deeds).summary.toList.take 200)
      phase := lastPhase deeds }
  /-- There is news for those who have missed a change. -/
  news : ∀ reader, (after now deeds).hasNews reader = true ↔ Missed now deeds reader
  /-- An update edits the value held, and what it says decides whether that counts as a change. -/
  edited : ∀ u : Update,
    (after now (deeds ++ [.update u])).status = (after now deeds).status.edit u.edit
  /-- It says that it changes the value exactly if it does. -/
  said : ∀ u : Update, (u.edit (after now deeds).status.latest).2 = true ↔
    (after now (deeds ++ [.update u])).status.latest ≠ (after now deeds).status.latest
  /-- A reader who has seen the value is told of the update exactly if it makes the value another one. -/
  told : ∀ reader, (after now deeds).hasNews reader = false → ∀ u : Update,
    (after now (deeds ++ [.update u])).hasNews reader = true ↔
      (after now (deeds ++ [.update u])).status.latest ≠ (after now deeds).status.latest
  /-- A status that shows as the last one did, however long its summary is, changes nothing for anybody if its phase
      is still the last one. -/
  quiet : ∀ s : Status, s.shown = (lastPublished deeds).shown → s.phase = lastPhase deeds →
    after now (deeds ++ [.update (.publish s)]) = after now deeds

/-- **Readers are told** of what changes, and of nothing else. -/
theorem informs (now : Moment) (deeds : List (Deed κ)) : Informs now deeds := by
  have hlatest := latest_after now deeds
  have hsummary : (after now deeds).status.latest.summary =
      Text.cut 200 (lastPublished deeds).summary := by
    rw [hlatest]
    rfl
  have hedited : ∀ u : Update, (after now (deeds ++ [.update u])).status =
      (after now deeds).status.edit u.edit := by
    intro u
    rw [after_snoc, ← u.act_eq_edit]
    rfl
  constructor
  case short =>
    rw [hsummary, ← String.length_toList]
    exact Text.size_cut_le 200 _
  case begins =>
    rw [hsummary, Text.toList_cut]
    exact List.take_prefix 200 _
  case latest => exact hlatest
  case news => exact hasNews_after now deeds
  case edited => exact hedited
  case said =>
    intro u
    rw [u.honest, hedited]
    rfl
  case told =>
    intro reader hseen u
    rw [hasNews_update, hedited, ← u.act_eq_edit, hseen]
    simp [Update.Changes]
  case quiet =>
    intro s hshown hphase
    have hsame : ¬ (Update.publish s).Changes (after now deeds).status := by
      rw [Update.Changes, not_not]
      show ((after now deeds).status.publish s).latest = _
      rw [StatusChannel.publish_latest, hlatest, ← hshown, ← hphase]
      rfl
    rw [after_snoc]
    show { after now deeds with status := (Update.publish s).act (after now deeds).status } = _
    rw [Update.act_of_not_changes hsame]

/-- A reader who has looked is told of another phase, but neither of the same phase nor of the same status. -/
example :
    let status : Status := { summary := "bend", phase := .published }
    let board : Board Unit := after ⟨0, 0⟩ [.update (.publish status), .look ()]
    (board.move (.update (.setPhase .idle))).hasNews () = true ∧
      (board.move (.update (.setPhase .published))).hasNews () = false ∧
      (board.move (.update (.publish status))).hasNews () = false := by
  decide +kernel

end Board

end DriveAdvisory
