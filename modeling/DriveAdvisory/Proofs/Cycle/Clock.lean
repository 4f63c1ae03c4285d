/-
  The clock makes moves.

  `Session.run` lets the cycles take their steps when these are due and ticks at the ticker's rate.  All of that
  is a list of moves, so what is proved of every list of moves holds of every run by the clock
  (`Reached.run`).  It is not a matter of course: the clock takes a cycle from the list and steps it, and a
  move steps the cycle of a number, which is the same only while no two cycles have the same one.
-/
import DriveAdvisory.Proofs.Cycle.Interleaving
import DriveAdvisory.Proofs.Order.Selection

namespace DriveAdvisory.Session

variable {setup : SessionSetup} {w : World} {s : Session}

/-- The session can come about in a world. -/
def Reached (setup : SessionSetup) (w : World) (s : Session) : Prop :=
  ∃ moves, s = (begun setup w).after setup moves

theorem Reached.move (h : Reached setup w s) (m : Move) : Reached setup w (s.move setup m) := by
  obtain ⟨moves, rfl⟩ := h
  exact ⟨moves ++ [m], (after_snoc moves m).symm⟩

theorem Reached.coherent (h : Reached setup w s) :
    ∃ calls reports, Coherent setup.pipeline calls reports s := by
  obtain ⟨moves, rfl⟩ := h
  exact ⟨_, _, coherent_after setup w moves⟩

/-- A step of a cycle under way is a move. -/
theorem Reached.stepCycle (h : Reached setup w s) {number : Nat} {c : Cycle}
    (hmem : (number, c) ∈ s.cycles) : Reached setup w (s.stepCycle setup.pipeline number c) := by
  obtain ⟨calls, reports, hcoherent⟩ := h.coherent
  have hmove := h.move (.cycle number)
  rw [Session.move, hcoherent.cycle?_eq_some_iff.mpr hmem] at hmove
  exact hmove

/-- A step of a cycle leaves the others where they are. -/
theorem mem_putBack_of_ne {number : Nat} {entry : Nat × Cycle} (hmem : entry ∈ s.cycles)
    (hne : entry.1 ≠ number) (phase : Option Phase) (c : Cycle) :
    entry ∈ (s.putBack number phase c).cycles := by
  unfold putBack
  cases c.isFinished with
  | true => exact List.mem_filter.mpr ⟨hmem, decide_eq_true hne⟩
  | false => exact List.mem_map.mpr ⟨entry, hmem, if_neg hne⟩

theorem mem_stepCycle {p : Pipeline} {number : Nat} {entry : Nat × Cycle} (hmem : entry ∈ s.cycles)
    (hne : entry.1 ≠ number) (c : Cycle) : entry ∈ (s.stepCycle p number c).cycles :=
  @mem_putBack_of_ne { s with world := (c.step p s.world).2 } number entry hmem hne _ _

/-- Setting out a cycle is a move or two, and leaves the others where they are. -/
theorem Reached.begin (h : Reached setup w s) {entry : Nat × Cycle} (hmem : entry ∈ s.cycles) :
    Reached setup w (s.begin setup.pipeline entry) ∧ ∀ other ∈ s.cycles, other.1 ≠ entry.1 →
      other ∈ (s.begin setup.pipeline entry).cycles := by
  unfold Session.begin
  split
  · have hstep : Reached setup w (s.stepCycle setup.pipeline entry.1 entry.2) := h.stepCycle hmem
    simp only
    split
    · rename_i c hc
      obtain ⟨calls, reports, hcoherent⟩ := hstep.coherent
      refine ⟨hstep.stepCycle (hcoherent.cycle?_eq_some_iff.mp hc), ?_⟩
      intro other hother hne
      exact mem_stepCycle (mem_stepCycle hother hne entry.2) hne c
    · exact ⟨hstep, fun other hother hne => mem_stepCycle hother hne entry.2⟩
  · exact ⟨h, fun other hother _ => hother⟩

theorem Reached.beginAll : ∀ {entries : List (Nat × Cycle)} {s : Session}, Reached setup w s →
    (∀ entry ∈ entries, entry ∈ s.cycles) → (entries.map (·.1)).Nodup →
    Reached setup w (entries.foldl (Session.begin setup.pipeline) s)
  | [], _, h, _, _ => h
  | entry :: rest, s, h, hmem, hnodup => by
    obtain ⟨hfresh, hrest⟩ := List.nodup_cons.mp hnodup
    obtain ⟨hbegun, hkept⟩ := h.begin (hmem entry List.mem_cons_self)
    refine hbegun.beginAll ?_ hrest
    intro other hother
    refine hkept other (hmem other (List.mem_cons_of_mem entry hother)) ?_
    intro heq
    exact hfresh (List.mem_map.mpr ⟨other, hother, heq⟩)

theorem Reached.stepDue (moment : Duration) : ∀ (n : Nat) {s : Session}, Reached setup w s →
    Reached setup w (s.stepDue setup.pipeline moment n)
  | 0, _, h => h
  | n + 1, s, h => by
    unfold Session.stepDue
    cases hnext : s.nextDue? moment with
    | none => exact h
    | some entry =>
      have hleast : Order.least? (Order.below fun e : Nat × Cycle => e.2.due)
          (s.cycles.filter fun e => e.2.due ≤ moment) = some entry := hnext
      have hmem := (Order.least?_eq_some_iff.mp hleast).mem
      exact Reached.stepDue moment n (h.stepCycle (List.mem_filter.mp hmem).1)

/-- Letting time pass is a list of moves. -/
theorem Reached.advance (h : Reached setup w s) (moment : Duration) :
    Reached setup w (s.advance setup.pipeline moment) := by
  obtain ⟨calls, reports, hcoherent⟩ := h.coherent
  have hbegun := h.beginAll (fun entry hentry => hentry) hcoherent.nodup
  exact (hbegun.stepDue moment _).move (.time moment)

theorem Reached.tick (h : Reached setup w s) (snapshot : Option Snapshot) :
    Reached setup w (s.tick setup snapshot).2 :=
  h.move (.tick snapshot setup.ticker.engineName setup.ticker.engineAvailable)

theorem Reached.tickAt (snapshot : Option Snapshot) : ∀ (moments : List Duration) {s : Session},
    Reached setup w s → Reached setup w (s.tickAt setup snapshot moments)
  | [], _, h => h
  | moment :: rest, _, h => Reached.tickAt snapshot rest ((h.advance moment).tick snapshot)

/-- **A run by the clock is a list of moves.** -/
theorem Reached.run (h : Reached setup w s) (period length : Duration) (snapshot : Option Snapshot) :
    Reached setup w (s.run setup period length snapshot) :=
  (h.tickAt snapshot _).advance _

end DriveAdvisory.Session
