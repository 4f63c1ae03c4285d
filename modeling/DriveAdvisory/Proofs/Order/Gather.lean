/-
  What runs yield.

  A run is a list of events, folded over a state by a step, and each event may yield something in the state
  that it meets.  `gather` is all of it, in order.  It goes along the run from its start, and `gather_append`
  and `gather_snoc` cut it wherever the run is cut, which is what proofs from the end of a run need.
-/

namespace DriveAdvisory

section Gather

variable {σ ε α β : Type} (step : σ → ε → σ)

/-- What a run yields, in order, by what each event yields in the state that it meets. -/
def gather (yield : σ → ε → List α) : σ → List ε → List α
  | _, [] => []
  | s, e :: rest => yield s e ++ gather yield (step s e) rest

theorem gather_append (yield : σ → ε → List α) : ∀ (events later : List ε) (s : σ),
    gather step yield s (events ++ later) =
      gather step yield s events ++ gather step yield (events.foldl step s) later
  | [], _, _ => rfl
  | e :: rest, later, s => by
    rw [List.cons_append, gather, gather_append yield rest later, gather, List.append_assoc]
    rfl

theorem gather_snoc (yield : σ → ε → List α) (events : List ε) (e : ε) (s : σ) :
    gather step yield s (events ++ [e]) =
      gather step yield s events ++ yield (events.foldl step s) e := by
  rw [gather_append, gather, gather, List.append_nil]

/-- What is only ever replaced is, after a run, the last thing that replaced it. -/
theorem latest_gather (yield : σ → ε → Option α) (f : α → Option β) (current : σ → Option β)
    (hstep : ∀ s e, current (step s e) = ((yield s e).bind f).or (current s)) :
    ∀ (events : List ε) (s : σ), current (events.foldl step s) =
      ((gather step (fun s e => (yield s e).toList) s events).filterMap f).getLast?.or (current s)
  | [], _ => rfl
  | e :: rest, s => by
    rw [List.foldl_cons, latest_gather yield f current hstep rest, hstep, gather,
      List.filterMap_append, List.getLast?_append, Option.or_assoc]
    congr 1
    cases yield s e with
    | none => rfl
    | some a => cases ha : f a <;> simp [ha]

end Gather

end DriveAdvisory
