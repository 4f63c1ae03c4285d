/-
  The budget of queries: a bucket of tokens.

  The bucket is full at the start.  A query takes one token, and one token comes back every `interval`,
  up to the bucket's size.  Instead of counting tokens the budget remembers the moment at which it would
  be full again, which needs no clock ticking in between: every token that is missing puts that
  moment off by one interval.
-/
import DriveAdvisory.Source.Policy

namespace DriveAdvisory

/-- A bucket of tokens. -/
structure Budget where
  /-- How many tokens it holds; at least one. -/
  size : Nat
  /-- The time in which one token comes back. -/
  interval : Duration
  /-- When it is full again. -/
  fullAt : Duration := 0
deriving DecidableEq, Repr

namespace Budget

/-- The budget of a policy: its calls, spread evenly over its window.  A bucket holds at least one token,
    and a window that is too short to be spread counts as a second. -/
def ofPolicy (p : SourcePolicy) : Budget :=
  let size := max p.calls 1
  let interval := p.window / size
  { size, interval := if interval = 0 then Duration.ofSeconds 1 / size else interval }

/-- How far from full the bucket is at a moment, as a time. -/
def debt (b : Budget) (now : Duration) : Duration := b.fullAt - now

/-- Takes a token, if there is one. -/
def take? (b : Budget) (now : Duration) : Option Budget :=
  if b.debt now + b.interval ≤ b.size * b.interval then
    some { b with fullAt := max b.fullAt now + b.interval }
  else none

end Budget

end DriveAdvisory
