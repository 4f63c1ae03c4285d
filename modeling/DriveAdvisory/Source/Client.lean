/-
  A client: the answers of one source, kept for a while, and the budget of queries to it.

  Whoever asks a client gets no failure.  An answer younger than the policy's time to live is given out
  as it is.  Otherwise the source is asked, if the budget allows; what it answers takes the place of what
  was kept.  When it fails, takes too long or may not be asked, the last answer to the same query is given
  out again, marked as stale, or else nothing.

  A visit has two halves, because the source answers in between: `plan` looks at the cache and takes from the
  budget, `settle` takes in what came of the query.  Visits to one client follow one another; nobody sees
  a client between the halves of another one's visit.
-/
import DriveAdvisory.Fault
import DriveAdvisory.Source.Budget

namespace DriveAdvisory

/-- A kept answer. -/
structure Kept (κ π : Type) where
  key : κ
  payload : π
  /-- When it came. -/
  since : Duration
deriving DecidableEq, Repr

/-- What a visit gives. -/
inductive Fetched (π : Type)
  /-- The source's answer, not older than allowed. -/
  | fresh (payload : π)
  /-- The last known answer. -/
  | stale (payload : π)
  | empty
deriving DecidableEq, Repr

namespace Fetched

variable {π : Type}

def payload? : Fetched π → Option π
  | fresh payload => some payload
  | stale payload => some payload
  | empty => none

def isStale : Fetched π → Bool
  | stale _ => true
  | _ => false

def isEmpty : Fetched π → Bool
  | empty => true
  | _ => false

end Fetched

/-- What a query came to, and how long it took. -/
structure Answer (π : Type) where
  result : Except SourceFault π
  took : Duration := 0

/-- The answer as far as it came in time: one that takes longer than allowed is cut off. -/
def Answer.within {π : Type} (limit : Duration) (a : Answer π) : Answer π :=
  if a.took ≤ limit then a else ⟨.error (.timeout limit), limit⟩

/-- The answers of one source and its budget.  No two answers are kept for one key. -/
structure Client (κ π : Type) where
  kept : List (Kept κ π) := []
  budget : Budget
  /-- How many queries were sent. -/
  sent : Nat := 0

namespace Client

variable {κ π : Type}

/-- A client that was never asked. -/
def ofPolicy (policy : SourcePolicy) : Client κ π := { budget := Budget.ofPolicy policy }

/-- What a visit has to do first. -/
inductive Plan (π : Type)
  /-- Give out a kept answer. -/
  | serve (payload : π)
  /-- Ask the source. -/
  | ask
  /-- Do without, for the budget is used up. -/
  | refuse
deriving DecidableEq, Repr

section

variable [DecidableEq κ]

/-- The answer that is kept for a key. -/
def find? (key : κ) (c : Client κ π) : Option (Kept κ π) := c.kept.find? fun e => e.key = key

/-- The kept answer, if it is still fresh. -/
def fresh? (policy : SourcePolicy) (now : Duration) (key : κ) (c : Client κ π) : Option (Kept κ π) :=
  (c.find? key).filter fun e => now - e.since < policy.ttl

/-- The first half of a visit. -/
def plan (policy : SourcePolicy) (now : Duration) (key : κ) (c : Client κ π) :
    Plan π × Client κ π :=
  match c.fresh? policy now key with
  | some e => (.serve e.payload, c)
  | none => match c.budget.take? now with
    | some budget => (.ask, { c with budget, sent := c.sent + 1 })
    | none => (.refuse, c)

/-- When the oldest answer came. -/
def oldest? : List (Kept κ π) → Option Duration
  | [] => none
  | e :: rest => some (match oldest? rest with
    | some other => min e.since other
    | none => e.since)

/-- The answers without the oldest one; among several of them `tie` chooses. -/
def evict (tie : Nat) (kept : List (Kept κ π)) : List (Kept κ π) :=
  match oldest? kept with
  | none => kept
  | some moment =>
    let candidates := kept.filter fun e => e.since = moment
    match candidates[tie % candidates.length]? with
    | none => kept
    | some victim => kept.filter fun e => e.key ≠ victim.key

/-- Keeps an answer, in the place of what was kept for its key.  A new key in a full cache costs the oldest
    answer its place. -/
def keep (policy : SourcePolicy) (tie : Nat) (now : Duration) (key : κ) (payload : π)
    (c : Client κ π) : Client κ π :=
  let others :=
    if (c.find? key).isSome then c.kept.filter fun e => e.key ≠ key
    else if policy.maxEntries ≤ c.kept.length then evict tie c.kept
    else c.kept
  { c with kept := others ++ [⟨key, payload, now⟩] }

/-- The second half of a visit, for a source that was asked or refused. -/
def settle (policy : SourcePolicy) (tie : Nat) (now : Duration) (key : κ)
    (result : Except SourceFault π) (c : Client κ π) : Fetched π × Client κ π :=
  match result with
  | .ok payload => (.fresh payload, c.keep policy tie now key payload)
  | .error _ => match c.find? key with
    | some e => (.stale e.payload, c)
    | none => (.empty, c)

/-- What a whole visit gives, the moment it ends at, and the client after it.  `query` is what the source
    would answer. -/
def fetch (policy : SourcePolicy) (tie : Nat) (now : Duration) (key : κ) (query : Answer π)
    (c : Client κ π) : Fetched π × Duration × Client κ π :=
  match c.plan policy now key with
  | (.serve payload, c) => (.fresh payload, now, c)
  | (.refuse, c) =>
    let (got, c) := c.settle policy tie now key (.error .budgetExhausted)
    (got, now, c)
  | (.ask, c) =>
    let answer := query.within policy.timeout
    let done := now + answer.took
    let (got, c) := c.settle policy tie done key answer.result
    (got, done, c)

end

end Client

end DriveAdvisory
