/-
  How much a source may be asked, and how long its answers are good for.
-/
import DriveAdvisory.Time.Duration

namespace DriveAdvisory

/-- The rules for asking one source. -/
structure SourcePolicy where
  /-- How long an answer is fresh. -/
  ttl : Duration := Duration.ofSeconds 30
  /-- How many queries a window allows. -/
  calls : Nat := 10
  window : Duration := Duration.ofSeconds 60
  /-- How long one query may take. -/
  timeout : Duration := Duration.ofSeconds 5
  /-- How many answers are kept. -/
  maxEntries : Nat := 16
deriving DecidableEq, Repr

namespace SourcePolicy

/-- A policy in whole seconds. -/
def ofSeconds (ttl calls window timeout : Nat) : SourcePolicy :=
  { ttl := Duration.ofSeconds ttl, calls, window := Duration.ofSeconds window
    timeout := Duration.ofSeconds timeout }

def traffic : SourcePolicy := ofSeconds 30 10 60 5
def weather : SourcePolicy := ofSeconds 60 30 60 5
/-- The layers hardly change. -/
def emergency : SourcePolicy := ofSeconds 300 30 60 5
def driving : SourcePolicy := ofSeconds 60 20 60 5
def probe : SourcePolicy := ofSeconds 30 4 60 3

/-- The policies by the names under which the sources are known. -/
def byName : List (String × SourcePolicy) :=
  [("fl511", traffic), ("nws", weather), ("fdem", emergency), ("osrm", driving), ("probe", probe)]

end SourcePolicy

end DriveAdvisory
