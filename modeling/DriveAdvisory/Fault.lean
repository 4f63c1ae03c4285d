/-
  What can go wrong, and what is said about it.

  A fault is a cause; its wording is in `message` alone.  A source's own failures are a kind of their
  own, because they never leave the source: the cache in front of it turns them into a stale answer or
  none.
-/
import DriveAdvisory.Time.Duration

namespace DriveAdvisory

/-- A failure that reaches whoever asked. -/
inductive Fault
  | duplicateName (name : String)
  | unknownName (name : String)
  | sourceUnavailable (source details : String)
  | reasoningTimeout (millis : Nat)
  | reasoningFailed (details : String)
  | invalidArguments (name details : String)
  | executionFailed (name details : String)
  | contextUnavailable (details : String)
  | persistence (details : String)
  | configuration (details : String)
  | serialization (details : String)
deriving DecidableEq, Repr

/-- The name of the kind of a failure. -/
def Fault.kind : Fault → String
  | duplicateName _ => "DuplicateName"
  | unknownName _ => "NotFound"
  | sourceUnavailable _ _ => "SourceUnavailable"
  | reasoningTimeout _ => "ReasoningTimeout"
  | reasoningFailed _ => "ReasoningFailed"
  | invalidArguments _ _ => "InvalidArguments"
  | executionFailed _ _ => "CapabilityExecution"
  | contextUnavailable _ => "ContextUnavailable"
  | persistence _ => "Persistence"
  | configuration _ => "Configuration"
  | serialization _ => "Serialization"

/-- What is said about a failure. -/
def Fault.message : Fault → String
  | duplicateName name => "Capability '" ++ name ++ "' is already registered"
  | unknownName name => "Capability '" ++ name ++ "' is not registered"
  | sourceUnavailable source details => "Source '" ++ source ++ "' unavailable: " ++ details
  | reasoningTimeout millis => "Reasoning engine did not answer within " ++ toString millis ++ " ms"
  | reasoningFailed details => "Reasoning engine error: " ++ details
  | invalidArguments name details => "Invalid arguments for '" ++ name ++ "': " ++ details
  | executionFailed name details => "Capability '" ++ name ++ "' failed: " ++ details
  | contextUnavailable details => "Context unavailable: " ++ details
  | persistence details => "Persistence error: " ++ details
  | configuration details => "Configuration error: " ++ details
  | serialization details => "Serialization error: " ++ details

/-- Why a source gave no answer. -/
inductive SourceFault
  /-- The exchange itself failed, or was answered by an error status. -/
  | exchange
  | badResponse (details : String)
  | timeout (after : Duration)
  | budgetExhausted
  | notConfigured (what : String)
deriving DecidableEq, Repr

/-- The name of the kind of a source's failure. -/
def SourceFault.kind : SourceFault → String
  | exchange => "Http"
  | badResponse _ => "BadResponse"
  | timeout _ => "Timeout"
  | budgetExhausted => "BudgetExhausted"
  | notConfigured _ => "NotConfigured"

/-- What is said about a source's failure. -/
def SourceFault.message : SourceFault → String
  | exchange => "HTTP error"
  | badResponse details => "Unexpected response format: " ++ details
  | timeout after => "Timed out after " ++ Duration.text after
  | budgetExhausted => "Call budget exhausted"
  | notConfigured what => "Source not configured: " ++ what

/-- A source's failure as it is told to others. -/
def SourceFault.toFault (source : String) (fault : SourceFault) : Fault :=
  .sourceUnavailable source fault.message

end DriveAdvisory
