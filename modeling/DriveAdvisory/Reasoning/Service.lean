/-
  The two kinds of reasoning services on the network.
-/
import DriveAdvisory.Reasoning.Completions
import DriveAdvisory.Source.Hub

namespace DriveAdvisory.Service

/-- How long a service may take to respond. -/
def responseLimit : Duration := Duration.ofSeconds 30

/-- Posts a body and reads what comes back, under the name of the service. -/
def post (sources : Sources) (backend : String) (r : Request)
    (read : Json → Except ReasoningFault Reply) : StateM Hub Outcome := do
  let e ← Hub.exchange sources responseLimit { r with method := .post }
  let result : Except ReasoningFault Reply := match e.document? with
    | none => .error .exchange
    | some body => (read body).map fun reply => { reply with backend := backend }
  return ⟨result.mapError ReasoningFault.toFault, e.took⟩

def jsonHeader : String × String := ("content-type", "application/json")

/-! ## Messages -/

def messagesAddress : String := "https://api.anthropic.com/v1/messages"

def messagesVersion : String := "2023-06-01"

/-- A service of the message format. -/
structure MessageService where
  address : String := messagesAddress
  model : String := Messages.defaultModel
  /-- The key; without one the service is not asked. -/
  key : Option String

namespace MessageService

def request (s : MessageService) (key : String) (q : Question) : Request :=
  { address := s.address
    headers := [("x-api-key", Text.trim key), ("anthropic-version", messagesVersion), jsonHeader]
    body := some (Messages.body s.model q) }

def engine (s : MessageService) (sources : Sources) : Engine Hub where
  name := "anthropic"
  available := s.key.isSome
  ask q := match s.key with
    | none => return ⟨.error (ReasoningFault.notConfigured "Anthropic API key").toFault, 0⟩
    | some key => post sources "anthropic" (s.request key q) Messages.reply

end MessageService

/-! ## Chat -/

/-- A service of the chat format; it may do without a key. -/
structure ChatService where
  address : String
  model : String
  key : Option String

namespace ChatService

def request (s : ChatService) (q : Question) : Request :=
  { address := Completions.endpoint s.address
    headers := (s.key.map fun key => ("authorization", "Bearer " ++ Text.trim key)).toList
      ++ [jsonHeader]
    body := some (Completions.body s.model q) }

def engine (s : ChatService) (sources : Sources) : Engine Hub where
  name := "openai-compat"
  available := true
  ask q := post sources "openai-compat" (s.request q) Completions.reply

end ChatService

end DriveAdvisory.Service
