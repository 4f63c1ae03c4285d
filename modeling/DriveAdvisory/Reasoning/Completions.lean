/-
  The chat format: a system and a user message, answered by a list of choices.

  Only the first choice counts.  Arguments of a call come as the text of a document; a text that is none
  is handed on as it is, so that the skill refuses it.
-/
import DriveAdvisory.Json.Reader
import DriveAdvisory.Reasoning.Messages

namespace DriveAdvisory.Completions

/-! ## Asking -/

/-- The picture and the scene, as content. -/
def content (q : Question) : List Json :=
  (q.frame.map fun frame => Json.ofMembers
    [("type", .string "image_url"),
      ("image_url", Json.ofMembers [("url", .string ("data:image/jpeg;base64," ++ frame))])]).toList
    ++ [Json.ofMembers [("type", .string "text"), ("text", .string q.scene)]]

/-- A skill, as a function. -/
def tool (o : SkillOffer) : Json := Json.ofMembers
  [("type", .string "function"), ("function", Json.ofMembers
    [("name", .string o.name), ("description", .string o.description), ("parameters", o.schema)])]

/-- The body of a request. -/
def body (model : String) (q : Question) : Json := Json.ofMembers
  [("model", .string model), ("stream", .bool false), ("max_tokens", toJson maxTokens),
    ("messages", .array
      [Json.ofMembers [("role", .string "system"), ("content", .string q.instructions)],
        Json.ofMembers [("role", .string "user"), ("content", .array (content q))]]),
    ("tools", .array (q.offers.map tool))]

/-- The address without slashes at its end. -/
def trimSlashes (address : String) : String :=
  String.ofList (address.toList.reverse.dropWhile (· == '/')).reverse

/-- Where requests go. -/
def endpoint (address : String) : String := trimSlashes address ++ "/v1/chat/completions"

/-! ## Being answered -/

/-- The arguments of a call. -/
def arguments (function : Json) : Json :=
  match function.get? "arguments" with
  | some (.string raw) => (Json.read? raw).getD (.string raw)
  | some other => other
  | none => .object []

/-- The invocation of a call, if it is one of a function. -/
def callInvocation? (call : Json) : Option Invocation :=
  (call.get? "function").map fun function =>
    ⟨((function.get? "name").bind Json.string?).getD "", arguments function⟩

/-- What a message says. -/
def ofMessage (message : Json) : Reply :=
  { invocations :=
      (((message.get? "tool_calls").bind Json.items?).getD []).filterMap callInvocation?
    summary := ((message.get? "content").bind Json.string?).bind Text.trimmed? }

/-- The message of the first choice. -/
def message? (body : Json) : Option Json :=
  (((body.get? "choices").bind Json.items?).bind List.head?).bind (Json.get? "message")

/-- What a body says. -/
def reply (body : Json) : Except ReasoningFault Reply :=
  match message? body with
  | some message => .ok (ofMessage message)
  | none => .error (.badResponse "empty choices array")

end DriveAdvisory.Completions
