/-
  The message format: one user message of picture and text, answered by a list of content blocks.

  A block is a piece of text or the use of a tool.  Every use of a tool is an invocation, and the last
  text that is not blank is the summary; blocks of other types are passed over.
-/
import DriveAdvisory.Reasoning.Question

namespace DriveAdvisory

/-- How long an answer may be, in tokens. -/
def maxTokens : Nat := 1024

namespace Messages

def defaultModel : String := "claude-sonnet-4-20250514"

/-! ## Asking -/

/-- The picture and the scene, as content. -/
def content (q : Question) : List Json :=
  (q.frame.map fun frame => Json.ofMembers
    [("type", .string "image"), ("source", Json.ofMembers [("type", .string "base64"),
      ("media_type", .string "image/jpeg"), ("data", .string frame)])]).toList
    ++ [Json.ofMembers [("type", .string "text"), ("text", .string q.scene)]]

/-- A skill, as a tool. -/
def tool (o : SkillOffer) : Json := Json.ofMembers
  [("name", .string o.name), ("description", .string o.description), ("input_schema", o.schema)]

/-- The body of a request. -/
def body (model : String) (q : Question) : Json := Json.ofMembers
  [("model", .string model), ("max_tokens", toJson maxTokens), ("system", .string q.instructions),
    ("tools", .array (q.offers.map tool)),
    ("messages", .array [Json.ofMembers
      [("role", .string "user"), ("content", .array (content q))]])]

/-! ## Being answered -/

/-- The type of a block. -/
def blockType (block : Json) : Option String := (block.get? "type").bind Json.string?

/-- The trimmed text of a text block, if something is left of it. -/
def blockText? (block : Json) : Option String :=
  if blockType block = some "text" then
    ((block.get? "text").bind Json.string?).bind Text.trimmed?
  else none

/-- The invocation of a tool's block; without arguments it has the empty object. -/
def blockInvocation? (block : Json) : Option Invocation :=
  if blockType block = some "tool_use" then
    some ⟨((block.get? "name").bind Json.string?).getD "",
      (block.get? "input").getD (.object [])⟩
  else none

/-- What content blocks say. -/
def ofBlocks (blocks : List Json) : Reply :=
  { invocations := blocks.filterMap blockInvocation?
    summary := (blocks.filterMap blockText?).getLast? }

/-- What a body says. -/
def reply (body : Json) : Except ReasoningFault Reply :=
  match (body.get? "content").bind Json.items? with
  | some blocks => .ok (ofBlocks blocks)
  | none => .error (.badResponse "missing content array")

end Messages

end DriveAdvisory
