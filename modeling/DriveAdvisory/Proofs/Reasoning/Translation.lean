/-
  Two ways to say the same.

  The two kinds of services answer in formats of their own.  A list of content blocks can be put as a message of
  the chat format: the last text that says something is its content, and every use of a tool is a call of a
  function, whose arguments are the input in print.  Whatever body carries such a message (`Translates`), it is
  read as the blocks are.

  The one thing asked for is that the inputs can be read back from their print, as all documents can that are not
  too deep (`Json.read?_render`).
-/
import DriveAdvisory.Proofs.Json.Members
import DriveAdvisory.Proofs.Json.RoundTrip
import DriveAdvisory.Reasoning.Completions
import Mathlib.Data.List.Forall2

namespace DriveAdvisory

namespace Messages

variable {blocks : List Json} {block : Json}

/-! ## What blocks say -/

/-- The text of a block of text, unless it is blank. -/
def writtenText? (block : Json) : Option String :=
  if blockType block = some "text" then
    ((block.get? "text").bind Json.string?).bind Text.nonBlank?
  else none

/-- The last text that is not blank. -/
def lastText? (blocks : List Json) : Option String := (blocks.filterMap writtenText?).getLast?

/-- The block uses a tool. -/
def usesTool (block : Json) : Bool := blockType block = some "tool_use"

/-- The blocks that use a tool. -/
def toolUses (blocks : List Json) : List Json := blocks.filter usesTool

/-- What the tools are given. -/
def inputs (blocks : List Json) : List Json := (toolUses blocks).filterMap (Json.get? "input")

/-- What the use of a tool asks for. -/
def invocation (block : Json) : Invocation :=
  ⟨((block.get? "name").bind Json.string?).getD "", (block.get? "input").getD (.object [])⟩

/-- What the blocks say, all in all. -/
def said (blocks : List Json) : Reply :=
  { invocations := (toolUses blocks).map invocation, summary := (lastText? blocks).map Text.trim }

theorem trimmed?_eq (text : String) : Text.trimmed? text = (Text.nonBlank? text).map Text.trim := by
  unfold Text.trimmed? Text.nonBlank?
  split <;> simp_all

theorem blockText?_eq (block : Json) : blockText? block = (writtenText? block).map Text.trim := by
  unfold blockText? writtenText?
  split
  · rw [Option.map_bind]
    exact congrArg _ (funext trimmed?_eq)
  · rfl

/-- One invocation for each use of a tool, in their order. -/
theorem filterMap_blockInvocation? (blocks : List Json) :
    blocks.filterMap blockInvocation? = (toolUses blocks).map invocation := by
  induction blocks with
  | nil => rfl
  | cons block rest ih =>
    by_cases h : usesTool block
    · rw [toolUses, List.filter_cons_of_pos h, List.map_cons, ← toolUses, ← ih]
      exact List.filterMap_cons_some (if_pos (of_decide_eq_true h))
    · rw [toolUses, List.filter_cons_of_neg h, ← toolUses, ← ih]
      exact List.filterMap_cons_none (if_neg (mt decide_eq_true h))

theorem filterMap_blockText? (blocks : List Json) :
    blocks.filterMap blockText? = (blocks.filterMap writtenText?).map Text.trim := by
  rw [List.map_filterMap]
  exact congrArg (blocks.filterMap ·) (funext blockText?_eq)

theorem ofBlocks_eq (blocks : List Json) : ofBlocks blocks = said blocks := by
  rw [ofBlocks, filterMap_blockInvocation?, filterMap_blockText?, List.getLast?_map]
  rfl

theorem reply_eq_said {body : Json} (h : body.get? "content" = some (.array blocks)) :
    reply body = .ok (said blocks) := by
  rw [reply, h, ← ofBlocks_eq]
  rfl

theorem trimmed?_of_writtenText? {text : String} (h : writtenText? block = some text) :
    Text.trimmed? text = some (Text.trim text) := by
  unfold writtenText? at h
  split at h
  · obtain ⟨raw, -, hraw⟩ := Option.bind_eq_some_iff.mp h
    unfold Text.nonBlank? at hraw
    split at hraw
    · nomatch hraw
    · rename_i hblank
      obtain rfl := Option.some.inj hraw
      exact if_neg hblank
  · nomatch h

/-- Something is left of the last text, for it is not blank. -/
theorem trimmed?_lastText? :
    (lastText? blocks).bind Text.trimmed? = (lastText? blocks).map Text.trim := by
  cases hlast : lastText? blocks with
  | none => rfl
  | some text =>
    obtain ⟨block, -, hblock⟩ := List.mem_filterMap.mp (List.mem_of_getLast? hlast)
    exact trimmed?_of_writtenText? hblock

end Messages

namespace Completions

open Messages

variable {blocks : List Json} {use body : Json}

/-! ## The same as a message -/

/-- A call is for the use of a tool: of the function with the same name, if it has one, on the input in print, if
    there is any. -/
def CallFor (use call : Json) : Prop :=
  ∃ function, call.get? "function" = some function ∧ function.get? "name" = use.get? "name" ∧
    function.get? "arguments" = (use.get? "input").map fun input => Json.string input.render

/-- A message says what the blocks say. -/
structure Says (blocks : List Json) (message : Json) : Prop where
  content : (message.get? "content").bind Json.string? = lastText? blocks
  calls : List.Forall₂ CallFor (toolUses blocks)
    (((message.get? "tool_calls").bind Json.items?).getD [])

/-- The message of the first choice says what the blocks say. -/
def Translates (blocks : List Json) (body : Json) : Prop :=
  ∃ choice others message, body.get? "choices" = some (.array (choice :: others)) ∧
    choice.get? "message" = some message ∧ Says blocks message

/-! ## A translation -/

/-- What the function has that the use of a tool calls. -/
def functionMembers (use : Json) : List (String × Json) :=
  ((use.get? "name").map fun name => ("name", name)).toList
    ++ ((use.get? "input").map fun input => ("arguments", Json.string input.render)).toList

/-- The call for the use of a tool. -/
def call (use : Json) : Json := Json.ofMembers
  [("type", .string "function"), ("function", Json.ofMembers (functionMembers use))]

/-- What the message of blocks has. -/
def messageMembers (blocks : List Json) : List (String × Json) :=
  ((lastText? blocks).map fun text => ("content", Json.string text)).toList
    ++ [("tool_calls", .array ((toolUses blocks).map call))]

/-- The body whose only choice is that message. -/
def translation (blocks : List Json) : Json := Json.ofMembers
  [("choices", .array [Json.ofMembers [("message", Json.ofMembers (messageMembers blocks))]])]

theorem nodup_functionMembers (use : Json) : ((functionMembers use).map Prod.fst).Nodup := by
  unfold functionMembers
  cases use.get? "name" <;> cases use.get? "input" <;> simp

theorem nodup_messageMembers (blocks : List Json) : ((messageMembers blocks).map Prod.fst).Nodup := by
  unfold messageMembers
  cases lastText? blocks <;> simp

theorem callFor_call (use : Json) : CallFor use (call use) := by
  refine ⟨Json.ofMembers (functionMembers use), ?_, ?_, ?_⟩
  · rw [call, Json.get?_ofMembers_iff (by simp)]
    simp
  · ext value
    rw [Json.get?_ofMembers_iff (nodup_functionMembers use)]
    simp [functionMembers]
  · ext value
    rw [Json.get?_ofMembers_iff (nodup_functionMembers use)]
    simp [functionMembers]

theorem says_message (blocks : List Json) : Says blocks (Json.ofMembers (messageMembers blocks)) := by
  constructor
  · have hcontent : (Json.ofMembers (messageMembers blocks)).get? "content" =
        (lastText? blocks).map Json.string := by
      ext value
      rw [Json.get?_ofMembers_iff (nodup_messageMembers blocks)]
      simp [messageMembers]
    rw [hcontent]
    cases lastText? blocks <;> rfl
  · have hcalls : (Json.ofMembers (messageMembers blocks)).get? "tool_calls" =
        some (.array ((toolUses blocks).map call)) := by
      rw [Json.get?_ofMembers_iff (nodup_messageMembers blocks)]
      simp [messageMembers]
    rw [hcalls]
    show List.Forall₂ CallFor (toolUses blocks) ((toolUses blocks).map call)
    rw [List.forall₂_map_right_iff, List.forall₂_same]
    exact fun use _ => callFor_call use

/-- All blocks can be translated. -/
theorem translates_translation (blocks : List Json) : Translates blocks (translation blocks) := by
  refine ⟨Json.ofMembers [("message", Json.ofMembers (messageMembers blocks))], [], _, ?_, ?_,
    says_message blocks⟩
  · rw [translation, Json.get?_ofMembers_iff (by simp)]
    simp
  · rw [Json.get?_ofMembers_iff (by simp)]
    simp

/-! ## Read alike -/

theorem callInvocation?_of_callFor {one : Json} (h : CallFor use one)
    (hread : ∀ input, use.get? "input" = some input → Json.read? input.render = some input) :
    callInvocation? one = some (invocation use) := by
  obtain ⟨function, hfunction, hname, harguments⟩ := h
  have hargued : arguments function = (use.get? "input").getD (.object []) := by
    rw [arguments, harguments]
    cases hinput : use.get? "input" with
    | none => rfl
    | some input =>
      show (Json.read? input.render).getD _ = input
      rw [hread input hinput]
      rfl
  rw [callInvocation?, hfunction, Option.map_some, hname, hargued, invocation]

/-- One invocation for each call, in their order. -/
theorem filterMap_callInvocation? {uses calls : List Json} (h : List.Forall₂ CallFor uses calls)
    (hread : ∀ use ∈ uses, ∀ input, use.get? "input" = some input →
      Json.read? input.render = some input) :
    calls.filterMap callInvocation? = uses.map invocation := by
  induction h with
  | nil => rfl
  | cons hcall hrest ih =>
    obtain ⟨hfirst, hothers⟩ := List.forall_mem_cons.mp hread
    rw [List.filterMap_cons_some (callInvocation?_of_callFor hcall hfirst), List.map_cons, ih hothers]

theorem ofMessage_of_says {message : Json} (h : Says blocks message)
    (hread : ∀ input ∈ inputs blocks, Json.read? input.render = some input) :
    ofMessage message = said blocks := by
  have hinputs : ∀ use ∈ toolUses blocks, ∀ input, use.get? "input" = some input →
      Json.read? input.render = some input := fun use huse input hinput =>
    hread input (List.mem_filterMap.mpr ⟨use, huse, hinput⟩)
  rw [ofMessage, filterMap_callInvocation? h.calls hinputs, h.content, trimmed?_lastText?]
  rfl

theorem reply_of_translates (h : Translates blocks body)
    (hread : ∀ input ∈ inputs blocks, Json.read? input.render = some input) :
    reply body = .ok (said blocks) := by
  obtain ⟨choice, others, message, hchoices, hmessage, hsays⟩ := h
  have hfirst : message? body = some message := by
    rw [message?, hchoices]
    exact hmessage
  rw [reply, hfirst, ← ofMessage_of_says hsays hread]

/-- **The formats agree.**  Content blocks can be translated, and whatever translates them is read as they are:
    one invocation for each use of a tool, in order, and the last text that says something. -/
theorem reply_eq_reply (hread : ∀ input ∈ inputs blocks, Json.read? input.render = some input) :
    Translates blocks (translation blocks) ∧
    ∀ native, native.get? "content" = some (.array blocks) → ∀ body, Translates blocks body →
      reply body = Messages.reply native ∧ Messages.reply native = .ok (said blocks) := by
  refine ⟨translates_translation blocks, ?_⟩
  intro native hnative body hbody
  have hsaid := reply_eq_said hnative
  rw [hsaid]
  exact ⟨reply_of_translates hbody hread, rfl⟩

/-- What an alert is told. -/
def coneAlert : Json :=
  .object [("confidence", .number (.whole 1)), ("severity", .null), ("text", .string "Cones")]

/-- A text, the use of a tool, nothing but a space, a thought, and the use of who knows what. -/
def glance : List Json :=
  [.object [("text", .string " Mind the cones. "), ("type", .string "text")],
    .object [("input", coneAlert), ("name", .string "show_alert"), ("type", .string "tool_use")],
    .object [("text", .string " "), ("type", .string "text")],
    .object [("type", .string "thinking")],
    .object [("type", .string "tool_use")]]

/-- Both ways it asks for an alert and for a tool without a name, and says to mind the cones. -/
theorem reply_eq_reply_glance :
    coneAlert ∈ inputs glance ∧ (∀ input ∈ inputs glance, Json.read? input.render = some input) ∧
    reply (translation glance) = Messages.reply (.object [("content", .array glance)]) ∧
    Messages.reply (.object [("content", .array glance)]) =
      .ok { invocations := [⟨"show_alert", coneAlert⟩, ⟨"", .object []⟩]
            summary := some "Mind the cones." } := by
  have hinputs : inputs glance = [coneAlert] := rfl
  have hsaid : said glance = { invocations := [⟨"show_alert", coneAlert⟩, ⟨"", .object []⟩]
                               summary := some "Mind the cones." } := rfl
  have hread : ∀ input ∈ inputs glance, Json.read? input.render = some input := by
    rw [hinputs]
    intro input hinput
    rw [List.mem_singleton.mp hinput]
    refine Json.read?_render ⟨?_, ?_⟩
    · show List.Pairwise _ _
      decide
    · exact List.forall_mem_cons.mpr ⟨JsonNumber.readsBack_of_unsigned rfl,
        List.forall_mem_cons.mpr ⟨trivial, List.forall_mem_cons.mpr ⟨trivial, nofun⟩⟩⟩
  obtain ⟨htranslates, hall⟩ := reply_eq_reply hread
  obtain ⟨hreply, hnative⟩ := hall (.object [("content", .array glance)]) rfl _ htranslates
  exact ⟨hinputs ▸ List.mem_cons_self, hread, hreply, hsaid ▸ hnative⟩

end Completions

end DriveAdvisory
