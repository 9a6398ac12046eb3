import AiGateway.Framework.Json
import AiGateway.Mapper.BedrockStream
import AiGateway.Mapper.Conversation

/-!
# Converting the answers of Bedrock

`BedrockConverter::try_convert` of `middleware/mapper/bedrock.rs`, from a `ConverseOutput` to a
response. The documents of the AWS library are a parameter, and so are its reading of one as a
string and the writing of JSON. The details of the counts are left out.

One loop over the content of the message collects the tool calls and the content: every block that
shows a text replaces the content.
-/

namespace AiGateway.BedrockResponse

open BedrockStream Conversation OpenAI Serde

variable {Document : Type}

/-! ### Answers -/

/-- `ContentBlock`, as far as the converter reads it. -/
inductive ContentBlock (Document : Type)
  | toolUse (toolUseId name : String) (input : Document)
  | toolResult (toolUseId : String)
  | text (text : String)
  /-- With the text of the reasoning, if it is one. -/
  | reasoningContent (reasoningText : Option String)
  /-- With the text that is guarded, if it is one. -/
  | guardContent (text : Option String)
  | image
  | document
  | cachePoint
  | video
  | unknown

/-- The output of a call, which is a message. -/
inductive Output (Document : Type)
  | message (content : List (ContentBlock Document))
  | unknown

structure ConverseOutput (Document : Type) where
  /-- Of the prompt router of the trace. -/
  invokedModelId : Option String
  usage : Option TokenUsage
  output : Option (Output Document)

/-- The content of the message, if there is one. -/
def ConverseOutput.contents (value : ConverseOutput Document) : List (ContentBlock Document) :=
  match value.output with
  | some (.message content) => content
  | _ => []

/-! ### The code -/

section Code

variable (toJson : Json → String) (asString : Document → Option String)

/-- What is put for counts that are missing. -/
def defaultUsage : TokenUsage :=
  ⟨Int32.ofNat defaultMaxTokens, Int32.ofNat defaultMaxTokens, Int32.ofNat defaultMaxTokens⟩

def convertCounts (usage : TokenUsage) : CompletionUsage :=
  ⟨toU32 usage.inputTokens, toU32 usage.outputTokens, toU32 usage.totalTokens⟩

/-- The text in a block, with those of reasoning and of guards. -/
def ContentBlock.shownText? : ContentBlock Document → Option String
  | .text content => some content
  | .reasoningContent reasoningText => reasoningText
  | .guardContent guarded => guarded
  | _ => none

/-- The tool call of a block. The arguments of a result are the content collected so far. -/
def ContentBlock.call? (content : Option String) : ContentBlock Document → Option ToolCall
  | .toolUse toolUseId name input => some ⟨toolUseId, name, (asString input).getD ""⟩
  | .toolResult toolUseId =>
    some ⟨toolUseId, toolUseId, toJson ((content.map Json.str).getD .null)⟩
  | _ => none

/-- One round of the loop: the tool calls and the content collected so far. -/
def collectBlock (collected : List ToolCall × Option String) (block : ContentBlock Document) :
    List ToolCall × Option String :=
  (collected.1 ++ (block.call? toJson asString collected.2).toList,
    block.shownText?.or collected.2)

/-- **`try_convert`.** -/
def tryConvert (uuid : String) (value : ConverseOutput Document) : ChatResponse :=
  let (toolCalls, content) := value.contents.foldl (collectBlock toJson asString) ([], none)
  { choices := [{
      index := 0
      message := {
        content := content
        refusal := none
        toolCalls := if toolCalls.isEmpty then none else some toolCalls
        role := .assistant }
      finishReason := none }]
    id := uuid
    created := 0
    model := value.invokedModelId.getD ""
    object := "chat.completion"
    usage := some (convertCounts (value.usage.getD defaultUsage)) }

end Code

/-! ### What the loop collects -/

section Proofs

variable {toJson : Json → String} {asString : Document → Option String}

/-- The loop keeps the text that is shown last. -/
theorem content_foldl_collectBlock (contents : List (ContentBlock Document))
    (collected : List ToolCall × Option String) :
    (contents.foldl (collectBlock toJson asString) collected).2 =
      ((contents.filterMap ContentBlock.shownText?).getLast?).or collected.2 := by
  induction contents generalizing collected with
  | nil => rfl
  | cons block contents ih =>
    have hlast : block.shownText?.toList.getLast? = block.shownText? := by
      cases block.shownText? <;> rfl
    rw [List.foldl_cons, ih, List.filterMap_cons_toList, List.getLast?_append, Option.or_assoc,
      hlast]
    rfl

/-- The loop adds calls to those it has. -/
theorem prefix_foldl_collectBlock (contents : List (ContentBlock Document))
    (collected : List ToolCall × Option String) :
    collected.1 <+: (contents.foldl (collectBlock toJson asString) collected).1 := by
  induction contents generalizing collected with
  | nil => exact List.prefix_refl _
  | cons block contents ih =>
    exact (List.prefix_append _ _).trans (ih (collectBlock toJson asString collected block))

/-- A block that is a tool call has one in what is collected. -/
theorem mem_foldl_collectBlock {contents : List (ContentBlock Document)} {toolUseId name : String}
    {input : Document} (h : .toolUse toolUseId name input ∈ contents)
    (collected : List ToolCall × Option String) :
    ⟨toolUseId, name, (asString input).getD ""⟩ ∈
      (contents.foldl (collectBlock toJson asString) collected).1 := by
  induction contents generalizing collected with
  | nil => cases h
  | cons block contents ih =>
    rcases List.mem_cons.mp h with rfl | h
    · refine (prefix_foldl_collectBlock contents _).subset ?_
      exact List.mem_append_right _ List.mem_cons_self
    · exact ih h _

end Proofs

end AiGateway.BedrockResponse
