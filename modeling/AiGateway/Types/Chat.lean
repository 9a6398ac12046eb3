import AiGateway.Framework.Json
import Mathlib.Data.Rat.Defs

/-!
# Chat requests

The request for a chat completion, as the converters read it, and `system_prompt` of
`endpoints/openai/chat_completions.rs`: the instructions a conversation starts with.

Instructions are the texts of the system and the developer messages. `system_prompt` looks at
the first message only.

`systemPrompt_eq`: it is the instructions of the first message.
-/

namespace AiGateway.OpenAI

open Serde

/-! ### Messages -/

/-- Content that is text: of developer, system and tool messages. -/
inductive TextContent
  | text (content : String)
  | array (parts : List String)
  deriving DecidableEq

inductive UserContentPart
  | text (text : String)
  | imageUrl (url : String)
  | inputAudio
  deriving DecidableEq

inductive UserContent
  | text (content : String)
  | array (parts : List UserContentPart)
  deriving DecidableEq

inductive AssistantContentPart
  | text (text : String)
  | refusal (refusal : String)
  deriving DecidableEq

inductive AssistantContent
  | text (content : String)
  | array (parts : List AssistantContentPart)
  deriving DecidableEq

/-- `ChatCompletionMessageToolCall`, with its `FunctionCall`. The arguments are JSON, as text. -/
structure ToolCall where
  id : String
  name : String
  arguments : String
  deriving DecidableEq

/-- `ChatCompletionRequestMessage`. -/
inductive Message
  | developer (content : TextContent)
  | system (content : TextContent)
  | user (content : UserContent)
  | assistant (content : Option AssistantContent) (toolCalls : Option (List ToolCall))
  | tool (content : TextContent) (toolCallId : String)
  | function (name : String)
  deriving DecidableEq

/-! ### Requests -/

inductive Stop
  | string (stop : String)
  | stringArray (stops : List String)

/-- `ChatCompletionToolChoiceOption`. -/
inductive ToolChoice
  | none
  | auto
  | required
  | named (name : String)

/-- `ChatCompletionTool`, with its `FunctionObject`. -/
structure Tool where
  name : String
  description : Option String
  parameters : Option Json

/-- `CreateChatCompletionRequest`. Decimals are rationals. -/
structure ChatRequest where
  messages : List Message
  model : String
  maxCompletionTokens : Option ℕ
  maxTokens : Option ℕ
  temperature : Option ℚ
  topP : Option ℚ
  stop : Option Stop
  stream : Option Bool
  tools : Option (List Tool)
  toolChoice : Option ToolChoice
  user : Option String

/-! ### Instructions -/

/-- The parts of a text. -/
def TextContent.parts : TextContent → List String
  | text content => [content]
  | array parts => parts

/-- A text as one: its parts are lines. -/
def TextContent.join : TextContent → String
  | text content => content
  | array parts => "\n".intercalate parts

/-- `system_prompt`. -/
def systemPrompt (request : ChatRequest) : Option String :=
  match request.messages.head? with
  | some (.developer (.text content)) => some content
  | some (.developer (.array content)) => some ("\n".intercalate content)
  | some (.system (.text content)) => some content
  | some (.system (.array content)) => some ("\n".intercalate content)
  | _ => none

/-- The instructions in a message. -/
def Message.instructions : Message → Option String
  | developer content => some content.join
  | system content => some content.join
  | _ => none

/-- The prompt is what the first message instructs. -/
theorem systemPrompt_eq (request : ChatRequest) :
    systemPrompt request = request.messages.head?.bind Message.instructions := by
  unfold systemPrompt
  cases request.messages.head? with
  | none => rfl
  | some message =>
    cases message with
    | developer content => cases content <;> rfl
    | system content => cases content <;> rfl
    | user content => rfl
    | assistant content toolCalls => rfl
    | tool content toolCallId => rfl
    | function name => rfl

/-- The tool calls of a message. -/
def Message.calls : Message → List ToolCall
  | assistant _ (some toolCalls) => toolCalls
  | _ => []

end AiGateway.OpenAI
