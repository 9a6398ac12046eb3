import AiGateway.Framework.RustStd
import AiGateway.Mapper.Conversation
import AiGateway.Mapper.Model

/-!
# Converting chat requests to Bedrock

`BedrockConverter::try_convert` of `middleware/mapper/bedrock.rs`, from a chat request of
OpenAI to `ConverseInput`. The documents of the AWS library, and its reading of JSON as one, are
parameters. Its builders do not fail here: what they require is set.

A `ConverseInput` could have a system prompt. The converter sets none.

`pieces_tryConvert`: what a converted request carries of its source.
-/

namespace AiGateway.Bedrock

open Conversation Except OpenAI Serde

/-! ### Requests -/

/-- `ContentBlock`, as far as requests have them. The content of a tool result is one text. -/
inductive ContentBlock (Document : Type)
  | text (content : String)
  /-- An image, as a PNG of these bytes. -/
  | image (bytes : String)
  | toolUse (toolUseId name : String) (input : Document)
  | toolResult (toolUseId content : String)

structure Message (Document : Type) where
  role : Role
  content : List (ContentBlock Document)

/-- `ToolSpecification`. Its schema is JSON. -/
structure ToolSpecification (Document : Type) where
  name : String
  description : Option String
  inputSchema : Document

inductive ToolChoice
  | auto
  | any
  | tool (name : String)

structure ToolConfiguration (Document : Type) where
  tools : List (ToolSpecification Document)
  toolChoice : Option ToolChoice

structure InferenceConfiguration where
  maxTokens : ℕ
  temperature : ℚ
  topP : ℚ
  stopSequences : Option (List String)

/-- `ConverseInput`. What the converter never sets is left out, but for the system prompt, whose
blocks of text are taken as one. -/
structure ConverseInput (Document : Type) where
  modelId : List Char
  messages : List (Message Document)
  system : Option String
  inferenceConfig : InferenceConfiguration
  toolConfig : Option (ToolConfiguration Document)
  requestMetadata : Option (List (String × String))

section Convert

variable {Document : Type}

/-! ### Messages -/

/-- A part of a user message. Images by reference are left out, and there is no audio. -/
def convertUserPart : UserContentPart → Option (ContentBlock Document)
  | .text text => some (.text text)
  | .imageUrl url => if "http".toList.isPrefixOf url.toList then none else some (.image url)
  | .inputAudio => none

def convertAssistantPart : AssistantContentPart → ContentBlock Document
  | .text text => .text text
  | .refusal refusal => .text refusal

/-- One message; `none` is a message that is left out. -/
def convertMessage (tools : Option (List (ToolSpecification Document))) :
    OpenAI.Message → Option (Message Document)
  | .developer _ => none
  | .system _ => none
  | .user (.text content) => some ⟨.user, [.text content]⟩
  | .user (.array parts) => some ⟨.user, parts.filterMap convertUserPart⟩
  | .assistant (some (.text content)) _ => some ⟨.assistant, [.text content]⟩
  | .assistant (some (.array parts)) _ => some ⟨.assistant, parts.map convertAssistantPart⟩
  | .assistant none _ => none
  | .tool (.text text) toolCallId => some ⟨.assistant, [.toolResult toolCallId text]⟩
  | .tool (.array parts) toolCallId =>
    some ⟨.assistant, parts.map fun text => .toolResult toolCallId text⟩
  | .function name =>
    (tools.bind fun tools => tools.find? fun spec => spec.name = name).map fun spec =>
      ⟨.assistant, [.toolUse name name spec.inputSchema]⟩

/-! ### The code -/

variable (toDocument : Json → Option Document)

/-- A tool. One without parameters, or with some that are no document, is left out. -/
def convertTool (tool : OpenAI.Tool) : Option (ToolSpecification Document) := do
  let parameters ← tool.parameters
  let inputSchema ← toDocument parameters
  return { name := tool.name, description := tool.description, inputSchema }

def convertToolChoice : OpenAI.ToolChoice → Option ToolChoice
  | .named name => some (.tool name)
  | .auto => some .auto
  | .required => some .any
  | .none => none

variable {Date : Type} (chrono : Chrono Date) (mapper : ModelMapper)

/-- **`try_convert`.** -/
def tryConvert (request : ChatRequest) : Except ConvertError (ConverseInput Document) := do
  let sourceModel ← (ModelId.fromStr chrono request.model.toList).mapError .mapper
  let targetModel ← (mapModel chrono mapper sourceModel .bedrock).mapError .mapper
  let maxTokens := request.maxCompletionTokens.getD defaultMaxTokens
  let tools := request.tools.map fun tools => tools.filterMap (convertTool toDocument)
  return {
    modelId := targetModel.display chrono
    messages := request.messages.filterMap (convertMessage tools)
    system := none
    inferenceConfig := {
      -- `i32::try_from`
      maxTokens := if maxTokens < 2 ^ 31 then maxTokens else defaultMaxTokens
      temperature := request.temperature.getD 0
      topP := request.topP.getD 0
      stopSequences := request.stop.map Conversation.stopSequences }
    toolConfig := tools.map fun tools =>
      { tools, toolChoice := request.toolChoice.bind convertToolChoice }
    requestMetadata := request.user.map fun user => [("user_id", user)] }

/-! ### What is carried -/

/-- The piece in a block; images are none. -/
def ContentBlock.piece? : ContentBlock Document → Option (Piece Document)
  | .text content => some (.text content)
  | .image _ => none
  | .toolUse toolUseId name input => some (.toolUse toolUseId name input)
  | .toolResult toolUseId content => some (.toolResult toolUseId content)

/-- The pieces of a message, with its role. -/
def Message.pieces (message : Message Document) : List (Role × Piece Document) :=
  (message.content.filterMap ContentBlock.piece?).map fun piece => (message.role, piece)

def ConverseInput.pieces (input : ConverseInput Document) : List (Role × Piece Document) :=
  input.messages.flatMap Message.pieces

/-- The schema of the tool of a name, which is taken for its arguments: of the tools that are
not left out. -/
def findTool (tools : Option (List OpenAI.Tool)) (name : String) : Option Document :=
  (tools.bind fun tools =>
    (tools.filterMap (convertTool toDocument)).find? fun spec => spec.name = name).map
      ToolSpecification.inputSchema

/-- Blocks that hold one piece each. -/
theorem pieces_blocks {α : Type} (role : Role) {block : α → ContentBlock Document}
    {piece : α → Piece Document} (hblock : ∀ a, (block a).piece? = some (piece a)) (l : List α) :
    Message.pieces ⟨role, l.map block⟩ = l.map fun a => (role, piece a) := by
  show ((l.map block).filterMap _).map _ = _
  rw [filterMap_map_of_eq_some hblock, List.map_map]
  rfl

/-- A part of a user message is carried if it is text. -/
theorem piece?_convertUserPart (part : UserContentPart) :
    ((convertUserPart part).bind ContentBlock.piece? : Option (Piece Document)) =
      (userText? part).map Piece.text := by
  cases part with
  | text text => rfl
  | inputAudio => rfl
  | imageUrl url =>
    -- an image is no piece, also if it is not left out
    show (if _ then none else some _).bind _ = none
    split
    · rfl
    · rfl

/-- **What is carried of a message.** -/
theorem pieces_convertMessage (tools : Option (List OpenAI.Tool)) (message : OpenAI.Message) :
    ((convertMessage (tools.map fun tools => tools.filterMap (convertTool toDocument))
        message).toList.flatMap Message.pieces) = carried (findTool toDocument tools) message := by
  cases message with
  | developer content => rfl
  | system content => rfl
  | user content =>
    cases content with
    | text content => rfl
    | array parts =>
      show [_].flatMap Message.pieces = (parts.filterMap userText?).map _
      rw [List.flatMap_singleton]
      show ((parts.filterMap convertUserPart).filterMap _).map _ = _
      rw [List.filterMap_filterMap, funext piece?_convertUserPart, ← List.map_filterMap,
        List.map_map]
      rfl
  | assistant content toolCalls =>
    cases content with
    | none => rfl
    | some content =>
      cases content with
      | text content => rfl
      | array parts =>
        show [_].flatMap Message.pieces = _
        rw [List.flatMap_singleton]
        exact pieces_blocks .assistant (fun part => by cases part <;> rfl) parts
  | tool content toolCallId =>
    cases content with
    | text content => rfl
    | array parts =>
      show [_].flatMap Message.pieces = _
      rw [List.flatMap_singleton]
      exact pieces_blocks .assistant (fun _ => rfl) parts
  | function name =>
    cases tools with
    | none => rfl
    | some tools =>
      -- the tool is looked up among the converted ones
      show ((List.find? _ _).map _).toList.flatMap _ = ((List.find? _ _).map _).toList.map _
      cases (tools.filterMap (convertTool toDocument)).find? fun spec => spec.name = name with
      | none => rfl
      | some spec => rfl

variable {toDocument chrono mapper}

/-- **What is carried of a request**: of each message its pieces, and no instructions. -/
theorem pieces_tryConvert {request : ChatRequest} {out : ConverseInput Document}
    (h : tryConvert toDocument chrono mapper request = .ok out) :
    out.pieces = request.messages.flatMap (carried (findTool toDocument request.tools)) ∧
      out.system = none := by
  obtain ⟨sourceModel, -, h⟩ := bind_eq_ok_iff.mp h
  obtain ⟨targetModel, -, h⟩ := bind_eq_ok_iff.mp h
  cases h
  refine ⟨?_, rfl⟩
  show (request.messages.filterMap _).flatMap Message.pieces = _
  rw [List.filterMap_eq_flatMap_toList, List.flatMap_assoc]
  exact List.flatMap_congr fun message _ => pieces_convertMessage toDocument request.tools message

end Convert

end AiGateway.Bedrock
