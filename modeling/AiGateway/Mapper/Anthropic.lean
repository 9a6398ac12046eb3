import AiGateway.Framework.RustStd
import AiGateway.Mapper.Conversation
import AiGateway.Mapper.Model

/-!
# Converting chat requests to Anthropic

`AnthropicConverter::try_convert` of `middleware/mapper/anthropic.rs`, from a chat request of
OpenAI to `CreateMessageParams`, and `mime_from_data_uri`, by which it finds out the type of
an image. Decoding base64 and telling types of images apart are parameters.

`pieces_tryConvert`: what a converted request carries of its source.
-/

namespace AiGateway.Anthropic

open Conversation Except OpenAI Serde

/-! ### Requests -/

structure ImageSource where
  type : String
  mediaType : String
  data : String
  deriving DecidableEq

/-- `ContentBlock`. -/
inductive ContentBlock
  | text (content : String)
  | image (source : ImageSource)
  | toolUse (id name : String) (input : Json)
  | toolResult (toolUseId content : String)
  | thinking (thinking signature : String)
  | redactedThinking (data : String)

inductive MessageContent
  | text (content : String)
  | blocks (content : List ContentBlock)

structure Message where
  role : Role
  content : MessageContent

structure Tool where
  name : String
  description : Option String
  inputSchema : Json

inductive ToolChoice
  | auto
  | any
  | tool (name : String)
  | none

/-- `Thinking`, whose type is always `Enabled`. -/
structure Thinking where
  budgetTokens : ℕ

/-- `CreateMessageParams`. -/
structure CreateMessageParams where
  maxTokens : ℕ
  messages : List Message
  model : List Char
  system : Option String
  temperature : Option ℚ
  stopSequences : Option (List String)
  stream : Option Bool
  topK : Option ℕ
  topP : Option ℚ
  tools : Option (List Tool)
  toolChoice : Option ToolChoice
  metadata : Option (List (String × String))
  thinking : Option Thinking

/-! ### Images -/

/-- The libraries that read images. -/
structure ImageLib where
  /-- Base64, into a buffer of 48 bytes; `none` is an error. -/
  decodeSlice : List UInt8 → Option (List UInt8)
  /-- `infer::get`: the MIME type of what begins with these bytes. -/
  infer : List UInt8 → Option String

section Convert

variable (images : ImageLib)

/-- `mime_from_data_uri`. Only the first 64 bytes are decoded. -/
def mimeFromDataUri (uri : List Char) : Except ConvertError (Option String) :=
  match Text.splitFirst ',' uri with
  | none => .ok none
  | some (_, b64) =>
    match Text.sliceTo (min (Text.byteLen b64) 64) b64 with
    | none => .error .panicked
    | some b64Prefix =>
      .ok ((images.decodeSlice (String.ofList b64Prefix).toUTF8.toList).bind images.infer)

/-- The image of a URL. One that is not read is left out. -/
def convertImage (url : String) : Except ConvertError (Option ContentBlock) :=
  if "http".toList.isPrefixOf url.toList then .ok (some (.image ⟨"url", "", url⟩))
  else do
    let mime ← mimeFromDataUri images url.toList
    match mime with
    | none => .ok none
    | some mimeType =>
      match Text.splitFirst ',' url.toList with
      | none => .ok none
      | some (_, b64) => .ok (some (.image ⟨"base64", mimeType, String.ofList b64⟩))

/-! ### Messages -/

/-- A part of a user message. There is no audio. -/
def convertUserPart : UserContentPart → Except ConvertError (Option ContentBlock)
  | .text text => .ok (some (.text text))
  | .imageUrl url => convertImage images url
  | .inputAudio => .ok none

def convertAssistantPart : AssistantContentPart → ContentBlock
  | .text text => .text text
  | .refusal refusal => .text refusal

/-- One message; `none` is a message that is left out. -/
def convertMessage (tools : Option (List Tool)) :
    OpenAI.Message → Except ConvertError (Option Message)
  -- the system prompt is set by then
  | .developer _ => .ok none
  | .system _ => .ok none
  | .user (.text content) => .ok (some ⟨.user, .text content⟩)
  | .user (.array parts) => do
    let blocks ← parts.filterMapM (convertUserPart images)
    return some ⟨.user, .blocks blocks⟩
  | .assistant (some (.text content)) _ => .ok (some ⟨.assistant, .text content⟩)
  | .assistant (some (.array parts)) _ =>
    .ok (some ⟨.assistant, .blocks (parts.map convertAssistantPart)⟩)
  | .assistant none _ => .ok none
  | .tool (.text content) toolCallId =>
    .ok (some ⟨.assistant, .blocks [.toolResult toolCallId content]⟩)
  | .tool (.array parts) toolCallId =>
    .ok (some ⟨.assistant, .blocks (parts.map fun text => .toolResult toolCallId text)⟩)
  | .function name =>
    match tools.bind fun tools => tools.find? fun tool => tool.name = name with
    | none => .ok none
    | some tool => .ok (some ⟨.assistant, .blocks [.toolUse name tool.name tool.inputSchema]⟩)

/-! ### The code -/

def convertTool (tool : OpenAI.Tool) : Tool where
  name := tool.name
  description := tool.description
  inputSchema := tool.parameters.getD .null

def convertToolChoice : OpenAI.ToolChoice → ToolChoice
  | .named name => .tool name
  | .auto => .auto
  | .required => .any
  | .none => .none

variable {Date : Type} (chrono : Chrono Date) (mapper : ModelMapper)

/-- **`try_convert`.** -/
def tryConvert (request : ChatRequest) : Except ConvertError CreateMessageParams := do
  let sourceModel ← (ModelId.fromStr chrono request.model.toList).mapError .mapper
  let targetModel ← (mapModel chrono mapper sourceModel .anthropic).mapError .mapper
  let tools := request.tools.map fun tools => tools.map convertTool
  let messages ← request.messages.filterMapM (convertMessage images tools)
  return {
    maxTokens := request.maxCompletionTokens.getD (request.maxTokens.getD defaultMaxTokens)
    messages
    model := (anthropicVersion targetModel).display chrono
    system := systemPrompt request
    temperature := request.temperature
    stopSequences := request.stop.map Conversation.stopSequences
    stream := request.stream
    topK := none
    topP := request.topP
    tools
    toolChoice := request.toolChoice.map convertToolChoice
    metadata := request.user.map fun user => [("user_id", user)]
    thinking := none }

/-! ### What is carried -/

/-- The piece in a block; images are none, nor is thinking. -/
def ContentBlock.piece? : ContentBlock → Option (Piece Json)
  | .text content => some (.text content)
  | .toolUse id name input => some (.toolUse id name input)
  | .toolResult toolUseId content => some (.toolResult toolUseId content)
  | .image _ | .thinking _ _ | .redactedThinking _ => none

def MessageContent.pieces : MessageContent → List (Piece Json)
  | .text content => [.text content]
  | .blocks content => content.filterMap ContentBlock.piece?

/-- The pieces of a message, with its role. -/
def Message.pieces (message : Message) : List (Role × Piece Json) :=
  message.content.pieces.map fun piece => (message.role, piece)

def CreateMessageParams.pieces (params : CreateMessageParams) : List (Role × Piece Json) :=
  params.messages.flatMap Message.pieces

/-- The schema of the tool of a name, which is taken for its arguments. -/
def findTool (tools : Option (List OpenAI.Tool)) (name : String) : Option Json :=
  (tools.bind fun tools => tools.find? fun tool => tool.name = name).map fun tool =>
    tool.parameters.getD .null

/-- A function message takes its tool as it is in the source. -/
theorem convertMessage_function (tools : List OpenAI.Tool) (name : String) :
    convertMessage images (some (tools.map convertTool)) (.function name) =
      .ok ((tools.find? fun tool => tool.name = name).map fun tool =>
        ⟨.assistant, .blocks [.toolUse name tool.name (tool.parameters.getD .null)]⟩) := by
  have hfind : (tools.map convertTool).find? (fun tool => tool.name = name) =
      (tools.find? fun tool => tool.name = name).map convertTool := by
    rw [List.find?_map]
    rfl
  simp only [convertMessage, Option.bind_some, hfind]
  cases tools.find? fun tool => tool.name = name with
  | none => rfl
  | some tool => rfl

/-- Blocks that hold one piece each. -/
theorem pieces_blocks {α : Type} (role : Role) {block : α → ContentBlock} {piece : α → Piece Json}
    (hblock : ∀ a, (block a).piece? = some (piece a)) (l : List α) :
    Message.pieces ⟨role, .blocks (l.map block)⟩ = l.map fun a => (role, piece a) := by
  show ((l.map block).filterMap _).map _ = _
  rw [filterMap_map_of_eq_some hblock, List.map_map]
  rfl

variable {images chrono mapper}

/-- A part of a user message is carried if it is text. -/
theorem pieces_convertUserPart {part : UserContentPart} {o : Option ContentBlock}
    (h : convertUserPart images part = .ok o) :
    o.toList.flatMap (fun block => block.piece?.toList) =
      (userText? part).toList.map Piece.text := by
  cases part with
  | text text =>
    cases h
    rfl
  | inputAudio =>
    cases h
    rfl
  | imageUrl url =>
    -- whatever becomes of an image, it is no piece
    change convertImage images url = .ok o at h
    unfold convertImage at h
    split at h
    · cases h
      rfl
    · obtain ⟨mime, -, h⟩ := bind_eq_ok_iff.mp h
      split at h
      · cases h
        rfl
      · split at h
        · cases h
          rfl
        · cases h
          rfl

/-- The parts of a user message. -/
theorem pieces_userArray {parts : List UserContentPart} {blocks : List ContentBlock}
    (h : parts.filterMapM (convertUserPart images) = .ok blocks) :
    Message.pieces ⟨.user, .blocks blocks⟩ =
      (parts.filterMap userText?).map fun text => (.user, .text text) := by
  have hpieces := flatMap_eq_of_filterMapM (fun _ _ => pieces_convertUserPart) h
  show (blocks.filterMap _).map _ = _
  rw [List.filterMap_eq_flatMap_toList, hpieces, List.map_flatMap,
    List.filterMap_eq_flatMap_toList, List.map_flatMap]
  refine List.flatMap_congr fun part _ => ?_
  rw [List.map_map]
  rfl

/-- The tool that a function message names. -/
theorem pieces_function (tools : List OpenAI.Tool) (name : String) :
    ((tools.find? fun tool => tool.name = name).map fun tool => (⟨.assistant, .blocks
        [.toolUse name tool.name (tool.parameters.getD .null)]⟩ : Message)).toList.flatMap
          Message.pieces = carried (findTool (some tools)) (.function name) := by
  show _ = (Option.map _ (tools.find? fun tool => tool.name = name)).toList.map _
  cases hfind : tools.find? fun tool => tool.name = name with
  | none => rfl
  | some tool =>
    -- the tool has the name that was looked up
    have hname : tool.name = name := by simpa using List.find?_some hfind
    rw [← hname]
    rfl

/-- **What is carried of a message.** -/
theorem pieces_convertMessage {tools : Option (List OpenAI.Tool)} {message : OpenAI.Message}
    {o : Option Message}
    (h : convertMessage images (tools.map fun tools => tools.map convertTool) message = .ok o) :
    o.toList.flatMap Message.pieces = carried (findTool tools) message := by
  cases message with
  | developer content =>
    cases h
    rfl
  | system content =>
    cases h
    rfl
  | user content =>
    cases content with
    | text content =>
      cases h
      rfl
    | array parts =>
      -- this is the only message whose conversion can fail
      obtain ⟨blocks, hblocks, h⟩ := bind_eq_ok_iff.mp h
      cases h
      show [_].flatMap Message.pieces = _
      rw [List.flatMap_singleton]
      exact pieces_userArray hblocks
  | assistant content toolCalls =>
    cases content with
    | none =>
      cases h
      rfl
    | some content =>
      cases content with
      | text content =>
        cases h
        rfl
      | array parts =>
        cases h
        show [_].flatMap Message.pieces = _
        rw [List.flatMap_singleton]
        exact pieces_blocks .assistant (fun part => by cases part <;> rfl) parts
  | tool content toolCallId =>
    cases content with
    | text content =>
      cases h
      rfl
    | array parts =>
      cases h
      show [_].flatMap Message.pieces = _
      rw [List.flatMap_singleton]
      exact pieces_blocks .assistant (fun _ => rfl) parts
  | function name =>
    cases tools with
    | none =>
      cases h
      rfl
    | some tools =>
      -- the tool is looked up among the converted ones
      rw [Option.map_some, convertMessage_function] at h
      cases h
      exact pieces_function tools name

/-- **What is carried of a request**: of each message its pieces, and the instructions of the
first as the system prompt. -/
theorem pieces_tryConvert {request : ChatRequest} {out : CreateMessageParams}
    (h : tryConvert images chrono mapper request = .ok out) :
    out.pieces = request.messages.flatMap (carried (findTool request.tools)) ∧
      out.system = systemPrompt request := by
  obtain ⟨sourceModel, -, h⟩ := bind_eq_ok_iff.mp h
  obtain ⟨targetModel, -, h⟩ := bind_eq_ok_iff.mp h
  obtain ⟨messages, hmessages, h⟩ := bind_eq_ok_iff.mp h
  cases h
  exact ⟨flatMap_eq_of_filterMapM (fun _ _ => pieces_convertMessage) hmessages, rfl⟩

end Convert

end AiGateway.Anthropic
