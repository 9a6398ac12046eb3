import AiGateway.Mapper.Kept
import AiGateway.Types.Written

/-!
# From Anthropic to OpenAI and back

`OpenAIConverter::try_convert` of `middleware/mapper/openai.rs`, from a request of Anthropic to a
chat request of OpenAI, and what `AnthropicConverter::try_convert` makes of the result.

Some things have no place in between: the thinking, `top_k`, metadata besides the user, and of the
blocks all but texts and the images of users, of which only the URL is kept. So a request does not
come back as it was, but as it is without them.

* `eq_kept_of_tryConvert`: what comes back;
* `kept_iff`: the requests that come back as they were;
* `roundTrip`: both, of the two conversions.
-/

namespace AiGateway.FromAnthropic

open Conversation Except OpenAI Serde
open Anthropic (ContentBlock CreateMessageParams Thinking)

/-! ### The code -/

inductive ReasoningEffort
  | low
  | medium
  | high

/-- `CreateChatCompletionRequest`, with what the other converters do not read. -/
structure ConvertedRequest extends ChatRequest where
  reasoningEffort : Option ReasoningEffort
  /-- `stream_options.include_usage`. -/
  includeUsage : Option Bool
  metadata : Option (List (String × String))

/-- The effort that the share of the budget asks for. The doubles of the source compare as the
fractions do: a share of 32 bits that is not on a bound is too far from it to be rounded to it.
Without any tokens there is no share, and a quotient by zero is in none of the ranges. -/
def reasoningEffort (maxTokens : ℕ) (thinking : Thinking) : ReasoningEffort :=
  if maxTokens = 0 then .medium
  else if thinking.budgetTokens * 100 < 33 * maxTokens then .low
  else if thinking.budgetTokens * 100 < 66 * maxTokens then .medium
  else if thinking.budgetTokens ≤ maxTokens then .high
  else .medium

def convertToolChoice : Anthropic.ToolChoice → ToolChoice
  | .auto => .auto
  | .none => .none
  | .any => .required
  | .tool name => .named name

def convertTool (tool : Anthropic.Tool) : Tool where
  name := tool.name
  description := tool.description
  parameters := some tool.inputSchema

/-- A block of an assistant; the others are left out. -/
def convertAssistantBlock : ContentBlock → Option AssistantContentPart
  | .text content => some (.text content)
  | _ => none

/-- A block of a user. -/
def convertUserBlock : ContentBlock → Option UserContentPart
  | .text content => some (.text content)
  -- whatever the data are, they are the URL
  | .image source => some (.imageUrl source.data)
  | _ => none

def convertMessage (message : Anthropic.Message) : OpenAI.Message :=
  match message.role with
  | .assistant =>
    match message.content with
    | .text content => .assistant (some (.text content)) none
    | .blocks content => .assistant (some (.array (content.filterMap convertAssistantBlock))) none
  | .user =>
    match message.content with
    | .text content => .user (.text content)
    | .blocks content => .user (.array (content.filterMap convertUserBlock))

/-- The messages; the system prompt comes first. -/
def messagesOf (value : CreateMessageParams) : List OpenAI.Message :=
  (value.system.map fun prompt => OpenAI.Message.developer (.text prompt)).toList ++
    value.messages.map convertMessage

/-- The user in the metadata. -/
def userOf (metadata : Option (List (String × String))) : Option String :=
  metadata.bind fun fields => fields.lookup "user_id"

variable {Date : Type}

/-- **`try_convert`.** -/
def tryConvert (chrono : Chrono Date) (mapper : ModelMapper) (value : CreateMessageParams) :
    Except MapperError ConvertedRequest := do
  let sourceModel ← ModelId.fromStr chrono value.model
  let targetModel ← mapModel chrono mapper sourceModel .openAI
  return {
    messages := messagesOf value
    model := String.ofList (targetModel.display chrono)
    maxCompletionTokens := some value.maxTokens
    maxTokens := none
    temperature := value.temperature
    topP := value.topP
    stop := value.stopSequences.map .stringArray
    stream := value.stream
    tools := value.tools.map fun tools => tools.map convertTool
    toolChoice := value.toolChoice.map convertToolChoice
    user := userOf value.metadata
    reasoningEffort := value.thinking.map (reasoningEffort value.maxTokens)
    includeUsage := if value.stream = some true then some true else none
    metadata := value.metadata.map fun fields => fields.filter fun field => field.1 ≠ "user_id" }

/-! ### What comes back -/

variable (images : Anthropic.ImageLib)

/-- What comes back of a block. -/
def keptBlock (role : Role) : ContentBlock → Option ContentBlock
  | .text content => some (.text content)
  | .image source =>
    match role with
    | .user => (Anthropic.convertImage images source.data).toOption.join
    | .assistant => none
  | _ => none

def keptMessage (message : Anthropic.Message) : Anthropic.Message where
  role := message.role
  content :=
    match message.content with
    | .text content => .text content
    | .blocks content => .blocks (content.filterMap (keptBlock images message.role))

/-- **What comes back of a request**, under some model. -/
def kept (value : CreateMessageParams) (model : List Char) : CreateMessageParams where
  maxTokens := value.maxTokens
  messages := value.messages.map (keptMessage images)
  model := model
  system := value.system
  temperature := value.temperature
  stopSequences := value.stopSequences
  stream := value.stream
  topK := none
  topP := value.topP
  tools := value.tools
  toolChoice := value.toolChoice
  metadata := (userOf value.metadata).map fun user => [("user_id", user)]
  thinking := none

/-- The tools come back. -/
theorem map_convertTool (tools : Option (List Anthropic.Tool)) :
    (tools.map fun tools => tools.map convertTool).map
      (fun tools => tools.map Anthropic.convertTool) = tools := by
  rw [Option.map_map]
  have hid : (fun tools => List.map Anthropic.convertTool tools) ∘
      (fun tools => List.map convertTool tools) = id := by
    funext tools
    rw [Function.comp_apply, List.map_map]
    exact List.map_id tools
  rw [hid, Option.map_id, id]

theorem map_convertToolChoice (toolChoice : Option Anthropic.ToolChoice) :
    (toolChoice.map convertToolChoice).map Anthropic.convertToolChoice = toolChoice := by
  rcases toolChoice with _ | ⟨_ | _ | _ | _⟩ <;> rfl

theorem map_stringArray (stopSequences : Option (List String)) :
    (stopSequences.map Stop.stringArray).map Conversation.stopSequences = stopSequences := by
  cases stopSequences <;> rfl

/-- The blocks of a user that come back. -/
theorem filterMapM_convertUserBlock {content : List ContentBlock}
    {blocks : List ContentBlock}
    (h : (content.filterMap convertUserBlock).filterMapM (Anthropic.convertUserPart images) =
      .ok blocks) :
    blocks = content.filterMap (keptBlock images .user) := by
  rw [eq_filterMap_of_filterMapM h, List.filterMap_filterMap]
  refine List.filterMap_congr fun block _ => ?_
  cases block with
  | text content => rfl
  | image source => rfl
  | toolUse id name input => rfl
  | toolResult toolUseId content => rfl
  | thinking thinking signature => rfl
  | redactedThinking data => rfl

/-- The blocks of an assistant that come back. -/
theorem map_convertAssistantBlock (content : List ContentBlock) :
    (content.filterMap convertAssistantBlock).map Anthropic.convertAssistantPart =
      content.filterMap (keptBlock images .assistant) := by
  rw [List.map_filterMap]
  refine List.filterMap_congr fun block _ => ?_
  cases block <;> rfl

/-- **A message comes back**, with what is kept of it. -/
theorem convertMessage_convertMessage {tools : Option (List Anthropic.Tool)}
    {message : Anthropic.Message} {o : Option Anthropic.Message}
    (h : Anthropic.convertMessage images tools (convertMessage message) = .ok o) :
    o = some (keptMessage images message) := by
  obtain ⟨role, content⟩ := message
  cases role with
  | user =>
    cases content with
    | text content =>
      cases h
      rfl
    | blocks content =>
      obtain ⟨blocks, hblocks, h⟩ := bind_eq_ok_iff.mp h
      cases h
      rw [filterMapM_convertUserBlock images hblocks]
      rfl
  | assistant =>
    cases content with
    | text content =>
      cases h
      rfl
    | blocks content =>
      cases h
      rw [map_convertAssistantBlock images]
      rfl

/-- All messages come back; the system prompt is none. -/
theorem filterMapM_messagesOf {tools : Option (List Anthropic.Tool)} {value : CreateMessageParams}
    {messages : List Anthropic.Message}
    (h : (messagesOf value).filterMapM (Anthropic.convertMessage images tools) = .ok messages) :
    messages = value.messages.map (keptMessage images) := by
  have hok := exists_ok_of_filterMapM h
  rw [eq_filterMap_of_filterMapM h]
  unfold messagesOf at hok ⊢
  have hsystem : ((value.system.map fun prompt => OpenAI.Message.developer (.text prompt)).toList
      ).filterMap (fun message => (Anthropic.convertMessage images tools message).toOption.join) =
        [] := by
    cases value.system <;> rfl
  have hkept : ∀ message ∈ value.messages, (Anthropic.convertMessage images tools
      (convertMessage message)).toOption.join = some (keptMessage images message) := by
    intro message hmessage
    obtain ⟨o, ho⟩ := hok _ (List.mem_append_right _ (List.mem_map_of_mem hmessage))
    rw [ho, convertMessage_convertMessage images ho]
    rfl
  rw [List.filterMap_append, hsystem, List.nil_append, List.filterMap_map]
  exact (List.filterMap_congr hkept).trans (congrFun List.filterMap_eq_map value.messages)

/-- The system prompt comes back, also if there is none. -/
theorem systemPrompt_messagesOf {value : CreateMessageParams} {request : ChatRequest}
    (h : request.messages = messagesOf value) : systemPrompt request = value.system := by
  rw [systemPrompt_eq, h]
  unfold messagesOf
  cases value.system with
  | some prompt => rfl
  | none =>
    cases value.messages with
    | nil => rfl
    | cons message messages =>
      -- a user or an assistant gives no instructions
      obtain ⟨role, content⟩ := message
      cases role <;> cases content <;> rfl

variable {images} {chrono : Chrono Date} {mapper mapper' : ModelMapper}
  {value : CreateMessageParams} {converted : ConvertedRequest} {model : String}
  {params : CreateMessageParams}

/-- **What comes back.** A request that is converted to OpenAI and, under any model, to Anthropic
again, comes back without what has no place in between. -/
theorem eq_kept_of_tryConvert (hthere : tryConvert chrono mapper value = .ok converted)
    (hback : Anthropic.tryConvert images chrono mapper'
      { converted.toChatRequest with model := model } = .ok params) :
    params = kept images value params.model := by
  obtain ⟨sourceModel, -, hthere⟩ := bind_eq_ok_iff.mp hthere
  obtain ⟨targetModel, -, hthere⟩ := bind_eq_ok_iff.mp hthere
  cases hthere
  obtain ⟨sourceModel', -, hback⟩ := bind_eq_ok_iff.mp hback
  obtain ⟨targetModel', -, hback⟩ := bind_eq_ok_iff.mp hback
  obtain ⟨messages, hmessages, hback⟩ := bind_eq_ok_iff.mp hback
  cases hback
  obtain rfl := filterMapM_messagesOf images hmessages
  unfold kept
  congr 1
  · exact systemPrompt_messagesOf rfl
  · exact map_stringArray value.stopSequences
  · exact map_convertTool value.tools
  · exact map_convertToolChoice value.toolChoice

/-! ### Coming back as it was -/

/-- A block with nothing to lose: a text, or a user's image under an URL. -/
def PlainBlock (role : Role) : ContentBlock → Prop
  | .text _ => True
  | .image source => role = .user ∧ "http".toList.isPrefixOf source.data.toList = true ∧
    source.type = "url" ∧ source.mediaType = ""
  | _ => False

/-- **A request with nothing to lose.** -/
structure Plain (value : CreateMessageParams) : Prop where
  thinking : value.thinking = none
  topK : value.topK = none
  metadata : value.metadata = none ∨ ∃ user, value.metadata = some [("user_id", user)]
  blocks : ∀ message ∈ value.messages, ∀ content, message.content = .blocks content →
    ∀ block ∈ content, PlainBlock message.role block

section Blocks

variable (images : Anthropic.ImageLib)

/-- An image that is not under an URL changes: its data are what follows a comma. -/
theorem convertImage_ne {source : Anthropic.ImageSource}
    (hurl : ¬ "http".toList.isPrefixOf source.data.toList = true) :
    (Anthropic.convertImage images source.data).toOption.join ≠ some (.image source) := by
  unfold Anthropic.convertImage
  rw [if_neg hurl]
  intro h
  cases hmime : Anthropic.mimeFromDataUri images source.data.toList with
  | error e =>
    rw [hmime] at h
    cases h
  | ok mime =>
    rw [hmime] at h
    cases mime with
    | none => cases h
    | some mimeType =>
      cases hsplit : Text.splitFirst ',' source.data.toList with
      | none =>
        dsimp only [Bind.bind, Except.bind] at h
        rw [hsplit] at h
        cases h
      | some parts =>
        dsimp only [Bind.bind, Except.bind] at h
        rw [hsplit] at h
        have hdata : source.data = String.ofList parts.2 :=
          (congrArg Anthropic.ImageSource.data
            (ContentBlock.image.inj (Option.some.inj h))).symm
        -- the comma is missing in what follows it
        have hlength := congrArg List.length (Text.eq_of_splitFirst hsplit)
        rw [hdata, String.toList_ofList, List.length_append, List.length_cons] at hlength
        omega

/-- **The blocks that come back as they were.** -/
theorem keptBlock_iff (role : Role) (block : ContentBlock) :
    keptBlock images role block = some block ↔ PlainBlock role block := by
  cases block with
  | text content => exact iff_of_true rfl trivial
  | image source =>
    cases role with
    | assistant => exact iff_of_false nofun fun hplain => nomatch hplain.1
    | user =>
      change (Anthropic.convertImage images source.data).toOption.join = some (.image source) ↔ _
      -- a URL is sent as it is, under the type and the media type that the mapper chooses
      by_cases hurl : "http".toList.isPrefixOf source.data.toList = true
      · obtain ⟨type, mediaType, data⟩ := source
        unfold Anthropic.convertImage
        rw [if_pos hurl]
        constructor
        · rintro ⟨⟩
          exact ⟨rfl, hurl, rfl, rfl⟩
        · rintro ⟨-, -, htype, hmediaType⟩
          dsimp only at htype hmediaType
          rw [htype, hmediaType]
          rfl
      · exact iff_of_false (convertImage_ne images hurl) fun hplain => hurl hplain.2.1
  | toolUse id name input => exact iff_of_false nofun nofun
  | toolResult toolUseId content => exact iff_of_false nofun nofun
  | thinking thinking signature => exact iff_of_false nofun nofun
  | redactedThinking data => exact iff_of_false nofun nofun

/-- The messages that come back as they were. -/
theorem keptMessage_iff (message : Anthropic.Message) :
    keptMessage images message = message ↔
      ∀ content, message.content = .blocks content → ∀ block ∈ content,
        PlainBlock message.role block := by
  obtain ⟨role, content⟩ := message
  cases content with
  | text content => exact iff_of_true rfl nofun
  | blocks content =>
    change Anthropic.Message.mk role (.blocks (content.filterMap (keptBlock images role))) = _ ↔ _
    rw [Anthropic.Message.mk.injEq, Anthropic.MessageContent.blocks.injEq, eq_self_iff_true,
      true_and, filterMap_eq_self_iff]
    constructor
    · rintro h _ ⟨⟩ block hblock
      exact (keptBlock_iff images role block).mp (h block hblock)
    · intro h block hblock
      exact (keptBlock_iff images role block).mpr (h content rfl block hblock)

/-- The metadata that come back as they were. -/
theorem map_userOf_iff (metadata : Option (List (String × String))) :
    (userOf metadata).map (fun user => [("user_id", user)]) = metadata ↔
      metadata = none ∨ ∃ user, metadata = some [("user_id", user)] := by
  constructor
  · intro h
    rw [← h]
    cases userOf metadata with
    | none => exact Or.inl rfl
    | some user => exact Or.inr ⟨user, rfl⟩
  · rintro (rfl | ⟨user, rfl⟩) <;> rfl

/-- What comes back is what was sent, when there is nothing to lose. -/
theorem kept_iff (value : CreateMessageParams) :
    kept images value value.model = value ↔ Plain value := by
  -- the messages come back one by one
  have hmessages : value.messages.map (keptMessage images) = value.messages ↔
      ∀ message ∈ value.messages, ∀ content, message.content = .blocks content →
        ∀ block ∈ content, PlainBlock message.role block := by
    constructor
    · intro h message hmessage
      have hsame := List.map_inj_left.mp (h.trans (List.map_id _).symm) message hmessage
      exact (keptMessage_iff images message).mp hsame
    · intro h
      refine (List.map_congr_left fun message hmessage => ?_).trans (List.map_id _)
      exact (keptMessage_iff images message).mpr (h message hmessage)
  have hmetadata := map_userOf_iff value.metadata
  constructor
  · intro h
    refine ⟨?_, ?_, hmetadata.mp ?_, hmessages.mp ?_⟩
    · exact (congrArg CreateMessageParams.thinking h).symm
    · exact (congrArg CreateMessageParams.topK h).symm
    · exact congrArg CreateMessageParams.metadata h
    · exact congrArg CreateMessageParams.messages h
  · rintro ⟨hthinking, htopK, hplain, hblocks⟩
    obtain ⟨maxTokens, messages, model, system, temperature, stopSequences, stream, topK, topP,
      tools, toolChoice, metadata, thinking⟩ := value
    dsimp only at hthinking htopK hplain hblocks hmessages hmetadata
    unfold kept
    dsimp only
    rw [hmessages.mpr hblocks, hmetadata.mpr hplain, hthinking, htopK]

end Blocks

variable {images : Anthropic.ImageLib} {chrono : Chrono Date} {mapper mapper' : ModelMapper}
  {value : CreateMessageParams} {converted : ConvertedRequest} {model : String}
  {params : CreateMessageParams}

/-- **There and back.** A request that is converted to OpenAI and, under any model, to Anthropic
again, comes back without what has no place in between: as the client wrote it, but for the model,
exactly when it has nothing to lose. -/
theorem roundTrip (hthere : tryConvert chrono mapper value = .ok converted)
    (hback : Anthropic.tryConvert images chrono mapper'
      { converted.toChatRequest with model := model } = .ok params) :
    params = kept images value params.model ∧
      ({ params with model := value.model } = value ↔ Plain value) := by
  have hkept := eq_kept_of_tryConvert hthere hback
  refine ⟨hkept, ?_⟩
  rw [hkept]
  exact kept_iff images value

/-- A mapper with one model, which every provider offers. -/
def oneModel : ModelMapper where
  providersConfig _ := some ["gpt-4o-mini".toList]
  routerMapping := none
  defaultMapping _ := none

/-- A question about an image, with a thinking budget and a bound on the choices. -/
def thoughtful : CreateMessageParams where
  maxTokens := 1024
  messages :=
    [⟨.user, .blocks [.text "What is this?", .image ⟨"base64", "image/png", "iVBORw0KGgo="⟩]⟩]
  model := "openai/gpt-4o-mini".toList
  system := some "You are a guide."
  temperature := none
  stopSequences := none
  stream := some true
  topK := some 40
  topP := none
  tools := none
  toolChoice := none
  metadata := none
  thinking := some ⟨512⟩

/-- The image, the budget and the bound do not come back. -/
theorem roundTrip_thoughtful : ∃ converted params,
    tryConvert gregorian oneModel thoughtful = .ok converted ∧
    Anthropic.tryConvert noImages gregorian oneModel
      { converted.toChatRequest with model := "openai/gpt-4o-mini" } = .ok params ∧
    params = kept noImages thoughtful params.model ∧
    { params with model := thoughtful.model } ≠ thoughtful := by
  obtain ⟨converted, params, hthere, hback⟩ : ∃ converted params,
      tryConvert gregorian oneModel thoughtful = .ok converted ∧
      Anthropic.tryConvert noImages gregorian oneModel
        { converted.toChatRequest with model := "openai/gpt-4o-mini" } = .ok params :=
    ⟨_, _, by rfl, by rfl⟩
  obtain ⟨hkept, hiff⟩ := roundTrip hthere hback
  exact ⟨converted, params, hthere, hback, hkept,
    hiff.not.mpr fun hplain => nomatch hplain.thinking⟩

end AiGateway.FromAnthropic
