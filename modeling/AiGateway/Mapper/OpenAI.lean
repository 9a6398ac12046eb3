import AiGateway.Mapper.Answers

/-!
# Converting answers of OpenAI

`OpenAIConverter::try_convert` and `try_convert_chunk` of `middleware/mapper/openai.rs`: a
complete response becomes a message of Anthropic, and each chunk of a stream at most one event.
Reading JSON is a parameter.

The first choice of a response is taken out without a look at how many there are. Arguments of
tool calls are texts, and have to be read to become the input of a block.

* `keys_content`, `texts_content`: what is made of the first choice;
* `converted_keeps_answer_iff`: the responses whose tool calls and texts are all kept.
-/

namespace AiGateway.OpenAIConverter

open OpenAI Serde AnthropicStream Answers

/-! ### Responses -/

section Code

variable (fromStr : String → Option Json)

/-- The counts; none are zeros. -/
def convertUsage (usage : Option CompletionUsage) : Usage :=
  (usage.map fun usage => ⟨usage.promptTokens, usage.completionTokens⟩).getD ⟨0, 0⟩

/-- One round of the loop over the tool calls. -/
def toolUseBlock (toolUse : ToolCall) : Option ContentBlock :=
  -- arguments that cannot be read are passed over
  (fromStr toolUse.arguments).map fun input => .toolUse toolUse.id toolUse.name input

/-- The content that is made of the first choice. -/
def responseContent (message : ResponseMessage) : List ContentBlock :=
  (message.toolCalls.getD []).filterMap (toolUseBlock fromStr) ++
    (message.content.map ContentBlock.text).toList

/-- `ANTHROPIC_MESSAGE_TYPE`. -/
def anthropicMessageType : String := "message"

/-- `try_convert` of a response. `none` is the panic of `choices.remove(0)`. -/
def tryConvert (value : ChatResponse) : Option AnthropicStream.Message :=
  match value.choices with
  | [] => none
  | choice :: _ =>
    some {
      id := value.id
      type_ := anthropicMessageType
      role := .assistant
      content := responseContent fromStr choice.message
      model := value.model
      stopReason := if choice.message.refusal.isSome then some .refusal else none
      stopSequence := none
      usage := convertUsage value.usage }

end Code

/-! ### Chunks -/

/-- `MapperError`, as far as the conversion of chunks returns it. -/
inductive ChunkError
  | invalidRequest
  deriving DecidableEq

section Chunks

variable (fromStr : String → Option Json)

/-- A piece that begins a tool call: its id, its name and the arguments that come with it. -/
def startOf (piece : ToolCallChunk) : Option (String × String × Option String) :=
  match piece.id, piece.function with
  | some id, some ⟨some name, arguments⟩ => some (id, name, arguments)
  | _, _ => none

/-- The input that is read from the arguments. -/
def readInput (arguments : Option String) : Option Json := fromStr (arguments.getD "{}")

/-- The blocks of a piece in the chunk with the role. A block whose input could be read is
followed by one with the default for bad JSON. -/
def startBlocks (piece : ToolCallChunk) : List ContentBlock :=
  match startOf piece with
  | none => []
  | some (id, name, arguments) =>
    ((readInput fromStr arguments).map (ContentBlock.toolUse id name)).toList ++
      [.toolUse id name (.obj [])]

/-- The event of the chunk with the role. -/
def messageStart (value : ChatChunk) (delta : StreamDelta) (role : MessageRole) : StreamEvent :=
  .messageStart {
    id := value.id
    type_ := anthropicMessageType
    role := role
    content := (delta.content.map ContentBlock.text).toList ++
      (delta.toolCalls.getD []).flatMap (startBlocks fromStr)
    model := value.model
    stopReason := none
    stopSequence := none
    usage := ⟨0, 0⟩ }

/-- The reason to stop. -/
def stopReason : FinishReason → StopReason
  | .stop => .endTurn
  | .length => .maxTokens
  | .toolCalls => .toolUse
  | .functionCall => .toolUse
  | .contentFilter => .refusal

/-- The event of a piece, the first of its chunk. -/
def toolEvent (piece : ToolCallChunk) : Option StreamEvent :=
  match startOf piece with
  | some (id, name, arguments) =>
    some (.contentBlockStart piece.index
      (.toolUse id name ((readInput fromStr arguments).getD (.obj []))))
  | none =>
    (piece.function.bind FunctionCallStream.arguments).map fun arguments =>
      .contentBlockDelta piece.index (.inputJsonDelta arguments)

/-- The event of a text, or of a refusal. -/
def textEvent (delta : StreamDelta) : Option StreamEvent :=
  (delta.content.or delta.refusal).map fun text => .contentBlockDelta 0 (.textDelta text)

/-- `try_convert_chunk`, by the first that applies: a role, a reason to finish, the first piece of
a tool call, a text, a refusal. -/
def tryConvertChunk (value : ChatChunk) : Except ChunkError (Option StreamEvent) :=
  match value.choices with
  | [] => .ok none
  | choice :: _ =>
    match choice.delta.role with
    | some .assistant => .ok (some (messageStart fromStr value choice.delta .assistant))
    | some .user => .ok (some (messageStart fromStr value choice.delta .user))
    | some _ => .error .invalidRequest
    | none =>
      match choice.finishReason with
      | some finishReason =>
        .ok (some (.messageDelta (some (stopReason finishReason)) none
          (some (convertUsage value.usage))))
      | none =>
        .ok ((((choice.delta.toolCalls.getD []).head?).bind (toolEvent fromStr)).or
          (textEvent choice.delta))

end Chunks

/-! ### What is kept of a response -/

/-- The message of the first choice. -/
def firstMessage (value : ChatResponse) : Option ResponseMessage :=
  value.choices.head?.map ChatChoice.message

/-- The tool calls of the first choice. -/
def firstCalls (value : ChatResponse) : List ToolCall :=
  ((firstMessage value).bind ResponseMessage.toolCalls).getD []

/-- The texts of a message without its refusal. -/
def contentTexts (message : ResponseMessage) : List String := message.content.toList

/-- The texts of a message and of its refusal. -/
def allTexts (message : ResponseMessage) : List String :=
  message.content.toList ++ message.refusal.toList

/-- **The answer is kept**: the conversion does not panic, each tool call of the first choice has
its block, in order, and so has each text. -/
structure KeepsAnswer (texts : ResponseMessage → List String) (value : ChatResponse)
    (converted : Option AnthropicStream.Message) : Prop where
  noPanic : converted.isSome = true
  calls : ∀ message ∈ converted, (message.content.filterMap anthropicUse?).map ToolUse.key =
    (firstCalls value).map fun call => (call.id, call.name)
  text : ∀ message ∈ converted, message.content.filterMap ContentBlock.text? =
    ((firstMessage value).map texts).getD []

section Proofs

variable {fromStr : String → Option Json}

/-- A block is made of each tool call whose arguments can be read. -/
theorem keys_filterMap_toolUseBlock (calls : List ToolCall) :
    ((calls.filterMap (toolUseBlock fromStr)).filterMap anthropicUse?).map ToolUse.key =
      (calls.filter fun call => (fromStr call.arguments).isSome).map fun call =>
        (call.id, call.name) := by
  induction calls with
  | nil => rfl
  | cons call calls ih =>
    rw [List.filterMap_cons_toList, List.filterMap_append, List.map_append, ih,
      List.filter_cons]
    unfold toolUseBlock
    cases fromStr call.arguments with
    | none => rfl
    | some input => rfl

theorem keys_content (message : ResponseMessage) :
    ((responseContent fromStr message).filterMap anthropicUse?).map ToolUse.key =
      ((message.toolCalls.getD []).filter fun call => (fromStr call.arguments).isSome).map
        fun call => (call.id, call.name) := by
  have htext : ((message.content.map ContentBlock.text).toList).filterMap anthropicUse? = [] := by
    cases message.content with
    | none => rfl
    | some text => rfl
  unfold responseContent
  rw [List.filterMap_append, htext, List.append_nil]
  exact keys_filterMap_toolUseBlock _

/-- The content is the only text. -/
theorem texts_content (message : ResponseMessage) :
    (responseContent fromStr message).filterMap ContentBlock.text? = message.content.toList := by
  have hcalls : ((message.toolCalls.getD []).filterMap (toolUseBlock fromStr)).filterMap
      ContentBlock.text? = [] := by
    refine List.filterMap_eq_nil_iff.mpr fun block hblock => ?_
    obtain ⟨call, -, hcall⟩ := List.mem_filterMap.mp hblock
    obtain ⟨input, -, rfl⟩ := Option.map_eq_some_iff.mp hcall
    rfl
  unfold responseContent
  rw [List.filterMap_append, hcalls, List.nil_append]
  cases message.content with
  | none => rfl
  | some text => rfl

/-- Leaving calls out is noticed by their number. -/
theorem map_filter_eq_iff {α β : Type} {p : α → Bool} {f : α → β} {l : List α} :
    (l.filter p).map f = l.map f ↔ ∀ a ∈ l, p a = true := by
  constructor
  · intro h
    have hlength := congrArg List.length h
    rw [List.length_map, List.length_map] at hlength
    exact List.length_filter_eq_length_iff.mp hlength
  · intro h
    rw [List.filter_eq_self.mpr h]

section Choices

variable {value : ChatResponse} {choice : ChatChoice} {rest : List ChatChoice}

theorem firstMessage_of_choices (h : value.choices = choice :: rest) :
    firstMessage value = some choice.message := by
  unfold firstMessage
  rw [h]
  rfl

theorem firstCalls_of_choices (h : value.choices = choice :: rest) :
    firstCalls value = choice.message.toolCalls.getD [] := by
  unfold firstCalls
  rw [firstMessage_of_choices h]
  rfl

/-- With a choice, there is no panic, and the content is made of its message. -/
theorem exists_tryConvert_eq_some (h : value.choices = choice :: rest) : ∃ message,
    tryConvert fromStr value = some message ∧
      message.content = responseContent fromStr choice.message := by
  unfold tryConvert
  rw [h]
  exact ⟨_, rfl, rfl⟩

end Choices

/-- What is kept of a response with choices. -/
theorem keepsAnswer_iff {texts : ResponseMessage → List String} {value : ChatResponse} :
    KeepsAnswer texts value (tryConvert fromStr value) ↔
      value.choices ≠ [] ∧ (∀ call ∈ firstCalls value, (fromStr call.arguments).isSome = true) ∧
        ∀ message ∈ firstMessage value, message.content.toList = texts message := by
  cases hchoices : value.choices with
  | nil =>
    -- `remove(0)` panics
    have hnone : tryConvert fromStr value = none := by
      unfold tryConvert
      rw [hchoices]
    rw [hnone]
    exact iff_of_false (fun h => by cases h.noPanic) fun h => h.1 rfl
  | cons choice rest =>
    have hfirst := firstMessage_of_choices hchoices
    obtain ⟨message, hmessage, hcontent⟩ := @exists_tryConvert_eq_some fromStr _ _ _ hchoices
    have huses : (message.content.filterMap anthropicUse?).map ToolUse.key =
        (firstCalls value).map (fun call => (call.id, call.name)) ↔
        ∀ call ∈ firstCalls value, (fromStr call.arguments).isSome = true := by
      rw [hcontent, keys_content, firstCalls_of_choices hchoices]
      exact map_filter_eq_iff
    have htexts : message.content.filterMap ContentBlock.text? =
        ((firstMessage value).map texts).getD [] ↔
        choice.message.content.toList = texts choice.message := by
      rw [hcontent, texts_content, hfirst]
      rfl
    rw [hmessage]
    constructor
    · intro h
      refine ⟨List.cons_ne_nil _ _, huses.mp (h.calls message rfl), fun m hm => ?_⟩
      rw [hfirst] at hm
      cases hm
      exact htexts.mp (h.text message rfl)
    · rintro ⟨-, hread, hsame⟩
      refine ⟨rfl, fun m hm => ?_, fun m hm => ?_⟩
      · cases hm
        exact huses.mpr hread
      · cases hm
        exact htexts.mpr (hsame _ hfirst)

end Proofs

/-- **When an answer is kept.** There must be a choice, and the arguments of its tool calls must be
JSON. A refusal is a text that is not kept. -/
theorem converted_keeps_answer_iff (fromStr : String → Option Json) (value : ChatResponse) :
    (KeepsAnswer contentTexts value (tryConvert fromStr value) ↔
      value.choices ≠ [] ∧ ∀ call ∈ firstCalls value, (fromStr call.arguments).isSome = true) ∧
    (KeepsAnswer allTexts value (tryConvert fromStr value) ↔
      value.choices ≠ [] ∧ (∀ call ∈ firstCalls value, (fromStr call.arguments).isSome = true) ∧
        ∀ message ∈ firstMessage value, message.refusal = none) := by
  rw [keepsAnswer_iff, keepsAnswer_iff]
  have hrefusal : ∀ message : ResponseMessage,
      message.content.toList = allTexts message ↔ message.refusal = none := by
    intro message
    unfold allTexts
    rw [List.self_eq_append_right, Option.toList_eq_nil_iff]
  refine ⟨⟨fun h => ⟨h.1, h.2.1⟩, fun h => ⟨h.1, h.2, fun _ _ => rfl⟩⟩, ?_⟩
  simp only [hrefusal]

/-- **A response without choices** panics. -/
theorem converted_keeps_answer_fails : ¬ ∃ fromStr : String → Option Json,
    ∀ value : ChatResponse, KeepsAnswer contentTexts value (tryConvert fromStr value) := by
  rintro ⟨fromStr, h⟩
  have hempty := h ⟨[], "chatcmpl-1", 0, "gpt-4o", "chat.completion", none⟩
  cases hempty.noPanic

end AiGateway.OpenAIConverter
