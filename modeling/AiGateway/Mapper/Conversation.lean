import AiGateway.Framework.InOrder
import AiGateway.Types.Chat
import AiGateway.Types.ModelId

/-!
# What a conversation carries

A view of converted chat requests that is the same for every provider: the texts, the tool
uses and the tool results of its messages, each with the role of the message. Two things are
asked of it. The instructions of the source occur in it, in their order; and the tool calls of
the source are in it, each result behind the use it belongs to.

The converters treat these pieces alike, whatever else they do: `carried` is what they make of
one message of the source.

* `instructionsKept_iff`: the conversations that keep the instructions;
* `toolsKept_iff`: those that keep the tool calls.
-/

namespace AiGateway.Conversation

open OpenAI

/-! ### What the converters share -/

/-- `DEFAULT_MAX_TOKENS`. -/
def defaultMaxTokens : ℕ := 2000

/-- How a conversion fails. -/
inductive ConvertError
  | mapper (e : MapperError)
  /-- The slice of a data URI. -/
  | panicked
  deriving DecidableEq

/-- The stop sequences of a request. -/
def stopSequences : Stop → List String
  | .string stop => [stop]
  | .stringArray stops => stops

/-! ### Pieces -/

/-- `anthropic::Role` and `bedrock::ConversationRole`. -/
inductive Role
  | user
  | assistant
  deriving DecidableEq

/-- A part of a message. Tool uses have arguments in the format of the provider. -/
inductive Piece (Args : Type)
  | text (content : String)
  | toolUse (id name : String) (args : Args)
  | toolResult (toolUseId content : String)

variable {Args : Type}

/-- The text of a piece. -/
def Piece.text? : Piece Args → Option String
  | .text content => some content
  | .toolUse _ _ _ => none
  | .toolResult _ content => some content

/-! ### The pieces of a message -/

def userText? : UserContentPart → Option String
  | .text text => some text
  | _ => none

def assistantText : AssistantContentPart → String
  | .text text => text
  | .refusal refusal => refusal

/-- **What the converters make of a message**, given the tools by their names. Instructions are
not among the messages, nor are the calls of an assistant. -/
def carried (findTool : String → Option Args) : OpenAI.Message → List (Role × Piece Args)
  | .developer _ => []
  | .system _ => []
  | .user (.text content) => [(.user, .text content)]
  | .user (.array parts) => (parts.filterMap userText?).map fun text => (.user, .text text)
  | .assistant none _ => []
  | .assistant (some (.text content)) _ => [(.assistant, .text content)]
  | .assistant (some (.array parts)) _ =>
    parts.map fun part => (.assistant, .text (assistantText part))
  | .tool content toolCallId =>
    content.parts.map fun text => (.assistant, .toolResult toolCallId text)
  | .function name =>
    (findTool name).toList.map fun args => (.assistant, .toolUse name name args)

/-- The texts of the messages, without instructions. -/
def carriedTexts : OpenAI.Message → List String
  | .developer _ => []
  | .system _ => []
  | .user (.text content) => [content]
  | .user (.array parts) => parts.filterMap userText?
  | .assistant none _ => []
  | .assistant (some (.text content)) _ => [content]
  | .assistant (some (.array parts)) _ => parts.map assistantText
  | .tool content _ => content.parts
  | .function _ => []

/-- What some pieces hold that are made of a list, one of each element. -/
theorem filterMap_map_of_eq_some {α β γ : Type} {f : α → β} {g : β → Option γ} {h : α → γ}
    (hg : ∀ a, g (f a) = some (h a)) (l : List α) : (l.map f).filterMap g = l.map h := by
  rw [List.filterMap_map, show g ∘ f = some ∘ h from funext hg]
  exact congrFun List.filterMap_eq_map l

/-- The texts do not depend on the tools. -/
theorem texts_carried (findTool : String → Option Args) (message : OpenAI.Message) :
    (carried findTool message).filterMap (fun p => p.2.text?) = carriedTexts message := by
  -- where every piece is made from a text, the texts are left
  have hmap : ∀ {α : Type} (piece : α → Role × Piece Args) (text : α → String),
      (∀ a, (piece a).2.text? = some (text a)) → ∀ l : List α,
      (l.map piece).filterMap (fun p => p.2.text?) = l.map text :=
    fun piece _ htext l => filterMap_map_of_eq_some (f := piece) htext l
  cases message with
  | developer content => rfl
  | system content => rfl
  | user content =>
    cases content with
    | text content => rfl
    | array parts =>
      exact (hmap (fun text => (.user, .text text)) id (fun _ => rfl) _).trans (List.map_id _)
  | assistant content toolCalls =>
    cases content with
    | none => rfl
    | some content =>
      cases content with
      | text content => rfl
      | array parts => exact hmap _ assistantText (fun _ => rfl) parts
  | tool content toolCallId =>
    exact (hmap (fun text => (.assistant, .toolResult toolCallId text)) id (fun _ => rfl) _).trans
      (List.map_id _)
  | function name =>
    -- the use of a tool is no text
    unfold carried carriedTexts
    rw [List.filterMap_map]
    exact List.filterMap_eq_nil_iff.mpr fun _ _ => rfl

/-! ### Instructions -/

/-- The texts of some pieces. -/
def texts (pieces : List (Role × Piece Args)) : List String :=
  pieces.filterMap fun p => p.2.text?

theorem texts_flatMap_carried (findTool : String → Option Args) (messages : List OpenAI.Message) :
    texts (messages.flatMap (carried findTool)) = messages.flatMap carriedTexts := by
  unfold texts
  rw [List.filterMap_flatMap]
  exact List.flatMap_congr fun message _ => texts_carried findTool message

/-- Texts that occur in others, one after the other. -/
def Within (texts pieces : List String) : Prop :=
  InOrder (texts.map String.toList) (pieces.map String.toList)

/-- **A conversation keeps the instructions of some messages.** They occur, in their order, in
its system prompt and its messages. -/
def InstructionsKept (messages : List OpenAI.Message) (system : Option String)
    (pieces : List (Role × Piece Args)) : Prop :=
  Within (messages.filterMap OpenAI.Message.instructions) (system.getD "" :: texts pieces)

/-- The instructions of some messages are repeated by what others say. -/
def Repeated (instructing messages : List OpenAI.Message) : Prop :=
  Within (instructing.filterMap OpenAI.Message.instructions) ("" :: messages.flatMap carriedTexts)

/-- Without a system prompt the instructions are kept as far as they are repeated. -/
theorem instructionsKept_none_iff (findTool : String → Option Args)
    (messages : List OpenAI.Message) :
    InstructionsKept messages none (messages.flatMap (carried findTool)) ↔
      Repeated messages messages := by
  unfold InstructionsKept Repeated
  rw [texts_flatMap_carried]
  exact Iff.rfl

/-- **With a system prompt** this goes for the instructions behind the first message. -/
theorem instructionsKept_iff (findTool : String → Option Args) (request : ChatRequest) :
    InstructionsKept request.messages (systemPrompt request)
        (request.messages.flatMap (carried findTool)) ↔
      Repeated request.messages.tail request.messages := by
  unfold InstructionsKept Repeated Within
  rw [texts_flatMap_carried, systemPrompt_eq]
  cases request.messages with
  | nil => exact Iff.rfl
  | cons message messages =>
    rw [List.head?_cons, Option.bind_some, List.tail_cons, List.map_cons]
    cases hinstructions : message.instructions with
    | none =>
      rw [List.filterMap_cons_none hinstructions]
      exact Iff.rfl
    | some prompt =>
      -- the first instructions are the prompt
      rw [List.filterMap_cons_some hinstructions, List.map_cons, Option.getD_some]
      exact InOrder.cons_self_iff

/-! ### Tools -/

theorem toolResult_mem_carried {findTool : String → Option Args} {message : OpenAI.Message}
    {role : Role} {id text : String} :
    (role, Piece.toolResult id text) ∈ carried findTool message ↔
      role = .assistant ∧ ∃ content, message = .tool content id ∧ text ∈ content.parts := by
  cases message with
  | developer content => simp [carried]
  | system content => simp [carried]
  | user content => cases content <;> simp [carried]
  | assistant content toolCalls =>
    cases content with
    | none => simp [carried]
    | some content => cases content <;> simp [carried]
  | tool content toolCallId =>
    simp only [carried, List.mem_map, Prod.mk.injEq, Piece.toolResult.injEq,
      OpenAI.Message.tool.injEq]
    constructor
    · rintro ⟨text', htext, rfl, rfl, rfl⟩
      exact ⟨rfl, content, ⟨rfl, rfl⟩, htext⟩
    · rintro ⟨rfl, content', ⟨rfl, rfl⟩, htext⟩
      exact ⟨text, htext, rfl, rfl, rfl⟩
  | function name => simp [carried]

theorem toolUse_mem_carried {findTool : String → Option Args} {message : OpenAI.Message}
    {role : Role} {id name : String} {args : Args} :
    (role, Piece.toolUse id name args) ∈ carried findTool message ↔
      role = .assistant ∧ id = name ∧ message = .function name ∧ findTool name = some args := by
  cases message with
  | developer content => simp [carried]
  | system content => simp [carried]
  | user content => cases content <;> simp [carried]
  | assistant content toolCalls =>
    cases content with
    | none => simp [carried]
    | some content => cases content <;> simp [carried]
  | tool content toolCallId => simp [carried]
  | function name' =>
    simp only [carried, List.mem_map, Option.mem_toList, Prod.mk.injEq, Piece.toolUse.injEq,
      OpenAI.Message.function.injEq]
    constructor
    · rintro ⟨args', hfind, rfl, rfl, rfl, rfl⟩
      exact ⟨rfl, rfl, rfl, hfind⟩
    · rintro ⟨rfl, rfl, rfl, hfind⟩
      exact ⟨args, hfind, rfl, rfl, rfl, rfl⟩

/-- Every tool message answers a call of an assistant before it. -/
def Answered (messages : List OpenAI.Message) : Prop :=
  ∀ before content id after, messages = before ++ .tool content id :: after →
    ∃ call ∈ before.flatMap OpenAI.Message.calls, call.id = id

/-- **A conversation keeps the tool calls.** Every result is a user's, and stands behind the use
that it answers; and no call is lost. -/
structure ToolsKept (same : String → Args → Prop) (calls : List ToolCall)
    (pieces : List (Role × Piece Args)) : Prop where
  results : ∀ before role id text after,
    pieces = before ++ (role, Piece.toolResult id text) :: after →
      role = .user ∧ ∃ call ∈ calls, call.id = id ∧
        ∃ args, (Role.assistant, Piece.toolUse id call.name args) ∈ before ∧
          same call.arguments args
  calls : ∀ call ∈ calls, ∃ args,
    (Role.assistant, Piece.toolUse call.id call.name args) ∈ pieces ∧ same call.arguments args

/-- A call that a function message stands for: its id is the name of the function, and its
arguments are those of the tool of that name. -/
def StoodFor (same : String → Args → Prop) (findTool : String → Option Args)
    (messages : List OpenAI.Message) (call : ToolCall) : Prop :=
  call.id = call.name ∧ .function call.name ∈ messages ∧
    ∃ args, findTool call.name = some args ∧ same call.arguments args

/-- There are no tool results, and every call is one that a function message stands for. -/
structure ToolsStoodFor (same : String → Args → Prop) (findTool : String → Option Args)
    (messages : List OpenAI.Message) : Prop where
  results : ∀ content id, .tool content id ∈ messages → content.parts = []
  calls : ∀ call ∈ messages.flatMap OpenAI.Message.calls, StoodFor same findTool messages call

/-- **When the tool calls are kept.** What is carried of a result is an assistant's, and what is
carried of a call is a function message. -/
theorem toolsKept_iff (same : String → Args → Prop) (findTool : String → Option Args)
    (messages : List OpenAI.Message) :
    ToolsKept same (messages.flatMap OpenAI.Message.calls) (messages.flatMap (carried findTool)) ↔
      ToolsStoodFor same findTool messages := by
  constructor
  · rintro ⟨hresults, hcalls⟩
    constructor
    · intro content id hmem
      by_contra hparts
      obtain ⟨text, htext⟩ := List.exists_mem_of_ne_nil _ hparts
      -- the result of a tool is an assistant's
      have hresult : (Role.assistant, Piece.toolResult id text) ∈
          messages.flatMap (carried findTool) :=
        List.mem_flatMap.mpr ⟨_, hmem, toolResult_mem_carried.mpr ⟨rfl, content, rfl, htext⟩⟩
      obtain ⟨before, after, hsplit⟩ := List.append_of_mem hresult
      obtain ⟨hrole, -⟩ := hresults before _ _ _ after hsplit
      cases hrole
    · intro call hcall
      obtain ⟨args, huse, hsame⟩ := hcalls call hcall
      obtain ⟨message, hmem, huse⟩ := List.mem_flatMap.mp huse
      obtain ⟨-, hid, rfl, hfind⟩ := toolUse_mem_carried.mp huse
      exact ⟨hid, hmem, args, hfind, hsame⟩
  · rintro ⟨hnone, hcalls⟩
    constructor
    · intro before role id text after hsplit
      have hresult : (role, Piece.toolResult id text) ∈ messages.flatMap (carried findTool) := by
        rw [hsplit]
        exact List.mem_append_right _ List.mem_cons_self
      obtain ⟨message, hmem, hresult⟩ := List.mem_flatMap.mp hresult
      obtain ⟨-, content, rfl, htext⟩ := toolResult_mem_carried.mp hresult
      rw [hnone content id hmem] at htext
      cases htext
    · intro call hcall
      obtain ⟨hid, hmem, args, hfind, hsame⟩ := hcalls call hcall
      exact ⟨args, List.mem_flatMap.mpr ⟨_, hmem,
        toolUse_mem_carried.mpr ⟨rfl, hid, rfl, hfind⟩⟩, hsame⟩

end AiGateway.Conversation
