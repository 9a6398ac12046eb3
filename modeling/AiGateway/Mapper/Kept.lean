import AiGateway.Mapper.Anthropic
import AiGateway.Mapper.Bedrock

/-!
# What conversions keep

The converters to Anthropic and to Bedrock, held against the two demands on a conversation:
that it keeps the instructions of the source, and that it keeps its tool calls.

Both leave instructions out of the messages. The converter to Anthropic relies on the system
prompt for them, which is the instructions of the first message; the one to Bedrock sets none.
Both leave out the calls of an assistant, and have the results said by the assistant.

* `converted_keeps_instructions_iff`: instructions are kept as far as the messages repeat them;
* `converted_keeps_tools_iff`: tool calls are kept if function messages stand for them, and
  there are no results.
-/

namespace AiGateway.Conversation

open OpenAI Serde

/-! ### Small requests -/

/-- Nothing is known of images. -/
def noImages : Anthropic.ImageLib := ⟨fun _ => none, fun _ => none⟩

/-- A mapper with one model for either provider. -/
def smallMapper : ModelMapper where
  providersConfig
    | .anthropic => some ["claude-3-5-haiku".toList]
    | .bedrock => some ["anthropic.claude-3-haiku-20240307-v1:0".toList]
    | _ => none
  routerMapping := none
  defaultMapping _ :=
    some ["claude-3-5-haiku".toList, "anthropic.claude-3-haiku-20240307-v1:0".toList]

/-- A request with these messages and tools. -/
def chat (messages : List OpenAI.Message) (tools : Option (List Tool)) : ChatRequest where
  messages := messages
  model := "openai/gpt-4o-mini"
  maxCompletionTokens := none
  maxTokens := none
  temperature := none
  topP := none
  stop := none
  stream := none
  tools := tools
  toolChoice := none
  user := none

/-! ### Instructions -/

section Converted

variable {Document Date : Type} (images : Anthropic.ImageLib) (toDocument : Json → Option Document)
  (chrono : Chrono Date) (mapper : ModelMapper)

/-- **Instructions.** What is converted for Anthropic keeps them if those behind the first
message are repeated by the other messages; for Bedrock, if all of them are. -/
theorem converted_keeps_instructions_iff (request : ChatRequest) :
    (∀ out, Anthropic.tryConvert images chrono mapper request = .ok out →
      (InstructionsKept request.messages out.system out.pieces ↔
        Repeated request.messages.tail request.messages)) ∧
    (∀ out, Bedrock.tryConvert toDocument chrono mapper request = .ok out →
      (InstructionsKept request.messages out.system out.pieces ↔
        Repeated request.messages request.messages)) := by
  constructor
  · intro out h
    obtain ⟨hpieces, hsystem⟩ := Anthropic.pieces_tryConvert h
    rw [hpieces, hsystem]
    exact instructionsKept_iff _ request
  · intro out h
    obtain ⟨hpieces, hsystem⟩ := Bedrock.pieces_tryConvert h
    rw [hpieces, hsystem]
    exact instructionsKept_none_iff _ request.messages

end Converted

/-- A prompt that comes first is kept for Anthropic, and lost for Bedrock. -/
theorem converted_keeps_instructions_iff_prompt :
    (∃ out, Anthropic.tryConvert noImages compactDates smallMapper
        (chat [.system (.text "Be brief."), .user (.text "Hello")] none) = .ok out ∧
      InstructionsKept [.system (.text "Be brief."), .user (.text "Hello")] out.system
        out.pieces) ∧
    ∃ out, Bedrock.tryConvert some compactDates smallMapper
        (chat [.system (.text "Be brief."), .user (.text "Hello")] none) = .ok out ∧
      ¬ InstructionsKept [.system (.text "Be brief."), .user (.text "Hello")] out.system
        out.pieces := by
  have hiff := converted_keeps_instructions_iff noImages some compactDates smallMapper
    (chat [.system (.text "Be brief."), .user (.text "Hello")] none)
  refine ⟨⟨_, rfl, (hiff.1 _ rfl).mpr (InOrder.nil _)⟩, _, rfl, fun h => ?_⟩
  -- the prompt is a part of no message
  have hprompt := ((hiff.2 _ rfl).mp h).exists_isInfix_of_mem List.mem_cons_self
  revert hprompt
  decide

/-- **Instructions are lost.** A system message that is not the first is converted for neither
provider. -/
theorem converted_keeps_instructions_fails :
    (∃ out, Anthropic.tryConvert noImages compactDates smallMapper
        (chat [.user (.text "Hello"), .system (.text "Be brief.")] none) = .ok out ∧
      ¬ InstructionsKept [.user (.text "Hello"), .system (.text "Be brief.")] out.system
        out.pieces) ∧
    ∃ out, Bedrock.tryConvert some compactDates smallMapper
        (chat [.user (.text "Hello"), .system (.text "Be brief.")] none) = .ok out ∧
      ¬ InstructionsKept [.user (.text "Hello"), .system (.text "Be brief.")] out.system
        out.pieces := by
  have hlost : ¬ ∃ piece ∈ ["".toList, "Hello".toList], "Be brief.".toList <:+: piece := by
    decide
  exact ⟨⟨_, rfl, fun h => hlost (InOrder.exists_isInfix_of_mem h List.mem_cons_self)⟩,
    _, rfl, fun h => hlost (InOrder.exists_isInfix_of_mem h List.mem_cons_self)⟩

/-! ### Tool calls -/

section Converted

variable {Document Date : Type} (images : Anthropic.ImageLib) (toDocument : Json → Option Document)
  (chrono : Chrono Date) (mapper : ModelMapper)

/-- **Tool calls.** The arguments of a call are the input of a tool use if they are parsed as
it, and for Bedrock are then a document. -/
theorem converted_keeps_tools_iff (fromStr : String → Option Json) (request : ChatRequest) :
    (∀ out, Anthropic.tryConvert images chrono mapper request = .ok out →
      (ToolsKept (fun arguments input => fromStr arguments = some input)
          (request.messages.flatMap OpenAI.Message.calls) out.pieces ↔
        ToolsStoodFor (fun arguments input => fromStr arguments = some input)
          (Anthropic.findTool request.tools) request.messages)) ∧
    (∀ out, Bedrock.tryConvert toDocument chrono mapper request = .ok out →
      (ToolsKept (fun arguments input => (fromStr arguments).bind toDocument = some input)
          (request.messages.flatMap OpenAI.Message.calls) out.pieces ↔
        ToolsStoodFor (fun arguments input => (fromStr arguments).bind toDocument = some input)
          (Bedrock.findTool toDocument request.tools) request.messages)) := by
  constructor
  · intro out h
    rw [(Anthropic.pieces_tryConvert h).1]
    exact toolsKept_iff _ _ request.messages
  · intro out h
    rw [(Bedrock.pieces_tryConvert h).1]
    exact toolsKept_iff _ _ request.messages

end Converted

/-- The tools of some requests: one without arguments. -/
def clock : List Tool := [⟨"clock", none, some (.obj [])⟩]

/-- Arguments are parsed as far as there are none. -/
def parseEmpty (arguments : String) : Option Json :=
  if arguments = "{}" then some (.obj []) else none

/-- A call that a function message stands for is kept. -/
theorem converted_keeps_tools_iff_function :
    (∃ out, Anthropic.tryConvert noImages compactDates smallMapper
        (chat [.assistant none (some [⟨"clock", "clock", "{}"⟩]), .function "clock"]
          (some clock)) = .ok out ∧
      ToolsKept (fun arguments input => parseEmpty arguments = some input)
        [⟨"clock", "clock", "{}"⟩] out.pieces) ∧
    ∃ out, Bedrock.tryConvert some compactDates smallMapper
        (chat [.assistant none (some [⟨"clock", "clock", "{}"⟩]), .function "clock"]
          (some clock)) = .ok out ∧
      ToolsKept (fun arguments input => (parseEmpty arguments).bind some = some input)
        [⟨"clock", "clock", "{}"⟩] out.pieces := by
  have hiff := converted_keeps_tools_iff noImages some compactDates smallMapper parseEmpty
    (chat [.assistant none (some [⟨"clock", "clock", "{}"⟩]), .function "clock"] (some clock))
  have hresults : ∀ content id, OpenAI.Message.tool content id ∉
      [.assistant none (some [⟨"clock", "clock", "{}"⟩]), .function "clock"] := by
    intro content id hmem
    simp at hmem
  refine ⟨⟨_, rfl, (hiff.1 _ rfl).mpr ⟨fun _ _ hmem => absurd hmem (hresults _ _), ?_⟩⟩,
    _, rfl, (hiff.2 _ rfl).mpr ⟨fun _ _ hmem => absurd hmem (hresults _ _), ?_⟩⟩
  · intro call hcall
    cases List.mem_singleton.mp hcall
    exact ⟨rfl, List.mem_cons_of_mem _ List.mem_cons_self, _, rfl, rfl⟩
  · intro call hcall
    cases List.mem_singleton.mp hcall
    exact ⟨rfl, List.mem_cons_of_mem _ List.mem_cons_self, _, rfl, rfl⟩

/-- A conversation that calls a tool once. -/
def calling : List OpenAI.Message :=
  [.user (.text "What time is it?"), .assistant none (some [⟨"call_1", "clock", "{}"⟩]),
    .tool (.text "Noon.") "call_1"]

/-- **Tool calls are lost.** The call of an assistant is converted for neither provider, and its
result is said by the assistant. -/
theorem converted_keeps_tools_fails :
    Answered calling ∧
    (∃ out, Anthropic.tryConvert noImages compactDates smallMapper
        (chat calling (some clock)) = .ok out ∧
      ¬ ToolsKept (fun arguments input => parseEmpty arguments = some input)
        [⟨"call_1", "clock", "{}"⟩] out.pieces) ∧
    ∃ out, Bedrock.tryConvert some compactDates smallMapper
        (chat calling (some clock)) = .ok out ∧
      ¬ ToolsKept (fun arguments input => (parseEmpty arguments).bind some = some input)
        [⟨"call_1", "clock", "{}"⟩] out.pieces := by
  refine ⟨?_, ⟨_, rfl, fun h => ?_⟩, _, rfl, fun h => ?_⟩
  · intro before content id after hsplit
    rcases before with _ | ⟨_, _ | ⟨_, _ | ⟨_, before⟩⟩⟩
    · cases hsplit
    · cases hsplit
    · cases hsplit
      exact ⟨_, List.mem_singleton.mpr rfl, rfl⟩
    · cases before <;> cases hsplit
  · obtain ⟨hrole, -⟩ := h.results [_] _ _ _ [] rfl
    cases hrole
  · obtain ⟨hrole, -⟩ := h.results [_] _ _ _ [] rfl
    cases hrole

end AiGateway.Conversation
