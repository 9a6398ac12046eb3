import AiGateway.Framework.RustStd
import AiGateway.Types.Completion

/-!
# Converting answers of Anthropic

`AnthropicConverter::try_convert` and `try_convert_chunk` of `middleware/mapper/anthropic.rs`:
a complete message becomes a response, and each event of a stream at most one chunk.
Writing JSON is a parameter.

A message is streamed as an event that starts it, the blocks of its content, each started,
filled by deltas and stopped under its index, and an event with the reason to stop.

* `receivedAtOnce_tryConvert`, `receivedInChunks_of_streams`: what a client makes of a message;
* `agree_iff`: the messages that a client receives alike at once and in chunks;
* `streams_inSequence`: every message can be streamed.
-/

namespace AiGateway.AnthropicStream

open OpenAI Serde

/-! ### Messages -/

/-- `ContentBlock`. -/
inductive ContentBlock
  | text (text : String)
  | image
  | toolUse (id name : String) (input : Json)
  | toolResult (toolUseId content : String)
  | thinking (thinking signature : String)
  | redactedThinking (data : String)

inductive StopReason
  | endTurn
  | maxTokens
  | stopSequence
  | toolUse
  | refusal

/-- The counts are `u32`s. -/
structure Usage where
  inputTokens : ℕ
  outputTokens : ℕ

inductive MessageRole
  | user
  | assistant

/-- `CreateMessageResponse`, and the message an event starts with. -/
structure Message where
  id : String
  type_ : String
  role : MessageRole
  content : List ContentBlock
  model : String
  stopReason : Option StopReason
  stopSequence : Option String
  usage : Usage

/-! ### Events -/

inductive ContentBlockDelta
  | textDelta (text : String)
  | inputJsonDelta (partialJson : String)
  | thinkingDelta (thinking : String)
  | signatureDelta (signature : String)

inductive StreamEvent
  | messageStart (message : Message)
  | contentBlockStart (index : ℕ) (contentBlock : ContentBlock)
  | contentBlockDelta (index : ℕ) (delta : ContentBlockDelta)
  | contentBlockStop (index : ℕ)
  | messageDelta (stopReason : Option StopReason) (stopSequence : Option String)
      (usage : Option Usage)
  | messageStop
  | ping
  | error

/-! ### The code -/

section Code

variable (toJson : Json → String)

/-- The sum of the counts, a `u32` of an optimised build. -/
def totalTokens (usage : Usage) : ℕ := (usage.inputTokens + usage.outputTokens) % 4294967296

def convertUsage (usage : Usage) : CompletionUsage where
  promptTokens := usage.inputTokens
  completionTokens := usage.outputTokens
  totalTokens := totalTokens usage

/-- One round of the loop over the content of a message: the tool calls and the content
collected so far. -/
def collectBlock (collected : List ToolCall × Option String) :
    ContentBlock → List ToolCall × Option String
  | .toolUse id name input => (collected.1 ++ [⟨id, name, toJson input⟩], collected.2)
  | .toolResult toolUseId content =>
    (collected.1 ++ [⟨toolUseId, toolUseId, toJson (.str content)⟩], collected.2)
  -- a text takes the place of the one before
  | .text text => (collected.1, some text)
  | .image => collected
  | .thinking _ _ => collected
  | .redactedThinking _ => collected

/-- `try_convert`. -/
def tryConvert (value : Message) : ChatResponse :=
  let (toolCalls, content) := value.content.foldl (collectBlock toJson) ([], none)
  { choices := [{
      index := 0
      message := {
        content := content
        refusal := none
        toolCalls := if toolCalls.isEmpty then none else some toolCalls
        role := .assistant }
      finishReason := none }]
    id := value.id
    created := 0
    model := value.model
    object := "chat.completion"
    usage := some (convertUsage value.usage) }

/-- `u32::try_from(index).unwrap_or(0)`. -/
def chunkIndex (index : ℕ) : ℕ := (u32TryFrom index).getD 0

/-- The reason to finish, in the chunks. -/
def finishReason : StopReason → FinishReason
  | .endTurn => .stop
  | .stopSequence => .stop
  | .maxTokens => .length
  | .toolUse => .toolCalls
  | .refusal => .contentFilter

/-- One round of the loop over the content a message starts with: the text and the tool calls
collected so far. -/
def collectStart (collected : String × List ToolCallChunk) :
    ContentBlock × ℕ → String × List ToolCallChunk
  | (.text text, _) => (collected.1 ++ text, collected.2)
  | (.toolUse id name input, idx) =>
    (collected.1, collected.2 ++ [⟨chunkIndex idx, some id, some ⟨some name, some (toJson input)⟩⟩])
  | (.toolResult _ content, _) => (collected.1 ++ "\n" ++ content, collected.2)
  | _ => collected

/-- A chunk with the placeholders. -/
def placeholderChunk (index : ℕ) (delta : StreamDelta) (finish : Option FinishReason)
    (usage : Option CompletionUsage) : ChatChunk where
  id := "anthropic-stream-id"
  choices := [⟨index, delta, finish⟩]
  created := 0
  model := "anthropic-model"
  object := "chat.completion.chunk"
  usage := usage

/-- `try_convert_chunk`. -/
def tryConvertChunk : StreamEvent → Option ChatChunk
  | .messageStart message =>
    let (content, toolCalls) := message.content.zipIdx.foldl (collectStart toJson) ("", [])
    some {
      id := message.id
      choices := [{
        index := 0
        delta := {
          role := some (match message.role with | .user => .user | .assistant => .assistant)
          content := some content
          toolCalls := some toolCalls
          refusal :=
            match message.stopReason with
            | some .refusal => message.stopSequence
            | _ => none }
        finishReason := message.stopReason.map finishReason }]
      created := 0
      model := message.model
      object := "chat.completion.chunk"
      usage := some (convertUsage message.usage) }
  | .contentBlockStart index (.toolUse id name input) =>
    some (placeholderChunk 0
      { role := none, content := none, refusal := none,
        toolCalls := some [⟨chunkIndex index, some id, some ⟨some name, some (toJson input)⟩⟩] }
      none none)
  -- the blocks of other kinds have their chunks with their deltas
  | .contentBlockStart _ _ => none
  | .contentBlockDelta index (.textDelta text) =>
    some (placeholderChunk (chunkIndex index)
      { role := none, content := some text, toolCalls := none, refusal := none } none none)
  | .contentBlockDelta index (.inputJsonDelta partialJson) =>
    some (placeholderChunk (chunkIndex index)
      { role := none, content := none, refusal := none,
        toolCalls := some [⟨chunkIndex index, none, some ⟨none, some partialJson⟩⟩] }
      none none)
  | .contentBlockDelta _ (.thinkingDelta _) => none
  | .contentBlockDelta _ (.signatureDelta _) => none
  | .contentBlockStop _ => none
  | .messageStop => none
  | .ping => none
  | .messageDelta stopReason stopSequence usage =>
    some (placeholderChunk 0
      { role := none, content := none, toolCalls := none, refusal := stopSequence }
      (stopReason.map finishReason)
      (some ((usage.map convertUsage).getD ⟨0, 0, 0⟩)))
  -- an error, too, has no chunk
  | .error => none

end Code

/-! ### Streams -/

/-- A block as it is started. -/
def ContentBlock.opened : ContentBlock → ContentBlock
  | .text _ => .text ""
  | .toolUse id name _ => .toolUse id name (.obj [])
  | .thinking _ _ => .thinking "" ""
  | block => block

/-- The deltas that fill a block. -/
inductive Fills : ContentBlock → List ContentBlockDelta → Prop
  | text (pieces : List String) : Fills (.text (concat pieces)) (pieces.map .textDelta)
  | toolUse (id name : String) (input : Json) (pieces : List String) :
      Fills (.toolUse id name input) (pieces.map .inputJsonDelta)
  | thinking (thinking signature : String) {deltas : List ContentBlockDelta} :
      (∀ d ∈ deltas, (∃ t, d = .thinkingDelta t) ∨ ∃ s, d = .signatureDelta s) →
      Fills (.thinking thinking signature) deltas
  | image : Fills .image []
  | toolResult (toolUseId content : String) : Fills (.toolResult toolUseId content) []
  | redactedThinking (data : String) : Fills (.redactedThinking data) []

/-- The index of the block an event is about. -/
def StreamEvent.index? : StreamEvent → Option ℕ
  | contentBlockStart index _ => some index
  | contentBlockDelta index _ => some index
  | contentBlockStop index => some index
  | _ => none

/-- The events about the block of an index, if there is one. -/
inductive BlockStream (index : ℕ) : Option ContentBlock → List StreamEvent → Prop
  | absent : BlockStream index none []
  | block {block : ContentBlock} {deltas : List ContentBlockDelta} : Fills block deltas →
      BlockStream index (some block)
        (.contentBlockStart index block.opened :: deltas.map (.contentBlockDelta index) ++
          [.contentBlockStop index])

/-- The events of the blocks, which may be interleaved with each other and with pings. -/
structure BlocksStream (content : List ContentBlock) (events : List StreamEvent) : Prop where
  blocks : ∀ index, BlockStream index content[index]? (events.filter fun e => e.index? = some index)
  pings : ∀ e ∈ events, e.index? = none → e = .ping

/-- **The event sequence of a message.** -/
inductive Streams (message : Message) : List StreamEvent → Prop
  | intro {events : List StreamEvent} (usage : Usage) (usage' : Option Usage) :
      BlocksStream message.content events →
      Streams message
        (.messageStart { message with
            content := [], stopReason := none, stopSequence := none, usage := usage } ::
          events ++ [.messageDelta message.stopReason message.stopSequence usage', .messageStop])

/-! ### At once -/

/-- The text of a block that has one. -/
def ContentBlock.text? : ContentBlock → Option String
  | .text content => some content
  | _ => none

/-- The text of the last text block; there need not be one. -/
def lastText (message : Message) : String :=
  ((message.content.filterMap ContentBlock.text?).getLast?).getD ""

/-- What a client receives at once. -/
structure Received where
  content : String
  finishReason : Option FinishReason
  deriving DecidableEq

/-- The message of the choice of a response, without content if it has none. -/
def receivedAtOnce (response : ChatResponse) : Option Received :=
  match response.choices with
  | [choice] => some ⟨choice.message.content.getD "", choice.finishReason⟩
  | _ => none

/-- What a client makes of chunks. -/
def receivedInChunks (chunks : List ChatChunk) : Received :=
  ⟨accumulatedContent chunks, accumulatedFinish chunks⟩

section Proofs

variable {toJson : Json → String}

/-- The loop keeps the text it meets last. -/
theorem content_foldl_collectBlock (content : List ContentBlock)
    (collected : List ToolCall × Option String) :
    (content.foldl (collectBlock toJson) collected).2 =
      ((content.filterMap ContentBlock.text?).getLast?).or collected.2 := by
  induction content generalizing collected with
  | nil => rfl
  | cons block content ih =>
    rw [List.foldl_cons, ih, List.filterMap_cons_toList, List.getLast?_append, Option.or_assoc]
    cases block <;> rfl

/-- At once, a client receives the last text, and never a reason to finish. -/
theorem receivedAtOnce_tryConvert (message : Message) :
    receivedAtOnce (tryConvert toJson message) = some ⟨lastText message, none⟩ := by
  have hcontent := @content_foldl_collectBlock toJson message.content ([], none)
  rw [Option.or_none] at hcontent
  unfold lastText
  rw [← hcontent]
  rfl

/-! ### In chunks -/

/-- The text of a block a message starts with. -/
def startText : ContentBlock → String
  | .text text => text
  | .toolResult _ content => "\n" ++ content
  | _ => ""

/-- The text a client takes from an event: what the message starts with, and that of the deltas
whose choice is 0. -/
def eventText : StreamEvent → String
  | .messageStart message => concat (message.content.map startText)
  | .contentBlockDelta index (.textDelta text) => if chunkIndex index = 0 then text else ""
  | _ => ""

/-- The reason to finish a client takes from an event. -/
def eventFinish : StreamEvent → Option FinishReason
  | .messageStart message => message.stopReason.map finishReason
  | .messageDelta stopReason _ _ => stopReason.map finishReason
  | _ => none

/-- The loop over the content of a message puts the texts together. -/
theorem text_foldl_collectStart (content : List ContentBlock) (index : ℕ)
    (collected : String × List ToolCallChunk) :
    ((content.zipIdx index).foldl (collectStart toJson) collected).1 =
      collected.1 ++ concat (content.map startText) := by
  induction content generalizing index collected with
  | nil => exact String.append_empty.symm
  | cons block content ih =>
    rw [List.zipIdx_cons, List.foldl_cons, ih, List.map_cons, concat_cons, ← String.append_assoc]
    congr 1
    cases block with
    | text text => rfl
    | toolResult toolUseId content => exact String.append_assoc
    | _ => exact String.append_empty.symm

/-- **A chunk with the placeholders** has one choice. Whatever a client takes from choice 0 it takes
from that choice, or from nothing. -/
theorem apply_choiceOf_placeholderChunk {α : Type} (takes : List ChatChoiceStream → α) (index : ℕ)
    (delta : StreamDelta) (finish : Option FinishReason) (usage : Option CompletionUsage) :
    takes (choiceOf 0 [placeholderChunk index delta finish usage]) =
      if index = 0 then takes [⟨index, delta, finish⟩] else takes [] := by
  rw [← apply_ite takes]
  congr 1
  unfold choiceOf placeholderChunk
  by_cases h : index = 0
  · simp [h]
  · simp [h]

theorem accumulatedContent_chunk (e : StreamEvent) :
    accumulatedContent (tryConvertChunk toJson e).toList = eventText e := by
  cases e with
  | messageStart message =>
    -- the texts that the message starts with, in one piece
    have htext := @text_foldl_collectStart toJson message.content 0 ("", [])
    rw [String.empty_append] at htext
    exact String.append_empty.trans htext
  | contentBlockStart index block =>
    cases block with
    | _ => rfl
  | contentBlockDelta index delta =>
    cases delta with
    | textDelta text =>
      refine (apply_choiceOf_placeholderChunk contentOf _ _ _ _).trans ?_
      exact congrArg (if chunkIndex index = 0 then · else "") String.append_empty
    | inputJsonDelta partialJson =>
      exact (apply_choiceOf_placeholderChunk contentOf _ _ _ _).trans (ite_self _)
    | thinkingDelta thinking => rfl
    | signatureDelta signature => rfl
  | messageDelta stopReason stopSequence usage => rfl
  | contentBlockStop index => rfl
  | messageStop => rfl
  | ping => rfl
  | error => rfl

theorem accumulatedFinish_chunk (e : StreamEvent) :
    accumulatedFinish (tryConvertChunk toJson e).toList = eventFinish e := by
  cases e with
  | messageStart message =>
    have hlast : ∀ finish : Option FinishReason, finish.toList.getLast? = finish := by
      intro finish
      cases finish <;> rfl
    refine Eq.trans ?_ (hlast (message.stopReason.map finishReason))
    change ([_].filterMap ChatChoiceStream.finishReason).getLast? = _
    rw [List.filterMap_cons_toList]
    exact congrArg List.getLast? (List.append_nil _)
  | contentBlockStart index block =>
    cases block with
    | _ => rfl
  | contentBlockDelta index delta =>
    cases delta with
    | textDelta text =>
      exact (apply_choiceOf_placeholderChunk finishOf _ _ _ _).trans (ite_self _)
    | inputJsonDelta partialJson =>
      exact (apply_choiceOf_placeholderChunk finishOf _ _ _ _).trans (ite_self _)
    | thinkingDelta thinking => rfl
    | signatureDelta signature => rfl
  | messageDelta stopReason stopSequence usage => cases stopReason <;> rfl
  | contentBlockStop index => rfl
  | messageStop => rfl
  | ping => rfl
  | error => rfl

/-- **What a client makes of the chunks of a stream.** -/
theorem receivedInChunks_filterMap (events : List StreamEvent) :
    receivedInChunks (events.filterMap (tryConvertChunk toJson)) =
      ⟨concat (events.map eventText), (events.filterMap eventFinish).getLast?⟩ := by
  unfold receivedInChunks
  rw [accumulatedContent_filterMap accumulatedContent_chunk,
    accumulatedFinish_filterMap accumulatedFinish_chunk]

/-! ### The events of a message -/

/-- The text of a delta for block 0, or for one whose index is no `u32`. -/
def zeroText : StreamEvent → String
  | .contentBlockDelta index (.textDelta text) => if index = 0 ∨ u32Max < index then text else ""
  | _ => ""

/-- An index is sent as it is, or as 0. -/
theorem chunkIndex_cases (index : ℕ) :
    (index ≤ u32Max ∧ chunkIndex index = index) ∨ (u32Max < index ∧ chunkIndex index = 0) := by
  unfold chunkIndex
  by_cases h : index ≤ u32Max
  · rw [u32TryFrom_of_nonneg (Int.natCast_nonneg index) (Int.ofNat_le.mpr h)]
    exact Or.inl ⟨h, Int.toNat_natCast index⟩
  · refine Or.inr ⟨Nat.lt_of_not_le h, ?_⟩
    unfold u32TryFrom
    rw [if_neg fun hle => h (Int.ofNat_le.mp hle.2)]
    rfl

/-- The indices that end up as 0. -/
theorem chunkIndex_eq_zero_iff (index : ℕ) : chunkIndex index = 0 ↔ index = 0 ∨ u32Max < index := by
  rcases chunkIndex_cases index with ⟨hle, hown⟩ | ⟨hlarge, hnone⟩
  · rw [hown]
    exact (or_iff_left (Nat.not_lt.mpr hle)).symm
  · exact iff_of_true hnone (Or.inr hlarge)

/-- The start of a message aside, the text of an event is that of a delta for choice 0. -/
theorem eventText_eq_zeroText {e : StreamEvent}
    (h : ∀ message, e = .messageStart message → message.content = []) :
    eventText e = zeroText e := by
  cases e with
  | messageStart message =>
    change concat (message.content.map startText) = ""
    rw [h message rfl]
    rfl
  | contentBlockDelta index delta =>
    cases delta with
    | textDelta text =>
      simp only [eventText, zeroText]
      exact if_congr (chunkIndex_eq_zero_iff index) rfl rfl
    | _ => rfl
  | _ => rfl

/-- What is about a block, or about nothing, ends nothing. -/
theorem eventFinish_of_blocks {content : List ContentBlock} {events : List StreamEvent}
    (h : BlocksStream content events) : events.filterMap eventFinish = [] := by
  rw [List.filterMap_eq_nil_iff]
  intro e he
  cases hindex : e.index? with
  | none =>
    rw [h.pings e he hindex]
    rfl
  | some index =>
    cases e with
    | messageStart message => cases hindex
    | messageDelta stopReason stopSequence usage => cases hindex
    | _ => rfl

/-- A message starts only once. -/
theorem ne_messageStart_of_blocks {content : List ContentBlock} {events : List StreamEvent}
    (h : BlocksStream content events) {e : StreamEvent} (he : e ∈ events) (message : Message) :
    e ≠ .messageStart message := by
  rintro rfl
  cases h.pings _ he rfl

/-- **What a client makes of a message in chunks**: the text of the deltas for choice 0, and
the reason the message was stopped for. -/
theorem receivedInChunks_of_streams {message : Message} {events : List StreamEvent}
    (h : Streams message events) :
    receivedInChunks (events.filterMap (tryConvertChunk toJson)) =
      ⟨concat (events.map zeroText), message.stopReason.map finishReason⟩ := by
  rw [receivedInChunks_filterMap]
  cases h with
  | @intro blocks usage usage' hblocks =>
    congr 1
    · congr 1
      -- the message starts without content, so that all text comes with the deltas
      refine List.map_congr_left fun e he => eventText_eq_zeroText ?_
      intro started heq
      subst heq
      rcases List.mem_append.mp he with he | he
      · rcases List.mem_cons.mp he with heq | he
        · cases heq
          rfl
        · exact absurd rfl (ne_messageStart_of_blocks hblocks he started)
      · rcases List.mem_cons.mp he with heq | he
        · cases heq
        · cases List.mem_singleton.mp he
    · -- nothing else than the last but one event has a reason
      have hlast : ∀ finish : Option FinishReason, (finish.toList ++ []).getLast? = finish := by
        intro finish
        cases finish <;> rfl
      rw [List.cons_append, List.filterMap_cons_toList, List.filterMap_append,
        eventFinish_of_blocks hblocks, List.filterMap_cons_toList]
      exact hlast _

end Proofs

/-! ### Messages of a usual length -/

/-- Only the events about block 0 have a text for choice 0, if no index is too large. -/
theorem concat_zeroText_filter {events : List StreamEvent}
    (h : ∀ e ∈ events, ∀ index, e.index? = some index → index ≤ u32Max) :
    concat (events.map zeroText) =
      concat ((events.filter fun e => e.index? = some 0).map zeroText) := by
  induction events with
  | nil => rfl
  | cons e events ih =>
    have ih := ih fun e he => h e (List.mem_cons_of_mem _ he)
    by_cases hzero : e.index? = some 0
    · rw [List.filter_cons_of_pos (by simpa using hzero), List.map_cons, concat_cons, List.map_cons,
        concat_cons, ih]
    · rw [List.filter_cons_of_neg (by simpa using hzero), List.map_cons, concat_cons, ih]
      -- a text is for choice 0 if its index is 0 or does not fit a `u32`
      have hempty : zeroText e = "" := by
        cases e with
        | contentBlockDelta index delta =>
          cases delta with
          | textDelta text =>
            have hle := h _ List.mem_cons_self index rfl
            refine if_neg ?_
            rintro (rfl | hlt)
            · exact hzero rfl
            · exact absurd hle (Nat.not_le.mpr hlt)
          | _ => rfl
        | _ => rfl
      rw [hempty, String.empty_append]

/-- The text of the first block, if it is a text block. -/
def firstText (message : Message) : String :=
  (message.content.head?.bind ContentBlock.text?).getD ""

/-- The deltas of block 0 make up its text. -/
theorem concat_zeroText_block {block : Option ContentBlock} {events : List StreamEvent}
    (h : BlockStream 0 block events) :
    concat (events.map zeroText) = (block.bind ContentBlock.text?).getD "" := by
  cases h with
  | absent => rfl
  | @block block deltas hfills =>
    have hdeltas : ∀ deltas : List ContentBlockDelta,
        concat ((StreamEvent.contentBlockStart 0 block.opened ::
          deltas.map (.contentBlockDelta 0) ++ [StreamEvent.contentBlockStop 0]).map zeroText) =
          concat (deltas.map fun d => zeroText (.contentBlockDelta 0 d)) := by
      intro deltas
      rw [List.map_append, List.map_cons, List.map_map, concat_append, concat_cons]
      change ("" ++ concat _) ++ concat [""] = _
      rw [String.empty_append]
      exact String.append_empty
    rw [hdeltas]
    cases hfills with
    | text pieces =>
      rw [List.map_map]
      change concat (pieces.map id) = concat pieces
      rw [List.map_id]
    | toolUse id name input pieces =>
      refine concat_map_eq_empty fun d hd => ?_
      obtain ⟨piece, -, rfl⟩ := List.mem_map.mp hd
      rfl
    | thinking thinking signature hall =>
      refine concat_map_eq_empty fun d hd => ?_
      -- neither a thought nor its signature is text
      rcases hall d hd with ⟨t, rfl⟩ | ⟨s, rfl⟩ <;> rfl
    | image => rfl
    | toolResult toolUseId content => rfl
    | redactedThinking data => rfl

/-- **The text a client sees of a stream** is that of the first block, in a message of at most
`2 ^ 32` blocks. -/
theorem concat_zeroText {message : Message} {events : List StreamEvent} (h : Streams message events)
    (hlength : message.content.length ≤ u32Max + 1) :
    concat (events.map zeroText) = firstText message := by
  unfold firstText
  cases h with
  | @intro blocks usage usage' hblocks =>
    have hindex : ∀ e ∈ blocks, ∀ index, e.index? = some index → index ≤ u32Max := by
      intro e he index heq
      have hmem : e ∈ blocks.filter fun e => e.index? = some index :=
        List.mem_filter.mpr ⟨he, by simpa using heq⟩
      have hblock := hblocks.blocks index
      -- an index without a block has no events
      by_cases hlt : index < message.content.length
      · exact Nat.le_of_lt_succ (Nat.lt_of_lt_of_le hlt hlength)
      · rw [List.getElem?_eq_none (Nat.le_of_not_lt hlt)] at hblock
        cases hfilter : blocks.filter fun e => e.index? = some index with
        | nil =>
          rw [hfilter] at hmem
          cases hmem
        | cons =>
          rw [hfilter] at hblock
          cases hblock
    -- so only the events of block 0 have a text for the choice
    have hfirst := concat_zeroText_block (hblocks.blocks 0)
    rw [← concat_zeroText_filter hindex, ← List.head?_eq_getElem?] at hfirst
    rw [List.map_append, List.map_cons, concat_append, concat_cons]
    change ("" ++ concat _) ++ concat ["", ""] = _
    rw [String.empty_append, hfirst]
    exact String.append_empty

/-! ### Any message can be streamed -/

section InSequence

variable (toJson : Json → String)

/-- The deltas of a block, in one piece each. -/
def deltasOf : ContentBlock → List ContentBlockDelta
  | .text text => [.textDelta text]
  | .toolUse _ _ input => [.inputJsonDelta (toJson input)]
  | .thinking thinking signature => [.thinkingDelta thinking, .signatureDelta signature]
  | _ => []

/-- The events of a block. -/
def eventsOf (index : ℕ) (block : ContentBlock) : List StreamEvent :=
  .contentBlockStart index block.opened ::
    (deltasOf toJson block).map (.contentBlockDelta index) ++ [.contentBlockStop index]

/-- The events of blocks, the first of them under an index, one block after the other. -/
def blockEvents : ℕ → List ContentBlock → List StreamEvent
  | _, [] => []
  | index, block :: content => eventsOf toJson index block ++ blockEvents (index + 1) content

/-- The events of a message, one block after the other. -/
def inSequence (message : Message) : List StreamEvent :=
  .messageStart { message with
      content := [], stopReason := none, stopSequence := none, usage := message.usage } ::
    blockEvents toJson 0 message.content ++
    [.messageDelta message.stopReason message.stopSequence (some message.usage), .messageStop]

variable {toJson}

theorem fills_deltasOf (block : ContentBlock) : Fills block (deltasOf toJson block) := by
  cases block with
  | text text =>
    have h := Fills.text [text]
    rw [show concat [text] = text from String.append_empty] at h
    exact h
  | toolUse id name input => exact .toolUse id name input [toJson input]
  | thinking thinking signature =>
    refine .thinking thinking signature fun d hd => ?_
    rcases List.mem_cons.mp hd with rfl | hd
    · exact Or.inl ⟨thinking, rfl⟩
    · exact Or.inr ⟨signature, List.mem_singleton.mp hd⟩
  | image => exact .image
  | toolResult toolUseId content => exact .toolResult toolUseId content
  | redactedThinking data => exact .redactedThinking data

theorem index?_of_mem_eventsOf {index : ℕ} {block : ContentBlock} {e : StreamEvent}
    (h : e ∈ eventsOf toJson index block) : e.index? = some index := by
  rcases List.mem_append.mp h with h | h
  · rcases List.mem_cons.mp h with rfl | h
    · rfl
    · obtain ⟨d, -, rfl⟩ := List.mem_map.mp h
      rfl
  · rw [List.mem_singleton.mp h]
    rfl

theorem index?_of_mem_blockEvents {content : List ContentBlock} {index : ℕ} {e : StreamEvent}
    (h : e ∈ blockEvents toJson index content) : ∃ i, e.index? = some i ∧ index ≤ i := by
  induction content generalizing index with
  | nil => cases h
  | cons block content ih =>
    rcases List.mem_append.mp h with h | h
    · exact ⟨index, index?_of_mem_eventsOf h, le_refl index⟩
    · obtain ⟨i, hi, hle⟩ := ih h
      exact ⟨i, hi, Nat.le_of_succ_le hle⟩

/-- The events about a block are its own. -/
theorem blockStream_blockEvents (content : List ContentBlock) (start offset : ℕ) :
    BlockStream (start + offset) content[offset]?
      ((blockEvents toJson start content).filter fun e => e.index? = some (start + offset)) := by
  induction content generalizing start offset with
  | nil => exact .absent
  | cons block content ih =>
    have happend : (blockEvents toJson start (block :: content)).filter
        (fun e => e.index? = some (start + offset)) =
          (eventsOf toJson start block).filter (fun e => e.index? = some (start + offset)) ++
          (blockEvents toJson (start + 1) content).filter
            (fun e => e.index? = some (start + offset)) := List.filter_append _ _
    rw [happend]
    cases offset with
    -- the first block has its own events, and those after it have larger indices
    | zero =>
      have hown : (eventsOf toJson start block).filter (fun e => e.index? = some (start + 0)) =
          eventsOf toJson start block :=
        List.filter_eq_self.mpr fun e he => by simpa using index?_of_mem_eventsOf he
      have hothers : (blockEvents toJson (start + 1) content).filter
          (fun e => e.index? = some (start + 0)) = [] := by
        refine List.filter_eq_nil_iff.mpr fun e he => ?_
        obtain ⟨i, hi, hle⟩ := index?_of_mem_blockEvents he
        simp only [hi, decide_eq_true_eq, Option.some_inj]
        omega
      rw [hown, hothers, List.append_nil]
      exact .block (fills_deltasOf block)
    -- the events of the first block are of no other
    | succ offset =>
      have hothers : (eventsOf toJson start block).filter
          (fun e => e.index? = some (start + (offset + 1))) = [] := by
        refine List.filter_eq_nil_iff.mpr fun e he => ?_
        simp only [index?_of_mem_eventsOf he, decide_eq_true_eq, Option.some_inj]
        omega
      rw [hothers, List.nil_append, ← Nat.add_assoc, Nat.add_right_comm]
      exact ih (start + 1) offset

/-- **Every message has an event sequence.** -/
theorem streams_inSequence (message : Message) : Streams message (inSequence toJson message) := by
  refine .intro message.usage (some message.usage) ⟨fun index => ?_, fun e he hnone => ?_⟩
  · have h := @blockStream_blockEvents toJson message.content 0 index
    rwa [Nat.zero_add] at h
  · obtain ⟨i, hi, -⟩ := index?_of_mem_blockEvents he
    cases hnone.symm.trans hi

end InSequence

/-! ### Main result -/

/-- **When a client receives a message alike.** At once and in chunks it receives the same
text and the same reason to finish exactly when the message has no reason to stop, and the
deltas for choice 0 make up the last of its texts. In a message of at most `2 ^ 32` blocks these
are the deltas of the first block. -/
theorem agree_iff (toJson : Json → String) (message : Message) (events : List StreamEvent)
    (h : Streams message events) :
    (receivedAtOnce (tryConvert toJson message) =
        some (receivedInChunks (events.filterMap (tryConvertChunk toJson))) ↔
      message.stopReason = none ∧ concat (events.map zeroText) = lastText message) ∧
    (message.content.length ≤ u32Max + 1 → concat (events.map zeroText) = firstText message) := by
  refine ⟨?_, concat_zeroText h⟩
  rw [receivedAtOnce_tryConvert, receivedInChunks_of_streams h, Option.some_inj,
    Received.mk.injEq, and_comm, eq_comm (a := lastText message)]
  refine and_congr_left fun _ => ?_
  rw [eq_comm, Option.map_eq_none_iff]

/-- A message of one text. -/
def greeting (stopReason : Option StopReason) : Message where
  id := "msg_1"
  type_ := "message"
  role := .assistant
  content := [.text "Hi"]
  model := "claude-3-5-haiku"
  stopReason := stopReason
  stopSequence := none
  usage := ⟨10, 2⟩

/-- Without a reason to stop it is received alike. -/
theorem agree_iff_greeting :
    receivedAtOnce (tryConvert (fun _ => "") (greeting none)) = some (receivedInChunks
        ((inSequence (fun _ => "") (greeting none)).filterMap (tryConvertChunk fun _ => ""))) ∧
      concat ((inSequence (fun _ => "") (greeting none)).map zeroText) =
        firstText (greeting none) := by
  obtain ⟨hagree, htext⟩ := agree_iff (fun _ => "") (greeting none)
    (inSequence (fun _ => "") (greeting none)) (streams_inSequence _)
  exact ⟨hagree.mpr ⟨rfl, by decide⟩, htext (by decide)⟩

/-- Every finished message has a reason to stop, and a client that receives it at once does not
learn it. -/
theorem agree_fails :
    ∃ toJson message events, Streams message events ∧
      receivedAtOnce (tryConvert toJson message) ≠
        some (receivedInChunks (events.filterMap (tryConvertChunk toJson))) := by
  refine ⟨fun _ => "", greeting (some .endTurn),
    inSequence (fun _ => "") (greeting (some .endTurn)), streams_inSequence _, ?_⟩
  decide

end AiGateway.AnthropicStream
