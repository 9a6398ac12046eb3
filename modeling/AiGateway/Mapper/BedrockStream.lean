import AiGateway.Framework.RustStd
import AiGateway.Types.Completion

/-!
# Converting the streams of Bedrock

`BedrockConverter::try_convert_chunk` of `middleware/mapper/bedrock.rs`: each event of a
`ConverseStream` becomes a chunk, which may have no choice. What the converter does not read of an
event is left out.

The blocks of an answer are streamed under their indices, each started, filled by deltas and
stopped; a block of text or of reasoning need not be started. Events of different blocks may be
interleaved.

* `collectCalls_chunks`: the tool calls a client collects;
* `not_complete`: what text it receives, and that no stream tells it that the answer is finished.
-/

namespace AiGateway.BedrockStream

open OpenAI

/-! ### Events -/

/-- `ConversationRole`. -/
inductive ConversationRole
  | user
  | assistant
  | unknown

/-- `ContentBlockStart`. -/
inductive ContentBlockStart
  | toolUse (toolUseId name : String)
  | unknown

/-- `ContentBlockDelta`. -/
inductive ContentBlockDelta
  | text (text : String)
  | toolUse (input : String)
  | reasoningContent
  | unknown

inductive StopReason
  | endTurn
  | toolUse
  | maxTokens
  | stopSequence
  | contentFiltered
  | guardrailIntervened
  | unknown

structure TokenUsage where
  inputTokens : Int32
  outputTokens : Int32
  totalTokens : Int32

/-- `ConverseStreamOutput`. -/
inductive ConverseStreamOutput
  | messageStart (role : ConversationRole)
  | contentBlockStart (contentBlockIndex : Int32) (start : Option ContentBlockStart)
  | contentBlockDelta (contentBlockIndex : Int32) (delta : Option ContentBlockDelta)
  | contentBlockStop (contentBlockIndex : Int32)
  | messageStop (stopReason : StopReason)
  | metadata (usage : Option TokenUsage)
  | unknown

/-! ### The code -/

/-- `u32::try_from(count).unwrap_or(0)`. -/
def toU32 (count : Int32) : ℕ := (u32TryFrom count.toInt).getD 0

/-- A choice of a chunk. No choice has a reason to finish. -/
def choice (index : ℕ) (delta : StreamDelta) : ChatChoiceStream := ⟨index, delta, none⟩

/-- The choices an event is converted to. -/
def convertChoices : ConverseStreamOutput → List ChatChoiceStream
  | .messageStart role =>
    [choice 0 {
      role := some (match role with
        | .assistant => .assistant
        | .user => .user
        | .unknown => .system)
      content := none, toolCalls := none, refusal := none }]
  | .contentBlockStart index (some (.toolUse toolUseId name)) =>
    [choice 0 {
      role := none, content := none, refusal := none
      toolCalls := some [⟨toU32 index, some toolUseId, some ⟨some name, some ""⟩⟩] }]
  | .contentBlockDelta index (some (.text text)) =>
    [choice (toU32 index) {
      role := none, content := some text, toolCalls := none, refusal := none }]
  | .contentBlockDelta index (some (.toolUse input)) =>
    [choice 0 {
      role := none, content := none, refusal := none
      toolCalls := some [⟨toU32 index, none, some ⟨none, some input⟩⟩] }]
  | _ => []

/-- The counts an event has. -/
def convertUsage : ConverseStreamOutput → CompletionUsage
  | .metadata (some usage) =>
    ⟨toU32 usage.inputTokens, toU32 usage.outputTokens, toU32 usage.totalTokens⟩
  | _ => ⟨0, 0, 0⟩

/-- **`try_convert_chunk`.** -/
def tryConvertChunk (value : ConverseStreamOutput) : Option ChatChunk :=
  some {
    id := "bedrock-stream-id"
    choices := convertChoices value
    created := 0
    model := "bedrock-model"
    object := "chat.completion.chunk"
    usage := some (convertUsage value) }

/-! ### Streams -/

namespace ConverseStreamOutput

/-- The index of the block an event is about. -/
def index? : ConverseStreamOutput → Option Int32
  | contentBlockStart index _ => some index
  | contentBlockDelta index _ => some index
  | contentBlockStop index => some index
  | _ => none

/-- The call an event starts: its index, id and name. -/
def toolStart? : ConverseStreamOutput → Option (Int32 × String × String)
  | contentBlockStart index (some (.toolUse toolUseId name)) => some (index, toolUseId, name)
  | _ => none

/-- The part of the input of a call, in an event about its block. -/
def toolInput? (index : Int32) : ConverseStreamOutput → Option String
  | contentBlockDelta i (some (.toolUse input)) => if i = index then some input else none
  | _ => none

/-- The text in an event. -/
def text? : ConverseStreamOutput → Option String
  | contentBlockDelta _ (some (.text text)) => some text
  | _ => none

end ConverseStreamOutput

open ConverseStreamOutput

/-- The events of a call. -/
def toolEvents (index : Int32) (toolUseId name : String) (inputs : List String) :
    List ConverseStreamOutput :=
  .contentBlockStart index (some (.toolUse toolUseId name)) ::
    (inputs.map fun input => .contentBlockDelta index (some (.toolUse input))) ++
    [.contentBlockStop index]

/-- The events about the block of an index, if there is one: those of a call, or others. -/
inductive BlockStream (index : Int32) : List ConverseStreamOutput → Prop
  | toolUse (toolUseId name : String) (inputs : List String) :
      BlockStream index (toolEvents index toolUseId name inputs)
  | other {events : List ConverseStreamOutput} :
      (∀ e ∈ events, e.toolStart? = none ∧ e.toolInput? index = none) → BlockStream index events

/-- **The events of blocks**, under indices that are not negative, in any interleaving. -/
structure BlocksStream (events : List ConverseStreamOutput) : Prop where
  blocks : ∀ index, BlockStream index (events.filter fun e => e.index? = some index)
  nonneg : ∀ e ∈ events, ∀ index, e.index? = some index → 0 ≤ index.toInt

/-- **The event sequence of an answer.** -/
inductive Streams (stopReason : StopReason) : List ConverseStreamOutput → Prop
  | intro {events : List ConverseStreamOutput} (role : ConversationRole)
      (usage : Option TokenUsage) : BlocksStream events → (∀ e ∈ events, e.index?.isSome) →
      Streams stopReason
        (.messageStart role :: events ++ [.messageStop stopReason, .metadata usage])

/-! ### Indices -/

theorem toU32_of_nonneg {index : Int32} (h : 0 ≤ index.toInt) :
    toU32 index = index.toInt.toNat := by
  have hlt : index.toInt < 2 ^ 31 := index.toInt_lt
  have hle : index.toInt ≤ u32Max := Int.le_of_lt (Int.lt_trans hlt (by decide))
  unfold toU32
  rw [u32TryFrom_of_nonneg h hle]
  rfl

/-- Indices that are not negative are told apart. -/
theorem toU32_inj {index index' : Int32} (h : 0 ≤ index.toInt) (h' : 0 ≤ index'.toInt)
    (heq : toU32 index = toU32 index') : index = index' := by
  rw [toU32_of_nonneg h, toU32_of_nonneg h'] at heq
  have hcast : (index.toInt.toNat : ℤ) = index'.toInt.toNat := congrArg Nat.cast heq
  rw [Int.toNat_of_nonneg h, Int.toNat_of_nonneg h'] at hcast
  exact Int32.toInt_inj.mp hcast

/-! ### Pieces -/

/-- The pieces of tool calls an event makes. -/
def eventPieces : ConverseStreamOutput → List ToolCallChunk
  | .contentBlockStart index (some (.toolUse toolUseId name)) =>
    [⟨toU32 index, some toolUseId, some ⟨some name, some ""⟩⟩]
  | .contentBlockDelta index (some (.toolUse input)) =>
    [⟨toU32 index, none, some ⟨none, some input⟩⟩]
  | _ => []

theorem toolCallPieces_chunk (e : ConverseStreamOutput) :
    toolCallPieces (tryConvertChunk e).toList = eventPieces e := by
  have hchunk : toolCallPieces (tryConvertChunk e).toList =
      ((convertChoices e).filter fun choice => choice.index = 0).flatMap
        fun choice => choice.delta.toolCalls.getD [] := by
    unfold toolCallPieces piecesOf choiceOf
    rw [tryConvertChunk, Option.toList_some, List.flatMap_singleton]
  rw [hchunk]
  cases e with
  | contentBlockStart index start =>
    rcases start with _ | ⟨_⟩ | _ <;> rfl
  | contentBlockDelta index delta =>
    rcases delta with _ | text | input | _ | _
    · rfl
    · -- the text of a block is in the choice of its index, without a call
      by_cases h : toU32 index = 0
      · simp [convertChoices, choice, eventPieces, h]
      · simp [convertChoices, choice, eventPieces, h]
    all_goals rfl
  | _ => rfl

/-- A piece is sent under the index of the block it is about. -/
theorem index_of_mem_eventPieces {e : ConverseStreamOutput} {piece : ToolCallChunk}
    (h : piece ∈ eventPieces e) : ∃ index, e.index? = some index ∧ piece.index = toU32 index := by
  cases e with
  | contentBlockStart index start =>
    rcases start with _ | ⟨toolUseId, name⟩ | _
    · cases h
    · rw [List.mem_singleton.mp h]
      exact ⟨index, rfl, rfl⟩
    · cases h
  | contentBlockDelta index delta =>
    rcases delta with _ | text | input | _ | _
    · cases h
    · cases h
    · rw [List.mem_singleton.mp h]
      exact ⟨index, rfl, rfl⟩
    · cases h
    · cases h
  | _ => cases h

/-- An event that starts no call and is no part of one has no pieces. -/
theorem eventPieces_of_other {index : Int32} {e : ConverseStreamOutput}
    (hindex : e.index? = some index) (hstart : e.toolStart? = none)
    (hinput : e.toolInput? index = none) : eventPieces e = [] := by
  cases e with
  | contentBlockStart i start =>
    rcases start with _ | ⟨toolUseId, name⟩ | _
    · rfl
    · cases hstart
    · rfl
  | contentBlockDelta i delta =>
    rcases delta with _ | text | input | _ | _
    · rfl
    · rfl
    · obtain rfl := Option.some.inj hindex
      change (if i = i then some input else none) = none at hinput
      rw [if_pos rfl] at hinput
      cases hinput
    · rfl
    · rfl
  | _ => rfl

/-- The pieces of the events of a call. -/
theorem flatMap_toolEvents (index : Int32) (toolUseId name : String) (inputs : List String) :
    (toolEvents index toolUseId name inputs).flatMap eventPieces =
      ⟨toU32 index, some toolUseId, some ⟨some name, some ""⟩⟩ ::
        inputs.map fun input => ⟨toU32 index, none, some ⟨none, some input⟩⟩ := by
  unfold toolEvents
  rw [List.flatMap_append, List.flatMap_cons, List.flatMap_map, List.map_eq_flatMap]
  exact List.append_nil _

variable {events : List ConverseStreamOutput}

/-- **The pieces under the index of a block** are those of its own events. -/
theorem BlocksStream.piecesAt_eq (h : BlocksStream events) {index : Int32}
    (hindex : 0 ≤ index.toInt) :
    piecesAt (toU32 index) (events.flatMap eventPieces) =
      (events.filter fun e => e.index? = some index).flatMap eventPieces := by
  have hown : piecesAt (toU32 index) (events.flatMap eventPieces) = piecesAt (toU32 index)
      ((events.filter fun e => e.index? = some index).flatMap eventPieces) := by
    refine piecesAt_flatMap fun e he hother piece hpiece heq => ?_
    obtain ⟨i, hi, hsent⟩ := index_of_mem_eventPieces hpiece
    -- a piece under the index is of an event about the block
    have hsame : i = index := toU32_inj (h.nonneg e he i hi) hindex (hsent.symm.trans heq)
    exact hother (hi.trans (congrArg some hsame))
  rw [hown]
  -- all of them are sent under the index
  refine List.filter_eq_self.mpr fun piece hpiece => ?_
  obtain ⟨e, he, hpiece⟩ := List.mem_flatMap.mp hpiece
  obtain ⟨i, hi, hsent⟩ := index_of_mem_eventPieces hpiece
  have habout : e.index? = some index := by simpa using (List.mem_filter.mp he).2
  obtain rfl := Option.some.inj (habout.symm.trans hi)
  exact decide_eq_true hsent

/-- Each call is started once, by its first piece. -/
theorem BlocksStream.startedOnce (h : BlocksStream events) :
    StartedOnce (events.flatMap eventPieces) := by
  intro k first rest hat
  -- the block of the first piece
  have hfirst : first ∈ piecesAt k (events.flatMap eventPieces) := hat ▸ List.mem_cons_self
  obtain ⟨hmem, hk⟩ := List.mem_filter.mp hfirst
  obtain ⟨e, he, hpiece⟩ := List.mem_flatMap.mp hmem
  obtain ⟨index, hindex, hsent⟩ := index_of_mem_eventPieces hpiece
  obtain rfl : k = toU32 index := (of_decide_eq_true hk).symm.trans hsent
  rw [h.piecesAt_eq (h.nonneg e he index hindex)] at hat
  have hblock := h.blocks index
  have hown : ∀ e ∈ events.filter (fun e => e.index? = some index), e.index? = some index :=
    fun e he => by simpa using (List.mem_filter.mp he).2
  generalize events.filter (fun e => e.index? = some index) = own at hblock hown hat
  cases hblock with
  | toolUse toolUseId name inputs =>
    rw [flatMap_toolEvents] at hat
    obtain ⟨rfl, rfl⟩ := List.cons.inj hat
    refine ⟨rfl, fun piece hpiece => ?_⟩
    obtain ⟨input, -, rfl⟩ := List.mem_map.mp hpiece
    rfl
  | other hother =>
    -- a block that is no call makes no piece
    have hnone : own.flatMap eventPieces = [] := List.flatMap_eq_nil_iff.mpr fun e he =>
      eventPieces_of_other (hown e he) (hother e he).1 (hother e he).2
    rw [hnone] at hat
    cases hat

/-! ### What a client collects -/

/-- The first piece of a call. -/
def startPiece (start : Int32 × String × String) : ToolCallChunk :=
  ⟨toU32 start.1, some start.2.1, some ⟨some start.2.2, some ""⟩⟩

/-- The pieces with an id are those of the events that start a call. -/
theorem filter_isSome_eventPieces (events : List ConverseStreamOutput) :
    ((events.flatMap eventPieces).filter fun piece => piece.id.isSome) =
      (events.filterMap toolStart?).map startPiece := by
  have hevent : ∀ e : ConverseStreamOutput,
      ((eventPieces e).filter fun piece => piece.id.isSome) =
        e.toolStart?.toList.map startPiece := by
    intro e
    cases e with
    | contentBlockStart index start => rcases start with _ | ⟨_, _⟩ | _ <;> rfl
    | contentBlockDelta index delta => rcases delta with _ | _ | _ | _ | _ <;> rfl
    | _ => rfl
  induction events with
  | nil => rfl
  | cons e events ih =>
    rw [List.flatMap_cons, List.filter_append, ih, hevent, List.filterMap_cons_toList,
      List.map_append]

/-- The input of a call is in the events about its block. -/
theorem filterMap_toolInput (events : List ConverseStreamOutput) (index : Int32) :
    events.filterMap (toolInput? index) =
      (events.filter fun e => e.index? = some index).filterMap (toolInput? index) := by
  rw [List.filterMap_filter]
  congr 1
  funext e
  split
  · rfl
  · next hother =>
    cases e with
    | contentBlockDelta i delta =>
      rcases delta with _ | _ | input | _ | _
      · rfl
      · rfl
      · -- the input of a call in another block
        refine if_neg ?_
        rintro rfl
        exact hother (decide_eq_true rfl)
      · rfl
      · rfl
    | _ => rfl

/-- The inputs in the events of a call. -/
theorem filterMap_toolEvents (index : Int32) (toolUseId name : String) (inputs : List String) :
    (toolEvents index toolUseId name inputs).filterMap (toolInput? index) = inputs := by
  have hdeltas : (inputs.map fun input => contentBlockDelta index (some (.toolUse input))).filterMap
      (toolInput? index) = inputs := by
    rw [List.filterMap_map]
    refine Eq.trans (congrArg (fun f => List.filterMap f inputs) ?_) List.filterMap_some
    funext input
    exact if_pos rfl
  unfold toolEvents
  rw [List.filterMap_append, List.filterMap_cons_none rfl, hdeltas]
  exact List.append_nil _

/-- What the pieces of a call make together. -/
theorem assemble_toolEvents (index : Int32) (toolUseId name : String) (inputs : List String) :
    assemble ((toolEvents index toolUseId name inputs).flatMap eventPieces) =
      ⟨[toolUseId], [name], concat inputs⟩ := by
  -- only the first piece has an id and a name
  have hids : ∀ f : ToolCallChunk → Option String,
      (∀ input : String, f ⟨toU32 index, none, some ⟨none, some input⟩⟩ = none) →
      (inputs.map fun input => (⟨toU32 index, none, some ⟨none, some input⟩⟩ :
        ToolCallChunk)).filterMap f = [] := by
    intro f hf
    rw [List.filterMap_eq_nil_iff]
    intro piece hpiece
    obtain ⟨input, -, rfl⟩ := List.mem_map.mp hpiece
    exact hf input
  have harguments : (inputs.map fun input => (⟨toU32 index, none, some ⟨none, some input⟩⟩ :
      ToolCallChunk)).map ToolCallChunk.argumentsText = inputs := by
    rw [List.map_map]
    exact List.map_id _
  rw [flatMap_toolEvents]
  unfold assemble
  rw [List.filterMap_cons_toList, hids _ fun _ => rfl, List.filterMap_cons_toList,
    hids _ fun _ => rfl, List.map_cons, harguments, concat_cons]
  exact congrArg _ String.empty_append

/-- An event that starts a call. -/
theorem eq_of_toolStart? {e : ConverseStreamOutput} {start : Int32 × String × String}
    (h : e.toolStart? = some start) :
    e = contentBlockStart start.1 (some (.toolUse start.2.1 start.2.2)) := by
  cases e with
  | contentBlockStart index opened =>
    rcases opened with _ | ⟨toolUseId, name⟩ | _
    · cases h
    · obtain rfl := Option.some.inj h
      rfl
    · cases h
  | _ => cases h

/-- Only the first event of a call starts one. -/
theorem start_of_mem_toolEvents {index i : Int32} {toolUseId name toolUseId' name' : String}
    {inputs : List String} (h : contentBlockStart i (some (.toolUse toolUseId' name')) ∈
      toolEvents index toolUseId name inputs) : toolUseId = toolUseId' ∧ name = name' := by
  rcases List.mem_append.mp h with h | h
  · rcases List.mem_cons.mp h with heq | h
    · cases heq
      exact ⟨rfl, rfl⟩
    · obtain ⟨input, -, heq⟩ := List.mem_map.mp h
      cases heq
  · cases List.mem_singleton.mp h

/-- What is collected under the index of a call. -/
theorem BlocksStream.assemble_eq (h : BlocksStream events) {start : Int32 × String × String}
    (hstart : start ∈ events.filterMap toolStart?) :
    0 ≤ start.1.toInt ∧ assemble (piecesAt (toU32 start.1) (events.flatMap eventPieces)) =
      ⟨[start.2.1], [start.2.2], concat (events.filterMap (toolInput? start.1))⟩ := by
  obtain ⟨e, he, hevent⟩ := List.mem_filterMap.mp hstart
  obtain ⟨index, toolUseId, name⟩ := start
  obtain rfl := eq_of_toolStart? hevent
  have hnonneg := h.nonneg _ he index rfl
  refine ⟨hnonneg, ?_⟩
  have hmem : contentBlockStart index (some (.toolUse toolUseId name)) ∈
      events.filter fun e => e.index? = some index :=
    List.mem_filter.mpr ⟨he, decide_eq_true rfl⟩
  show assemble (piecesAt (toU32 index) (events.flatMap eventPieces)) =
    ⟨[toolUseId], [name], concat (events.filterMap (toolInput? index))⟩
  have hblock := h.blocks index
  rw [filterMap_toolInput, h.piecesAt_eq hnonneg]
  generalize events.filter (fun e => e.index? = some index) = own at hblock hmem ⊢
  cases hblock with
  | toolUse toolUseId' name' inputs =>
    -- the block holds one start, which is this one
    obtain ⟨rfl, rfl⟩ := start_of_mem_toolEvents hmem
    rw [assemble_toolEvents, filterMap_toolEvents]
  | other hother => exact absurd (hother _ hmem).1 (by simp [toolStart?])

/-- **The tool calls a client collects** of a stream: those that are started, in this order, each
with its id and its name once and with its input. -/
theorem collectCalls_chunks (h : BlocksStream events) :
    collectCalls (toolCallPieces (events.filterMap tryConvertChunk)) =
      (events.filterMap toolStart?).map fun start => (start.1.toInt.toNat,
        ⟨[start.2.1], [start.2.2], concat (events.filterMap (toolInput? start.1))⟩) := by
  rw [toolCallPieces_filterMap toolCallPieces_chunk, collectCalls_eq h.startedOnce,
    filter_isSome_eventPieces, List.map_map]
  refine List.map_congr_left fun start hstart => ?_
  obtain ⟨hnonneg, hassemble⟩ := h.assemble_eq hstart
  show (toU32 start.1, assemble (piecesAt (toU32 start.1) (events.flatMap eventPieces))) = _
  rw [hassemble, toU32_of_nonneg hnonneg]

/-- Two calls, whose inputs come in turn. -/
def twoCalls : List ConverseStreamOutput :=
  [.messageStart .assistant, .contentBlockStart 1 (some (.toolUse "tooluse_a" "weather")),
    .contentBlockStart 2 (some (.toolUse "tooluse_b" "now")),
    .contentBlockDelta 1 (some (.toolUse "[\"Paris")), .contentBlockDelta 2 (some (.toolUse "[]")),
    .contentBlockDelta 1 (some (.toolUse "\"]")), .contentBlockStop 1, .contentBlockStop 2,
    .messageStop .toolUse, .metadata none]

theorem collectCalls_chunks_twoCalls :
    collectCalls (toolCallPieces (twoCalls.filterMap tryConvertChunk)) =
      [(1, ⟨["tooluse_a"], ["weather"], "[\"Paris\"]"⟩), (2, ⟨["tooluse_b"], ["now"], "[]"⟩)] := by
  have hblocks : BlocksStream twoCalls := by
    refine ⟨fun index => ?_, ?_⟩
    · by_cases hone : index = 1
      · subst hone
        exact .toolUse "tooluse_a" "weather" ["[\"Paris", "\"]"]
      · by_cases htwo : index = 2
        · subst htwo
          exact .toolUse "tooluse_b" "now" ["[]"]
        · -- there is no other block
          have hnone : (twoCalls.filter fun e => e.index? = some index) = [] := by
            simp [twoCalls, index?, Ne.symm hone, Ne.symm htwo]
          rw [hnone]
          exact .other fun e he => by cases he
    · intro e he index hindex
      simp only [twoCalls, List.mem_cons, List.not_mem_nil, or_false] at he
      rcases he with rfl | rfl | rfl | rfl | rfl | rfl | rfl | rfl | rfl | rfl <;>
        (cases hindex; try decide)
  exact (collectCalls_chunks hblocks).trans (by decide)

/-! ### What a client receives -/

/-- The text of a delta for choice 0. -/
def zeroText : ConverseStreamOutput → String
  | .contentBlockDelta index (some (.text text)) => if toU32 index = 0 then text else ""
  | _ => ""

theorem accumulatedContent_chunk (e : ConverseStreamOutput) :
    accumulatedContent (tryConvertChunk e).toList = zeroText e := by
  have hchunk : accumulatedContent (tryConvertChunk e).toList =
      concat (((convertChoices e).filter fun choice => choice.index = 0).map
        fun choice => choice.delta.content.getD "") := by
    unfold accumulatedContent contentOf choiceOf
    rw [tryConvertChunk, Option.toList_some, List.flatMap_singleton]
  rw [hchunk]
  cases e with
  | contentBlockStart index start => rcases start with _ | ⟨_, _⟩ | _ <;> rfl
  | contentBlockDelta index delta =>
    rcases delta with _ | text | input | _ | _
    · rfl
    · by_cases h : toU32 index = 0
      · simp [convertChoices, choice, zeroText, h]
      · simp [convertChoices, choice, zeroText, h]
    all_goals rfl
  | _ => rfl

/-- The reasons to finish in the chunks. -/
def finishReasons (chunks : List ChatChunk) : List FinishReason :=
  (chunks.flatMap ChatChunk.choices).filterMap ChatChoiceStream.finishReason

/-- No chunk has a reason to finish, that of the last event included. -/
theorem finishReasons_chunks (events : List ConverseStreamOutput) :
    finishReasons (events.filterMap tryConvertChunk) = [] := by
  -- no event is converted into a choice with a reason
  have hchoices : ∀ e : ConverseStreamOutput, ∀ c ∈ convertChoices e, c.finishReason = none := by
    intro e c hc
    cases e with
    | messageStart role =>
      rw [List.mem_singleton.mp hc]
      rfl
    | contentBlockStart index start =>
      rcases start with _ | ⟨_, _⟩ | _
      · cases hc
      · rw [List.mem_singleton.mp hc]
        rfl
      · cases hc
    | contentBlockDelta index delta =>
      rcases delta with _ | text | input | _ | _
      · cases hc
      · rw [List.mem_singleton.mp hc]
        rfl
      · rw [List.mem_singleton.mp hc]
        rfl
      · cases hc
      · cases hc
    | _ => cases hc
  refine List.filterMap_eq_nil_iff.mpr fun c hc => ?_
  obtain ⟨chunk, hchunk, hc⟩ := List.mem_flatMap.mp hc
  obtain ⟨e, -, he⟩ := List.mem_filterMap.mp hchunk
  obtain rfl := Option.some.inj he
  exact hchoices e c hc

/-- The reason to finish that goes with a reason to stop, as it does for Anthropic. -/
def FinishesFor : StopReason → FinishReason → Prop
  | .endTurn, finish => finish = .stop
  | .stopSequence, finish => finish = .stop
  | .maxTokens, finish => finish = .length
  | .toolUse, finish => finish = .toolCalls
  | _, _ => True

/-- **A complete stream.** The texts of all blocks are in choice 0, and there is one reason to
finish, which goes with the reason the answer was stopped for. -/
structure Complete (stopReason : StopReason) (events : List ConverseStreamOutput)
    (chunks : List ChatChunk) : Prop where
  content : accumulatedContent chunks = concat (events.filterMap text?)
  finish : ∃ finish, finishReasons chunks = [finish] ∧ FinishesFor stopReason finish

/-- **No stream is complete.** What a client receives is the text for choice 0, and no reason to
finish. -/
theorem not_complete (events : List ConverseStreamOutput) :
    accumulatedContent (events.filterMap tryConvertChunk) = concat (events.map zeroText) ∧
      ∀ stopReason, ¬ Complete stopReason events (events.filterMap tryConvertChunk) := by
  refine ⟨accumulatedContent_filterMap accumulatedContent_chunk events, fun stopReason h => ?_⟩
  obtain ⟨finish, hfinish, -⟩ := h.finish
  rw [finishReasons_chunks] at hfinish
  cases hfinish

/-- A text, of one block. -/
theorem complete_fails : ¬ ∀ (stopReason : StopReason) (events : List ConverseStreamOutput),
    Streams stopReason events →
    Complete stopReason events (events.filterMap tryConvertChunk) := by
  intro h
  have hblocks : BlocksStream
      [.contentBlockDelta 0 (some (.text "Hi")), .contentBlockStop 0] := by
    refine ⟨fun index => .other fun e he => ?_, fun e he index hindex => ?_⟩
    · have hmem := (List.mem_filter.mp he).1
      simp only [List.mem_cons, List.not_mem_nil, or_false] at hmem
      rcases hmem with rfl | rfl <;> exact ⟨rfl, rfl⟩
    · simp only [List.mem_cons, List.not_mem_nil, or_false] at he
      rcases he with rfl | rfl <;> (cases hindex; decide)
  have hcomplete := h .endTurn _ (.intro .assistant none hblocks (by decide))
  obtain ⟨finish, hfinish, -⟩ := hcomplete.finish
  rw [finishReasons_chunks] at hfinish
  cases hfinish

end AiGateway.BedrockStream
