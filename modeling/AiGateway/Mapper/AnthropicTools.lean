import AiGateway.Mapper.AnthropicStream
import Mathlib.Data.List.Flatten

/-!
# Tool calls in the streams of Anthropic

What a client makes of a tool call that Anthropic streams. The block of the call starts with an
empty input, which is sent as the first piece of the arguments; the pieces that fill it are sent for
the choice of its index.

* `toolCallPieces_chunk`: the pieces of an event;
* `reassembled_iff`: the calls that a client puts together again.
-/

namespace AiGateway.AnthropicStream

open OpenAI Serde

/-! ### Pieces -/

/-- The pieces of tool calls an event makes for choice 0. -/
def eventPieces (toJson : Json → String) : StreamEvent → List ToolCallChunk
  | .messageStart message => (message.content.zipIdx.foldl (collectStart toJson) ("", [])).2
  | .contentBlockStart index (.toolUse id name input) =>
    [⟨chunkIndex index, some id, some ⟨some name, some (toJson input)⟩⟩]
  | .contentBlockDelta index (.inputJsonDelta partialJson) =>
    if chunkIndex index = 0 then [⟨chunkIndex index, none, some ⟨none, some partialJson⟩⟩] else []
  | _ => []

section Proofs

variable {toJson : Json → String}

theorem toolCallPieces_chunk (e : StreamEvent) :
    toolCallPieces (tryConvertChunk toJson e).toList = eventPieces toJson e := by
  cases e with
  | messageStart message => exact List.append_nil _
  | contentBlockStart index block =>
    cases block with
    | _ => rfl
  | contentBlockDelta index delta =>
    cases delta with
    | textDelta text =>
      exact (apply_choiceOf_placeholderChunk piecesOf _ _ _ _).trans (ite_self _)
    | inputJsonDelta partialJson => exact apply_choiceOf_placeholderChunk piecesOf _ _ _ _
    | thinkingDelta thinking => rfl
    | signatureDelta signature => rfl
  | messageDelta stopReason stopSequence usage => rfl
  | contentBlockStop index => rfl
  | messageStop => rfl
  | ping => rfl
  | error => rfl

/-- A piece is sent under the index of the block it is about. -/
theorem index_of_mem_eventPieces {e : StreamEvent} {piece : ToolCallChunk}
    (hstart : ∀ message, e = .messageStart message → message.content = [])
    (h : piece ∈ eventPieces toJson e) :
    ∃ index, e.index? = some index ∧ piece.index = chunkIndex index := by
  cases e with
  | messageStart message =>
    -- a message starts without content, so it has no pieces
    change piece ∈ (message.content.zipIdx.foldl (collectStart toJson) ("", [])).2 at h
    rw [hstart message rfl] at h
    cases h
  | contentBlockStart index block =>
    cases block with
    | toolUse id name input =>
      rw [List.mem_singleton.mp h]
      exact ⟨index, rfl, rfl⟩
    | _ => cases h
  | contentBlockDelta index delta =>
    cases delta with
    | inputJsonDelta partialJson =>
      change piece ∈ if chunkIndex index = 0 then
        [⟨chunkIndex index, none, some ⟨none, some partialJson⟩⟩] else [] at h
      split at h
      · rw [List.mem_singleton.mp h]
        exact ⟨index, rfl, rfl⟩
      · cases h
    | _ => cases h
  | _ => cases h

/-! ### The stream of a call -/

/-- The events of a call: its block is started with an empty input, filled and stopped. -/
def toolEvents (index : ℕ) (id name : String) (fragments : List String) : List StreamEvent :=
  .contentBlockStart index (.toolUse id name (.obj [])) ::
    (fragments.map fun fragment => .contentBlockDelta index (.inputJsonDelta fragment)) ++
    [.contentBlockStop index]

/-- **A call in a stream.** The events about its block are those of the call. The others may come
anywhere between them, and no message starts with content. -/
structure StreamsTool (index : ℕ) (id name : String) (fragments : List String)
    (events : List StreamEvent) : Prop where
  block : events.filter (fun e => e.index? = some index) = toolEvents index id name fragments
  start : ∀ message, StreamEvent.messageStart message ∈ events → message.content = []

/-- **The call is put together again**: under its index a client finds its id and its name once, and
the fragments as its arguments. -/
def Reassembled (index : ℕ) (id name : String) (fragments : List String) (chunks : List ChatChunk) :
    Prop :=
  assemble (piecesAt index (toolCallPieces chunks)) = ⟨[id], [name], concat fragments⟩

variable {index : ℕ} {id name : String} {fragments : List String} {events : List StreamEvent}

/-- The pieces of the fragments, for choice 0. -/
def fragmentPieces (index : ℕ) (fragments : List String) : List ToolCallChunk :=
  fragments.flatMap fun fragment =>
    if chunkIndex index = 0 then [⟨chunkIndex index, none, some ⟨none, some fragment⟩⟩] else []

/-- The pieces of the events of a call. -/
theorem flatMap_toolEvents (index : ℕ) (id name : String) (fragments : List String) :
    (toolEvents index id name fragments).flatMap (eventPieces toJson) =
      ⟨chunkIndex index, some id, some ⟨some name, some (toJson (.obj []))⟩⟩ ::
        fragmentPieces index fragments := by
  unfold toolEvents
  rw [List.flatMap_append, List.flatMap_cons, List.flatMap_map]
  show _ :: fragmentPieces index fragments ++ [] = _
  rw [List.append_nil]

/-- The events of a call make no piece under another index than its own. -/
theorem StreamsTool.piecesAt_eq (h : StreamsTool index id name fragments events)
    (hzero : index ≠ 0) :
    piecesAt index (events.flatMap (eventPieces toJson)) =
      piecesAt index ((toolEvents index id name fragments).flatMap (eventPieces toJson)) := by
  rw [← h.block]
  refine piecesAt_flatMap fun e he hother piece hpiece heq => ?_
  obtain ⟨i, hi, hindex⟩ := index_of_mem_eventPieces (fun message hm => h.start message (hm ▸ he))
    hpiece
  rcases chunkIndex_cases i with ⟨-, hown⟩ | ⟨-, hlarge⟩
  · exact hother (hi.trans (congrArg some (hown.symm.trans (hindex.symm.trans heq))))
  · exact hzero (heq.symm.trans (hindex.trans hlarge))

/-- Under index 0, the arguments have the empty input and all the fragments, and perhaps more. -/
theorem StreamsTool.length_arguments_le (h : StreamsTool 0 id name fragments events) :
    (toJson (.obj [])).length + (concat fragments).length ≤
      (assemble (piecesAt 0 (events.flatMap (eventPieces toJson)))).arguments.length := by
  have hsublist : ((toolEvents 0 id name fragments).flatMap (eventPieces toJson)).Sublist
      (events.flatMap (eventPieces toJson)) := by
    rw [← h.block]
    exact List.filter_sublist.flatMap _
  have hle := length_concat_le ((hsublist.filter fun piece => piece.index = 0).map
    ToolCallChunk.argumentsText)
  refine Nat.le_trans (le_of_eq ?_) hle
  -- all the pieces of the call are under this index
  have hfragments : ∀ fragments : List String, concat (((fragmentPieces 0 fragments).filter
      fun piece => piece.index = 0).map ToolCallChunk.argumentsText) = concat fragments := by
    intro fragments
    induction fragments with
    | nil => rfl
    | cons fragment fragments ih => exact congrArg (fragment ++ ·) ih
  rw [flatMap_toolEvents, List.filter_cons_of_pos (by rfl), List.map_cons, concat_cons,
    hfragments, String.length_append]
  rfl

/-- So it is not put together again under index 0. -/
theorem StreamsTool.assemble_zero_ne (h : StreamsTool 0 id name fragments events)
    (hempty : toJson (.obj []) = "\x7b\x7d") :
    assemble (piecesAt 0 (events.flatMap (eventPieces toJson))) ≠
      ⟨[id], [name], concat fragments⟩ := by
  intro heq
  have hle : (toJson (.obj [])).length + (concat fragments).length ≤
      (assemble (piecesAt 0 (events.flatMap (eventPieces toJson)))).arguments.length :=
    h.length_arguments_le
  rw [heq, hempty] at hle
  exact absurd hle (Nat.not_le.mpr (Nat.lt_add_of_pos_left (by decide)))

/-- Under another index that is its own, the call is started, and no fragment is sent. -/
theorem piecesAt_toolEvents_own (hzero : index ≠ 0) (hown : chunkIndex index = index) :
    piecesAt index ((toolEvents index id name fragments).flatMap (eventPieces toJson)) =
      [⟨index, some id, some ⟨some name, some (toJson (.obj []))⟩⟩] := by
  have hskip : fragmentPieces index fragments = [] := by
    unfold fragmentPieces
    simp [hown, hzero]
  rw [flatMap_toolEvents, hskip, hown]
  exact List.filter_cons_of_pos (by simp)

/-- Under an index for which 0 stands, nothing is sent. -/
theorem piecesAt_toolEvents_none (hzero : index ≠ 0) (hnone : chunkIndex index = 0) :
    piecesAt index ((toolEvents index id name fragments).flatMap (eventPieces toJson)) = [] := by
  rw [flatMap_toolEvents]
  refine List.filter_eq_nil_iff.mpr fun piece hpiece => ?_
  have hindex : piece.index = 0 := by
    rcases List.mem_cons.mp hpiece with rfl | hpiece
    · exact hnone
    · obtain ⟨fragment, -, hpiece⟩ := List.mem_flatMap.mp hpiece
      rw [if_pos hnone] at hpiece
      rw [List.mem_singleton.mp hpiece]
      exact hnone
  simpa [hindex] using Ne.symm hzero

/-- **When a streamed call is put together again.** Its block is not the first, and its fragments
spell the empty input that is sent in their place. -/
theorem reassembled_iff (toJson : Json → String) (hempty : toJson (.obj []) = "\x7b\x7d")
    (h : StreamsTool index id name fragments events) :
    Reassembled index id name fragments (events.filterMap (tryConvertChunk toJson)) ↔
      index ≠ 0 ∧ index ≤ u32Max ∧ concat fragments = "\x7b\x7d" := by
  unfold Reassembled
  rw [toolCallPieces_filterMap toolCallPieces_chunk]
  by_cases hzero : index = 0
  · -- both the empty input and the fragments are sent
    subst hzero
    exact iff_of_false (h.assemble_zero_ne hempty) fun hand => hand.1 rfl
  rw [h.piecesAt_eq hzero]
  rcases chunkIndex_cases index with ⟨hle, hown⟩ | ⟨hlarge, hnone⟩
  · -- only the empty input is sent
    rw [piecesAt_toolEvents_own hzero hown, hempty]
    constructor
    · intro heq
      exact ⟨hzero, hle, (congrArg CollectedCall.arguments heq).symm⟩
    · rintro ⟨-, -, hfragments⟩
      rw [hfragments]
      rfl
  · -- nothing is sent under the index
    rw [piecesAt_toolEvents_none hzero hnone]
    refine iff_of_false (fun heq => ?_) fun hand => absurd hand.2.1 (Nat.not_le.mpr hlarge)
    cases congrArg CollectedCall.ids heq

end Proofs

/-! ### The call of a tool without arguments, and of one with some -/

/-- The fragments of the second block are the two braces themselves. -/
theorem reassembled_iff_empty :
    Reassembled 1 "toolu_1" "now" ["\x7b", "\x7d"]
      ((toolEvents 1 "toolu_1" "now" ["\x7b", "\x7d"]).filterMap
        (tryConvertChunk fun _ => "\x7b\x7d")) := by
  have hstreams : StreamsTool 1 "toolu_1" "now" ["\x7b", "\x7d"]
      (toolEvents 1 "toolu_1" "now" ["\x7b", "\x7d"]) := by
    refine ⟨by rfl, fun message hmem => ?_⟩
    simp [toolEvents] at hmem
  exact (reassembled_iff _ rfl hstreams).mpr ⟨by decide, by decide, by rfl⟩

/-- **A call with arguments is sent with none.** -/
theorem reassembled_fails : ¬ ∀ (toJson : Json → String) (index : ℕ) (id name : String)
    (fragments : List String) (events : List StreamEvent), toJson (.obj []) = "\x7b\x7d" →
    StreamsTool index id name fragments events →
    Reassembled index id name fragments (events.filterMap (tryConvertChunk toJson)) := by
  intro h
  have hstreams : StreamsTool 1 "toolu_1" "weather" ["\x7b\"city\": ", "\"Paris\"\x7d"]
      (toolEvents 1 "toolu_1" "weather" ["\x7b\"city\": ", "\"Paris\"\x7d"]) := by
    refine ⟨by rfl, fun message hmem => ?_⟩
    simp [toolEvents] at hmem
  have hcall := h (fun _ => "\x7b\x7d") _ _ _ _ _ rfl hstreams
  exact absurd hcall (by unfold Reassembled; decide)

end AiGateway.AnthropicStream
