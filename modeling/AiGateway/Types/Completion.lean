import AiGateway.Framework.RustStd
import AiGateway.Types.Chat

/-!
# Chat completions

The response to a chat request, at once or in chunks, and what a client makes of the chunks:
it concatenates the contents of a choice, keeps the last reason to finish, and collects the pieces
of the tool calls under their indices.

* `accumulatedContent_append`, `accumulatedFinish_append`, `toolCallPieces_append`: chunks may be
  taken in portions;
* `collectCalls_eq`: the calls that are collected of pieces, each call started once.
-/

namespace AiGateway.OpenAI

/-! ### Responses -/

/-- `Role`. -/
inductive ResponseRole
  | system
  | user
  | assistant
  | tool
  | function
  deriving DecidableEq

inductive FinishReason
  | stop
  | length
  | toolCalls
  | contentFilter
  | functionCall
  deriving DecidableEq

structure CompletionUsage where
  promptTokens : ℕ
  completionTokens : ℕ
  totalTokens : ℕ

/-- `ChatCompletionResponseMessage`. -/
structure ResponseMessage where
  content : Option String
  refusal : Option String
  toolCalls : Option (List ToolCall)
  role : ResponseRole

structure ChatChoice where
  index : ℕ
  message : ResponseMessage
  finishReason : Option FinishReason

/-- `CreateChatCompletionResponse`. -/
structure ChatResponse where
  choices : List ChatChoice
  id : String
  created : ℕ
  model : String
  object : String
  usage : Option CompletionUsage

/-! ### Chunks -/

structure FunctionCallStream where
  name : Option String
  arguments : Option String

/-- `ChatCompletionMessageToolCallChunk`, whose type is always `function`. -/
structure ToolCallChunk where
  index : ℕ
  id : Option String
  function : Option FunctionCallStream

/-- `ChatCompletionStreamResponseDelta`. -/
structure StreamDelta where
  role : Option ResponseRole
  content : Option String
  toolCalls : Option (List ToolCallChunk)
  refusal : Option String

structure ChatChoiceStream where
  index : ℕ
  delta : StreamDelta
  finishReason : Option FinishReason

/-- `CreateChatCompletionStreamResponse`. -/
structure ChatChunk where
  id : String
  choices : List ChatChoiceStream
  created : ℕ
  model : String
  object : String
  usage : Option CompletionUsage

/-! ### The client -/

/-- One text after the other. -/
def concat (texts : List String) : String := texts.foldr (fun text rest => text ++ rest) ""

@[simp] theorem concat_nil : concat [] = "" := rfl

@[simp] theorem concat_cons (text : String) (texts : List String) :
    concat (text :: texts) = text ++ concat texts := rfl

theorem concat_map_eq_empty {α : Type} {f : α → String} {l : List α} (h : ∀ a ∈ l, f a = "") :
    concat (l.map f) = "" := by
  induction l with
  | nil => rfl
  | cons a l ih =>
    rw [List.map_cons, concat_cons, h a List.mem_cons_self, String.empty_append]
    exact ih fun b hb => h b (List.mem_cons_of_mem a hb)

theorem concat_append (texts texts' : List String) :
    concat (texts ++ texts') = concat texts ++ concat texts' := by
  induction texts with
  | nil => rw [List.nil_append, concat_nil, String.empty_append]
  | cons text texts ih => rw [List.cons_append, concat_cons, concat_cons, ih, String.append_assoc]

/-- Leaving texts out does not make it longer. -/
theorem length_concat_le {texts texts' : List String} (h : texts.Sublist texts') :
    (concat texts).length ≤ (concat texts').length := by
  induction h with
  | slnil => exact le_refl _
  | cons text _ ih =>
    rw [concat_cons, String.length_append]
    exact Nat.le_add_left_of_le ih
  | cons_cons text _ ih =>
    rw [concat_cons, concat_cons, String.length_append, String.length_append]
    exact Nat.add_le_add_left ih _

/-- What the chunks say about a choice. -/
def choiceOf (index : ℕ) (chunks : List ChatChunk) : List ChatChoiceStream :=
  (chunks.flatMap ChatChunk.choices).filter fun choice => choice.index = index

/-- The contents, concatenated. -/
def contentOf (choices : List ChatChoiceStream) : String :=
  concat (choices.map fun choice => choice.delta.content.getD "")

/-- The last reason to finish. -/
def finishOf (choices : List ChatChoiceStream) : Option FinishReason :=
  (choices.filterMap ChatChoiceStream.finishReason).getLast?

/-- The contents of choice 0, concatenated. -/
def accumulatedContent (chunks : List ChatChunk) : String := contentOf (choiceOf 0 chunks)

/-- The last reason to finish of choice 0. -/
def accumulatedFinish (chunks : List ChatChunk) : Option FinishReason :=
  finishOf (choiceOf 0 chunks)

theorem choiceOf_append (index : ℕ) (chunks chunks' : List ChatChunk) :
    choiceOf index (chunks ++ chunks') = choiceOf index chunks ++ choiceOf index chunks' := by
  unfold choiceOf
  rw [List.flatMap_append, List.filter_append]

theorem accumulatedContent_append (chunks chunks' : List ChatChunk) :
    accumulatedContent (chunks ++ chunks') =
      accumulatedContent chunks ++ accumulatedContent chunks' := by
  unfold accumulatedContent contentOf
  rw [choiceOf_append, List.map_append, concat_append]

theorem accumulatedFinish_append (chunks chunks' : List ChatChunk) :
    accumulatedFinish (chunks ++ chunks') =
      (accumulatedFinish chunks').or (accumulatedFinish chunks) := by
  unfold accumulatedFinish finishOf
  rw [choiceOf_append, List.filterMap_append, List.getLast?_append]

/-- **Chunks made of events**, each of which makes at most one: the content is that of the
events. -/
theorem accumulatedContent_filterMap {Event : Type} {convert : Event → Option ChatChunk}
    {text : Event → String} (h : ∀ e, accumulatedContent (convert e).toList = text e)
    (events : List Event) :
    accumulatedContent (events.filterMap convert) = concat (events.map text) := by
  induction events with
  | nil => rfl
  | cons e events ih =>
    rw [List.filterMap_cons_toList, accumulatedContent_append, h, ih, List.map_cons, concat_cons]

/-- The same for the reason to finish. -/
theorem accumulatedFinish_filterMap {Event : Type} {convert : Event → Option ChatChunk}
    {finish : Event → Option FinishReason}
    (h : ∀ e, accumulatedFinish (convert e).toList = finish e) (events : List Event) :
    accumulatedFinish (events.filterMap convert) = (events.filterMap finish).getLast? := by
  induction events with
  | nil => rfl
  | cons e events ih =>
    have hlast : (finish e).toList.getLast? = finish e := by
      cases finish e <;> rfl
    rw [List.filterMap_cons_toList, List.filterMap_cons_toList, accumulatedFinish_append, ih, h,
      List.getLast?_append, hlast]

/-! ### Tool calls in pieces -/

/-- The pieces of tool calls. -/
def piecesOf (choices : List ChatChoiceStream) : List ToolCallChunk :=
  choices.flatMap fun choice => choice.delta.toolCalls.getD []

/-- The pieces of tool calls in the chunks, of choice 0. -/
def toolCallPieces (chunks : List ChatChunk) : List ToolCallChunk := piecesOf (choiceOf 0 chunks)

theorem toolCallPieces_append (chunks chunks' : List ChatChunk) :
    toolCallPieces (chunks ++ chunks') = toolCallPieces chunks ++ toolCallPieces chunks' := by
  unfold toolCallPieces piecesOf
  rw [choiceOf_append, List.flatMap_append]

/-- The same as for the content, for the pieces. -/
theorem toolCallPieces_filterMap {Event : Type} {convert : Event → Option ChatChunk}
    {pieces : Event → List ToolCallChunk}
    (h : ∀ e, toolCallPieces (convert e).toList = pieces e) (events : List Event) :
    toolCallPieces (events.filterMap convert) = events.flatMap pieces := by
  induction events with
  | nil => rfl
  | cons e events ih =>
    rw [List.filterMap_cons_toList, toolCallPieces_append, h, ih, List.flatMap_cons]

/-- The name in a piece. -/
def ToolCallChunk.name? (piece : ToolCallChunk) : Option String :=
  piece.function.bind FunctionCallStream.name

/-- The arguments in a piece. -/
def ToolCallChunk.argumentsText (piece : ToolCallChunk) : String :=
  (piece.function.bind FunctionCallStream.arguments).getD ""

/-- A tool call as it is put together from its pieces. -/
structure CollectedCall where
  ids : List String
  names : List String
  arguments : String
  deriving DecidableEq

/-- What all the pieces make together. -/
def assemble (pieces : List ToolCallChunk) : CollectedCall where
  ids := pieces.filterMap ToolCallChunk.id
  names := pieces.filterMap ToolCallChunk.name?
  arguments := concat (pieces.map ToolCallChunk.argumentsText)

/-- The pieces under an index. -/
def piecesAt (index : ℕ) (pieces : List ToolCallChunk) : List ToolCallChunk :=
  pieces.filter fun piece => piece.index = index

/-- **The calls a client collects**, in the order in which their first pieces come. -/
def collectCalls (pieces : List ToolCallChunk) : List (ℕ × CollectedCall) :=
  (pieces.map ToolCallChunk.index).eraseDups.map fun index =>
    (index, assemble (piecesAt index pieces))

/-- Only the events that have pieces under an index count there. -/
theorem piecesAt_flatMap {Event : Type} {pieces : Event → List ToolCallChunk} {index : ℕ}
    {about : Event → Prop} [DecidablePred about] {events : List Event}
    (h : ∀ e ∈ events, ¬ about e → ∀ piece ∈ pieces e, piece.index ≠ index) :
    piecesAt index (events.flatMap pieces) =
      piecesAt index ((events.filter fun e => about e).flatMap pieces) := by
  unfold piecesAt
  induction events with
  | nil => rfl
  | cons e events ih =>
    have ih := ih fun e he => h e (List.mem_cons_of_mem _ he)
    rw [List.flatMap_cons, List.filter_append, ih]
    by_cases habout : about e
    · rw [List.filter_cons_of_pos (by simpa using habout), List.flatMap_cons, List.filter_append]
    · have hnone : (pieces e).filter (fun piece => piece.index = index) = [] :=
        List.filter_eq_nil_iff.mpr fun piece hpiece => by
          simpa using h e List.mem_cons_self habout piece hpiece
      rw [List.filter_cons_of_neg (by simpa using habout), hnone, List.nil_append]

/-- Under each index it is the first piece, and no other, that has an id. -/
def StartedOnce (pieces : List ToolCallChunk) : Prop :=
  ∀ index first rest, piecesAt index pieces = first :: rest →
    first.id.isSome = true ∧ ∀ piece ∈ rest, piece.id.isSome = false

/-- The pieces of another index are left when those of one are taken out. -/
theorem piecesAt_filter_ne {index index' : ℕ} (h : index' ≠ index) (pieces : List ToolCallChunk) :
    piecesAt index' (pieces.filter fun piece => piece.index ≠ index) = piecesAt index' pieces := by
  unfold piecesAt
  rw [List.filter_filter]
  refine List.filter_congr fun piece _ => ?_
  by_cases heq : piece.index = index'
  · simp [heq, h]
  · simp [heq]

theorem StartedOnce.filter_ne {pieces : List ToolCallChunk} (h : StartedOnce pieces) (index : ℕ) :
    StartedOnce (pieces.filter fun piece => piece.index ≠ index) := by
  intro index' first rest heq
  by_cases hindex : index' = index
  · -- all of them are taken out
    have hnone : piecesAt index' (pieces.filter fun piece => piece.index ≠ index) = [] := by
      refine List.filter_eq_nil_iff.mpr fun piece hpiece => ?_
      have hne := (List.mem_filter.mp hpiece).2
      simpa [hindex] using hne
    rw [hnone] at heq
    cases heq
  · rw [piecesAt_filter_ne hindex] at heq
    exact h index' first rest heq

/-- The indices in the order in which they come first, by induction on the number of pieces. -/
theorem eraseDups_map_index (n : ℕ) : ∀ pieces : List ToolCallChunk, pieces.length ≤ n →
    StartedOnce pieces → (pieces.map ToolCallChunk.index).eraseDups =
      (pieces.filter fun piece => piece.id.isSome).map ToolCallChunk.index := by
  induction n with
  | zero =>
    intro pieces hlength _
    obtain rfl := List.length_eq_zero_iff.mp (Nat.le_zero.mp hlength)
    rfl
  | succ n ih =>
    intro pieces hlength hstarted
    cases pieces with
    | nil => rfl
    | cons piece pieces =>
      have hat : piecesAt piece.index (piece :: pieces) =
          piece :: piecesAt piece.index pieces := by
        unfold piecesAt
        rw [List.filter_cons_of_pos (by simp)]
      obtain ⟨hfirst, hrest⟩ := hstarted _ _ _ hat
      have hothers : (pieces.filter fun p => p.index ≠ piece.index).length ≤ n :=
        Nat.le_trans (List.length_filter_le _ _) (Nat.le_of_succ_le_succ hlength)
      have hfiltered : StartedOnce (pieces.filter fun p => p.index ≠ piece.index) := by
        have hall := hstarted.filter_ne piece.index
        rwa [List.filter_cons_of_neg (by simp)] at hall
      -- no later piece of this index has an id
      have hids : ((pieces.filter fun p => p.index ≠ piece.index).filter fun p => p.id.isSome) =
          pieces.filter fun p => p.id.isSome := by
        rw [List.filter_filter]
        refine List.filter_congr fun p hp => ?_
        by_cases heq : p.index = piece.index
        · have hnone := hrest p (List.mem_filter.mpr ⟨hp, by simpa using heq⟩)
          simp [hnone]
        · simp [heq]
      have hmap : (pieces.map ToolCallChunk.index).filter (fun index => !index == piece.index) =
          (pieces.filter fun p => p.index ≠ piece.index).map ToolCallChunk.index := by
        rw [List.filter_map]
        refine congrArg _ (List.filter_congr fun p _ => ?_)
        by_cases heq : p.index = piece.index <;> simp [heq]
      rw [List.map_cons, List.eraseDups_cons, hmap, ih _ hothers hfiltered, hids,
        List.filter_cons, if_pos hfirst, List.map_cons]

/-- **The calls that are collected of pieces**, each call started once: one for each piece with an
id, in their order. -/
theorem collectCalls_eq {pieces : List ToolCallChunk} (h : StartedOnce pieces) :
    collectCalls pieces = (pieces.filter fun piece => piece.id.isSome).map fun piece =>
      (piece.index, assemble (piecesAt piece.index pieces)) := by
  unfold collectCalls
  rw [eraseDups_map_index _ pieces (le_refl _) h, List.map_map]
  rfl

end AiGateway.OpenAI
