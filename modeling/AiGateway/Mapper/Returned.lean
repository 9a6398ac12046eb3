import AiGateway.Mapper.OpenAI

/-!
# Answers there and back

What `OpenAIConverter::try_convert` makes of a response that `AnthropicConverter::try_convert` has
made of a message of Anthropic. A response of OpenAI has one text and a list of calls. So the
blocks come back in another order and without those that are no calls or texts; of the texts only
the last one comes back, and a result as a call of the tool whose use it answers.

* `tryConvert_tryConvert`: what comes back;
* `returned_returned`: once there and back is enough;
* `returned_eq_self_iff`: the messages that come back as they were;
* `answerRoundTrip`: all of this, of the two conversions.
-/

namespace AiGateway.Returned

open AnthropicStream Answers OpenAIConverter Serde

/-! ### What comes back -/

/-- What comes back of a block that is converted to a call. -/
def returnedUse : ContentBlock → Option ContentBlock
  | .toolUse id name input => some (.toolUse id name input)
  | .toolResult toolUseId content => some (.toolUse toolUseId toolUseId (.str content))
  | _ => none

/-- The last text of a content. -/
def returnedText (content : List ContentBlock) : Option ContentBlock :=
  ((content.filterMap ContentBlock.text?).getLast?).map ContentBlock.text

/-- The blocks that come back. -/
def returnedContent (content : List ContentBlock) : List ContentBlock :=
  content.filterMap returnedUse ++ (returnedText content).toList

/-- **What comes back of a message.** -/
def returned (value : AnthropicStream.Message) : AnthropicStream.Message :=
  { value with
    type_ := anthropicMessageType
    role := .assistant
    content := returnedContent value.content
    stopReason := none
    stopSequence := none }

/-- The inputs of the calls can be read as they are written. -/
def Readable (toJson : Json → String) (fromStr : String → Option Json)
    (content : List ContentBlock) : Prop :=
  ∀ id name input, .toolUse id name input ∈ content.filterMap returnedUse →
    fromStr (toJson input) = some input

section Proofs

variable {toJson : Json → String} {fromStr : String → Option Json}

/-- The calls are read as they were written. -/
theorem filterMap_toolUseBlock {content : List ContentBlock}
    (hread : Readable toJson fromStr content) :
    (content.filterMap (anthropicCall? toJson)).filterMap (toolUseBlock fromStr) =
      content.filterMap returnedUse := by
  have hblock : ∀ id name input, fromStr (toJson input) = some input →
      toolUseBlock fromStr ⟨id, name, toJson input⟩ = some (.toolUse id name input) := by
    intro id name input hinput
    unfold toolUseBlock
    rw [hinput]
    rfl
  rw [List.filterMap_filterMap]
  refine List.filterMap_congr fun block hmem => ?_
  -- a result has become a call, whose name is its id
  cases block with
  | toolUse id name input =>
    exact hblock id name input (hread id name input (List.mem_filterMap.mpr ⟨_, hmem, rfl⟩))
  | toolResult toolUseId content =>
    exact hblock toolUseId toolUseId (.str content)
      (hread toolUseId toolUseId _ (List.mem_filterMap.mpr ⟨_, hmem, rfl⟩))
  | text text => rfl
  | image => rfl
  | thinking thinking signature => rfl
  | redactedThinking data => rfl

/-- **There and back.** -/
theorem tryConvert_tryConvert {value : AnthropicStream.Message}
    (hread : Readable toJson fromStr value.content) :
    OpenAIConverter.tryConvert fromStr (AnthropicStream.tryConvert toJson value) =
      some (returned value) := by
  have hcalls := @calls_foldl_collectBlock toJson value.content ([], none)
  have htext := @content_foldl_collectBlock toJson value.content ([], none)
  rw [List.nil_append] at hcalls
  rw [Option.or_none] at htext
  unfold AnthropicStream.tryConvert OpenAIConverter.tryConvert responseContent
  dsimp only
  rw [getD_isEmpty, hcalls, htext, filterMap_toolUseBlock hread]
  rfl

end Proofs

/-! ### Coming back as it was -/

/-- A call of a tool. -/
def IsUse : ContentBlock → Prop
  | .toolUse _ _ _ => True
  | _ => False

/-- **A message that has its place in between**: calls, and then at most one text. -/
structure Settled (value : AnthropicStream.Message) : Prop where
  type_ : value.type_ = anthropicMessageType
  role : value.role = .assistant
  content : ∃ (uses : List ContentBlock) (text : Option String), (∀ use ∈ uses, IsUse use) ∧
    value.content = uses ++ (text.map ContentBlock.text).toList
  stopReason : value.stopReason = none
  stopSequence : value.stopSequence = none

/-- What is converted to calls comes back as calls. -/
theorem isUse_of_mem {content : List ContentBlock} {use : ContentBlock}
    (h : use ∈ content.filterMap returnedUse) : IsUse use := by
  obtain ⟨block, -, hblock⟩ := List.mem_filterMap.mp h
  cases block with
  | toolUse id name input =>
    cases hblock
    exact trivial
  | toolResult toolUseId content =>
    cases hblock
    exact trivial
  | text text => cases hblock
  | image => cases hblock
  | thinking thinking signature => cases hblock
  | redactedThinking data => cases hblock

/-- What comes back has its place in between. -/
theorem settled_returned (value : AnthropicStream.Message) : Settled (returned value) where
  type_ := rfl
  role := rfl
  content := ⟨value.content.filterMap returnedUse,
    (value.content.filterMap ContentBlock.text?).getLast?, fun _ huse => isUse_of_mem huse, rfl⟩
  stopReason := rfl
  stopSequence := rfl

/-- Calls come back, and have no texts. -/
theorem filterMap_uses {uses : List ContentBlock} (h : ∀ use ∈ uses, IsUse use) :
    uses.filterMap returnedUse = uses ∧ uses.filterMap ContentBlock.text? = [] := by
  have huse : ∀ use ∈ uses, returnedUse use = some use ∧ use.text? = none := by
    intro use hmem
    have his := h use hmem
    cases use with
    | toolUse id name input => exact ⟨rfl, rfl⟩
    | toolResult toolUseId content => exact his.elim
    | text text => exact his.elim
    | image => exact his.elim
    | thinking thinking signature => exact his.elim
    | redactedThinking data => exact his.elim
  refine ⟨?_, List.filterMap_eq_nil_iff.mpr fun use hmem => (huse use hmem).2⟩
  calc uses.filterMap returnedUse
      = uses.filterMap some := List.filterMap_congr fun use hmem => (huse use hmem).1
    _ = uses := List.filterMap_some

/-- A text that stands behind calls. -/
theorem filterMap_settled {uses : List ContentBlock} (h : ∀ use ∈ uses, IsUse use)
    (text : Option String) :
    (uses ++ (text.map ContentBlock.text).toList).filterMap returnedUse = uses ∧
      (uses ++ (text.map ContentBlock.text).toList).filterMap ContentBlock.text? =
        text.toList := by
  obtain ⟨hback, hnone⟩ := filterMap_uses h
  rw [List.filterMap_append, List.filterMap_append, hback, hnone]
  cases text with
  | none => exact ⟨List.append_nil _, rfl⟩
  | some text => exact ⟨List.append_nil _, rfl⟩

/-- **The messages that come back as they were.** -/
theorem returned_eq_self_iff {value : AnthropicStream.Message} :
    returned value = value ↔ Settled value := by
  constructor
  · intro h
    rw [← h]
    exact settled_returned value
  · rintro ⟨htype, hrole, ⟨uses, text, huses, hcontent⟩, hstopReason, hstopSequence⟩
    have hsame : returnedContent value.content = value.content := by
      obtain ⟨hback, htext⟩ := filterMap_settled huses text
      unfold returnedContent returnedText
      rw [hcontent, hback, htext]
      cases text <;> rfl
    obtain ⟨id, type_, role, content, model, stopReason, stopSequence, usage⟩ := value
    dsimp only at htype hrole hsame hstopReason hstopSequence
    unfold returned
    dsimp only
    rw [htype, hrole, hsame, hstopReason, hstopSequence]

/-- Once there and back is enough. -/
theorem returned_returned (value : AnthropicStream.Message) :
    returned (returned value) = returned value :=
  returned_eq_self_iff.mpr (settled_returned value)

/-- What comes back can be read as well. -/
theorem Readable.returned {toJson : Json → String} {fromStr : String → Option Json}
    {value : AnthropicStream.Message} (h : Readable toJson fromStr value.content) :
    Readable toJson fromStr (returned value).content := by
  have huses : ∀ use ∈ value.content.filterMap returnedUse, IsUse use :=
    fun _ huse => isUse_of_mem huse
  obtain ⟨hback, -⟩ :=
    filterMap_settled huses (value.content.filterMap ContentBlock.text?).getLast?
  intro id name input hmem
  exact h id name input (hback ▸ hmem)

/-- **Answers there and back.** Where its inputs can be read as they are written, a message that is
converted to a response of OpenAI and back comes back as its calls, in their order, with its results
among them as calls of the tools whose uses they answer, and its last text; a second time nothing
is lost; and it comes back as it was exactly when it is calls and then at most one text, said by an
assistant as a `message`, without a reason to stop. -/
theorem answerRoundTrip {toJson : Json → String} {fromStr : String → Option Json}
    {value : AnthropicStream.Message} (hread : Readable toJson fromStr value.content) :
    let back := fun value =>
      OpenAIConverter.tryConvert fromStr (AnthropicStream.tryConvert toJson value)
    back value = some (returned value) ∧ back (returned value) = some (returned value) ∧
      (back value = some value ↔ Settled value) := by
  dsimp only
  refine ⟨tryConvert_tryConvert hread, ?_, ?_⟩
  · rw [tryConvert_tryConvert hread.returned, returned_returned]
  · rw [tryConvert_tryConvert hread, Option.some_inj]
    exact returned_eq_self_iff

/-- Two texts around a call without arguments. -/
def asksTwice : AnthropicStream.Message where
  id := "msg_1"
  type_ := "message"
  role := .assistant
  content := [.text "Let me look.", .toolUse "toolu_1" "clock" (.obj []), .text "One moment."]
  model := "claude-3-5-haiku"
  stopReason := some .toolUse
  stopSequence := none
  usage := ⟨8, 4⟩

/-- The first text does not come back. -/
theorem answerRoundTrip_asksTwice :
    let back := fun value =>
      OpenAIConverter.tryConvert Answers.readEmpty
        (AnthropicStream.tryConvert (fun _ => "\x7b\x7d") value)
    back asksTwice = some (returned asksTwice) ∧
      (returned asksTwice).content =
        [.toolUse "toolu_1" "clock" (.obj []), .text "One moment."] := by
  have hread : Readable (fun _ => "\x7b\x7d") Answers.readEmpty asksTwice.content := by
    intro id name input hmem
    cases List.mem_singleton.mp hmem
    rfl
  obtain ⟨hback, -, -⟩ := answerRoundTrip hread
  exact ⟨hback, rfl⟩

end AiGateway.Returned
