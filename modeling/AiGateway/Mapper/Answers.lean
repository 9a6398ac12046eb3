import AiGateway.Mapper.AnthropicStream
import AiGateway.Mapper.BedrockResponse

/-!
# What is kept of an answer

An answer of Anthropic or Bedrock is a list of blocks: texts, and tool calls among others. Both
converters go through it once and put what a block shows in the place of the content they have.

* `content_iff`: the answers whose texts are all kept;
* `toolCalls_iff`: the answers whose tool calls are kept with their arguments.
-/

namespace AiGateway.Answers

open OpenAI Serde

/-! ### Texts -/

/-- What a block shows: a text of the answer, or one of a block beside it, of reasoning or a
guard. -/
inductive Shown
  | text (content : String)
  | aside (content : String)

/-- The string that is shown. -/
def Shown.content : Shown → String
  | text content => content
  | aside content => content

/-- The texts of the answer in what is shown. -/
def Shown.text? : Shown → Option String
  | text content => some content
  | aside _ => none

/-- The content of a response; none is no text. -/
def answerText (response : ChatResponse) : String :=
  concat (response.choices.map fun choice => choice.message.content.getD "")

/-- **No text is lost**, when what is shown last replaces the rest: it is a text, and those before
it are empty, or it stands beside the answer and happens to read like its texts. -/
structure KeepsTexts (shown : List Shown) : Prop where
  text : ∀ before last, shown = before ++ [.text last] →
    ∀ t ∈ before.filterMap Shown.text?, t = ""
  aside : ∀ before last, shown = before ++ [.aside last] →
    last = concat (before.filterMap Shown.text?)

theorem concat_eq_empty_iff {texts : List String} : concat texts = "" ↔ ∀ t ∈ texts, t = "" := by
  induction texts with
  | nil => simp
  | cons t texts ih => simp [ih]

theorem append_eq_right_iff {s t : String} : s ++ t = t ↔ s = "" := by
  constructor
  · intro h
    have hlength : s.length + t.length = t.length := by
      rw [← String.length_append, h]
    exact String.length_eq_zero_iff.mp (Nat.add_eq_right.mp hlength)
  · rintro rfl
    exact String.empty_append

theorem keepsTexts_text {before : List Shown} {last : String} :
    KeepsTexts (before ++ [.text last]) ↔ ∀ t ∈ before.filterMap Shown.text?, t = "" := by
  constructor
  · intro hkeeps
    exact hkeeps.text before last rfl
  · intro hempty
    refine ⟨fun before' last' h => ?_, fun before' last' h => ?_⟩
    · rw [← (List.append_inj' h rfl).1]
      exact hempty
    · cases (List.append_inj' h rfl).2

theorem keepsTexts_aside {before : List Shown} {last : String} :
    KeepsTexts (before ++ [.aside last]) ↔ last = concat (before.filterMap Shown.text?) := by
  constructor
  · intro hkeeps
    exact hkeeps.aside before last rfl
  · intro heq
    refine ⟨fun before' last' h => ?_, fun before' last' h => ?_⟩
    · cases (List.append_inj' h rfl).2
    · obtain ⟨rfl, hlast⟩ := List.append_inj' h rfl
      obtain rfl := Shown.aside.inj (List.singleton_injective hlast)
      exact heq

/-- What is shown last is all the texts together exactly when none is lost. -/
theorem getLast_content_iff (shown : List Shown) :
    ((shown.map Shown.content).getLast?).getD "" = concat (shown.filterMap Shown.text?) ↔
      KeepsTexts shown := by
  rcases List.eq_nil_or_concat shown with rfl | ⟨before, last, rfl⟩
  · -- nothing is shown, and nothing is last
    refine iff_of_true rfl ⟨fun before last h => ?_, fun before last h => ?_⟩
    · exact absurd h.symm (List.append_ne_nil_of_right_ne_nil _ (List.cons_ne_nil _ _))
    · exact absurd h.symm (List.append_ne_nil_of_right_ne_nil _ (List.cons_ne_nil _ _))
  rw [List.concat_eq_append, List.map_append, List.getLast?_append, List.filterMap_append,
    concat_append]
  cases last with
  | text last =>
    show last = concat (before.filterMap Shown.text?) ++ (last ++ "") ↔ _
    -- the texts before it are those that are missing
    rw [String.append_empty, eq_comm, append_eq_right_iff, concat_eq_empty_iff]
    exact keepsTexts_text.symm
  | aside last =>
    show last = concat (before.filterMap Shown.text?) ++ "" ↔ _
    -- no text is left, and what stands beside them is in their place
    rw [String.append_empty]
    exact keepsTexts_aside.symm

/-- What a block of Anthropic shows. -/
def anthropicShown? : AnthropicStream.ContentBlock → Option Shown
  | .text content => some (.text content)
  | _ => none

section Bedrock

variable {Document : Type}

/-- What a block of Bedrock shows. -/
def bedrockShown? : BedrockResponse.ContentBlock Document → Option Shown
  | .text content => some (.text content)
  | .reasoningContent reasoningText => reasoningText.map .aside
  | .guardContent guarded => guarded.map .aside
  | _ => none

theorem answerText_anthropic (toJson : Json → String) (message : AnthropicStream.Message) :
    answerText (AnthropicStream.tryConvert toJson message) =
      ((message.content.filterMap anthropicShown?).map Shown.content).getLast?.getD "" := by
  have hshown : (message.content.filterMap anthropicShown?).map Shown.content =
      message.content.filterMap AnthropicStream.ContentBlock.text? := by
    rw [List.map_filterMap]
    refine List.filterMap_congr fun block _ => ?_
    cases block <;> rfl
  have hcontent := @AnthropicStream.content_foldl_collectBlock toJson message.content ([], none)
  rw [Option.or_none] at hcontent
  rw [hshown, ← hcontent]
  exact String.append_empty

theorem answerText_bedrock (toJson : Json → String) (asString : Document → Option String)
    (uuid : String) (value : BedrockResponse.ConverseOutput Document) :
    answerText (BedrockResponse.tryConvert toJson asString uuid value) =
      ((value.contents.filterMap bedrockShown?).map Shown.content).getLast?.getD "" := by
  have hshown : (value.contents.filterMap bedrockShown?).map Shown.content =
      value.contents.filterMap BedrockResponse.ContentBlock.shownText? := by
    rw [List.map_filterMap]
    refine List.filterMap_congr fun block _ => ?_
    cases block with
    | reasoningContent reasoningText => cases reasoningText <;> rfl
    | guardContent guarded => cases guarded <;> rfl
    | _ => rfl
  have hcontent := @BedrockResponse.content_foldl_collectBlock Document toJson asString
    value.contents ([], none)
  rw [Option.or_none] at hcontent
  rw [hshown, ← hcontent]
  exact String.append_empty

/-- **When no text of an answer is lost**, of Anthropic and of Bedrock. -/
theorem content_iff (toJson : Json → String) (asString : Document → Option String) (uuid : String)
    (message : AnthropicStream.Message) (value : BedrockResponse.ConverseOutput Document) :
    (answerText (AnthropicStream.tryConvert toJson message) =
        concat ((message.content.filterMap anthropicShown?).filterMap Shown.text?) ↔
      KeepsTexts (message.content.filterMap anthropicShown?)) ∧
    (answerText (BedrockResponse.tryConvert toJson asString uuid value) =
        concat ((value.contents.filterMap bedrockShown?).filterMap Shown.text?) ↔
      KeepsTexts (value.contents.filterMap bedrockShown?)) := by
  rw [answerText_anthropic, answerText_bedrock]
  exact ⟨getLast_content_iff _, getLast_content_iff _⟩

/-- **Of two texts the first is lost.** -/
theorem content_fails : ¬ ∀ (toJson : Json → String) (message : AnthropicStream.Message),
    answerText (AnthropicStream.tryConvert toJson message) =
      concat ((message.content.filterMap anthropicShown?).filterMap Shown.text?) := by
  intro h
  have htwo := h (fun _ => "") { AnthropicStream.greeting none with
    content := [.text "Let me see. ", .toolUse "toolu_1" "now" (.obj []), .text "It is noon."] }
  exact absurd htwo (by decide)

/-! ### Tool calls -/

/-- A block that is a tool call. -/
structure ToolUse where
  id : String
  name : String
  input : Json

/-- The call has the id and the name of the block. -/
def ToolUse.Matches (use : ToolUse) (call : ToolCall) : Prop :=
  call.id = use.id ∧ call.name = use.name

instance (use : ToolUse) : DecidablePred use.Matches := fun _ => inferInstanceAs (Decidable (_ ∧ _))

/-- The tool calls of a response. -/
def answerCalls (response : ChatResponse) : List ToolCall :=
  response.choices.flatMap fun choice => choice.message.toolCalls.getD []

/-- **The tool calls are kept**: in their order they are among those of the response, each with
arguments that read as its input, and each is the only one there with its id and name. -/
structure KeepsCalls (fromStr : String → Option Json) (uses : List ToolUse)
    (calls : List ToolCall) : Prop where
  carried : ∃ own, own.Sublist calls ∧ List.Forall₂
    (fun use call => use.Matches call ∧ fromStr call.arguments = some use.input) uses own
  once : ∀ use ∈ uses, (calls.filter fun call => use.Matches call).length = 1

/-- The tool calls in an answer of Anthropic. -/
def anthropicUse? : AnthropicStream.ContentBlock → Option ToolUse
  | .toolUse id name input => some ⟨id, name, input⟩
  | _ => none

/-- The tool results in an answer of Anthropic. -/
def anthropicResult? : AnthropicStream.ContentBlock → Option String
  | .toolResult toolUseId _ => some toolUseId
  | _ => none

/-- The tool calls in an answer of Bedrock, whose documents are JSON values. -/
def bedrockUse? (value : Document → Json) : BedrockResponse.ContentBlock Document → Option ToolUse
  | .toolUse toolUseId name input => some ⟨toolUseId, name, value input⟩
  | _ => none

/-- What a tool call is told apart by. -/
def ToolUse.key (use : ToolUse) : String × String := (use.id, use.name)

/-- **The tool calls are told apart** by their ids and names, also from the tool results, which have
their id for a name. -/
structure ToldApart (uses : List ToolUse) (results : List String) : Prop where
  nodup : (uses.map ToolUse.key).Nodup
  ne_result : ∀ use ∈ uses, ∀ result ∈ results, ¬ (use.id = result ∧ use.name = result)

/-- The call a block of Anthropic is converted to. -/
def anthropicCall? (toJson : Json → String) : AnthropicStream.ContentBlock → Option ToolCall
  | .toolUse id name input => some ⟨id, name, toJson input⟩
  | .toolResult toolUseId content => some ⟨toolUseId, toolUseId, toJson (.str content)⟩
  | _ => none

theorem calls_foldl_collectBlock {toJson : Json → String}
    (content : List AnthropicStream.ContentBlock) (collected : List ToolCall × Option String) :
    (content.foldl (AnthropicStream.collectBlock toJson) collected).1 =
      collected.1 ++ content.filterMap (anthropicCall? toJson) := by
  induction content generalizing collected with
  | nil => exact (List.append_nil _).symm
  | cons block content ih =>
    rw [List.foldl_cons, ih, List.filterMap_cons_toList, ← List.append_assoc]
    congr 1
    cases block <;> first | rfl | exact (List.append_nil _).symm

/-- No calls are sent as none. -/
theorem getD_isEmpty (calls : List ToolCall) :
    (if calls.isEmpty then none else some calls).getD [] = calls := by
  cases calls <;> rfl

theorem answerCalls_anthropic (toJson : Json → String) (message : AnthropicStream.Message) :
    answerCalls (AnthropicStream.tryConvert toJson message) =
      message.content.filterMap (anthropicCall? toJson) := by
  have hcalls := @calls_foldl_collectBlock toJson message.content ([], none)
  rw [List.nil_append] at hcalls
  rw [← hcalls]
  exact (List.append_nil _).trans (getD_isEmpty _)

/-- How many calls of the response have the id and the name of a block. -/
theorem length_filter_matches (toJson : Json → String) (use : ToolUse)
    (content : List AnthropicStream.ContentBlock) :
    ((content.filterMap (anthropicCall? toJson)).filter fun call => use.Matches call).length =
      ((content.filterMap anthropicUse?).map ToolUse.key).count use.key +
        (content.filterMap anthropicResult?).countP
          fun result => use.id = result ∧ use.name = result := by
  -- a result counts where its id is both the id and the name
  have hblock : ∀ block : AnthropicStream.ContentBlock,
      ((anthropicCall? toJson block).toList.filter fun call => use.Matches call).length =
        ((anthropicUse? block).toList.map ToolUse.key).count use.key +
          (anthropicResult? block).toList.countP
            fun result => use.id = result ∧ use.name = result := by
    intro block
    cases block with
    | toolUse id name input =>
      by_cases h : id = use.id ∧ name = use.name
      · simp [anthropicCall?, anthropicUse?, anthropicResult?, ToolUse.Matches, ToolUse.key, h]
      · simp [anthropicCall?, anthropicUse?, anthropicResult?, ToolUse.Matches, ToolUse.key, h]
    | toolResult toolUseId content =>
      by_cases h : use.id = toolUseId ∧ use.name = toolUseId
      · simp [anthropicCall?, anthropicUse?, anthropicResult?, ToolUse.Matches, h]
      · have h' : ¬ (toolUseId = use.id ∧ toolUseId = use.name) :=
          fun heq => h ⟨heq.1.symm, heq.2.symm⟩
        simp [anthropicCall?, anthropicUse?, anthropicResult?, ToolUse.Matches, h, h']
    | _ => rfl
  induction content with
  | nil => rfl
  | cons block content ih =>
    rw [List.filterMap_cons_toList, List.filterMap_cons_toList, List.filterMap_cons_toList,
      List.filter_append, List.length_append, List.map_append, List.count_append,
      List.countP_append, ih, hblock]
    exact Nat.add_add_add_comm _ _ _ _

/-- Each is the only one with its id and name exactly when they are told apart. -/
theorem once_iff_toldApart (toJson : Json → String) (content : List AnthropicStream.ContentBlock) :
    (∀ use ∈ content.filterMap anthropicUse?, ((content.filterMap (anthropicCall? toJson)).filter
      fun call => use.Matches call).length = 1) ↔
    ToldApart (content.filterMap anthropicUse?) (content.filterMap anthropicResult?) := by
  constructor
  · intro honce
    refine ⟨List.nodup_iff_count_le_one.mpr fun key => ?_, fun use huse result hresult heq => ?_⟩
    -- a key that occurs is that of a block, which has one call
    · by_cases hmem : key ∈ (content.filterMap anthropicUse?).map ToolUse.key
      · obtain ⟨use, huse, rfl⟩ := List.mem_map.mp hmem
        rw [← honce use huse, length_filter_matches]
        exact Nat.le_add_right _ _
      · rw [List.count_eq_zero_of_not_mem hmem]
        exact Nat.zero_le 1
    · -- the block and the result would be two
      have hone := honce use huse
      rw [length_filter_matches] at hone
      have hblock : 0 < ((content.filterMap anthropicUse?).map ToolUse.key).count use.key :=
        List.count_pos_iff.mpr (List.mem_map_of_mem huse)
      have hother : 0 < (content.filterMap anthropicResult?).countP
          fun result => use.id = result ∧ use.name = result :=
        List.countP_pos_iff.mpr ⟨result, hresult, decide_eq_true heq⟩
      omega
  · intro happart use huse
    have hother : ((content.filterMap anthropicResult?).countP
        fun result => use.id = result ∧ use.name = result) = 0 :=
      List.countP_eq_zero.mpr fun result hresult => by
        simpa using happart.ne_result use huse result hresult
    rw [length_filter_matches, hother,
      List.count_eq_one_of_mem happart.nodup (List.mem_map_of_mem huse)]

/-- What is made of some elements stands in order in what is made of all. -/
theorem sublist_filterMap {α β : Type} {f g : α → Option β} (h : ∀ a, ∀ b ∈ f a, g a = some b)
    (l : List α) : (l.filterMap f).Sublist (l.filterMap g) := by
  induction l with
  | nil => exact List.Sublist.slnil
  | cons a l ih =>
    rw [List.filterMap_cons_toList, List.filterMap_cons_toList]
    refine List.Sublist.append ?_ ih
    cases hf : f a with
    | none => exact List.nil_sublist _
    | some b => rw [h a b hf]

/-- The calls of the blocks are carried. -/
theorem carried_anthropic {toJson : Json → String} {fromStr : String → Option Json}
    {content : List AnthropicStream.ContentBlock}
    (hround : ∀ use ∈ content.filterMap anthropicUse?,
      fromStr (toJson use.input) = some use.input) :
    ∃ own, own.Sublist (content.filterMap (anthropicCall? toJson)) ∧
      List.Forall₂ (fun use call => use.Matches call ∧ fromStr call.arguments = some use.input)
        (content.filterMap anthropicUse?) own := by
  let call (use : ToolUse) : ToolCall := ⟨use.id, use.name, toJson use.input⟩
  refine ⟨(content.filterMap anthropicUse?).map call, ?_, ?_⟩
  · rw [List.map_filterMap]
    refine sublist_filterMap (fun block b hb => ?_) _
    cases block with
    | toolUse id name input => exact hb
    | _ => cases hb
  · refine List.forall₂_map_right_iff.mpr (List.forall₂_same.mpr fun use huse => ?_)
    exact ⟨⟨rfl, rfl⟩, hround use huse⟩

variable {toJson : Json → String} {fromStr : String → Option Json}
  {asString : Document → Option String} {value : Document → Json}

theorem answerCalls_bedrock (uuid : String) (output : BedrockResponse.ConverseOutput Document) :
    answerCalls (BedrockResponse.tryConvert toJson asString uuid output) =
      (output.contents.foldl (BedrockResponse.collectBlock toJson asString) ([], none)).1 :=
  (List.append_nil _).trans (getD_isEmpty _)

/-- **The arguments of a call of Bedrock never read as its input**: they are empty, or a string
without its quotes. -/
theorem fromStr_arguments_ne (hempty : fromStr "" = none)
    (hquoted : ∀ s t, fromStr s = some (.str t) → t.length + 2 ≤ s.length)
    (hstring : ∀ d s, asString d = some s → value d = .str s) (input : Document) :
    fromStr ((asString input).getD "") ≠ some (value input) := by
  intro h
  cases hasString : asString input with
  | none =>
    -- the empty text is no JSON
    rw [hasString, Option.getD_none, hempty] at h
    cases h
  | some s =>
    -- a text that reads as the string `s` has two quotes more than `s`
    rw [hasString, Option.getD_some, hstring input s hasString] at h
    exact absurd (hquoted s s h) (by simp)

/-- An answer of Bedrock with a tool call loses it. -/
theorem not_keepsCalls_bedrock (hempty : fromStr "" = none)
    (hquoted : ∀ s t, fromStr s = some (.str t) → t.length + 2 ≤ s.length)
    (hstring : ∀ d s, asString d = some s → value d = .str s)
    {contents : List (BedrockResponse.ContentBlock Document)} {toolUseId name : String}
    {input : Document} (hmem : .toolUse toolUseId name input ∈ contents) :
    ¬ KeepsCalls fromStr (contents.filterMap (bedrockUse? value))
      (contents.foldl (BedrockResponse.collectBlock toJson asString) ([], none)).1 := by
  rintro ⟨⟨own, hsublist, hcarried⟩, honce⟩
  have huse : ⟨toolUseId, name, value input⟩ ∈ contents.filterMap (bedrockUse? value) :=
    List.mem_filterMap.mpr ⟨_, hmem, rfl⟩
  obtain ⟨call, hcall, ⟨hmatches, harguments⟩⟩ := hcarried.exists_of_mem huse
  -- the call is the one that the loop made of the block
  have hmade : ⟨toolUseId, name, (asString input).getD ""⟩ ∈
      (contents.foldl (BedrockResponse.collectBlock toJson asString) ([], none)).1 :=
    BedrockResponse.mem_foldl_collectBlock hmem ([], none)
  -- and there is no other one with its id and its name
  obtain ⟨only, honly⟩ := List.length_eq_one_iff.mp (honce _ huse)
  have hunique : ∀ c ∈ (contents.foldl (BedrockResponse.collectBlock toJson asString) ([], none)).1,
      ToolUse.Matches ⟨toolUseId, name, value input⟩ c → c = only := by
    intro c hc hmatch
    refine List.mem_singleton.mp ?_
    rw [← honly]
    exact List.mem_filter.mpr ⟨hc, decide_eq_true hmatch⟩
  have hsame := (hunique call (hsublist.subset hcall) hmatches).trans
    (hunique _ hmade ⟨rfl, rfl⟩).symm
  rw [hsame] at harguments
  exact fromStr_arguments_ne hempty hquoted hstring input harguments

/-- **When the tool calls of an answer are kept**: those of Anthropic where they are told apart,
those of Bedrock never. -/
theorem toolCalls_iff (toJson : Json → String) (fromStr : String → Option Json)
    (asString : Document → Option String) (value : Document → Json) (uuid : String)
    (message : AnthropicStream.Message) (output : BedrockResponse.ConverseOutput Document)
    (hround : ∀ use ∈ message.content.filterMap anthropicUse?,
      fromStr (toJson use.input) = some use.input)
    (hempty : fromStr "" = none)
    (hquoted : ∀ s t, fromStr s = some (.str t) → t.length + 2 ≤ s.length)
    (hstring : ∀ d s, asString d = some s → value d = .str s) :
    (KeepsCalls fromStr (message.content.filterMap anthropicUse?)
        (answerCalls (AnthropicStream.tryConvert toJson message)) ↔
      ToldApart (message.content.filterMap anthropicUse?)
        (message.content.filterMap anthropicResult?)) ∧
    (KeepsCalls fromStr (output.contents.filterMap (bedrockUse? value))
        (answerCalls (BedrockResponse.tryConvert toJson asString uuid output)) ↔
      output.contents.filterMap (bedrockUse? value) = []) := by
  rw [answerCalls_anthropic, answerCalls_bedrock, ← once_iff_toldApart toJson]
  refine ⟨⟨KeepsCalls.once, fun honce => ⟨carried_anthropic hround, honce⟩⟩, fun hkeeps => ?_,
    fun hnone => ?_⟩
  -- no call of Bedrock can be read, so there must be none
  · refine List.filterMap_eq_nil_iff.mpr fun block hblock => ?_
    cases block with
    | toolUse toolUseId name input =>
      exact absurd hkeeps (not_keepsCalls_bedrock hempty hquoted hstring hblock)
    | _ => rfl
  · rw [hnone]
    exact ⟨⟨[], List.nil_sublist _, List.Forall₂.nil⟩, fun use huse => by cases huse⟩

end Bedrock

/-! ### A call without arguments, and one with some -/

/-- A reader of JSON that knows the empty object. -/
def readEmpty (s : String) : Option Json := if s = "\x7b\x7d" then some (.obj []) else none

theorem readEmpty_ne_str (s t : String) : readEmpty s ≠ some (.str t) := by
  unfold readEmpty
  split <;> simp

/-- The string in a document that is one. -/
def jsonString : Json → Option String
  | .str s => some s
  | _ => none

theorem eq_of_jsonString {d : Json} {s : String} (h : jsonString d = some s) : d = .str s := by
  cases d with
  | str t => exact congrArg Json.str (Option.some.inj h)
  | _ => cases h

/-- An answer of Bedrock with one tool call. -/
def asksForWeather : BedrockResponse.ConverseOutput Json where
  invokedModelId := none
  usage := none
  output := some (.message
    [.text "Let me see.", .toolUse "tooluse_1" "weather" (.obj [("city", .str "Paris")])])

/-- The call of a tool without arguments is kept by the one converter, the other one loses a
call. -/
theorem toolCalls_iff_now :
    KeepsCalls readEmpty [⟨"toolu_1", "now", .obj []⟩]
      (answerCalls (AnthropicStream.tryConvert (fun _ => "\x7b\x7d")
        { AnthropicStream.greeting none with content := [.toolUse "toolu_1" "now" (.obj [])] })) ∧
    ¬ KeepsCalls readEmpty (asksForWeather.contents.filterMap (bedrockUse? id))
      (answerCalls (BedrockResponse.tryConvert (fun _ => "\x7b\x7d") jsonString ""
        asksForWeather)) := by
  have hround : ∀ use ∈ [AnthropicStream.ContentBlock.toolUse "toolu_1" "now" (.obj [])].filterMap
      anthropicUse?, readEmpty "\x7b\x7d" = some use.input := by
    intro use huse
    rw [List.mem_singleton.mp huse]
    rfl
  obtain ⟨hanthropic, hbedrock⟩ := toolCalls_iff (fun _ => "\x7b\x7d") readEmpty jsonString id ""
    { AnthropicStream.greeting none with content := [.toolUse "toolu_1" "now" (.obj [])] }
    asksForWeather hround rfl (fun s t h => absurd h (readEmpty_ne_str s t))
    (fun d s h => eq_of_jsonString h)
  refine ⟨hanthropic.mpr ⟨by decide, fun use _ result hresult => by cases hresult⟩, ?_⟩
  intro hkeeps
  exact List.cons_ne_nil _ _ (hbedrock.mp hkeeps)

/-- **The arguments of a call of Bedrock are lost.** -/
theorem toolCalls_fails : ¬ ∀ (toJson : Json → String) (fromStr : String → Option Json)
    (asString : Json → Option String) (uuid : String)
    (output : BedrockResponse.ConverseOutput Json), fromStr "" = none →
    (∀ s t, fromStr s = some (.str t) → t.length + 2 ≤ s.length) →
    (∀ d s, asString d = some s → d = .str s) →
    KeepsCalls fromStr (output.contents.filterMap (bedrockUse? id))
      (answerCalls (BedrockResponse.tryConvert toJson asString uuid output)) := by
  intro h
  have hkeeps := h (fun _ => "\x7b\x7d") readEmpty jsonString "" asksForWeather rfl
    (fun s t hs => absurd hs (readEmpty_ne_str s t)) fun d s hs => eq_of_jsonString hs
  rw [answerCalls_bedrock] at hkeeps
  exact not_keepsCalls_bedrock rfl (fun s t hs => absurd hs (readEmpty_ne_str s t))
    (fun d s hs => eq_of_jsonString hs) (List.mem_cons_of_mem _ List.mem_cons_self) hkeeps

end AiGateway.Answers
