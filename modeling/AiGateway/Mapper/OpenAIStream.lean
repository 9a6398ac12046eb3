import AiGateway.Mapper.OpenAI

/-!
# Tool calls in the streams of OpenAI

The tool calls of a stream come in pieces, several of them in one chunk if the provider likes.
`try_convert_chunk` makes at most one event of a chunk, so that it has to leave out what does not
fit in one: it looks at one field of a chunk, and at one piece.

* `forall₂_flatMap_take_iff`: at every point of a stream there is what each chunk brings;
* `forall₂_chunkParts_iff`: the chunks of which nothing is lost and nothing is doubled;
* `stream_keeps_calls_iff`: the streams whose tool calls are kept at every point.
-/

namespace AiGateway.OpenAIConverter

open OpenAI Serde AnthropicStream

/-! ### The property -/

/-- A part of a tool call: its beginning, or more of its arguments. -/
inductive CallPart (Args : Type)
  | start (id name : String) (args : Args)
  | more (arguments : String)

/-- The part in a piece. -/
def piecePart (piece : ToolCallChunk) : Option (CallPart (Option String)) :=
  match startOf piece with
  | some (id, name, arguments) => some (.start id name arguments)
  | none => (piece.function.bind FunctionCallStream.arguments).map .more

/-- The parts in a choice of a chunk. -/
def choiceParts (choice : ChatChoiceStream) : List (CallPart (Option String)) :=
  (choice.delta.toolCalls.getD []).filterMap piecePart

/-- The choice that is looked at. -/
def firstChoice (chunk : ChatChunk) : List ChatChoiceStream := chunk.choices.take 1

/-- The parts in a chunk, of the choices that count. -/
def chunkParts (choicesOf : ChatChunk → List ChatChoiceStream) (chunk : ChatChunk) :
    List (CallPart (Option String)) :=
  (choicesOf chunk).flatMap choiceParts

def blockPart : ContentBlock → Option (CallPart Json)
  | .toolUse id name input => some (.start id name input)
  | _ => none

/-- The parts in an event. -/
def eventParts : StreamEvent → List (CallPart Json)
  | .messageStart message => message.content.filterMap blockPart
  | .contentBlockStart _ block => (blockPart block).toList
  | .contentBlockDelta _ (.inputJsonDelta partialJson) => [.more partialJson]
  | _ => []

section Property

variable (fromStr : String → Option Json)

/-- The parts in what is made of a chunk. -/
def convertedParts (chunk : ChatChunk) : List (CallPart Json) :=
  match tryConvertChunk fromStr chunk with
  | .ok (some event) => eventParts event
  | _ => []

/-- An input shows the arguments that a call begins with: they read as it, or it is empty as they
are. -/
def ShowsArguments : Option String → Json → Prop
  | none, input => input = .obj []
  | some arguments, input => fromStr arguments = some input ∨ arguments = "" ∧ input = .obj []

/-- The part of an event is that of a piece. -/
def PartShown : CallPart (Option String) → CallPart Json → Prop
  | .start id name arguments, .start id' name' input =>
    id' = id ∧ name' = name ∧ ShowsArguments fromStr arguments input
  | .more arguments, .more arguments' => arguments' = arguments
  | _, _ => False

/-- **Tool calls are kept in a stream**: at every point the events have had the beginning of each
call that was begun and each piece of arguments, in their order and once. -/
def CallsKept (choicesOf : ChatChunk → List ChatChoiceStream) (chunks : List ChatChunk) : Prop :=
  ∀ n, List.Forall₂ (PartShown fromStr) ((chunks.take n).flatMap (chunkParts choicesOf))
    ((chunks.take n).flatMap (convertedParts fromStr))

/-- What `serde_json` makes of no text, and of an empty object. -/
structure ReadsJson : Prop where
  empty : fromStr "" = none
  object : fromStr "{}" = some (.obj [])

/-- A choice of which one event can show all parts. -/
inductive Convertible (choice : ChatChoiceStream) : Prop
  | noCalls : choiceParts choice = [] → Convertible choice
  /-- With the role: calls begin, and their arguments begin later. -/
  | withRole : choice.delta.role = some .assistant ∨ choice.delta.role = some .user →
      (∀ part ∈ choiceParts choice, ∃ id name, part = .start id name (some "")) →
      Convertible choice
  /-- Otherwise the first piece has the only part. -/
  | alone (piece : ToolCallChunk) (rest : List ToolCallChunk) : choice.delta.role = none →
      choice.finishReason = none → choice.delta.toolCalls = some (piece :: rest) →
      rest.filterMap piecePart = [] →
      (∀ id name arguments, piecePart piece = some (.start id name (some arguments)) →
        arguments = "" ∨ (fromStr arguments).isSome = true) →
      Convertible choice

end Property

/-! ### Points of a stream -/

section Points

variable {α β γ : Type} {R : α → β → Prop} {f : γ → List α} {g : γ → List β}

/-- The rest is related if the front is and the whole is. -/
theorem forall₂_of_append {a a' : List α} {b b' : List β} (h : List.Forall₂ R (a ++ a') (b ++ b'))
    (hfront : List.Forall₂ R a b) : List.Forall₂ R a' b' := by
  induction hfront with
  | nil => exact h
  | cons _ _ ih =>
    rw [List.cons_append, List.cons_append, List.forall₂_cons] at h
    exact ih h.2

theorem forall₂_append {a a' : List α} {b b' : List β} (h : List.Forall₂ R a b)
    (h' : List.Forall₂ R a' b') : List.Forall₂ R (a ++ a') (b ++ b') := by
  induction h with
  | nil => exact h'
  | cons hfirst _ ih => exact .cons hfirst ih

/-- **At every point** two sequences of pieces are related exactly when the pieces of each element
are. -/
theorem forall₂_flatMap_take_iff {l : List γ} :
    (∀ n, List.Forall₂ R ((l.take n).flatMap f) ((l.take n).flatMap g)) ↔
      ∀ c ∈ l, List.Forall₂ R (f c) (g c) := by
  induction l with
  | nil => simp
  | cons c l ih =>
    rw [List.forall_mem_cons, ← ih]
    constructor
    · intro h
      -- the first element is the sequence up to there
      have hfirst : List.Forall₂ R (f c) (g c) := by
        have hone := h 1
        rwa [List.take_succ_cons, List.take_zero, List.flatMap_singleton,
          List.flatMap_singleton] at hone
      refine ⟨hfirst, fun n => ?_⟩
      have hnext := h (n + 1)
      rw [List.take_succ_cons, List.flatMap_cons, List.flatMap_cons] at hnext
      exact forall₂_of_append hnext hfirst
    · rintro ⟨hfirst, hrest⟩ n
      cases n with
      | zero => exact .nil
      | succ n =>
        rw [List.take_succ_cons, List.flatMap_cons, List.flatMap_cons]
        exact forall₂_append hfirst (hrest n)

end Points

/-! ### The chunk with the role -/

section Role

variable {fromStr : String → Option Json}

/-- The parts of the blocks that a piece makes in the chunk with the role. -/
def startParts (fromStr : String → Option Json) (piece : ToolCallChunk) : List (CallPart Json) :=
  (startBlocks fromStr piece).filterMap blockPart

theorem startParts_of_start {piece : ToolCallChunk} {id name : String}
    {arguments : Option String} (h : startOf piece = some (id, name, arguments)) :
    startParts fromStr piece =
      ((readInput fromStr arguments).map (CallPart.start id name)).toList ++
        [.start id name (.obj [])] := by
  unfold startParts startBlocks
  rw [h]
  dsimp only
  cases readInput fromStr arguments with
  | none => rfl
  | some input => rfl

theorem startParts_of_none {piece : ToolCallChunk} (h : startOf piece = none) :
    startParts fromStr piece = [] := by
  unfold startParts startBlocks
  rw [h]
  rfl

/-- A piece begins a call, or has more of its arguments, or has no part. -/
theorem piecePart_cases (piece : ToolCallChunk) :
    (∃ id name arguments, startOf piece = some (id, name, arguments) ∧
      piecePart piece = some (.start id name arguments)) ∨
    startOf piece = none ∧ ((∃ arguments, piecePart piece = some (.more arguments) ∧
      piece.function.bind FunctionCallStream.arguments = some arguments) ∨
      piecePart piece = none ∧ piece.function.bind FunctionCallStream.arguments = none) := by
  unfold piecePart
  cases hstart : startOf piece with
  | some found =>
    obtain ⟨id, name, arguments⟩ := found
    exact Or.inl ⟨id, name, arguments, rfl, rfl⟩
  | none =>
    refine Or.inr ⟨rfl, ?_⟩
    cases piece.function.bind FunctionCallStream.arguments with
    | some arguments => exact Or.inl ⟨arguments, rfl, rfl⟩
    | none => exact Or.inr ⟨rfl, rfl⟩

/-- Only beginnings are shown there. -/
theorem isStart_of_mem_startParts {pieces : List ToolCallChunk} {part : CallPart Json}
    (h : part ∈ pieces.flatMap (startParts fromStr)) : ∃ id name input,
    part = .start id name input := by
  obtain ⟨piece, -, hpart⟩ := List.mem_flatMap.mp h
  obtain ⟨id, name, arguments, hstart, -⟩ | ⟨hstart, -⟩ := piecePart_cases piece
  · rw [startParts_of_start hstart, List.mem_append] at hpart
    obtain hpart | hpart := hpart
    · obtain ⟨input, -, rfl⟩ := Option.map_eq_some_iff.mp (Option.mem_toList.mp hpart)
      exact ⟨id, name, input, rfl⟩
    · exact ⟨id, name, .obj [], List.mem_singleton.mp hpart⟩
  · rw [startParts_of_none hstart] at hpart
    cases hpart

/-- What is shown as a beginning is one. -/
theorem isStart_of_forall₂ {parts : List (CallPart (Option String))}
    {shown : List (CallPart Json)} (h : List.Forall₂ (PartShown fromStr) parts shown)
    (hshown : ∀ part ∈ shown, ∃ id name input, part = .start id name input) :
    ∀ part ∈ parts, ∃ id name arguments, part = .start id name arguments := by
  induction h with
  | nil => exact fun part hpart => absurd hpart List.not_mem_nil
  | @cons part part' parts shown hfirst _ ih =>
    rw [List.forall_mem_cons] at hshown ⊢
    refine ⟨?_, ih hshown.2⟩
    obtain ⟨id, name, input, rfl⟩ := hshown.1
    cases part with
    | start id name arguments => exact ⟨id, name, arguments, rfl⟩
    | more arguments => cases hfirst

/-- No beginning is without a block. -/
theorem length_parts_le {pieces : List ToolCallChunk}
    (h : ∀ part ∈ pieces.filterMap piecePart, ∃ id name arguments,
      part = .start id name arguments) :
    (pieces.filterMap piecePart).length ≤ (pieces.flatMap (startParts fromStr)).length := by
  induction pieces with
  | nil => exact le_refl _
  | cons piece pieces ih =>
    rw [List.filterMap_cons_toList] at h ⊢
    rw [List.flatMap_cons, List.length_append, List.length_append]
    have hrest := ih fun part hpart => h part (List.mem_append_right _ hpart)
    refine Nat.add_le_add ?_ hrest
    obtain ⟨id, name, arguments, hstart, hpart⟩ | ⟨-, ⟨arguments, hpart, -⟩ | ⟨hpart, -⟩⟩ :=
      piecePart_cases piece
    · rw [hpart, startParts_of_start hstart, List.length_append]
      exact Nat.le_add_left 1 _
    · -- it would be no beginning
      obtain ⟨id, name, arguments', heq⟩ := h (.more arguments)
        (List.mem_append_left _ (by rw [hpart]; exact List.mem_singleton_self _))
      cases heq
    · rw [hpart]
      exact Nat.zero_le _

/-- An empty object shows the arguments of a call, though they cannot be read, only if these are
empty. -/
theorem eq_empty_of_showsArguments (hjson : ReadsJson fromStr) {arguments : Option String}
    (hnone : readInput fromStr arguments = none)
    (hshows : ShowsArguments fromStr arguments (.obj [])) : arguments = some "" := by
  cases arguments with
  | none =>
    have hobject : readInput fromStr none = some (.obj []) := hjson.object
    rw [hobject] at hnone
    cases hnone
  | some arguments =>
    obtain hshows | ⟨rfl, -⟩ := hshows
    · have hsome : readInput fromStr (some arguments) = some (.obj []) := hshows
      rw [hsome] at hnone
      cases hnone
    · rfl

/-- A call whose arguments can be read has two blocks, and one of them is too many: the calls
after it have blocks of their own. -/
theorem readInput_eq_none_of_forall₂ {piece : ToolCallChunk} {pieces : List ToolCallChunk}
    {id name : String} {arguments : Option String}
    (hstart : startOf piece = some (id, name, arguments))
    (h : List.Forall₂ (PartShown fromStr)
      (.start id name arguments :: pieces.filterMap piecePart)
      ((piece :: pieces).flatMap (startParts fromStr))) : readInput fromStr arguments = none := by
  have hstarts := isStart_of_forall₂ h fun part hpart => isStart_of_mem_startParts hpart
  have hle := @length_parts_le fromStr pieces fun part hpart =>
    hstarts part (List.mem_cons_of_mem _ hpart)
  cases hinput : readInput fromStr arguments with
  | none => rfl
  | some input =>
    have hlength := h.length_eq
    rw [List.flatMap_cons, startParts_of_start hstart, hinput] at hlength
    simp only [Option.map_some, Option.toList_some, List.length_append, List.length_cons,
      List.length_nil] at hlength
    omega

/-- **The chunk with the role** shows the beginnings of calls whose arguments are still empty.
Others get two blocks, and more arguments get none. -/
theorem forall₂_startParts_iff (hjson : ReadsJson fromStr) {pieces : List ToolCallChunk} :
    List.Forall₂ (PartShown fromStr) (pieces.filterMap piecePart)
        (pieces.flatMap (startParts fromStr)) ↔
      ∀ part ∈ pieces.filterMap piecePart, ∃ id name, part = .start id name (some "") := by
  -- by induction on the pieces, of which each begins a call, carries arguments or says nothing
  induction pieces with
  | nil => exact iff_of_true .nil fun part hpart => absurd hpart List.not_mem_nil
  | cons piece pieces ih =>
    obtain ⟨id, name, arguments, hstart, hpart⟩ | ⟨hstart, ⟨arguments, hpart, -⟩ | ⟨hpart, -⟩⟩ :=
      piecePart_cases piece
    · -- a beginning
      rw [List.filterMap_cons_some hpart, List.forall_mem_cons, ← ih]
      constructor
      · intro h
        have hnone := readInput_eq_none_of_forall₂ hstart h
        rw [List.flatMap_cons, startParts_of_start hstart, hnone] at h
        obtain ⟨⟨-, -, hshows⟩, hrest⟩ := List.forall₂_cons.mp h
        obtain rfl := eq_empty_of_showsArguments hjson hnone hshows
        exact ⟨⟨id, name, rfl⟩, hrest⟩
      · rintro ⟨⟨id', name', heq⟩, hrest⟩
        cases heq
        rw [List.flatMap_cons, startParts_of_start hstart,
          show readInput fromStr (some "") = none from hjson.empty]
        exact .cons ⟨rfl, rfl, Or.inr ⟨rfl, rfl⟩⟩ hrest
    · -- more arguments, which have no block
      rw [List.filterMap_cons_some hpart]
      refine iff_of_false (fun h => ?_) fun h => ?_
      · obtain ⟨id, name, arguments', heq⟩ := isStart_of_forall₂ h
          (fun part hmem => isStart_of_mem_startParts hmem) _ List.mem_cons_self
        cases heq
      · obtain ⟨id, name, heq⟩ := h _ List.mem_cons_self
        cases heq
    · rw [List.filterMap_cons_none hpart, List.flatMap_cons, startParts_of_none hstart,
        List.nil_append, ih]

end Role

/-! ### A chunk -/

section Chunk

variable {fromStr : String → Option Json} {chunk : ChatChunk} {choice : ChatChoiceStream}
  {others : List ChatChoiceStream}

/-- The parts of the text in front of the calls: there are none. -/
theorem eventParts_messageStart (role : MessageRole) :
    eventParts (messageStart fromStr chunk choice.delta role) =
      (choice.delta.toolCalls.getD []).flatMap (startParts fromStr) := by
  show List.filterMap blockPart ((choice.delta.content.map ContentBlock.text).toList ++
    (choice.delta.toolCalls.getD []).flatMap (startBlocks fromStr)) = _
  have htext : ((choice.delta.content.map ContentBlock.text).toList).filterMap blockPart = [] := by
    cases choice.delta.content with
    | none => rfl
    | some text => rfl
  rw [List.filterMap_append, htext, List.nil_append, List.filterMap_flatMap]
  rfl

/-- A text has no part. -/
theorem eventParts_of_textEvent {event : StreamEvent} (h : textEvent choice.delta = some event) :
    eventParts event = [] := by
  obtain ⟨text, -, rfl⟩ := Option.map_eq_some_iff.mp h
  rfl

/-- With the role, there are the blocks of the calls. -/
theorem convertedParts_withRole (hchoices : chunk.choices = choice :: others)
    (hrole : choice.delta.role = some .assistant ∨ choice.delta.role = some .user) :
    convertedParts fromStr chunk =
      (choice.delta.toolCalls.getD []).flatMap (startParts fromStr) := by
  unfold convertedParts tryConvertChunk
  rw [hchoices]
  dsimp only
  obtain hrole | hrole := hrole
  · rw [hrole]
    exact eventParts_messageStart _
  · rw [hrole]
    exact eventParts_messageStart _

/-- Another role is an invalid request, and a reason to finish takes the place of calls. -/
theorem convertedParts_none (hchoices : chunk.choices = choice :: others)
    (hrole : ¬ (choice.delta.role = some .assistant ∨ choice.delta.role = some .user))
    (hlater : ¬ (choice.delta.role = none ∧ choice.finishReason = none)) :
    convertedParts fromStr chunk = [] := by
  unfold convertedParts tryConvertChunk
  rw [hchoices]
  dsimp only
  cases hsome : choice.delta.role with
  | none =>
    cases hfinish : choice.finishReason with
    | none => exact absurd ⟨hsome, hfinish⟩ hlater
    | some finishReason => rfl
  | some role =>
    cases role with
    | assistant => exact absurd (Or.inl hsome) hrole
    | user => exact absurd (Or.inr hsome) hrole
    | _ => rfl

/-- The parts of what is made of the first piece, or of a text. -/
theorem convertedParts_alone (hchoices : chunk.choices = choice :: others)
    (hrole : choice.delta.role = none) (hfinish : choice.finishReason = none) :
    convertedParts fromStr chunk =
      ((((choice.delta.toolCalls.getD []).head?).bind (toolEvent fromStr)).map eventParts).getD
        [] := by
  unfold convertedParts tryConvertChunk
  rw [hchoices]
  dsimp only
  rw [hrole, hfinish]
  dsimp only
  cases ((choice.delta.toolCalls.getD []).head?).bind (toolEvent fromStr) with
  | some event => rfl
  | none =>
    rw [Option.none_or]
    cases htext : textEvent choice.delta with
    | none => rfl
    | some event => exact eventParts_of_textEvent htext

/-- What is not converted must have no parts. -/
theorem forall₂_nil_iff_convertible
    (hrole : ¬ (choice.delta.role = some .assistant ∨ choice.delta.role = some .user))
    (hlater : ¬ (choice.delta.role = none ∧ choice.finishReason = none)) :
    List.Forall₂ (PartShown fromStr) (choiceParts choice) [] ↔ Convertible fromStr choice := by
  rw [List.forall₂_nil_right_iff]
  refine ⟨.noCalls, fun h => ?_⟩
  cases h with
  | noCalls hnone => exact hnone
  | withRole hsome => exact absurd hsome hrole
  | alone piece rest hnone hfinish => exact absurd ⟨hnone, hfinish⟩ hlater

/-- With a role, the choice is converted as its beginnings are. -/
theorem forall₂_startParts_iff_convertible (hjson : ReadsJson fromStr)
    (hrole : choice.delta.role = some .assistant ∨ choice.delta.role = some .user) :
    List.Forall₂ (PartShown fromStr) (choiceParts choice)
        ((choice.delta.toolCalls.getD []).flatMap (startParts fromStr)) ↔
      Convertible fromStr choice := by
  rw [choiceParts, forall₂_startParts_iff hjson]
  constructor
  · exact .withRole hrole
  · intro h
    cases h with
    | noCalls hnone =>
      intro part hpart
      rw [← choiceParts, hnone] at hpart
      cases hpart
    | withRole _ hparts => exact hparts
    | alone piece rest hnone =>
      obtain hrole | hrole := hrole
      · rw [hrole] at hnone
        cases hnone
      · rw [hrole] at hnone
        cases hnone

/-- The input of a block shows the arguments exactly when they are empty, or can be read. -/
theorem showsArguments_iff (hjson : ReadsJson fromStr) (arguments : Option String) :
    ShowsArguments fromStr arguments ((readInput fromStr arguments).getD (.obj [])) ↔
      ∀ text, arguments = some text → text = "" ∨ (fromStr text).isSome = true := by
  cases arguments with
  | none =>
    rw [show readInput fromStr none = some (.obj []) from hjson.object]
    exact iff_of_true rfl fun text htext => by cases htext
  | some text =>
    show fromStr text = some ((fromStr text).getD (.obj [])) ∨
      text = "" ∧ (fromStr text).getD (.obj []) = .obj [] ↔ _
    rw [← show text = "" ∨ (fromStr text).isSome = true ↔ ∀ text', some text = some text' →
        text' = "" ∨ (fromStr text').isSome = true from
      ⟨fun h text' heq => Option.some.inj heq ▸ h, fun h => h text rfl⟩]
    cases hread : fromStr text with
    | none =>
      rw [Option.getD_none]
      exact ⟨fun h => h.elim (fun h => by cases h) fun h => Or.inl h.1,
        fun h => h.elim (fun h => Or.inr ⟨h, rfl⟩) fun h => by cases h⟩
    | some input => exact iff_of_true (Or.inl rfl) (Or.inr rfl)

/-- Of several pieces the first is shown. -/
theorem forall₂_toolEvent_iff (hjson : ReadsJson fromStr) {piece : ToolCallChunk}
    {rest : List ToolCallChunk} :
    List.Forall₂ (PartShown fromStr) ((piece :: rest).filterMap piecePart)
        (((toolEvent fromStr piece).map eventParts).getD []) ↔
      rest.filterMap piecePart = [] ∧
        ∀ id name arguments, piecePart piece = some (.start id name (some arguments)) →
          arguments = "" ∨ (fromStr arguments).isSome = true := by
  unfold toolEvent
  obtain ⟨id, name, arguments, hstart, hpart⟩ |
    ⟨hstart, ⟨arguments, hpart, hmore⟩ | ⟨hpart, hmore⟩⟩ := piecePart_cases piece
  -- a beginning, whose arguments have to be JSON to get into its block
  · rw [hstart, List.filterMap_cons_some hpart]
    show List.Forall₂ (PartShown fromStr) (_ :: _) [.start id name _] ↔ _
    rw [List.forall₂_cons, List.forall₂_nil_right_iff, and_comm, hpart]
    refine and_congr_right fun _ => ?_
    show id = id ∧ name = name ∧ ShowsArguments fromStr arguments _ ↔ _
    rw [and_iff_right rfl, and_iff_right rfl, showsArguments_iff hjson]
    constructor
    · rintro h id' name' text heq
      cases heq
      exact h text rfl
    · rintro h text rfl
      exact h id name text rfl
  · rw [hstart, List.filterMap_cons_some hpart, hmore]
    show List.Forall₂ (PartShown fromStr) (_ :: _) [.more arguments] ↔ _
    rw [List.forall₂_cons, List.forall₂_nil_right_iff, and_comm, hpart]
    -- more arguments are shown as they are
    refine and_congr_right fun _ => iff_of_true rfl fun id name text heq => ?_
    cases heq
  · rw [hstart, List.filterMap_cons_none hpart, hmore]
    show List.Forall₂ (PartShown fromStr) _ [] ↔ _
    rw [List.forall₂_nil_right_iff, hpart]
    refine (and_iff_left fun id name text heq => ?_).symm
    cases heq

/-- A choice without pieces has nothing to show. -/
theorem convertible_of_noPieces (h : choice.delta.toolCalls.getD [] = []) :
    choiceParts choice = [] ∧ Convertible fromStr choice := by
  have hparts : choiceParts choice = [] := by
    unfold choiceParts
    rw [h]
    rfl
  exact ⟨hparts, .noCalls hparts⟩

/-- A choice without a role whose calls are `piece` and `rest` is converted if only `piece` has
a part. -/
theorem convertible_alone_iff {piece : ToolCallChunk} {rest : List ToolCallChunk}
    (hrole : choice.delta.role = none) (hfinish : choice.finishReason = none)
    (htools : choice.delta.toolCalls = some (piece :: rest)) :
    Convertible fromStr choice ↔ rest.filterMap piecePart = [] ∧
      ∀ id name arguments, piecePart piece = some (.start id name (some arguments)) →
        arguments = "" ∨ (fromStr arguments).isSome = true := by
  constructor
  · intro h
    cases h with
    | noCalls hnone =>
      rw [choiceParts, htools, Option.getD_some, List.filterMap_cons_toList] at hnone
      obtain ⟨hfirst, hrest⟩ := List.append_eq_nil_iff.mp hnone
      refine ⟨hrest, fun id name text heq => ?_⟩
      rw [heq] at hfirst
      cases hfirst
    -- there is no role
    | withRole hsome =>
      rw [hrole] at hsome
      rcases hsome with hsome | hsome
      · cases hsome
      · cases hsome
    | alone piece' rest' _ _ htools' hrest hread =>
      rw [htools] at htools'
      cases htools'
      exact ⟨hrest, hread⟩
  · rintro ⟨hrest, hread⟩
    exact .alone piece rest hrole hfinish htools hrest hread

/-- Without a role or a reason to finish, the choice is converted as its first piece is. -/
theorem forall₂_alone_iff (hjson : ReadsJson fromStr) (hrole : choice.delta.role = none)
    (hfinish : choice.finishReason = none) :
    List.Forall₂ (PartShown fromStr) (choiceParts choice)
        ((((choice.delta.toolCalls.getD []).head?).bind (toolEvent fromStr)).map eventParts |>.getD
          []) ↔
      Convertible fromStr choice := by
  cases htools : choice.delta.toolCalls with
  | none =>
    obtain ⟨hparts, hconvertible⟩ := @convertible_of_noPieces fromStr choice (by rw [htools]; rfl)
    rw [hparts]
    exact iff_of_true .nil hconvertible
  | some pieces =>
    cases pieces with
    | nil =>
      obtain ⟨hparts, hconvertible⟩ := @convertible_of_noPieces fromStr choice (by rw [htools]; rfl)
      rw [hparts]
      exact iff_of_true .nil hconvertible
    | cons piece rest =>
      rw [convertible_alone_iff hrole hfinish htools, choiceParts, htools]
      exact forall₂_toolEvent_iff hjson

/-- **A chunk** loses and doubles nothing of its first choice exactly when one event can show
it. -/
theorem forall₂_chunkParts_iff (hjson : ReadsJson fromStr) (chunk : ChatChunk) :
    List.Forall₂ (PartShown fromStr) (chunkParts firstChoice chunk)
        (convertedParts fromStr chunk) ↔
      ∀ choice ∈ firstChoice chunk, Convertible fromStr choice := by
  cases hchoices : chunk.choices with
  | nil =>
    unfold chunkParts convertedParts tryConvertChunk firstChoice
    rw [hchoices]
    exact iff_of_true .nil fun choice hchoice => absurd hchoice List.not_mem_nil
  | cons choice others =>
    have hfirst : firstChoice chunk = [choice] := by
      unfold firstChoice
      rw [hchoices, List.take_succ_cons, List.take_zero]
    rw [chunkParts, hfirst, List.flatMap_singleton, List.forall_mem_singleton]
    -- a choice is shown by its start, by one delta or not at all
    by_cases hrole : choice.delta.role = some .assistant ∨ choice.delta.role = some .user
    · rw [convertedParts_withRole hchoices hrole]
      exact forall₂_startParts_iff_convertible hjson hrole
    · by_cases hlater : choice.delta.role = none ∧ choice.finishReason = none
      · rw [convertedParts_alone hchoices hlater.1 hlater.2]
        exact forall₂_alone_iff hjson hlater.1 hlater.2
      · rw [convertedParts_none hchoices hrole hlater]
        exact forall₂_nil_iff_convertible hrole hlater

/-- What the other choices have is lost, unless they have nothing. -/
theorem forall₂_choices_iff
    (h : List.Forall₂ (PartShown fromStr) (chunkParts firstChoice chunk)
      (convertedParts fromStr chunk)) :
    List.Forall₂ (PartShown fromStr) (chunkParts ChatChunk.choices chunk)
        (convertedParts fromStr chunk) ↔
      ∀ choice ∈ chunk.choices.tail, choiceParts choice = [] := by
  have hparts : chunkParts ChatChunk.choices chunk =
      chunkParts firstChoice chunk ++ chunk.choices.tail.flatMap choiceParts := by
    rw [chunkParts, chunkParts, firstChoice, ← List.flatMap_append, ← List.drop_one,
      List.take_append_drop]
  rw [hparts, ← List.flatMap_eq_nil_iff]
  constructor
  · intro hall
    have hlength := hall.length_eq
    rw [List.length_append, h.length_eq] at hlength
    exact List.eq_nil_of_length_eq_zero (Nat.add_eq_left.mp hlength)
  · intro hnone
    rw [hnone, List.append_nil]
    exact h

end Chunk

/-! ### A stream -/

/-- **When the tool calls of a stream are kept.** Of no chunk may there be more than one event can
show: beginnings with the role have empty arguments, and without it a chunk has one part, in its
first piece, and no reason to finish. What other choices have is lost. -/
theorem stream_keeps_calls_iff (fromStr : String → Option Json) (hjson : ReadsJson fromStr)
    (chunks : List ChatChunk) :
    (CallsKept fromStr firstChoice chunks ↔
      ∀ chunk ∈ chunks, ∀ choice ∈ firstChoice chunk, Convertible fromStr choice) ∧
    (CallsKept fromStr firstChoice chunks ∧ CallsKept fromStr ChatChunk.choices chunks ↔
      ∀ chunk ∈ chunks, (∀ choice ∈ firstChoice chunk, Convertible fromStr choice) ∧
        ∀ choice ∈ chunk.choices.tail, choiceParts choice = []) := by
  unfold CallsKept
  rw [forall₂_flatMap_take_iff, forall₂_flatMap_take_iff, ← forall₂_and]
  refine ⟨forall₂_congr fun chunk _ => forall₂_chunkParts_iff hjson chunk,
    forall₂_congr fun chunk _ => ?_⟩
  rw [← forall₂_chunkParts_iff hjson chunk]
  exact and_congr_right forall₂_choices_iff

/-- A reader of empty objects. -/
def readEmpty (text : String) : Option Json := if text = "{}" then some (.obj []) else none

theorem readEmpty_readsJson : ReadsJson readEmpty := ⟨by decide, rfl⟩

/-- A chunk of the one choice of a stream. -/
def callsChunk (role : Option ResponseRole) (calls : List ToolCallChunk) : ChatChunk :=
  ⟨"chatcmpl-1", [⟨0, ⟨role, none, some calls, none⟩, none⟩], 0, "gpt-4o",
    "chat.completion.chunk", none⟩

/-- One call, a piece at a time. -/
theorem stream_keeps_calls_iff_weather : CallsKept readEmpty firstChoice
    [callsChunk (some .assistant) [⟨0, some "call_1", some ⟨some "weather", some ""⟩⟩],
      callsChunk none [⟨0, none, some ⟨none, some "{}"⟩⟩]] := by
  refine (stream_keeps_calls_iff readEmpty readEmpty_readsJson _).1.mpr ?_
  rw [List.forall_mem_cons, List.forall_mem_singleton]
  refine ⟨fun choice hchoice => ?_, fun choice hchoice => ?_⟩
  · rw [List.mem_singleton.mp hchoice]
    refine .withRole (Or.inl rfl) fun part hpart => ?_
    rw [List.mem_singleton.mp hpart]
    exact ⟨"call_1", "weather", rfl⟩
  · rw [List.mem_singleton.mp hchoice]
    refine .alone _ [] rfl rfl rfl rfl fun id name arguments hpart => ?_
    cases hpart

/-- **A call that begins with the role is doubled**, where its arguments are JSON: the block for
those that are not is made in every case. -/
theorem stream_keeps_calls_fails : ¬ ∀ fromStr : String → Option Json, ReadsJson fromStr →
    ∀ chunks : List ChatChunk, CallsKept fromStr firstChoice chunks := by
  intro h
  have hone := (h readEmpty readEmpty_readsJson [callsChunk (some .assistant)
    [⟨0, some "call_1", some ⟨some "weather", some "{}"⟩⟩]] 1).length_eq
  exact absurd hone (by decide)

end AiGateway.OpenAIConverter
