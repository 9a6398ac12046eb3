import AiGateway.Framework.Base64
import AiGateway.Framework.Bytes
import AiGateway.Mapper.Kept

/-!
# The images of a conversion

What becomes of the images in a chat request when it is converted for Anthropic. The type of an
image is inferred from the first 64 bytes of what follows the first comma of its URL, decoded into
a buffer of 48 bytes. The buffer is large enough for them, and base64 can be cut there. Any
other text may have a character across the cut, and then slicing it panics; and the bytes that are
left may be too few to tell the type of the image.

The decoder is that of the `base64` crate. What `infer` recognises is a parameter.

* `sources_tryConvert`: the images of a converted request, in order;
* `convertImage_of_encoded`: the block of an image is the image if its front tells its type;
* `converted_keeps_images_iff`: no conversion panics or loses an image exactly if no URL has a
  character across the cut and the types of images are told early.
-/

namespace AiGateway

open Conversation OpenAI Serde

/-! ### Images -/

/-- The URL of the image in a part of a message. -/
def OpenAI.UserContentPart.imageUrl? : UserContentPart → Option String
  | .imageUrl url => some url
  | _ => none

/-- The URLs of the images in a message: only users send some. -/
def OpenAI.Message.imageUrls : OpenAI.Message → List String
  | .user (.array parts) => parts.filterMap UserContentPart.imageUrl?
  | _ => []

def OpenAI.ChatRequest.imageUrls (request : ChatRequest) : List String :=
  request.messages.flatMap OpenAI.Message.imageUrls

namespace Anthropic

def ContentBlock.source? : ContentBlock → Option ImageSource
  | .image source => some source
  | _ => none

def MessageContent.sources : MessageContent → List ImageSource
  | .text _ => []
  | .blocks content => content.filterMap ContentBlock.source?

/-- The images of a converted request. -/
def CreateMessageParams.sources (params : CreateMessageParams) : List ImageSource :=
  params.messages.flatMap fun message => message.content.sources

/-- What follows the first comma of a URL. -/
def payload (url : String) : Option (List Char) := (Text.splitFirst ',' url.toList).map Prod.snd

/-- The image that a data URI encodes: it is marked as base64, its payload is base64, and what
this decodes into is recognised as an image. -/
def encoded (infer : List UInt8 → Option String) (url : String) : Option ImageSource :=
  match Text.splitFirst ',' url.toList with
  | none => none
  | some (header, b64) =>
    if "data:".toList.isPrefixOf header ∧ ";base64".toList.isSuffixOf header then
      ((Base64.decode (Text.utf8 b64)).bind infer).bind fun mimeType =>
        if "image/".toList.isPrefixOf mimeType.toList then
          some ⟨"base64", mimeType, String.ofList b64⟩
        else none
    else none

/-- The `base64` crate: the standard alphabet, into a buffer of 48 bytes. -/
def ImageLib.Standard (images : ImageLib) : Prop := images.decodeSlice = Base64.decodeSlice 48

/-- **Kept images.** The conversion does not panic, and what it makes of the request has every
image that is encoded there, in order. -/
structure ImagesKept (infer : List UInt8 → Option String) (request : ChatRequest)
    (outcome : Except ConvertError CreateMessageParams) : Prop where
  noPanic : outcome ≠ .error .panicked
  kept : ∀ out, outcome = .ok out →
    (request.imageUrls.filterMap (encoded infer)).Sublist out.sources

/-- The type inference works on a URL: no character of the payload lies across its byte 64, and
the front of an encoded image, as far as it is decoded, is recognised as the whole is. -/
structure ReadableUrl (infer : List UInt8 → Option String) (url : String) : Prop where
  cut : ¬ "http".toList.isPrefixOf url.toList → ∀ b64, payload url = some b64 →
    ∃ front, front <+: b64 ∧ Text.byteLen front = min (Text.byteLen b64) 64
  told : ∀ source, encoded infer url = some source →
    ∀ bytes, Base64.decode (Text.utf8 source.data.toList) = some bytes →
      infer (bytes.take 48) = some source.mediaType

/-- The model of the request can be mapped, so that its messages are converted. -/
def Maps {Date : Type} (chrono : Chrono Date) (mapper : ModelMapper) (request : ChatRequest) :
    Prop :=
  ∃ source target, ModelId.fromStr chrono request.model.toList = .ok source ∧
    mapModel chrono mapper source .anthropic = .ok target

/-! ### One image -/

section Image

variable {images : ImageLib} {url : String}

/-- The type of an image with this payload, as it is inferred. -/
def inferred (images : ImageLib) (b64 : List Char) : Except ConvertError (Option String) :=
  match Text.sliceTo (min (Text.byteLen b64) 64) b64 with
  | none => .error .panicked
  | some front => .ok ((images.decodeSlice (Text.utf8 front)).bind images.infer)

theorem mimeFromDataUri_eq (images : ImageLib) (url : String) :
    mimeFromDataUri images url.toList =
      match payload url with
      | none => .ok none
      | some b64 => inferred images b64 := by
  unfold mimeFromDataUri payload
  cases Text.splitFirst ',' url.toList with
  | none => rfl
  | some split =>
    obtain ⟨header, b64⟩ := split
    show (match Text.sliceTo (min (Text.byteLen b64) 64) b64 with
      | none => _
      | some front => _) = inferred images b64
    unfold inferred
    cases Text.sliceTo (min (Text.byteLen b64) 64) b64 with
    | none => rfl
    | some front =>
      show Except.ok ((images.decodeSlice (String.ofList front).toUTF8.toList).bind _) = _
      rw [Text.toUTF8_toList]

/-- A URL that does not begin as one of the web is read. -/
theorem convertImage_eq (h : ¬ "http".toList.isPrefixOf url.toList) :
    convertImage images url =
      match payload url with
      | none => .ok none
      | some b64 => (inferred images b64).map fun mime => mime.map fun mimeType =>
          .image ⟨"base64", mimeType, String.ofList b64⟩ := by
  unfold convertImage
  rw [if_neg h, mimeFromDataUri_eq]
  unfold payload
  cases Text.splitFirst ',' url.toList with
  | none => rfl
  | some split =>
    obtain ⟨header, b64⟩ := split
    simp only [Option.map_some]
    cases inferred images b64 with
    | error e => rfl
    | ok mime => cases mime <;> rfl

theorem inferred_ne_panicked_iff {b64 : List Char} :
    inferred images b64 ≠ .error .panicked ↔
      ∃ front, front <+: b64 ∧ Text.byteLen front = min (Text.byteLen b64) 64 := by
  rw [← Text.isSome_sliceTo_iff]
  unfold inferred
  cases Text.sliceTo (min (Text.byteLen b64) 64) b64 with
  | none => exact iff_of_false (fun h => h rfl) Bool.false_ne_true
  | some front => exact iff_of_true (fun h => by cases h) rfl

/-- Nothing fails but the slice. -/
theorem convertImage_error {e : ConvertError} (h : convertImage images url = .error e) :
    e = .panicked := by
  by_cases hhttp : "http".toList.isPrefixOf url.toList
  · unfold convertImage at h
    rw [if_pos hhttp] at h
    cases h
  · rw [convertImage_eq hhttp] at h
    cases hpayload : payload url with
    | none =>
      rw [hpayload] at h
      cases h
    | some b64 =>
      simp only [hpayload, inferred] at h
      cases hslice : Text.sliceTo (min (Text.byteLen b64) 64) b64 with
      | none =>
        rw [hslice] at h
        cases h
        rfl
      | some front =>
        rw [hslice] at h
        cases h

/-- **The slice panics** where a character lies across the cut. -/
theorem convertImage_ne_panicked_iff :
    convertImage images url ≠ .error .panicked ↔
      (¬ "http".toList.isPrefixOf url.toList → ∀ b64, payload url = some b64 →
        ∃ front, front <+: b64 ∧ Text.byteLen front = min (Text.byteLen b64) 64) := by
  by_cases hhttp : "http".toList.isPrefixOf url.toList
  · refine iff_of_true ?_ fun hnot => absurd hhttp hnot
    unfold convertImage
    rw [if_pos hhttp]
    exact fun h => by cases h
  · rw [convertImage_eq hhttp]
    cases payload url with
    | none => exact iff_of_true (fun h => by cases h) fun _ b64 hb64 => by cases hb64
    | some b64 =>
      -- the block that is made of a type adds no panic
      have hmap : ∀ x : Except ConvertError (Option String),
          (x.map fun mime => mime.map fun mimeType =>
            ContentBlock.image ⟨"base64", mimeType, String.ofList b64⟩) ≠ .error .panicked ↔
          x ≠ .error .panicked := by
        intro x
        cases x with
        | error e => exact not_congr ⟨fun h => by cases h; rfl, fun h => by cases h; rfl⟩
        | ok mime => exact iff_of_true (fun h => by cases h) fun h => by cases h
      rw [hmap, inferred_ne_panicked_iff]
      constructor
      · intro h _ b64' hb64
        obtain rfl := Option.some.inj hb64
        exact h
      · exact fun h => h hhttp b64 rfl

/-- What is known of an encoded image. -/
theorem encoded_eq_some {infer : List UInt8 → Option String} {source : ImageSource}
    (h : encoded infer url = some source) :
    ¬ "http".toList.isPrefixOf url.toList ∧ source.type = "base64" ∧
      payload url = some source.data.toList ∧
      ∃ bytes, Base64.decode (Text.utf8 source.data.toList) = some bytes ∧
        infer bytes = some source.mediaType := by
  unfold encoded at h
  -- the header ends at the first comma, and the data is all that follows
  cases hsplit : Text.splitFirst ',' url.toList with
  | none =>
    rw [hsplit] at h
    cases h
  | some split =>
    obtain ⟨header, b64⟩ := split
    simp only [hsplit] at h
    split at h
    · next hmarked =>
      obtain ⟨mimeType, hmime, h⟩ := Option.bind_eq_some_iff.mp h
      obtain ⟨bytes, hbytes, hmime⟩ := Option.bind_eq_some_iff.mp hmime
      split at h
      · cases h
        refine ⟨?_, rfl, ?_, bytes, ?_, hmime⟩
        · -- a URL begins with one letter only
          intro hhttp
          obtain ⟨rest, hrest⟩ := List.isPrefixOf_iff_prefix.mp hmarked.1
          obtain ⟨rest', hrest'⟩ := List.isPrefixOf_iff_prefix.mp hhttp
          rw [Text.eq_of_splitFirst hsplit, ← hrest] at hrest'
          cases hrest'
        · unfold payload
          rw [hsplit, Option.map_some, String.toList_ofList]
        · rw [String.toList_ofList]
          exact hbytes
      · cases h
    · cases h

/-- **The block of an encoded image.** Its base64 is cut behind a group of four, so the front
decodes into the first 48 bytes of the image, and the buffer holds them. -/
theorem convertImage_of_encoded (hstandard : images.Standard) {source : ImageSource}
    (h : encoded images.infer url = some source) {bytes : List UInt8}
    (hbytes : Base64.decode (Text.utf8 source.data.toList) = some bytes) :
    convertImage images url =
      .ok ((images.infer (bytes.take 48)).map fun mimeType =>
        .image ⟨"base64", mimeType, source.data⟩) := by
  obtain ⟨hhttp, -, hpayload, -⟩ := encoded_eq_some h
  have hascii := Base64.lt_of_decode hbytes
  obtain ⟨front, hfront⟩ := Option.isSome_iff_exists.mp
    (Text.isSome_sliceTo_of_ascii hascii (Nat.min_le_left _ 64))
  -- base64 is ASCII, so the cut is behind sixteen groups of four
  have htake : Text.utf8 front = (Text.utf8 source.data.toList).take (4 * 16) := by
    rw [Text.utf8_sliceTo hfront, ← Text.length_utf8, List.take_eq_take_iff]
    omega
  have hroom : 3 * (Text.utf8 front).length ≤ 4 * 48 := by
    rw [htake, List.length_take]
    omega
  have hdecode : images.decodeSlice (Text.utf8 front) = some (bytes.take 48) := by
    rw [hstandard, Base64.decodeSlice_of_le hroom, htake]
    exact Base64.decode_take hbytes 16
  rw [convertImage_eq hhttp, hpayload]
  simp only [inferred, hfront, hdecode, Option.bind_some, String.ofList_toList]
  rfl

end Image

/-! ### The images of a request -/

section Convert

variable {images : ImageLib} {tools : Option (List Tool)}

/-- The image that becomes of a URL. -/
def converted (images : ImageLib) (url : String) : Option ImageSource :=
  match convertImage images url with
  | .ok (some block) => block.source?
  | _ => none

theorem sources_convertUserPart {part : UserContentPart} {o : Option ContentBlock}
    (h : convertUserPart images part = .ok o) :
    o.toList.flatMap (fun block => block.source?.toList) =
      (part.imageUrl?.bind (converted images)).toList := by
  cases part with
  | text text =>
    cases h
    rfl
  | inputAudio =>
    cases h
    rfl
  | imageUrl url =>
    change convertImage images url = .ok o at h
    show _ = (converted images url).toList
    unfold converted
    rw [h]
    cases o with
    | none => rfl
    | some block => exact List.flatMap_singleton _ _

/-- Blocks without images. -/
theorem sources_map {α : Type} {block : α → ContentBlock} (hblock : ∀ a, (block a).source? = none)
    (l : List α) : (MessageContent.blocks (l.map block)).sources = [] := by
  show (l.map block).filterMap _ = []
  rw [List.filterMap_map, List.filterMap_eq_nil_iff]
  exact fun a _ => hblock a

/-- **The images of a message.** -/
theorem sources_convertMessage {message : OpenAI.Message} {o : Option Message}
    (h : convertMessage images tools message = .ok o) :
    o.toList.flatMap (fun message => message.content.sources) =
      message.imageUrls.filterMap (converted images) := by
  cases message with
  | developer content =>
    cases h
    rfl
  | system content =>
    cases h
    rfl
  | user content =>
    cases content with
    | text content =>
      cases h
      rfl
    | array parts =>
      -- each part gives the images of its block
      obtain ⟨blocks, hblocks, h⟩ := Except.bind_eq_ok_iff.mp h
      cases h
      have hsources := Except.flatMap_eq_of_filterMapM (fun _ _ => sources_convertUserPart) hblocks
      rw [Option.toList_some, List.flatMap_singleton]
      show blocks.filterMap _ = (parts.filterMap _).filterMap _
      rw [List.filterMap_eq_flatMap_toList, hsources, List.filterMap_filterMap,
        List.filterMap_eq_flatMap_toList]
  | assistant content toolCalls =>
    cases content with
    | none =>
      cases h
      rfl
    | some content =>
      cases content with
      | text content =>
        cases h
        rfl
      | array parts =>
        cases h
        rw [Option.toList_some, List.flatMap_singleton]
        exact sources_map (fun part => by cases part <;> rfl) parts
  | tool content toolCallId =>
    cases content with
    | text content =>
      cases h
      rfl
    | array parts =>
      cases h
      rw [Option.toList_some, List.flatMap_singleton]
      exact sources_map (fun _ => rfl) parts
  | function name =>
    -- whether the tool is found or not, the message has no images
    dsimp only [convertMessage] at h
    split at h
    · cases h
      rfl
    · cases h
      rfl

/-- Nothing fails in a part of a message but its image. -/
theorem convertUserPart_error {part : UserContentPart} {e : ConvertError}
    (h : convertUserPart images part = .error e) : e = .panicked := by
  cases part with
  | text text => cases h
  | inputAudio => cases h
  | imageUrl url => exact convertImage_error h

theorem convertUserPart_ne_panicked_iff {part : UserContentPart} :
    convertUserPart images part ≠ .error .panicked ↔
      ∀ url, part.imageUrl? = some url → convertImage images url ≠ .error .panicked := by
  cases part with
  | text text => exact iff_of_true (fun h => by cases h) fun url h => by cases h
  | inputAudio => exact iff_of_true (fun h => by cases h) fun url h => by cases h
  | imageUrl url =>
    show convertImage images url ≠ _ ↔ _
    constructor
    · intro h url' hurl
      obtain rfl := Option.some.inj hurl
      exact h
    · exact fun h => h url rfl

/-- Only the messages of users can fail. -/
theorem convertMessage_ok_of_not_array {message : OpenAI.Message}
    (h : ∀ parts, message ≠ .user (.array parts)) :
    (∃ o, convertMessage images tools message = .ok o) ∧ message.imageUrls = [] := by
  cases message with
  | developer content => exact ⟨⟨_, rfl⟩, rfl⟩
  | system content => exact ⟨⟨_, rfl⟩, rfl⟩
  | user content =>
    cases content with
    | text content => exact ⟨⟨_, rfl⟩, rfl⟩
    | array parts => exact absurd rfl (h parts)
  | assistant content toolCalls =>
    cases content with
    | none => exact ⟨⟨_, rfl⟩, rfl⟩
    | some content => cases content <;> exact ⟨⟨_, rfl⟩, rfl⟩
  | tool content toolCallId => cases content <;> exact ⟨⟨_, rfl⟩, rfl⟩
  | function name =>
    refine ⟨?_, rfl⟩
    dsimp only [convertMessage]
    split
    · exact ⟨_, rfl⟩
    · exact ⟨_, rfl⟩

/-- What a user message fails with, and when. -/
theorem convertMessage_array (parts : List UserContentPart) :
    (∀ e, convertMessage images tools (.user (.array parts)) = .error e → e = .panicked) ∧
      (convertMessage images tools (.user (.array parts)) ≠ .error .panicked ↔
        ∀ url ∈ (OpenAI.Message.user (.array parts)).imageUrls,
          convertImage images url ≠ .error .panicked) := by
  have hparts : ∀ e, convertMessage images tools (.user (.array parts)) = .error e ↔
      parts.filterMapM (convertUserPart images) = .error e := fun e => Except.bind_ok_eq_error_iff
  constructor
  · intro e h
    obtain ⟨part, -, hpart⟩ := Except.exists_of_filterMapM_eq_error ((hparts e).mp h)
    exact convertUserPart_error hpart
  -- the loop stops at the first part that fails
  · have hloop : parts.filterMapM (convertUserPart images) ≠ .error .panicked ↔
        ∀ part ∈ parts, convertUserPart images part ≠ .error .panicked :=
      Except.filterMapM_ne_error_iff fun part e => convertUserPart_error
    rw [Ne, hparts, ← Ne, hloop]
    show _ ↔ ∀ url ∈ parts.filterMap UserContentPart.imageUrl?, _
    constructor
    · intro h url hurl
      obtain ⟨part, hpart, hpartUrl⟩ := List.mem_filterMap.mp hurl
      exact convertUserPart_ne_panicked_iff.mp (h part hpart) url hpartUrl
    · intro h part hpart
      refine convertUserPart_ne_panicked_iff.mpr fun url hurl => ?_
      exact h url (List.mem_filterMap.mpr ⟨part, hpart, hurl⟩)

/-- Whether a message is an array of parts sent by a user. -/
theorem array_or_not (message : OpenAI.Message) :
    (∃ parts, message = .user (.array parts)) ∨ ∀ parts, message ≠ .user (.array parts) := by
  by_cases h : ∃ parts, message = .user (.array parts)
  · exact Or.inl h
  · exact Or.inr fun parts hparts => h ⟨parts, hparts⟩

/-- **What a message fails with, and when.** -/
theorem convertMessage_fails (message : OpenAI.Message) :
    (∀ e, convertMessage images tools message = .error e → e = .panicked) ∧
      (convertMessage images tools message ≠ .error .panicked ↔
        ∀ url ∈ message.imageUrls, convertImage images url ≠ .error .panicked) := by
  rcases array_or_not message with ⟨parts, rfl⟩ | h
  · exact convertMessage_array parts
  · obtain ⟨⟨o, ho⟩, hurls⟩ : (∃ o, convertMessage images tools message = .ok o) ∧ _ :=
      convertMessage_ok_of_not_array h
    rw [ho, hurls]
    have hok : ∀ e, (Except.ok o : Except ConvertError (Option Message)) ≠ .error e := by
      intro e he
      cases he
    exact ⟨fun e he => absurd he (hok e),
      iff_of_true (hok _) fun url hurl => absurd hurl List.not_mem_nil⟩

variable {Date : Type} {chrono : Chrono Date} {mapper : ModelMapper}

/-- **The images of a converted request** are what becomes of those of its source, in order. -/
theorem sources_tryConvert {request : ChatRequest} {out : CreateMessageParams}
    (h : tryConvert images chrono mapper request = .ok out) :
    out.sources = request.imageUrls.filterMap (converted images) := by
  obtain ⟨sourceModel, -, h⟩ := Except.bind_eq_ok_iff.mp h
  obtain ⟨targetModel, -, h⟩ := Except.bind_eq_ok_iff.mp h
  obtain ⟨messages, hmessages, h⟩ := Except.bind_eq_ok_iff.mp h
  cases h
  show messages.flatMap _ = _
  rw [Except.flatMap_eq_of_filterMapM (fun _ _ => sources_convertMessage) hmessages,
    ChatRequest.imageUrls, List.filterMap_flatMap]

variable (images) in
/-- Once its model is mapped, a request is converted message by message. -/
theorem tryConvert_of_maps {request : ChatRequest} (h : Maps chrono mapper request) :
    ∃ params : List Message → CreateMessageParams,
      tryConvert images chrono mapper request =
        request.messages.filterMapM (convertMessage images
          (request.tools.map fun tools => tools.map convertTool)) >>=
            fun messages => .ok (params messages) := by
  obtain ⟨source, target, hsource, htarget⟩ := h
  -- all but the messages is read of the request
  refine ⟨fun messages => {
    maxTokens := request.maxCompletionTokens.getD (request.maxTokens.getD defaultMaxTokens)
    messages
    model := (anthropicVersion target).display chrono
    system := systemPrompt request
    temperature := request.temperature
    stopSequences := request.stop.map Conversation.stopSequences
    stream := request.stream
    topK := none
    topP := request.topP
    tools := request.tools.map fun tools => tools.map convertTool
    toolChoice := request.toolChoice.map convertToolChoice
    metadata := request.user.map fun user => [("user_id", user)]
    thinking := none }, ?_⟩
  unfold tryConvert
  rw [hsource]
  show (mapModel chrono mapper source .anthropic).mapError ConvertError.mapper >>= _ = _
  rw [htarget]
  rfl

/-- **When a conversion panics**: the model is mapped, and an image is cut inside a character. -/
theorem tryConvert_ne_panicked_iff {request : ChatRequest} :
    tryConvert images chrono mapper request ≠ .error .panicked ↔
      (Maps chrono mapper request →
        ∀ url ∈ request.imageUrls, convertImage images url ≠ .error .panicked) := by
  by_cases hmaps : Maps chrono mapper request
  -- the model is mapped, so what is left are the messages, one after the other
  · obtain ⟨params, hconvert⟩ := tryConvert_of_maps images hmaps
    rw [hconvert, Ne, Except.bind_ok_eq_error_iff, ← Ne,
      Except.filterMapM_ne_error_iff fun message => (convertMessage_fails message).1]
    constructor
    · intro h _ url hurl
      obtain ⟨message, hmessage, hurl⟩ := List.mem_flatMap.mp hurl
      exact (convertMessage_fails message).2.mp (h message hmessage) url hurl
    · intro h message hmessage
      refine (convertMessage_fails message).2.mpr fun url hurl => ?_
      exact h hmaps url (List.mem_flatMap.mpr ⟨message, hmessage, hurl⟩)
  · -- the error is that of the mapper
    refine iff_of_true (fun h => hmaps ?_) fun h => absurd h hmaps
    unfold tryConvert at h
    cases hsource : ModelId.fromStr chrono request.model.toList with
    | error e =>
      rw [hsource] at h
      cases h
    | ok source =>
      cases htarget : mapModel chrono mapper source .anthropic with
      | error e =>
        rw [hsource] at h
        change (mapModel chrono mapper source .anthropic).mapError ConvertError.mapper >>= _ =
          _ at h
        rw [htarget] at h
        cases h
      | ok target => exact ⟨source, target, hsource, htarget⟩

/-- Once the model is mapped, nothing but a panic is in the way of a result. -/
theorem exists_tryConvert_eq_ok {request : ChatRequest} (hmaps : Maps chrono mapper request)
    (h : tryConvert images chrono mapper request ≠ .error .panicked) :
    ∃ out, tryConvert images chrono mapper request = .ok out := by
  obtain ⟨params, hconvert⟩ := tryConvert_of_maps images hmaps
  cases hresult : tryConvert images chrono mapper request with
  | ok out => exact ⟨out, rfl⟩
  | error e =>
    have hloop := hresult
    rw [hconvert, Except.bind_ok_eq_error_iff] at hloop
    obtain ⟨message, -, hmessage⟩ := Except.exists_of_filterMapM_eq_error hloop
    obtain rfl := (convertMessage_fails message).1 e hmessage
    exact absurd hresult h

theorem maps_of_tryConvert {request : ChatRequest} {out : CreateMessageParams}
    (h : tryConvert images chrono mapper request = .ok out) : Maps chrono mapper request := by
  obtain ⟨source, hsource, h⟩ := Except.bind_eq_ok_iff.mp h
  obtain ⟨target, htarget, -⟩ := Except.bind_eq_ok_iff.mp h
  exact ⟨source, target, Except.mapError_eq_ok_iff.mp hsource,
    Except.mapError_eq_ok_iff.mp htarget⟩

/-! ### Kept images -/

/-- An image that becomes of an encoded one has its payload, and the type of its front. -/
theorem converted_of_encoded (hstandard : images.Standard) {url : String} {source : ImageSource}
    (h : encoded images.infer url = some source) {bytes : List UInt8}
    (hbytes : Base64.decode (Text.utf8 source.data.toList) = some bytes) :
    converted images url =
      (images.infer (bytes.take 48)).map fun mimeType => ⟨"base64", mimeType, source.data⟩ := by
  unfold converted
  rw [convertImage_of_encoded hstandard h hbytes]
  cases images.infer (bytes.take 48) with
  | none => rfl
  | some mimeType => rfl

/-- An encoded image is converted into itself if its front tells its type. -/
theorem converted_eq_iff (hstandard : images.Standard) {url : String} {source : ImageSource}
    (h : encoded images.infer url = some source) :
    converted images url = some source ↔
      ∀ bytes, Base64.decode (Text.utf8 source.data.toList) = some bytes →
        images.infer (bytes.take 48) = some source.mediaType := by
  obtain ⟨-, htype, -, bytes, hbytes, -⟩ := encoded_eq_some h
  obtain ⟨type, mediaType, data⟩ := source
  obtain rfl : type = "base64" := htype
  rw [converted_of_encoded hstandard h hbytes, Option.map_eq_some_iff]
  constructor
  · rintro ⟨mimeType, hmime, heq⟩ bytes' hbytes'
    cases heq
    obtain rfl := Option.some.inj (hbytes.symm.trans hbytes')
    exact hmime
  · exact fun htold => ⟨mediaType, htold bytes hbytes, rfl⟩

/-- What becomes of a URL in base64 depends on its payload. -/
theorem payload_of_converted {url : String} {source : ImageSource}
    (h : converted images url = some source) (htype : source.type = "base64") :
    payload url = some source.data.toList ∧
      inferred images source.data.toList = .ok (some source.mediaType) := by
  unfold converted at h
  by_cases hhttp : "http".toList.isPrefixOf url.toList
  -- a URL of the web is passed on, and its block is of another kind
  · have hweb : convertImage images url = .ok (some (.image ⟨"url", "", url⟩)) := by
      unfold convertImage
      rw [if_pos hhttp]
    rw [hweb] at h
    cases h
    have hne : "url" ≠ "base64" := by decide
    exact absurd htype hne
  · rw [convertImage_eq hhttp] at h
    cases hpayload : payload url with
    | none =>
      rw [hpayload] at h
      cases h
    | some b64 =>
      simp only [hpayload] at h
      cases hinferred : inferred images b64 with
      | error e =>
        rw [hinferred] at h
        cases h
      | ok mime =>
        rw [hinferred] at h
        cases mime with
        | none => cases h
        | some mimeType =>
          cases h
          rw [String.toList_ofList]
          exact ⟨rfl, hinferred⟩

/-- **An image that comes out is the one that went in**: another URL that gives it has the same
payload, and the type is inferred from this. -/
theorem converted_of_mem {urls : List String} {url : String} {source : ImageSource}
    (h : encoded images.infer url = some source)
    (hmem : source ∈ urls.filterMap (converted images)) : converted images url = some source := by
  obtain ⟨hhttp, htype, hpayload, -⟩ := encoded_eq_some h
  obtain ⟨url', -, hconverted⟩ := List.mem_filterMap.mp hmem
  obtain ⟨-, hinferred⟩ := payload_of_converted hconverted htype
  unfold converted
  rw [convertImage_eq hhttp, hpayload]
  simp only [hinferred, String.ofList_toList]
  obtain ⟨type, mediaType, data⟩ := source
  obtain rfl : type = "base64" := htype
  rfl

/-- **Images.** With the decoder of the `base64` crate, a request whose model is mapped is
converted without panic and without loss of an image if the type of each of its images can be
inferred. -/
theorem converted_keeps_images_iff (hstandard : images.Standard) (request : ChatRequest) :
    ImagesKept images.infer request (tryConvert images chrono mapper request) ↔
      (Maps chrono mapper request → ∀ url ∈ request.imageUrls, ReadableUrl images.infer url) := by
  constructor
  · intro h hmaps url hurl
    have hpanic := tryConvert_ne_panicked_iff.mp h.noPanic hmaps
    refine ⟨convertImage_ne_panicked_iff.mp (hpanic url hurl), fun source hsource => ?_⟩
    rw [← converted_eq_iff hstandard hsource]
    -- nothing fails, so the image is among those of the result
    obtain ⟨out, hout⟩ := exists_tryConvert_eq_ok hmaps h.noPanic
    -- what comes out has the image, which only a URL with this payload can give
    have hsub := (h.kept out hout).subset (List.mem_filterMap.mpr ⟨url, hurl, hsource⟩)
    rw [sources_tryConvert hout] at hsub
    exact converted_of_mem hsource hsub
  · intro h
    constructor
    · refine tryConvert_ne_panicked_iff.mpr fun hmaps url hurl => ?_
      exact convertImage_ne_panicked_iff.mpr (h hmaps url hurl).cut
    · intro out hout
      have hmaps := maps_of_tryConvert hout
      rw [sources_tryConvert hout]
      refine List.filterMap_sublist_filterMap fun url hurl source hsource => ?_
      exact (converted_eq_iff hstandard hsource).mpr ((h hmaps url hurl).told source hsource)

end Convert

/-! ### Small images -/

/-- The standard decoder, and one type of images: PNG, by its signature. -/
def pngs : ImageLib where
  decodeSlice := Base64.decodeSlice 48
  infer bytes := if [137, 80, 78, 71].isPrefixOf bytes then some "image/png" else none

/-- A request with one image. -/
def picture (url : String) : ChatRequest := chat [.user (.array [.imageUrl url])] none

/-- The signature of a PNG is converted into an image block. -/
theorem converted_keeps_images_iff_png :
    ImagesKept pngs.infer (picture "data:image/png;base64,iVBORw0KGgo=")
      (tryConvert pngs compactDates smallMapper (picture "data:image/png;base64,iVBORw0KGgo=")) ∧
    (picture "data:image/png;base64,iVBORw0KGgo=").imageUrls.filterMap (encoded pngs.infer) =
      [⟨"base64", "image/png", "iVBORw0KGgo="⟩] := by
  have hpayload : payload "data:image/png;base64,iVBORw0KGgo=" = some "iVBORw0KGgo=".toList := by
    decide
  have hencoded : encoded pngs.infer "data:image/png;base64,iVBORw0KGgo=" =
      some ⟨"base64", "image/png", "iVBORw0KGgo="⟩ := by
    decide +kernel
  have hdecode : Base64.decode (Text.utf8 "iVBORw0KGgo=".toList) =
      some [137, 80, 78, 71, 13, 10, 26, 10] := by
    decide +kernel
  have hstandard : pngs.Standard := rfl
  refine ⟨(converted_keeps_images_iff hstandard _).mpr fun _ url hurl => ?_, ?_⟩
  · obtain rfl := List.mem_singleton.mp hurl
    constructor
    · intro _ b64 hb64
      obtain rfl := Option.some.inj (hpayload.symm.trans hb64)
      exact ⟨_, List.prefix_rfl, by decide⟩
    · intro source hsource bytes hbytes
      obtain rfl := Option.some.inj (hencoded.symm.trans hsource)
      obtain rfl := Option.some.inj (hdecode.symm.trans hbytes)
      decide
  · show [_].filterMap _ = _
    rw [List.filterMap_cons_some hencoded, List.filterMap_nil]

/-- **A slice panics**: 63 letters, and one that is two bytes long. -/
theorem converted_keeps_images_fails :
    pngs.Standard ∧
    tryConvert pngs compactDates smallMapper (picture
      "data:image/png;base64,AAAAAAAAAAAAAAAAAAAAAAAAAAAAAAAAAAAAAAAAAAAAAAAAAAAAAAAAAAAAAAAé") =
        .error .panicked ∧
    ¬ ∀ request : ChatRequest,
      ImagesKept pngs.infer request (tryConvert pngs compactDates smallMapper request) := by
  have hpanics : tryConvert pngs compactDates smallMapper (picture
      "data:image/png;base64,AAAAAAAAAAAAAAAAAAAAAAAAAAAAAAAAAAAAAAAAAAAAAAAAAAAAAAAAAAAAAAAé") =
        .error .panicked := rfl
  exact ⟨rfl, hpanics, fun h => (h _).noPanic hpanics⟩

end Anthropic

end AiGateway
