import AiGateway.Mapper.Request

/-!
# The registry of converters

`EndpointConverterRegistry::new` of `middleware/mapper/registry.rs`, with the converters of
`middleware/mapper/openai.rs`, `gemini.rs` and `ollama.rs`. The APIs of these three providers are
that of OpenAI: a request is kept as it is, and only its model is mapped. So there are five ways to
write down one conversation.

* `mapRequest_conveys`: whichever way it is written, what is mapped conveys the request: the model
  is what the mapping gives for the provider, as this one is told it, and the texts are those of the
  messages. Anthropic is told the instructions of the first message only, and Bedrock none.
-/

namespace AiGateway.Mapper

open Conversation Except OpenAI Serde

variable {Document Date Rest : Type}

/-! ### The code -/

/-- `CreateChatCompletionRequest`, with all that is not looked at on the way. -/
structure WholeRequest (Rest : Type) extends ChatRequest where
  rest : Rest

/-- The `try_convert` of a provider whose API is that of OpenAI. -/
def renameModel (provider : InferenceProvider) (chrono : Chrono Date) (mapper : ModelMapper)
    (value : WholeRequest Rest) : Except ConvertError (WholeRequest Rest) := do
  let sourceModel ← (ModelId.fromStr chrono value.model.toList).mapError .mapper
  let targetModel ← (mapModel chrono mapper sourceModel provider).mapError .mapper
  return { value with model := String.ofList (targetModel.display chrono) }

/-- `try_convert` of an `OpenAIConverter`. -/
def openAITryConvert (chrono : Chrono Date) (mapper : ModelMapper) (value : WholeRequest Rest) :
    Except ConvertError (WholeRequest Rest) :=
  renameModel .openAI chrono mapper value

/-- `try_convert` of a `GoogleGeminiConverter`. -/
def geminiTryConvert (chrono : Chrono Date) (mapper : ModelMapper) (value : WholeRequest Rest) :
    Except ConvertError (WholeRequest Rest) :=
  renameModel .googleGemini chrono mapper value

/-- `try_convert` of an `OllamaConverter`. -/
def ollamaTryConvert (chrono : Chrono Date) (mapper : ModelMapper) (value : WholeRequest Rest) :
    Except ConvertError (WholeRequest Rest) :=
  renameModel .ollama chrono mapper value

/-- How whole requests are read and written. -/
structure ChatFormat (Rest : Type) where
  fromSlice : Bytes → Option (WholeRequest Rest)
  toVec : WholeRequest Rest → Option Bytes

section Registry

variable (format : ChatFormat Rest) (lib : Libraries Document Date) (mapper : ModelMapper)

/-- A converter between chat requests. -/
def chatConverter (provider : InferenceProvider)
    (tryConvert : WholeRequest Rest → Except ConvertError (WholeRequest Rest)) :
    ReqBodyConverter Date :=
  convertReqBody format.fromSlice (fun request => isStream request.toChatRequest) tryConvert
    (fun target => ModelId.fromStrAndProvider lib.chrono provider target.model.toList) format.toVec

/-- The converters from OpenAI to OpenAI, Gemini and Ollama. There are none from it to Anthropic
and Bedrock among them. -/
def otherConverter : ApiEndpoint → ReqBodyConverter Date
  | .openAI => chatConverter format lib .openAI (openAITryConvert lib.chrono mapper)
  | .google => chatConverter format lib .googleGemini (geminiTryConvert lib.chrono mapper)
  | .ollama => chatConverter format lib .ollama (ollamaTryConvert lib.chrono mapper)
  | target => fun _ => .error (.invalidConverter .openAI target)

/-- **The registry**, with nothing left open but the libraries. -/
def registry : Libraries Document Date :=
  { lib with
    chatRequest := fun bytes => (format.fromSlice bytes).map WholeRequest.toChatRequest
    other := otherConverter format lib mapper }

end Registry

/-! ### What is conveyed -/

/-- A body in the format of a provider. -/
inductive TargetBody (Document Rest : Type)
  | chat (request : WholeRequest Rest)
  | messages (params : Anthropic.CreateMessageParams)
  | converse (input : Bedrock.ConverseInput Document)

namespace TargetBody

/-- The texts that are said, without instructions. -/
def texts : TargetBody Document Rest → List String
  | chat request => request.messages.flatMap carriedTexts
  | messages params => Conversation.texts params.pieces
  | converse input => Conversation.texts input.pieces

/-- The system prompt. -/
def system : TargetBody Document Rest → Option String
  | chat request => systemPrompt request.toChatRequest
  | messages params => params.system
  | converse input => input.system

/-- The model that is asked. -/
def model : TargetBody Document Rest → List Char
  | chat request => request.model.toList
  | messages params => params.model
  | converse input => input.modelId

/-- The body as it is sent. -/
def toVec (format : ChatFormat Rest) (lib : Libraries Document Date) :
    TargetBody Document Rest → Option Bytes
  | chat request => format.toVec request
  | messages params => lib.createMessageParams params
  | converse input => lib.converseInput input

end TargetBody

/-- How a provider is told the model. For Anthropic its version is written over. -/
def toldModel : InferenceProvider → ModelId Date → ModelId Date
  | .anthropic, m => anthropicVersion m
  | _, m => m

/-- The instructions a provider is told apart from the messages: those of the first message. Bedrock
is told none. -/
def toldSystem : InferenceProvider → ChatRequest → Option String
  | .bedrock, _ => none
  | _, request => systemPrompt request

/-- **A body conveys a request to a provider**: it asks the model that the mapping gives for the
one of the request, as the provider is told it; it says the texts of the messages, each of them in
its place; of the instructions, which are none of these texts, it has what the provider is told;
and where the API is that of OpenAI, it is the request but for the model, instructions included. -/
structure Conveys (lib : Libraries Document Date) (mapper : ModelMapper)
    (provider : InferenceProvider) (request : WholeRequest Rest)
    (body : TargetBody Document Rest) : Prop where
  model : ∃ source target, ModelId.fromStr lib.chrono request.model.toList = .ok source ∧
    mapModel lib.chrono mapper source provider = .ok target ∧
    body.model = (toldModel provider target).display lib.chrono
  texts : body.texts = request.messages.flatMap carriedTexts
  system : body.system = toldSystem provider request.toChatRequest
  kept : ∀ request', body = .chat request' → { request' with model := request.model } = request

section Proofs

variable {format : ChatFormat Rest} {lib : Libraries Document Date} {mapper : ModelMapper}

theorem renameModel_conveys {provider : InferenceProvider} {request out : WholeRequest Rest}
    (htold : ∀ m : ModelId Date, toldModel provider m = m)
    (hsystem : ∀ request, toldSystem provider request = systemPrompt request)
    (h : renameModel provider lib.chrono mapper request = .ok out) :
    Conveys lib mapper provider request (.chat out) := by
  obtain ⟨source, hsource, h⟩ := bind_eq_ok_iff.mp h
  obtain ⟨target, htarget, h⟩ := bind_eq_ok_iff.mp h
  cases h
  refine ⟨⟨source, target, mapError_eq_ok_iff.mp hsource, mapError_eq_ok_iff.mp htarget, ?_⟩, rfl,
    (hsystem request.toChatRequest).symm, ?_⟩
  · rw [htold]
    exact String.toList_ofList
  · rintro _ ⟨⟩
    rfl

theorem anthropic_conveys {request : WholeRequest Rest} {params : Anthropic.CreateMessageParams}
    (h : Anthropic.tryConvert lib.images lib.chrono mapper request.toChatRequest = .ok params) :
    Conveys lib mapper .anthropic request (.messages params) := by
  obtain ⟨hpieces, hsystem⟩ := Anthropic.pieces_tryConvert h
  obtain ⟨source, hsource, h⟩ := bind_eq_ok_iff.mp h
  obtain ⟨target, htarget, h⟩ := bind_eq_ok_iff.mp h
  obtain ⟨messages, -, h⟩ := bind_eq_ok_iff.mp h
  refine ⟨⟨source, target, mapError_eq_ok_iff.mp hsource, mapError_eq_ok_iff.mp htarget, ?_⟩, ?_,
    hsystem, ?_⟩
  · exact (congrArg Anthropic.CreateMessageParams.model (Except.ok.inj h)).symm
  · show Conversation.texts params.pieces = _
    rw [hpieces]
    exact texts_flatMap_carried _ _
  · rintro _ ⟨⟩

theorem bedrock_conveys {request : WholeRequest Rest} {input : Bedrock.ConverseInput Document}
    (h : Bedrock.tryConvert lib.toDocument lib.chrono mapper request.toChatRequest = .ok input) :
    Conveys lib mapper .bedrock request (.converse input) := by
  obtain ⟨hpieces, hsystem⟩ := Bedrock.pieces_tryConvert h
  obtain ⟨source, hsource, h⟩ := bind_eq_ok_iff.mp h
  obtain ⟨target, htarget, h⟩ := bind_eq_ok_iff.mp h
  refine ⟨⟨source, target, mapError_eq_ok_iff.mp hsource, mapError_eq_ok_iff.mp htarget, ?_⟩, ?_,
    hsystem, ?_⟩
  · exact (congrArg Bedrock.ConverseInput.modelId (Except.ok.inj h)).symm
  · show Conversation.texts input.pieces = _
    rw [hpieces]
    exact texts_flatMap_carried _ _
  · rintro _ ⟨⟩

/-- What a converter of bodies makes: it reads a request, and writes what this is converted to. -/
theorem exists_of_convertReqBody {Source Target : Type} {fromSlice : Bytes → Option Source}
    {isStream : Source → Bool} {tryConvert : Source → Except ConvertError Target}
    {model : Target → Except MapperError (ModelId Date)} {toVec : Target → Option Bytes}
    {bytes converted : Bytes} {ctx : MapperContext Date}
    (h : convertReqBody fromSlice isStream tryConvert model toVec bytes = .ok (converted, ctx)) :
    ∃ source target, fromSlice bytes = some source ∧ tryConvert source = .ok target ∧
      toVec target = some converted ∧ ctx.isStream = isStream source := by
  obtain ⟨source, hsource, h⟩ := bind_eq_ok_iff.mp h
  obtain ⟨target, htarget, h⟩ := bind_eq_ok_iff.mp h
  obtain ⟨m, -, h⟩ := bind_eq_ok_iff.mp h
  obtain ⟨targetBytes, hbytes, h⟩ := bind_eq_ok_iff.mp h
  obtain ⟨rfl, rfl⟩ := Prod.mk.inj (Except.ok.inj h)
  exact ⟨source, target, Option.okOr_eq_ok_iff.mp hsource, mapError_eq_ok_iff.mp htarget,
    Option.okOr_eq_ok_iff.mp hbytes, rfl⟩

/-- **Some bytes convey a request that is read from others.** -/
structure BytesConvey (format : ChatFormat Rest) (lib : Libraries Document Date)
    (mapper : ModelMapper) (provider : InferenceProvider) (bytes converted : Bytes)
    (request : WholeRequest Rest) : Prop where
  read : format.fromSlice bytes = some request
  written : ∃ body : TargetBody Document Rest, Conveys lib mapper provider request body ∧
    body.toVec format lib = some converted

/-- **Every converter of the registry conveys the request.** -/
theorem getConverter_conveys {target : ApiEndpoint} {converter : ReqBodyConverter Date}
    (hconverter : getConverter (registry format lib mapper) mapper .openAI target = some converter)
    {bytes converted : Bytes} {ctx : MapperContext Date}
    (h : converter bytes = .ok (converted, ctx)) :
    ∃ request, BytesConvey format lib mapper target.provider bytes converted request ∧
      ctx.isStream = isStream request.toChatRequest := by
  -- the requests of the other converters are read as a part of the whole ones
  have hpart : ∀ {request : ChatRequest},
      (format.fromSlice bytes).map WholeRequest.toChatRequest = some request →
      ∃ whole, format.fromSlice bytes = some whole ∧ whole.toChatRequest = request :=
    fun hread => Option.map_eq_some_iff.mp hread
  cases target with
  | openAI =>
    obtain rfl := Option.some.inj hconverter
    obtain ⟨request, out, hread, hout, hbytes, hstream⟩ := exists_of_convertReqBody h
    have hconveys := renameModel_conveys (fun _ => rfl) (fun _ => rfl) hout
    exact ⟨request, ⟨hread, .chat out, hconveys, hbytes⟩, hstream⟩
  | google =>
    obtain rfl := Option.some.inj hconverter
    obtain ⟨request, out, hread, hout, hbytes, hstream⟩ := exists_of_convertReqBody h
    have hconveys := renameModel_conveys (fun _ => rfl) (fun _ => rfl) hout
    exact ⟨request, ⟨hread, .chat out, hconveys, hbytes⟩, hstream⟩
  | ollama =>
    obtain rfl := Option.some.inj hconverter
    obtain ⟨request, out, hread, hout, hbytes, hstream⟩ := exists_of_convertReqBody h
    have hconveys := renameModel_conveys (fun _ => rfl) (fun _ => rfl) hout
    exact ⟨request, ⟨hread, .chat out, hconveys, hbytes⟩, hstream⟩
  | anthropic =>
    obtain rfl := Option.some.inj hconverter
    obtain ⟨request, params, hread, hparams, hbytes, hstream⟩ := exists_of_convertReqBody h
    obtain ⟨whole, hwhole, rfl⟩ := hpart hread
    exact ⟨whole, ⟨hwhole, .messages params, anthropic_conveys hparams, hbytes⟩, hstream⟩
  | bedrock =>
    obtain rfl := Option.some.inj hconverter
    obtain ⟨request, input, hread, hinput, hbytes, hstream⟩ := exists_of_convertReqBody h
    obtain ⟨whole, hwhole, rfl⟩ := hpart hread
    exact ⟨whole, ⟨hwhole, .converse input, bedrock_conveys hinput, hbytes⟩, hstream⟩

/-- **What is mapped conveys the request**, to whichever provider, and is streamed if the client
asks for it. -/
theorem mapRequest_conveys {source target : ApiEndpoint} {targetPathAndQuery : Web.PathAndQuery}
    {bytes : Bytes} {out : MappedRequest Date}
    (h : mapRequest (registry format lib mapper) mapper source target targetPathAndQuery
      (some bytes) = .ok out) :
    ∃ request, BytesConvey format lib mapper target.provider bytes out.body request ∧
      out.mapperCtx.isStream = isStream request.toChatRequest := by
  obtain ⟨bytes', hbytes, h⟩ := bind_eq_ok_iff.mp h
  cases hbytes
  obtain ⟨converter, hconverter, h⟩ := bind_eq_ok_iff.mp h
  obtain ⟨⟨converted, ctx⟩, hconverted, h⟩ := bind_eq_ok_iff.mp h
  obtain ⟨basePath, -, h⟩ := bind_eq_ok_iff.mp h
  obtain ⟨pathAndQuery, -, h⟩ := bind_eq_ok_iff.mp h
  cases h
  -- there are no converters but from OpenAI
  cases source with
  | openAI => exact getConverter_conveys (Option.okOr_eq_ok_iff.mp hconverter) hconverted
  | anthropic => cases hconverter
  | google => cases hconverter
  | ollama => cases hconverter
  | bedrock => cases hconverter

end Proofs

end AiGateway.Mapper
