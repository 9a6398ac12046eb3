import AiGateway.Framework.Url
import AiGateway.Mapper.Anthropic
import AiGateway.Mapper.Bedrock
import AiGateway.Mapper.Kept
import AiGateway.Mapper.Sound
import AiGateway.Router.Meta
import AiGateway.Types.Written

/-!
# Mapping requests

`map_request` of `middleware/mapper/service.rs`, with the registry of converters, `convert_req_body`
of `middleware/mapper/mod.rs` and the paths of the endpoints: the body of a chat request of OpenAI
is converted for the provider it is sent to, and the path of the provider's endpoint takes the place
of the request's own.

The path of Bedrock holds the model. It is the model of the converted body, read from there in the
format of Bedrock and written again, and it is put into the path as it stands. The converters to
OpenAI, Gemini and Ollama are parameters, and so is the reading and writing of JSON.

* `mapRequest_bedrock`: what is mapped to Bedrock;
* `onConverse_iff`: the requests that stay on the operation of a configured model.
-/

namespace AiGateway

open Web

variable {Date : Type}

/-! ### Paths -/

namespace ApiEndpoint

/-- `Bedrock::path`. -/
def conversePath (modelId : List Char) (isStream : Bool) : List Char :=
  "/model/".toList ++
    (modelId ++ if isStream then "/converse-stream".toList else "/converse".toList)

/-- `path`; `none` is the error of a path that needs a model and has none. -/
def path (chrono : Chrono Date) (endpoint : ApiEndpoint) (modelId : Option (ModelId Date))
    (isStream : Bool) : Option (List Char) :=
  match endpoint with
  | openAI => some "/v1/chat/completions".toList
  | anthropic => some "/v1/messages".toList
  | google => some "/v1beta/openai/chat/completions".toList
  | ollama => some "/v1/chat/completions".toList
  | bedrock => modelId.map fun modelId => conversePath (modelId.display chrono) isStream

end ApiEndpoint

namespace Mapper

open Conversation Except OpenAI Serde

/-! ### The code -/

/-- `MapperContext`, with the model. -/
structure MapperContext (Date : Type) extends AiGateway.MapperContext where
  model : Option (ModelId Date)

/-- `ApiError`, the ones that mapping a request ends in. -/
inductive MapRequestError
  | invalidRequestBody
  | collectBodyError
  | invalidConverter (source target : ApiEndpoint)
  | convert (e : ConvertError)
  | serialize
  /-- `InternalError::Internal`. -/
  | internal
  | invalidUri

/-- `EndpointConverter`, for requests. -/
abbrev ReqBodyConverter (Date : Type) :=
  Bytes → Except MapRequestError (Bytes × MapperContext Date)

/-- `convert_req_body` of a `TypedEndpointConverter`. -/
def convertReqBody {Source Target : Type} (fromSlice : Bytes → Option Source)
    (isStream : Source → Bool) (tryConvert : Source → Except ConvertError Target)
    (model : Target → Except MapperError (ModelId Date)) (toVec : Target → Option Bytes) :
    ReqBodyConverter Date := fun bytes => do
  let sourceRequest ← (fromSlice bytes).okOr .invalidRequestBody
  let targetRequest ← (tryConvert sourceRequest).mapError .convert
  let model ← (model targetRequest).mapError fun e => .convert (.mapper e)
  let targetBytes ← (toVec targetRequest).okOr .serialize
  return (targetBytes, { isStream := isStream sourceRequest, model := some model })

/-- **What the converters rest on**: the libraries for JSON, images and documents, the calendar, and
the converters that are not looked into. -/
structure Libraries (Document Date : Type) where
  chatRequest : Bytes → Option ChatRequest
  images : Anthropic.ImageLib
  createMessageParams : Anthropic.CreateMessageParams → Option Bytes
  toDocument : Json → Option Document
  converseInput : Bedrock.ConverseInput Document → Option Bytes
  chrono : Chrono Date
  /-- From OpenAI to OpenAI, Gemini and Ollama. -/
  other : ApiEndpoint → ReqBodyConverter Date

variable {Document : Type} (lib : Libraries Document Date) (mapper : ModelMapper)

/-- `is_stream` of a chat request. -/
def isStream (request : ChatRequest) : Bool := request.stream.getD false

/-- The converter to Anthropic. -/
def anthropicConverter : ReqBodyConverter Date :=
  convertReqBody lib.chatRequest isStream (Anthropic.tryConvert lib.images lib.chrono mapper)
    (fun target => ModelId.fromStrAndProvider lib.chrono .anthropic target.model)
    lib.createMessageParams

/-- The converter to Bedrock. -/
def bedrockConverter : ReqBodyConverter Date :=
  convertReqBody lib.chatRequest isStream (Bedrock.tryConvert lib.toDocument lib.chrono mapper)
    (fun target => ModelId.fromStrAndProvider lib.chrono .bedrock target.modelId)
    lib.converseInput

/-- `EndpointConverterRegistry::new` and `get_converter`. -/
def getConverter : ApiEndpoint → ApiEndpoint → Option (ReqBodyConverter Date)
  | .openAI, .anthropic => some (anthropicConverter lib mapper)
  | .openAI, .bedrock => some (bedrockConverter lib mapper)
  | .openAI, target => some (lib.other target)
  | _, _ => none

/-- What a request is after it has been mapped. Its other parts are its own. -/
structure MappedRequest (Date : Type) where
  body : Bytes
  pathAndQuery : PathAndQuery
  mapperCtx : MapperContext Date
  apiEndpoint : ApiEndpoint

/-- **`map_request`.** A body that cannot be collected is `none`. -/
def mapRequest (sourceEndpoint targetEndpoint : ApiEndpoint) (targetPathAndQuery : PathAndQuery)
    (body : Option Bytes) : Except MapRequestError (MappedRequest Date) := do
  let bytes ← body.okOr .collectBodyError
  let converter ← (getConverter lib mapper sourceEndpoint targetEndpoint).okOr
    (.invalidConverter sourceEndpoint targetEndpoint)
  let (body, mapperCtx) ← converter bytes
  let basePath ←
    (targetEndpoint.path lib.chrono mapperCtx.model mapperCtx.isStream).okOr .internal
  -- the query is the one the client sent
  let pathAndQuery ←
    (PathAndQuery.fromStr (basePath ++ queryText targetPathAndQuery.query)).okOr .invalidUri
  return { body, pathAndQuery, mapperCtx, apiEndpoint := targetEndpoint }

/-! ### Staying on the operation -/

/-- A text stays in its segment of a path. -/
def IsSegment (text : List Char) : Prop := ∀ c ∈ text, c ≠ '/' ∧ c ≠ '?' ∧ c ≠ '#'

/-- **On the converse operation of a configured model.** The path has the id of one of the models
that are offered, as one segment, and the query is that of the request. -/
def OnConverse (offered : List ModelName) (isStream : Bool) (query : Option (List Char))
    (pathAndQuery : PathAndQuery) : Prop :=
  ∃ id ∈ offered, IsSegment id ∧
    pathAndQuery.data = ApiEndpoint.conversePath id isStream ++ queryText query

/-- The text of a model, read in the format of Bedrock and written again. -/
def rewritten (chrono : Chrono Date) (text : List Char) : Option (List Char) :=
  match ModelId.fromStrAndProvider chrono .bedrock text with
  | .ok m => some (m.display chrono)
  | .error _ => none

/-- A text ends up in the place of an offered id: rewritten it is one, or what follows the id is the
end of the path itself and a fragment, which is cut off. -/
def Lands (chrono : Chrono Date) (offered : List ModelName) (isStream : Bool)
    (query : Option (List Char)) (text : List Char) : Prop :=
  ∀ w ∈ rewritten chrono text, ∃ id ∈ offered, IsSegment id ∧
    (w = id ∨ ∃ rest, w = id ++ ((if isStream then "/converse-stream".toList
      else "/converse".toList) ++ queryText query ++ '#' :: rest))

/-- **The model of a request stays in its place.** -/
structure StaysPut (chrono : Chrono Date) (mapper : ModelMapper) (offered : List ModelName)
    (isStream : Bool) (query : Option (List Char)) (source : ModelId Date) : Prop where
  /-- A source whose bare name is offered goes into the path as the client wrote it. -/
  own : ModelName.fromModel source ∈ offered →
    Lands chrono offered isStream query (source.display chrono)
  /-- Otherwise what goes there is a configured text, the alternative the mappings have. -/
  mapped : ModelName.fromModel source ∉ offered →
    ∀ t ∈ mapper.alternative offered (ModelName.fromModel source), ∀ w ∈ rewritten chrono t,
      Lands chrono offered isStream query w

/-! ### What is mapped -/

variable {lib : Libraries Document Date} {mapper : ModelMapper} {request : ChatRequest}
  {source : ModelId Date} {offered : List ModelName} {body : Option Bytes} {bytes : Bytes}
  {targetPathAndQuery : PathAndQuery} {out : MappedRequest Date}

/-- The body that is converted to Bedrock, and the model that is read from it. -/
theorem bedrockConverter_input {converted : Bytes} {ctx : MapperContext Date}
    (hrequest : lib.chatRequest bytes = some request)
    (h : bedrockConverter lib mapper bytes = .ok (converted, ctx)) :
    ∃ input m, Bedrock.tryConvert lib.toDocument lib.chrono mapper request = .ok input ∧
      lib.converseInput input = some converted ∧
      ModelId.fromStrAndProvider lib.chrono .bedrock input.modelId = .ok m ∧
      ctx = { isStream := isStream request, model := some m } := by
  obtain ⟨request', hrequest', hconverting⟩ := bind_eq_ok_iff.mp h
  obtain rfl := Option.some.inj (hrequest.symm.trans (Option.okOr_eq_ok_iff.mp hrequest'))
  obtain ⟨input, hinput, hreading⟩ := bind_eq_ok_iff.mp hconverting
  obtain ⟨m, hm, hwriting⟩ := bind_eq_ok_iff.mp hreading
  obtain ⟨targetBytes, hbytes, hout⟩ := bind_eq_ok_iff.mp hwriting
  obtain ⟨rfl, hctx⟩ := Prod.mk.inj (Except.ok.inj hout)
  exact ⟨input, m, mapError_eq_ok_iff.mp hinput, Option.okOr_eq_ok_iff.mp hbytes,
    mapError_eq_ok_iff.mp hm, hctx.symm⟩

/-- The converter puts the mapped model into the body as text. -/
theorem modelId_of_tryConvert {input : Bedrock.ConverseInput Document}
    (hsource : ModelId.fromStr lib.chrono request.model.toList = .ok source)
    (h : Bedrock.tryConvert lib.toDocument lib.chrono mapper request = .ok input) :
    ∃ target, mapModel lib.chrono mapper source .bedrock = .ok target ∧
      input.modelId = target.display lib.chrono := by
  obtain ⟨source', hsource', hmapping⟩ := bind_eq_ok_iff.mp h
  obtain rfl := Except.ok.inj (hsource.symm.trans (mapError_eq_ok_iff.mp hsource'))
  obtain ⟨target, htarget, hbody⟩ := bind_eq_ok_iff.mp hmapping
  exact ⟨target, mapError_eq_ok_iff.mp htarget,
    congrArg Bedrock.ConverseInput.modelId (Except.ok.inj hbody).symm⟩

/-- The model of a body that is converted to Bedrock. -/
theorem bedrockConverter_spec {converted : Bytes} {ctx : MapperContext Date}
    (hrequest : lib.chatRequest bytes = some request)
    (hsource : ModelId.fromStr lib.chrono request.model.toList = .ok source)
    (h : bedrockConverter lib mapper bytes = .ok (converted, ctx)) :
    ∃ target m, mapModel lib.chrono mapper source .bedrock = .ok target ∧
      ModelId.fromStrAndProvider lib.chrono .bedrock (target.display lib.chrono) = .ok m ∧
      ctx = { isStream := isStream request, model := some m } := by
  obtain ⟨input, m, hinput, -, hread, hctx⟩ := bedrockConverter_input hrequest h
  obtain ⟨target, htarget, hid⟩ := modelId_of_tryConvert hsource hinput
  rw [hid] at hread
  exact ⟨target, m, htarget, hread, hctx⟩

/-- **What is mapped to Bedrock.** The model in the path is read from the text of the mapped one. -/
theorem mapRequest_bedrock
    (hrequest : lib.chatRequest bytes = some request)
    (hsource : ModelId.fromStr lib.chrono request.model.toList = .ok source)
    (h : mapRequest lib mapper .openAI .bedrock targetPathAndQuery (some bytes) = .ok out) :
    ∃ target w, mapModel lib.chrono mapper source .bedrock = .ok target ∧
      rewritten lib.chrono (target.display lib.chrono) = some w ∧
      PathAndQuery.fromStr (ApiEndpoint.conversePath w (isStream request) ++
        queryText targetPathAndQuery.query) = some out.pathAndQuery := by
  obtain ⟨bytes', hbytes, h⟩ := bind_eq_ok_iff.mp h
  cases hbytes
  obtain ⟨converter, hconverter, h⟩ := bind_eq_ok_iff.mp h
  cases hconverter
  obtain ⟨⟨converted, ctx⟩, hconverted, h⟩ := bind_eq_ok_iff.mp h
  obtain ⟨target, m, htarget, hm, rfl⟩ := bedrockConverter_spec hrequest hsource hconverted
  obtain ⟨basePath, hpath, h⟩ := bind_eq_ok_iff.mp h
  cases hpath
  obtain ⟨pathAndQuery, hchecked, h⟩ := bind_eq_ok_iff.mp h
  cases h
  refine ⟨target, m.display lib.chrono, htarget, ?_, Option.okOr_eq_ok_iff.mp hchecked⟩
  unfold rewritten
  rw [hm]

/-- A query that a request can have holds no fragment. -/
theorem not_mem_queryText {query : Option (List Char)}
    (hquery : ∀ q ∈ query, q.all queryChar = true) : '#' ∉ queryText query := by
  intro hmem
  cases query with
  | none => cases hmem
  | some q =>
    rcases List.mem_cons.mp hmem with hmark | hmem
    · exact absurd hmark (by decide)
    · exact ne_of_queryChar (List.all_eq_true.mp (hquery q rfl) _ hmem) rfl

/-- The path with a text in the place of the id, as far as it is sent. -/
theorem onConverse_iff_lands {chrono : Chrono Date} {streamed : Bool} {query : Option (List Char)}
    (hquery : ∀ q ∈ query, q.all queryChar = true) {text w : List Char}
    (hw : rewritten chrono text = some w) {pathAndQuery : PathAndQuery}
    (h : PathAndQuery.fromStr (ApiEndpoint.conversePath w streamed ++ queryText query) =
      some pathAndQuery) :
    OnConverse offered streamed query pathAndQuery ↔ Lands chrono offered streamed query text := by
  obtain ⟨hdata, -⟩ := PathAndQuery.eq_of_fromStr h
  have hmodel : '#' ∉ "/model/".toList := by decide
  have hafter : '#' ∉ (if streamed then "/converse-stream".toList else "/converse".toList) ++
      queryText query := by
    intro hmem
    rcases List.mem_append.mp hmem with hop | hq
    · revert hop
      cases streamed <;> decide
    · exact not_mem_queryText hquery hq
  -- a fragment is cut off, so what is sent is the id, or it ends before a `#` in the text
  have hat : ∀ id : List Char, IsSegment id → ((pathAndQuery.data =
      ApiEndpoint.conversePath id streamed ++ queryText query) ↔ (w = id ∨ ∃ rest, w = id ++
        ((if streamed then "/converse-stream".toList else "/converse".toList) ++ queryText query ++
          '#' :: rest))) := by
    intro id hid
    have hclean : '#' ∉ id := fun hmem => (hid '#' hmem).2.2 rfl
    rw [hdata]
    unfold ApiEndpoint.conversePath
    rw [List.append_assoc, List.append_assoc, List.append_assoc, List.append_assoc]
    exact takeWhile_append_eq_iff hmodel hafter hclean
  constructor
  · rintro ⟨id, hid, hsegment, heq⟩ w' hw'
    obtain rfl := Option.some.inj (hw.symm.trans hw')
    exact ⟨id, hid, hsegment, (hat id hsegment).mp heq⟩
  · intro hlands
    obtain ⟨id, hid, hsegment, heq⟩ := hlands w hw
    exact ⟨id, hid, hsegment, (hat id hsegment).mpr heq⟩

/-- **Staying on the converse operation.** A chat request that is mapped to Bedrock stays there
exactly when its model stays in its place. -/
theorem onConverse_iff (hrequest : lib.chatRequest bytes = some request)
    (hsource : ModelId.fromStr lib.chrono request.model.toList = .ok source)
    (hoffered : mapper.providersConfig .bedrock = some offered) {text : List Char}
    (htarget : PathAndQuery.fromStr text = some targetPathAndQuery)
    (h : mapRequest lib mapper .openAI .bedrock targetPathAndQuery (some bytes) = .ok out) :
    OnConverse offered (isStream request) targetPathAndQuery.query out.pathAndQuery ↔
      StaysPut lib.chrono mapper offered (isStream request) targetPathAndQuery.query source := by
  obtain ⟨target, w, hmapped, hw, hpath⟩ := mapRequest_bedrock hrequest hsource h
  rw [onConverse_iff_lands (PathAndQuery.query_of_fromStr htarget) hw hpath]
  rcases (mapModel_eq_ok_iff hoffered).mp hmapped with ⟨hin, rfl⟩ | ⟨hout, t, ht, hread⟩
  · -- the model of the request itself
    constructor
    · intro hlands
      exact ⟨fun _ => hlands, fun hnot => absurd hin hnot⟩
    · intro hstays
      exact hstays.own hin
  -- the alternative that is configured
  · have hrewritten : rewritten lib.chrono t = some (target.display lib.chrono) := by
      unfold rewritten
      rw [hread]
    constructor
    · intro hlands
      refine ⟨fun hin => absurd hin hout, fun _ t' ht' w' hw' => ?_⟩
      obtain rfl := Option.some.inj (Eq.trans (Eq.symm ht) ht')
      obtain rfl := Option.some.inj (hrewritten.symm.trans hw')
      exact hlands
    · intro hstays
      exact hstays.mapped hout t ht _ hrewritten

/-- **The configured texts stay in their place**, if they are segments and written as they are read.
What is left to the client is a source whose bare name is offered. -/
theorem staysPut_iff_own {chrono : Chrono Date} {streamed : Bool} {query : Option (List Char)}
    (hsegment : ∀ t ∈ offered, IsSegment t)
    (hwritten : ∀ t ∈ offered, WrittenAsRead chrono .bedrock t) :
    StaysPut chrono mapper offered streamed query source ↔
      (ModelName.fromModel source ∈ offered →
        Lands chrono offered streamed query (source.display chrono)) := by
  refine ⟨StaysPut.own, fun hown => ⟨hown, fun _ t ht w hw w' hw' => ?_⟩⟩
  have hin : t ∈ offered := mem_of_alternative ht
  have hback : ∀ {v : List Char}, rewritten chrono t = some v → v = t := by
    intro v hv
    unfold rewritten at hv
    split at hv
    · next m hm =>
      obtain rfl := Option.some.inj hv
      exact (written_iff chrono .bedrock t m hm).mpr (hwritten t hin)
    · cases hv
  obtain rfl := hback hw
  obtain rfl := hback hw'
  exact ⟨w', hin, hsegment w' hin, Or.inl rfl⟩

/-! ### A model with a path in its tag -/

/-- A chat of one word with a model. -/
def askFor (model : String) : ChatRequest :=
  { Conversation.chat [.user (.text "Hello")] none with model := model }

def helloStart : List Char := "\x7b\"model\":\"".toList

def helloEnd : List Char :=
  "\",\"messages\":[\x7b\"role\":\"user\",\"content\":\"Hello\"\x7d]\x7d".toList

/-- Its body. -/
def helloBody (model : String) : Bytes :=
  (helloStart ++ model.toList ++ helloEnd).map fun c => UInt8.ofNat c.toNat

/-- A reader of such bodies, and of no other ones. -/
def readHello (body : Bytes) : Option ChatRequest :=
  let text := body.map fun b => Char.ofNat b.toNat
  let rest := text.drop helloStart.length
  let model := rest.take (rest.length - helloEnd.length)
  if helloStart ++ model ++ helloEnd = text then some (askFor (String.ofList model)) else none

/-- The libraries, for chats of one word. -/
def helloLibraries : Libraries Json Day where
  chatRequest := readHello
  images := Conversation.noImages
  createMessageParams _ := some []
  toDocument := some
  converseInput _ := some []
  chrono := gregorian
  other _ _ := .error .serialize

/-- A mapper with one model for Bedrock, which has a mapping to it. -/
def titanMapper : ModelMapper where
  providersConfig _ := some ["amazon.titan-text-express-v1".toList]
  routerMapping := none
  defaultMapping _ := some ["amazon.titan-text-express-v1".toList]

/-- A model that is mapped by its name is on the operation of the one it is mapped to. -/
theorem onConverse_iff_mapped : ∃ pq, PathAndQuery.fromStr "/chat/completions".toList = some pq ∧
    ∃ out, mapRequest helloLibraries titanMapper .openAI .bedrock pq
      (some (helloBody "openai/gpt-4o-mini")) = .ok out ∧
    OnConverse ["amazon.titan-text-express-v1".toList] false pq.query out.pathAndQuery := by
  obtain ⟨pq, hpq⟩ : ∃ pq, PathAndQuery.fromStr "/chat/completions".toList = some pq := ⟨_, by rfl⟩
  obtain rfl := Option.some.inj ((by rfl : PathAndQuery.fromStr "/chat/completions".toList =
    some ⟨"/chat/completions".toList⟩).symm.trans hpq)
  have hrequest : readHello (helloBody "openai/gpt-4o-mini") =
      some (askFor "openai/gpt-4o-mini") := by rfl
  obtain ⟨out, hout⟩ : ∃ out, mapRequest helloLibraries titanMapper .openAI .bedrock
    ⟨"/chat/completions".toList⟩ (some (helloBody "openai/gpt-4o-mini")) = .ok out := ⟨_, by rfl⟩
  have hsource : ModelId.fromStr gregorian "openai/gpt-4o-mini".toList =
      .ok (.modelIdWithVersion .openAI ⟨"gpt-4o-mini".toList, .implicitLatest⟩) := by rfl
  have hiff := onConverse_iff hrequest hsource rfl hpq hout
  have hback : rewritten gregorian "amazon.titan-text-express-v1".toList =
      some "amazon.titan-text-express-v1".toList := by rfl
  have hsegment : IsSegment "amazon.titan-text-express-v1".toList := by
    have hall : "amazon.titan-text-express-v1".toList.all
        (fun c => c != '/' && c != '?' && c != '#') = true := by rfl
    intro c hc
    simpa [and_assoc] using List.all_eq_true.mp hall c hc
  refine ⟨_, hpq, out, hout, hiff.mpr ⟨fun hin => absurd hin (by decide), ?_⟩⟩
  intro _ t ht w hw w' hw'
  obtain rfl := Option.some.inj ((by rfl : titanMapper.alternative
    ["amazon.titan-text-express-v1".toList] "gpt-4o-mini".toList =
      some "amazon.titan-text-express-v1".toList).symm.trans ht)
  obtain rfl := Option.some.inj (hback.symm.trans hw)
  obtain rfl := Option.some.inj (hback.symm.trans hw')
  exact ⟨_, List.mem_singleton_self _, hsegment, Or.inl rfl⟩

/-- **The tag of a model is a path.** -/
theorem onConverse_fails : ¬ ∀ (lib : Libraries Json Day) (mapper : ModelMapper)
    (request : ChatRequest) (source : ModelId Day) (offered : List ModelName)
    (bytes : Bytes) (text : List Char) (targetPathAndQuery : PathAndQuery)
    (out : MappedRequest Day),
    lib.chatRequest bytes = some request →
    ModelId.fromStr lib.chrono request.model.toList = .ok source →
    mapper.providersConfig .bedrock = some offered →
    PathAndQuery.fromStr text = some targetPathAndQuery →
    mapRequest lib mapper .openAI .bedrock targetPathAndQuery (some bytes) = .ok out →
    OnConverse offered (isStream request) targetPathAndQuery.query out.pathAndQuery := by
  intro h
  have hrequest : readHello (helloBody "ollama/amazon.titan-text-express-v1:0/invoke?a=") =
      some (askFor "ollama/amazon.titan-text-express-v1:0/invoke?a=") := by rfl
  obtain ⟨out, hout⟩ : ∃ out, mapRequest helloLibraries titanMapper .openAI .bedrock
    ⟨"/chat/completions".toList⟩
    (some (helloBody "ollama/amazon.titan-text-express-v1:0/invoke?a=")) = .ok out := ⟨_, by rfl⟩
  have htarget : PathAndQuery.fromStr "/chat/completions".toList =
      some ⟨"/chat/completions".toList⟩ := by rfl
  have hsource : ModelId.fromStr gregorian
      "ollama/amazon.titan-text-express-v1:0/invoke?a=".toList =
        .ok (.ollama ⟨"amazon.titan-text-express-v1".toList, "0/invoke?a=".toList⟩) := by rfl
  obtain ⟨id, hid, -, hpath⟩ := h _ _ _ _ _ _ _ _ out hrequest hsource rfl htarget hout
  obtain rfl := List.mem_singleton.mp hid
  obtain ⟨target, w, hmapped, hw, hsent⟩ := mapRequest_bedrock hrequest hsource hout
  have hinvoke : mapModel gregorian titanMapper
      (.ollama ⟨"amazon.titan-text-express-v1".toList, "0/invoke?a=".toList⟩) .bedrock =
        .ok (.ollama ⟨"amazon.titan-text-express-v1".toList, "0/invoke?a=".toList⟩) := by rfl
  obtain rfl := Except.ok.inj (hinvoke.symm.trans hmapped)
  -- the tag is written into the path as it is, and its question mark begins the query
  obtain rfl := Option.some.inj ((by rfl : rewritten gregorian
    "amazon.titan-text-express-v1:0/invoke?a=".toList =
      some "amazon.titan-text-express-v1:0/invoke?a=".toList).symm.trans hw)
  rw [(PathAndQuery.eq_of_fromStr hsent).1] at hpath
  revert hpath
  decide

end Mapper

end AiGateway
