import AiGateway.Dispatcher.Credentials
import AiGateway.Framework.Layered
import AiGateway.Mapper.Request
import AiGateway.Mapper.Response

/-!
# The fallback of a router

`Router::new` and `Router::call` of `router/service.rs`. A path that is no endpoint of the API is
left to the direct proxy of the SDK provider, behind the layers of the router. What the layers
know of a request they find among its extensions, which those in front of them have
put there, and a layer that misses one answers with an error.

The balancers come in at a request whose endpoint has been put among its extensions, the direct
proxy at one whose path is none. Both end in the same service, with a mapper that asks for
the endpoint.

The rate limiter and the cache are parameters that know nothing of endpoints.

* `dispatcherService_of_noEndpoint`: what that service answers without an endpoint;
* `silent_directProxy`: so the fallback sends nothing to a provider;
* `sent_dispatcherService`: with one, the same service does send the request, and a stream as often
  as its event source does;
* `never_fallsBack`: the requests that are forwarded by the fallback, which are none.
-/

namespace AiGateway

open Web Http Layered Except

/-- `ApiEndpoint::new`, with `EndpointRoute::from_path`. -/
def ApiEndpoint.new (path : List Char) : Option ApiEndpoint :=
  if path = "/chat/completions".toList then some .openAI else none

namespace Fallback

variable {Host Document Date : Type}

/-! ### Requests -/

/-- `SDK` of `config/mod.rs`. -/
def sdk : InferenceProvider := .openAI

/-- `RequestContext`, as far as the dispatcher reads it. -/
structure RequestContext where
  authContext : Option AuthContext

/-- The extensions of a request, by their types. -/
structure Extensions (Date : Type) where
  pathAndQuery : Option PathAndQuery
  inferenceProvider : Option InferenceProvider
  apiEndpoint : Option ApiEndpoint
  mapperCtx : Option (Mapper.MapperContext Date)
  authContext : Option AuthContext
  requestContext : Option RequestContext

structure Request (Date : Type) where
  method : String
  headers : HeaderMap
  extensions : Extensions Date
  /-- None if it cannot be collected. -/
  body : Option Bytes

/-- A request to a provider. -/
structure Forwarded (Host : Type) where
  provider : InferenceProvider
  method : String
  /-- Those of the request. -/
  headers : HeaderMap
  /-- With those that the client of the provider adds, and its signature. -/
  sentHeaders : HeaderMap
  /-- What the base URL of the provider is joined with. -/
  pathAndQuery : List Char
  target : Url Host
  body : Bytes
  /-- The response is read by an event source. -/
  isStream : Bool

/-! ### Answers -/

/-- `ApiError`. -/
inductive CallError
  | internal (e : InternalError)
  | requestBodyError
  | signing (e : Credentials.DispatchError)
  | stream (e : EventSourceError)
  | notFound (path : List Char)
  | unsupportedProvider (provider : InferenceProvider)
  | mapRequest (e : Mapper.MapRequestError)
  | mapResponse (e : ErrorBody.MapError)

/-- How a call fails. A panic is not an error that a service could answer. -/
inductive Failure
  | error (e : CallError)
  | panicked

/-- What a service behind a mapper answers. -/
abbrev Answer := Except Failure ErrorBody.MappedResponse

/-- What the dispatcher answers: the response of the provider, with the context of the mapper among
its extensions. -/
abbrev DispatcherAnswer (Date : Type) := Except Failure (UserResponse × Mapper.MapperContext Date)

def badRequest : StatusCode := ⟨400, by decide, by decide⟩

def notFound : StatusCode := ⟨404, by decide, by decide⟩

/-- `ApiError::into_response`: the status and the type of the error. -/
def CallError.statusAndType : CallError → StatusCode × String
  | .internal e => (ErrorBody.ResponseError.dispatch (.internal e)).statusAndType
  | .requestBodyError => (.internalServerError, "server_error")
  | .signing .invalidCredentials => (.unauthorized, "invalid_request_error")
  | .signing .hostRequired => (badRequest, "invalid_request_error")
  | .signing .awsRequestSigningError => (.internalServerError, "server_error")
  | .stream e => (ErrorBody.ResponseError.dispatch (.streamError e)).statusAndType
  | .notFound _ => (Fallback.notFound, "invalid_request_error")
  | .unsupportedProvider _ => (badRequest, "invalid_request_error")
  | .mapRequest .invalidRequestBody => (badRequest, "invalid_request_error")
  | .mapRequest _ => (.internalServerError, "server_error")
  | .mapResponse e => (ErrorBody.ResponseError.map e).statusAndType

/-- The code of the error. -/
def CallError.code : CallError → Option String
  | .signing .invalidCredentials => some "invalid_api_key"
  | _ => none

/-- The headers of a signed request in their canonical form. -/
abbrev CanonicalHeaders := List (String × List Char)

/-- **What the services of a router rest on**: the providers that are configured, with their clients
and the signer, the libraries, the converters, the texts of the errors, and what the providers
answer. -/
structure Env (Host Document Date : Type) where
  parseAuthority : AuthorityParser Host
  hostText : Host → List Char
  /-- The text of a URL, with the path and the query. -/
  urlText : Url Host → List Char → String
  client : InferenceProvider → Credentials.Client
  signer : Credentials.Signer ℕ CanonicalHeaders
  now : ℕ
  gateway : Gateway Host
  lib : Mapper.Libraries Document Date
  modelMapper : ModelMapper
  bodyLib : ErrorBody.Libraries
  /-- The converter of responses, from an endpoint to another one. -/
  converter : ApiEndpoint → ApiEndpoint → ErrorBody.BodyConverter
  display : CallError → String
  upstream : Forwarded Host → UpstreamOutcome

variable (env : Env Host Document Date)

/-- The response made of an error. -/
def CallError.intoResponse (e : CallError) : ErrorBody.MappedResponse where
  status := e.statusAndType.1
  body := [.ok (env.bodyLib.toVec ⟨{
    message := env.display e, type := some e.statusAndType.2, param := none, code := e.code }⟩)]

/-! ### The dispatcher -/

/-- An extension that a layer asks for. -/
def extension {α : Type} (name : String) (value : Option α) : Except CallError α :=
  value.okOr (.internal (.extensionNotFound name))

/-- What the client of the provider makes of the headers. Only that of Bedrock signs a request,
which may fail. -/
def Env.upstreamHeaders (provider : InferenceProvider) (method : String) (headers : HeaderMap)
    (target : Url Host) (reference : List Char) (body : Bytes) :
    Except Credentials.DispatchError HeaderMap :=
  Credentials.upstream env.signer (env.client provider)
    ⟨method, env.urlText target reference, target.host.map env.hostText, body⟩ env.now headers

/-- `dispatch`, up to the request it sends. The join panics if it fails. -/
def prepare (provider : InferenceProvider) (req : Request Date) :
    Except Failure (Forwarded Host × Mapper.MapperContext Date × RequestContext) := do
  let mapperCtx ← (extension "MapperContext" req.extensions.mapperCtx).mapError .error
  let reqCtx ← (extension "RequestContext" req.extensions.requestContext).mapError .error
  let baseUrl ← (env.gateway.baseUrl provider).okOr
    (.error (.internal (.providerNotConfigured provider)))
  let pathAndQuery ← (extension "PathAndQuery" req.extensions.pathAndQuery).mapError .error
  let _ ← (extension "InferenceProvider" req.extensions.inferenceProvider).mapError .error
  let target ← (baseUrl.join env.parseAuthority pathAndQuery.asStr).okOr .panicked
  let body ← req.body.okOr (.error .requestBodyError)
  let sentHeaders ← (env.upstreamHeaders provider req.method req.headers target pathAndQuery.asStr
    body).mapError fun e => .error (.signing e)
  let forwarded :=
    { provider, method := req.method, headers := Credentials.strip req.headers, sentHeaders,
      pathAndQuery := pathAndQuery.asStr, target, body, isStream := mapperCtx.isStream }
  return (forwarded, mapperCtx, reqCtx)

/-- How often a request is sent. An event source, which a client reads to its end, may send it
again. -/
def Env.posts (f : Forwarded Host) : ℕ :=
  if f.isStream then AiGateway.posts (eventSource (env.upstream f)) else 1

/-- `ApiError` of the dispatcher. -/
def CallError.ofDispatch : ApiError → CallError
  | .internal e => .internal e
  | .streamError e => .stream e

/-- What becomes of the provider's answer. The response is logged where it is observed. -/
def received (apiEndpoint : Option ApiEndpoint) (mapperCtx : Mapper.MapperContext Date)
    (reqCtx : RequestContext) (outcome : UpstreamOutcome) : DispatcherAnswer Date :=
  match (Dispatcher.send mapperCtx.isStream apiEndpoint outcome Dispatcher.noAccounts).1 with
  | .error e => .error (.error (.ofDispatch e))
  | .ok response =>
    if env.gateway.features.isObservabilityEnabled ∧ reqCtx.authContext.isNone then
      .error (.error (.internal (.extensionNotFound "AuthContext")))
    else .ok (response, mapperCtx)

/-- **The dispatcher**, `Dispatcher::call`. -/
def dispatcher (provider : InferenceProvider) :
    Service (Request Date) (Forwarded Host) (DispatcherAnswer Date) := fun req =>
  match prepare env provider req with
  | .error e => .answer (.error e)
  | .ok (forwarded, mapperCtx, reqCtx) =>
    ⟨List.replicate (env.posts forwarded) forwarded,
      received env req.extensions.apiEndpoint mapperCtx reqCtx (env.upstream forwarded)⟩

/-! ### The layers in front of it -/

/-- The extensions `Service::call` of the mapper asks for, and the endpoint that answers. -/
def endpoints (req : Request Date) :
    Except CallError (PathAndQuery × ApiEndpoint × ApiEndpoint) := do
  let targetProvider ← extension "InferenceProvider" req.extensions.inferenceProvider
  let pathAndQuery ← extension "PathAndQuery" req.extensions.pathAndQuery
  let source ← extension "ApiEndpoint" req.extensions.apiEndpoint
  let target ← (source.mapped targetProvider).mapError fun e => .unsupportedProvider e.provider
  return (pathAndQuery, source, target)

/-- The request a mapper passes on. -/
def mapped (req : Request Date) : Except CallError (Request Date) := do
  let (pathAndQuery, source, target) ← endpoints req
  let out ← (Mapper.mapRequest env.lib env.modelMapper source target pathAndQuery req.body).mapError
    .mapRequest
  return { req with
    body := some out.body
    extensions := { req.extensions with
      pathAndQuery := some out.pathAndQuery
      mapperCtx := some out.mapperCtx
      apiEndpoint := some out.apiEndpoint } }

/-- **The mapper**, `Service::call`. -/
def mapperLayer : Layer (Request Date) (Request Date) (DispatcherAnswer Date) Answer where
  enter req := (mapped env req).mapError fun e => .error (.error e)
  leave req answer := do
    let (response, mapperCtx) ← answer
    let (_, source, target) ← (endpoints req).mapError .error
    (ErrorBody.mapResponse env.bodyLib (env.converter target source) target mapperCtx.isStream
      response).mapError fun e => .error (.mapResponse e)

/-- `ErrorHandler`. -/
def errorHandler : Layer (Request Date) (Request Date) Answer Answer where
  enter := .ok
  leave _ answer :=
    match answer with
    | .error (.error e) => .ok (e.intoResponse env)
    | answer => answer

/-- A request with its provider among its extensions. -/
def Request.withProvider (req : Request Date) (provider : InferenceProvider) : Request Date :=
  { req with extensions := { req.extensions with inferenceProvider := some provider } }

/-- `AddExtensions`, for the direct proxy: there is no id of a router. -/
def addExtensions (provider : InferenceProvider) :
    Layer (Request Date) (Request Date) Answer Answer where
  enter req := .ok (req.withProvider provider)
  leave _ answer := answer

/-- `request_context::Service`. -/
def requestContext : Layer (Request Date) (Request Date) Answer Answer where
  enter req := .ok { req with
    extensions := { req.extensions with
      authContext := none
      requestContext := some ⟨req.extensions.authContext⟩ } }
  leave _ answer := answer

/-- `Dispatcher::new_direct_proxy`. -/
def dispatcherService (provider : InferenceProvider) :
    Service (Request Date) (Forwarded Host) Answer :=
  (addExtensions provider).layer
    ((errorHandler env).layer ((mapperLayer env).layer (dispatcher env provider)))

/-! ### Routers -/

/-- A request without an endpoint. -/
def NoEndpoint (req : Request Date) : Prop := req.extensions.apiEndpoint = none

/-- A router: the balancers of its endpoint types, and the layers all of its services have. These
may answer a request, but put no endpoint among its extensions. -/
structure Router (Host Document Date : Type) where
  env : Env Host Document Date
  inner : EndpointType → Option (Service (Request Date) (Forwarded Host) Answer)
  rateLimit : Layer (Request Date) (Request Date) Answer Answer
  cache : Layer (Request Date) (Request Date) Answer Answer
  rateLimit_maintains : rateLimit.Maintains NoEndpoint NoEndpoint
  cache_maintains : cache.Maintains NoEndpoint NoEndpoint

namespace Router

/-- The `direct_proxy` of `Router::new`. -/
def directProxy (router : Router Host Document Date) :
    Service (Request Date) (Forwarded Host) Answer :=
  router.rateLimit.layer
    (router.cache.layer (requestContext.layer (dispatcherService router.env sdk)))

/-- `Router::call`. -/
def call (router : Router Host Document Date) : Service (Request Date) (Forwarded Host) Answer :=
  fun req =>
    match req.extensions.pathAndQuery with
    | none => .answer (.error (.error (.internal (.extensionNotFound "PathAndQuery"))))
    | some pathAndQuery =>
      match ApiEndpoint.new pathAndQuery.path with
      | some apiEndpoint =>
        match router.inner apiEndpoint.endpointType with
        | some balancer => balancer { req with
            extensions := { req.extensions with apiEndpoint := some apiEndpoint } }
        | none => .answer (.error (.error (.notFound pathAndQuery.path)))
      | none => router.directProxy req

end Router

/-! ### Without an endpoint -/

/-- What a mapper answers to a request without an endpoint. -/
theorem mapped_of_noEndpoint {req : Request Date} (hreq : NoEndpoint req)
    {provider : InferenceProvider} (hprovider : req.extensions.inferenceProvider = some provider)
    {pathAndQuery : PathAndQuery} (hpath : req.extensions.pathAndQuery = some pathAndQuery) :
    mapped env req = .error (.internal (.extensionNotFound "ApiEndpoint")) := by
  have hendpoint : req.extensions.apiEndpoint = none := hreq
  unfold mapped endpoints
  rw [hprovider, hpath, hendpoint]
  rfl

/-- No request without an endpoint gets through a mapper. -/
theorem mapperLayer_maintains :
    (mapperLayer env).Maintains NoEndpoint fun _ : Request Date => False := by
  intro req req' hreq hthrough
  have hmapped : mapped env req = .ok req' := mapError_eq_ok_iff.mp hthrough
  obtain ⟨⟨pathAndQuery, source, target⟩, hendpoints, -⟩ := bind_eq_ok_iff.mp hmapped
  -- a mapper asks for the provider and the path before it asks for the endpoint
  obtain ⟨_, -, hrest⟩ := bind_eq_ok_iff.mp hendpoints
  obtain ⟨_, -, hsource⟩ := bind_eq_ok_iff.mp hrest
  obtain ⟨source', hfound, -⟩ := bind_eq_ok_iff.mp hsource
  have hsome : req.extensions.apiEndpoint = some source' := Option.okOr_eq_ok_iff.mp hfound
  rw [show req.extensions.apiEndpoint = none from hreq] at hsome
  cases hsome

/-- **The service sends nothing** for a request without an endpoint. -/
theorem silent_dispatcherService (provider : InferenceProvider) :
    Silent (dispatcherService env provider) (NoEndpoint : Request Date → Prop) := by
  -- nothing gets as far as the dispatcher
  have hmapper : Silent ((mapperLayer env).layer (dispatcher env provider)) NoEndpoint :=
    (silent_false _).layer (mapperLayer_maintains env)
  have hhandler : (errorHandler env).Maintains (NoEndpoint : Request Date → Prop) NoEndpoint := by
    rintro req _ hreq ⟨⟩
    exact hreq
  have hextensions :
      (addExtensions provider).Maintains (NoEndpoint : Request Date → Prop) NoEndpoint := by
    rintro req _ hreq ⟨⟩
    exact hreq
  exact (hmapper.layer hhandler).layer hextensions

/-- **It answers with a 500** that names the endpoint. -/
theorem dispatcherService_of_noEndpoint (provider : InferenceProvider) {req : Request Date}
    (hreq : NoEndpoint req) {pathAndQuery : PathAndQuery}
    (hpath : req.extensions.pathAndQuery = some pathAndQuery) :
    (dispatcherService env provider req).result =
      .ok (CallError.intoResponse env (.internal (.extensionNotFound "ApiEndpoint"))) := by
  have hnone : NoEndpoint (req.withProvider provider) := hreq
  have hmapper : (mapperLayer env).enter (req.withProvider provider) =
      .error (.error (.error (.internal (.extensionNotFound "ApiEndpoint")))) := by
    show (mapped env (req.withProvider provider)).mapError _ = _
    rw [mapped_of_noEndpoint env hnone rfl hpath]
    rfl
  unfold dispatcherService
  rw [Layer.layer_of_ok _ rfl, Layer.layer_of_ok _ rfl, Layer.layer_of_error _ hmapper]
  rfl

/-- A request that no event source sends is sent once. -/
theorem posts_of_not_isStream {f : Forwarded Host} (h : f.isStream = false) : env.posts f = 1 := by
  unfold Env.posts
  rw [h]
  rfl

/-- The connection of a stream does not break, once it has begun. -/
def Env.KeepsConnection (f : Forwarded Host) : Prop :=
  f.isStream = true → ∀ item ∈ (eventSource (env.upstream f)).tail, isBroken item = false

/-- Neither is a stream sent again whose connection does not break. -/
theorem posts_of_keepsConnection {f : Forwarded Host} (h : env.KeepsConnection f) :
    env.posts f = 1 := by
  by_cases hstream : f.isStream = true
  · unfold Env.posts
    rw [if_pos hstream]
    exact posts_eq_one (h hstream)
  · exact posts_of_not_isStream env (Bool.not_eq_true _ ▸ hstream)

/-- **With an endpoint the service does send**: what the dispatcher makes of the mapped request. -/
theorem sent_dispatcherService (provider : InferenceProvider) {req req' : Request Date}
    (hmapped : mapped env (req.withProvider provider) = .ok req') {forwarded : Forwarded Host}
    {mapperCtx : Mapper.MapperContext Date} {reqCtx : RequestContext}
    (hprepared : prepare env provider req' = .ok (forwarded, mapperCtx, reqCtx)) :
    (dispatcherService env provider req).sent =
      List.replicate (env.posts forwarded) forwarded := by
  have hmapper : (mapperLayer env).enter (req.withProvider provider) = .ok req' := by
    show (mapped env (req.withProvider provider)).mapError _ = _
    rw [hmapped]
    rfl
  unfold dispatcherService
  rw [Layer.layer_of_ok _ rfl, Layer.layer_of_ok _ rfl, Layer.layer_of_ok _ hmapper]
  simp only [Call.sent_map]
  unfold dispatcher
  rw [hprepared]

/-- **The fallback sends nothing** for a request that comes without an endpoint. -/
theorem silent_directProxy (router : Router Host Document Date) :
    Silent router.directProxy NoEndpoint := by
  have hcontext : requestContext.Maintains (NoEndpoint : Request Date → Prop) NoEndpoint := by
    rintro req _ hreq ⟨⟩
    exact hreq
  have hbehind := (silent_dispatcherService router.env sdk).layer hcontext
  exact (hbehind.layer router.cache_maintains).layer router.rateLimit_maintains

/-! ### The fallback -/

/-- A request the fallback of a router is there for: its path is no endpoint. -/
structure FallbackRequest where
  method : String
  headers : HeaderMap
  body : Bytes
  /-- What the auth middleware knows of the sender. -/
  authContext : Option AuthContext
  pathAndQuery : PathAndQuery
  unrecognised : ApiEndpoint.new pathAndQuery.path = none

/-- The request as `handle_router_request` hands it to the router. -/
def FallbackRequest.request (req : FallbackRequest) : Request Date where
  method := req.method
  headers := req.headers
  extensions :=
    { pathAndQuery := some req.pathAndQuery, inferenceProvider := none, apiEndpoint := none,
      mapperCtx := none, authContext := req.authContext, requestContext := none }
  body := some req.body

/-- The response of a provider as it is. -/
def unmapped (r : UpstreamResponse) : ErrorBody.MappedResponse where
  status := r.status
  body := r.frames.map fun frame =>
    match frame with
    | some bytes => .ok bytes
    | none => .error .collectBodyError

/-- **The router falls back to the SDK provider**: the request is sent there, with its path and
query and its body unchanged, and the provider's response is returned. -/
def FallsBack (router : Router Host Document Date) (req : FallbackRequest) : Prop :=
  ∃ forwarded : Forwarded Host, (router.call req.request).sent = [forwarded] ∧
    forwarded.provider = sdk ∧ forwarded.method = req.method ∧
    forwarded.pathAndQuery = req.pathAndQuery.asStr ∧ forwarded.body = req.body ∧
    ∀ r, router.env.upstream forwarded = .response r →
      (router.call req.request).result = .ok (unmapped r)

/-- The direct proxy is called. -/
theorem call_fallbackRequest (router : Router Host Document Date) (req : FallbackRequest) :
    router.call req.request = router.directProxy req.request := by
  have hpath : (req.request : Request Date).extensions.pathAndQuery = some req.pathAndQuery := rfl
  unfold Router.call
  simp only [hpath, req.unrecognised]

/-- Nothing is sent. -/
theorem sent_call_fallbackRequest (router : Router Host Document Date) (req : FallbackRequest) :
    (router.call req.request).sent = [] := by
  have hnone : NoEndpoint (req.request : Request Date) := rfl
  rw [call_fallbackRequest]
  exact silent_directProxy router _ hnone

/-- **No router ever falls back.** -/
theorem never_fallsBack (router : Router Host Document Date) (req : FallbackRequest) :
    ¬ FallsBack router req := by
  rintro ⟨forwarded, hsent, -⟩
  rw [sent_call_fallbackRequest] at hsent
  cases hsent

/-! ### A request for embeddings -/

/-- A layer that does nothing. -/
def disabled : Layer (Request Date) (Request Date) Answer Answer := ⟨.ok, fun _ answer => answer⟩

theorem disabled_maintains (P : Request Date → Prop) : disabled.Maintains P P := by
  rintro req _ hreq ⟨⟩
  exact hreq

/-- A router of a gateway to OpenAI, without a rate limit or a cache. -/
def openAIRouter : Router (List Char) Serde.Json Day where
  env :=
    { parseAuthority := fun _ _ => none
      hostText := id
      urlText := fun _ reference => String.ofList reference
      client := fun provider => ⟨provider, [], none, none⟩
      signer := Credentials.plainSigner
      now := 0
      gateway := Dispatcher.openAIGateway
      lib := Mapper.helloLibraries
      modelMapper := Mapper.titanMapper
      bodyLib := ErrorBody.emptyObjectLibraries
      converter := fun _ _ => ErrorBody.noBodies
      display := fun _ => ""
      upstream := fun _ => .response ⟨.ok, none, false, [some []], []⟩ }
  inner _ := none
  rateLimit := disabled
  cache := disabled
  rateLimit_maintains := disabled_maintains NoEndpoint
  cache_maintains := disabled_maintains NoEndpoint

/-- The body of a request for embeddings. -/
def embeddings : FallbackRequest where
  method := "POST"
  headers := []
  body := "\x7b\"input\":\"Hello\",\"model\":\"text-embedding-3-small\"\x7d".toUTF8.toList
  authContext := none
  pathAndQuery := ⟨"/embeddings".toList⟩
  unrecognised := by rfl

/-- **It is answered with a 500**, and OpenAI is not asked. -/
theorem fallsBack_fails :
    ¬ ∀ (router : Router (List Char) Serde.Json Day) (req : FallbackRequest),
      FallsBack router req := by
  intro h
  obtain ⟨forwarded, -, -, -, -, -, hresult⟩ := h openAIRouter embeddings
  have hanswer : (openAIRouter.call embeddings.request).result =
      .ok (CallError.intoResponse openAIRouter.env
        (.internal (.extensionNotFound "ApiEndpoint"))) := by
    rw [call_fallbackRequest]
    exact dispatcherService_of_noEndpoint openAIRouter.env sdk rfl rfl
  -- the response of the provider would be a 200
  have hok : (Except.ok (CallError.intoResponse openAIRouter.env
      (.internal (.extensionNotFound "ApiEndpoint"))) : Answer) =
        .ok (unmapped ⟨.ok, none, false, [some []], []⟩) := hanswer.symm.trans (hresult _ rfl)
  have hstatus : (500 : ℕ) = 200 :=
    congrArg (fun r => StatusCode.code (ErrorBody.MappedResponse.status r)) (Except.ok.inj hok)
  exact absurd hstatus (by decide)

end Fallback

end AiGateway
