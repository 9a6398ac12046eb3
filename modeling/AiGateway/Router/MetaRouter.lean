import AiGateway.Router.Route
import AiGateway.Router.Unified

/-!
# Where requests end up

`MetaRouter::call` of `router/meta.rs` over the services it chooses among: the routers, the unified
API, and for each provider a direct proxy of `DirectProxiesWithoutMapper` (`router/direct.rs`).

A request is handed on as it has come, but for its extensions: what is left of its path is put
among them. On the direct route nothing looks at the body, as there is no mapper, and the context
that a mapper would make of it is put among the extensions as well.

* `sentFor_call`: all that is sent are copies of one request, without the client's credentials, and
  it is one of the route: to a provider of the router that the path names, to the provider that the
  body names, or the client's request itself, to the provider that the path names;
* `passesOn_call`: which requests are sent on the direct route, and that their answers are returned.
-/

namespace AiGateway

open Web Http Layered Except

namespace Fallback

variable {Host Document Date : Type}

/-! ### Direct proxies -/

/-- The response of the dispatcher as it is. -/
def asIs (response : UserResponse) : ErrorBody.MappedResponse where
  status := response.status
  body := (ErrorBody.UserBody.frames response.body).map fun frame =>
    match frame with
    | some bytes => .ok bytes
    | none => .error .collectBodyError

/-- Where others have their mapper. -/
def withoutMapper : Layer (Request Date) (Request Date) (DispatcherAnswer Date) Answer where
  enter := .ok
  leave _ answer := answer.map fun answered => asIs answered.1

section Direct

variable (env : Env Host Document Date) (provider : InferenceProvider)

/-- `Dispatcher::new_without_mapper`. -/
def dispatcherServiceWithoutMapper : Service (Request Date) (Forwarded Host) Answer :=
  (addExtensions provider).layer
    ((errorHandler env).layer (withoutMapper.layer (dispatcher env provider)))

/-- The service of a provider in `DirectProxiesWithoutMapper`; its rate limiter and its cache are
disabled. -/
def directProxyWithoutMapper : Service (Request Date) (Forwarded Host) Answer :=
  disabled.layer
    (disabled.layer (requestContext.layer (dispatcherServiceWithoutMapper env provider)))

/-- `DirectProxiesWithoutMapper::new` has one for each provider that is configured. -/
def directProxiesWithoutMapper : Option (Service (Request Date) (Forwarded Host) Answer) :=
  if (env.gateway.baseUrl provider).isSome then some (directProxyWithoutMapper env provider)
  else none

end Direct

/-! ### The meta router -/

/-- A request that has passed the auth middleware. -/
structure ClientRequest (features : HeliconeFeatures) where
  method : String
  uri : RequestUri
  headers : HeaderMap
  body : Option Bytes
  authContext : Option AuthContext
  /-- The middleware refuses a request it cannot authenticate. -/
  authenticated : features.isAuthEnabled = true → authContext.isSome = true

/-- The request with the extensions the meta router puts there. -/
def ClientRequest.request {features : HeliconeFeatures} (req : ClientRequest features)
    (pathAndQuery : PathAndQuery) (mapperCtx : Option (Mapper.MapperContext Date)) :
    Request Date where
  method := req.method
  headers := req.headers
  extensions :=
    { pathAndQuery := some pathAndQuery, inferenceProvider := none, apiEndpoint := none, mapperCtx,
      authContext := req.authContext, requestContext := none }
  body := req.body

/-- `ApiError`, of the meta router and of its routers. -/
inductive MetaError
  | internal
  | notFound (path : List Char)
  | unsupportedProvider (provider : InferenceProvider)
  | call (e : CallError)

def MetaError.ofRoute : RouteError → MetaError
  | .internal => .internal
  | .notFound path => .notFound path

def MetaError.ofDirect : DirectProxyError → MetaError
  | .internal => .internal
  | .unsupportedProvider provider => .unsupportedProvider provider

inductive MetaFailure
  | error (e : MetaError)
  | panicked

abbrev MetaAnswer := Except MetaFailure ErrorBody.MappedResponse

def MetaFailure.ofFailure : Failure → MetaFailure
  | .error e => .error (.call e)
  | .panicked => .panicked

/-- An error of a direct proxy is not looked at. -/
def MetaFailure.ofDirectProxy : Failure → MetaFailure
  | .error _ => .error .internal
  | .panicked => .panicked

/-- `ResponseFuture`, of a service that is called. -/
def responseFuture (ofFailure : Failure → MetaFailure) :
    Layer (Request Date) (Request Date) Answer MetaAnswer where
  enter := .ok
  leave _ answer := answer.mapError ofFailure

/-- `ApiError::into_response`: the status and the type of an error of the unified API. -/
def UnifiedError.statusAndType : UnifiedError → StatusCode × String
  | .unsupportedEndpoint _ => (badRequest, "invalid_request_error")
  | .invalidRequestBody => (badRequest, "invalid_request_error")
  | .unsupportedProvider _ => (badRequest, "invalid_request_error")
  | _ => (.internalServerError, "server_error")

/-- `MetaRouter`. -/
structure MetaRouter (Host Document Date : Type) where
  env : Env Host Document Date
  inner : RouterId → Option (Router Host Document Date)
  /-- The text of an error of the unified API. -/
  display : UnifiedError → String

namespace MetaRouter

variable (m : MetaRouter Host Document Date)

/-- The response made of an error of the unified API. -/
def intoResponse (e : UnifiedError) : ErrorBody.MappedResponse where
  status := e.statusAndType.1
  body := [.ok (m.env.bodyLib.toVec ⟨{
    message := m.display e, type := some e.statusAndType.2, param := none, code := none }⟩)]

/-- `ErrorHandler`, in front of the unified API. -/
def unifiedErrorHandler : Layer (Request Date) (Request Date)
    (Except UnifiedFailure ErrorBody.MappedResponse) Answer where
  enter := .ok
  leave _ answer :=
    match answer with
    | .ok response => .ok response
    | .error (.error e) => .ok (m.intoResponse e)
    | .error .panicked => .error .panicked

/-- The `unified_api` of `from_config`. -/
def unifiedApi : Service (Request Date) (Forwarded Host) Answer :=
  disabled.layer (disabled.layer (m.unifiedErrorHandler.layer (unified m.env)))

/-- The service that is called, and the request it is called with. -/
def chosen (req : ClientRequest m.env.gateway.features) :
    Except MetaError (Service (Request Date) (Forwarded Host) MetaAnswer × Request Date) :=
  match routeCall (fun id => (m.inner id).isSome) m.env.gateway req.uri with
  | .router request => do
    let (routerId, pathAndQuery) ← request.mapError .ofRoute
    let router ← (m.inner routerId).okOr (.notFound req.uri.path)
    return ((responseFuture .ofFailure).layer router.call, req.request pathAndQuery none)
  | .unifiedApi request => do
    let pathAndQuery ← request.mapError .ofRoute
    return ((responseFuture .ofFailure).layer m.unifiedApi, req.request pathAndQuery none)
  | .directProxy request => do
    let direct ← request.mapError .ofDirect
    let directProxy ← (directProxiesWithoutMapper m.env direct.provider).okOr
      (.unsupportedProvider direct.provider)
    return ((responseFuture .ofDirectProxy).layer directProxy,
      req.request direct.pathAndQuery (some ⟨direct.mapperCtx, none⟩))

/-- **`MetaRouter::call`.** -/
def call (req : ClientRequest m.env.gateway.features) : Call (Forwarded Host) MetaAnswer :=
  match m.chosen req with
  | .error e => .answer (.error (.error e))
  | .ok (service, request) => service request

end MetaRouter

/-! ### The direct route -/

section Passed

variable (env : Env Host Document Date)

/-- **The request of the client, passed on**: to the provider that its path names, with the rest of
the path and the query, its method and its body, and its headers without the client's credentials.
It needs a provider that is configured, a reference that can be joined with the URL of the provider,
a body that can be read, and headers that the client of the provider can sign. -/
def passedOn (req : ClientRequest env.gateway.features) : Option (Forwarded Host) := do
  let baseUrl ← env.gateway.baseUrl (directProvider req.uri.path)
  let target ← baseUrl.join env.parseAuthority (directReference req.uri)
  let body ← req.body
  (env.upstreamHeaders (directProvider req.uri.path) req.method req.headers target
    (directReference req.uri) body).toOption.map fun sentHeaders =>
      { provider := directProvider req.uri.path, method := req.method
        headers := Credentials.strip req.headers, sentHeaders,
        pathAndQuery := directReference req.uri, target, body, isStream := false }

/-- **The request can be signed**, if it goes to Bedrock: there are keys, the second label of the
host is taken for the region, and the signer can bring the headers into its form. -/
def Env.Signs (provider : InferenceProvider) (headers : HeaderMap) (target : Url Host) : Prop :=
  (env.client provider).provider = .bedrock →
    ∃ accessKey secretKey host region c, (env.client provider).accessKey = some accessKey ∧
      (env.client provider).secretKey = some secretKey ∧ target.host = some host ∧
      ((env.hostText host).splitOn '.')[1]? = some region ∧
      env.signer.canonical ⟨accessKey, secretKey, region, env.now⟩
        (Credentials.signable (Credentials.strip headers)) = some c

theorem exists_upstreamHeaders_iff (provider : InferenceProvider) (method : String)
    (headers : HeaderMap) (target : Url Host) (reference : List Char) (body : Bytes) :
    (∃ sentHeaders, env.upstreamHeaders provider method headers target reference body =
        .ok sentHeaders) ↔ env.Signs provider headers target := by
  unfold Env.upstreamHeaders Env.Signs Credentials.upstream
    Credentials.Client.extractAndSignAwsHeaders
  by_cases hbedrock : (env.client provider).provider = .bedrock
  · rw [hbedrock]
    refine Iff.trans ?_ ⟨fun h _ => h, fun h => h rfl⟩
    unfold Credentials.Client.sign Credentials.Client.signingParams
    constructor
    · rintro ⟨sentHeaders, h⟩
      -- what the signing takes is there, one after the other
      obtain ⟨signed, hsigned, -⟩ := bind_eq_ok_iff.mp h
      obtain ⟨params, hparams, hsigned⟩ := bind_eq_ok_iff.mp hsigned
      split at hparams
      · next accessKey secretKey haccess hsecret =>
        split at hparams
        · cases hparams
        · next host hhost =>
          split at hparams
          · cases hparams
          · next region hregion =>
            cases hparams
            split at hsigned
            · cases hsigned
            · next c hc =>
              obtain ⟨host', hhost', rfl⟩ := Option.map_eq_some_iff.mp hhost
              exact ⟨accessKey, secretKey, host', region, c, haccess, hsecret, hhost', hregion, hc⟩
      · cases hparams
    · rintro ⟨accessKey, secretKey, host, region, c, haccess, hsecret, hhost, hregion, hc⟩
      simp only [haccess, hsecret, hhost, Option.map_some, hregion, hc, bind, Except.bind]
      exact ⟨_, rfl⟩
  · -- no other client signs
    refine iff_of_true ?_ fun h => absurd h hbedrock
    split
    · next h => exact absurd h hbedrock
    · exact ⟨_, rfl⟩

/-- **What is passed on**: the requests to a provider that is configured, whose reference can be
joined with its URL, whose body can be read, and which can be signed. -/
theorem isSome_passedOn_iff (req : ClientRequest env.gateway.features) :
    (passedOn env req).isSome = true ↔ ∃ baseUrl target body,
      env.gateway.baseUrl (directProvider req.uri.path) = some baseUrl ∧
        baseUrl.join env.parseAuthority (directReference req.uri) = some target ∧
        req.body = some body ∧ env.Signs (directProvider req.uri.path) req.headers target := by
  unfold passedOn
  constructor
  · intro h
    obtain ⟨f, hf⟩ := Option.isSome_iff_exists.mp h
    -- what is passed on has got through each of the steps
    obtain ⟨baseUrl, hbase, hf⟩ := Option.bind_eq_some_iff.mp hf
    obtain ⟨target, htarget, hf⟩ := Option.bind_eq_some_iff.mp hf
    obtain ⟨body, hbody, hf⟩ := Option.bind_eq_some_iff.mp hf
    obtain ⟨sentHeaders, hsent, -⟩ := Option.map_eq_some_iff.mp hf
    refine ⟨baseUrl, target, body, hbase, htarget, hbody,
      (exists_upstreamHeaders_iff env _ req.method _ _ (directReference req.uri) body).mp ?_⟩
    cases hheaders : env.upstreamHeaders (directProvider req.uri.path) req.method req.headers target
        (directReference req.uri) body with
    | error e =>
      rw [hheaders] at hsent
      cases hsent
    | ok sentHeaders => exact ⟨sentHeaders, rfl⟩
  · rintro ⟨baseUrl, target, body, hbase, htarget, hbody, hsigns⟩
    obtain ⟨sentHeaders, hsent⟩ := (exists_upstreamHeaders_iff env _ req.method _ _
      (directReference req.uri) body).mpr hsigns
    rw [hbase]
    simp only [Option.bind_eq_bind, Option.bind_some, htarget, hbody, hsent]
    rfl

/-- The direct proxy of a provider is called if there is one. Nothing else fails, since the rest of
a path is a path. -/
theorem handleDirectProxyRequest_eq (gateway : Gateway Host) (uri : RequestUri) :
    handleDirectProxyRequest gateway uri =
      if (gateway.baseUrl (directProvider uri.path)).isSome then
        .ok ⟨directProvider uri.path, ⟨rest uri.path ++ queryText uri.query⟩, ⟨false⟩⟩
      else .error (.unsupportedProvider (directProvider uri.path)) := by
  have hrest : (rest uri.path).all pathChar = true := List.all_eq_true.mpr fun c hc =>
    List.all_eq_true.mp uri.path_ok c ((rest_sublist uri.path).subset hc)
  unfold handleDirectProxyRequest
  rw [extractPathAndQuery_eq hrest uri.query_ok]

/-- A request behind the layers of a direct proxy. -/
def Request.behindProxy (req : Request Date) (provider : InferenceProvider) : Request Date :=
  Request.withProvider { req with
    extensions := { req.extensions with
      authContext := none
      requestContext := some ⟨req.extensions.authContext⟩ } } provider

/-- The answer of a direct proxy. -/
def directAnswer : DispatcherAnswer Date → Answer
  | .ok answered => .ok (asIs answered.1)
  | .error (.error e) => .ok (e.intoResponse env)
  | .error .panicked => .error .panicked

/-- **A direct proxy sends what its dispatcher sends.** -/
theorem directProxyWithoutMapper_eq (provider : InferenceProvider) (req : Request Date) :
    directProxyWithoutMapper env provider req =
      (dispatcher env provider (req.behindProxy provider)).map (directAnswer env) := by
  unfold directProxyWithoutMapper dispatcherServiceWithoutMapper
  rw [Layer.layer_of_ok _ rfl, Layer.layer_of_ok _ rfl, Layer.layer_of_ok _ rfl,
    Layer.layer_of_ok _ rfl, Layer.layer_of_ok _ rfl, Layer.layer_of_ok _ rfl]
  simp only [Call.map_map]
  refine congrArg (fun f => Call.map f _) (funext fun answer => ?_)
  rcases answer with (e | _) | answered
  · rfl
  · rfl
  · rfl

/-- **What the dispatcher sends** of a request that the meta router has handed on: the request of
the client. -/
theorem dispatcher_behindProxy (req : ClientRequest env.gateway.features)
    (model : Option (ModelId Date)) :
    let mapperCtx : Mapper.MapperContext Date := ⟨⟨false⟩, model⟩
    let call := dispatcher env (directProvider req.uri.path)
      ((req.request ⟨rest req.uri.path ++ queryText req.uri.query⟩ (some mapperCtx)).behindProxy
        (directProvider req.uri.path))
    call.sent = (passedOn env req).toList ∧ ∀ f, passedOn env req = some f →
      call.result = received env none mapperCtx ⟨req.authContext⟩ (env.upstream f) := by
  dsimp only
  -- the request that the proxy hands on has no stream and the path and query of the client's
  have hprepared : prepare env (directProvider req.uri.path)
      ((req.request ⟨rest req.uri.path ++ queryText req.uri.query⟩
        (some ⟨⟨false⟩, model⟩)).behindProxy (directProvider req.uri.path)) = (do
      let baseUrl ← (env.gateway.baseUrl (directProvider req.uri.path)).okOr
        (.error (.internal (.providerNotConfigured (directProvider req.uri.path))))
      let target ← (baseUrl.join env.parseAuthority (directReference req.uri)).okOr .panicked
      let body ← req.body.okOr (.error .requestBodyError)
      let sentHeaders ← (env.upstreamHeaders (directProvider req.uri.path) req.method req.headers
        target (directReference req.uri) body).mapError fun e => .error (.signing e)
      return (
        { provider := directProvider req.uri.path, method := req.method,
          headers := Credentials.strip req.headers, sentHeaders,
          pathAndQuery := directReference req.uri, target, body, isStream := false },
        ⟨⟨false⟩, model⟩, ⟨req.authContext⟩)) := rfl
  unfold dispatcher passedOn
  rw [hprepared]
  -- one case for each way that preparing the request can fail; nothing is sent then
  cases env.gateway.baseUrl (directProvider req.uri.path) with
  | none => exact ⟨rfl, fun f hf => by cases hf⟩
  | some baseUrl =>
    simp only [Option.okOr, bind, Except.bind, pure, Except.pure, Option.bind]
    cases baseUrl.join env.parseAuthority (directReference req.uri) with
    | none => exact ⟨rfl, fun f hf => by cases hf⟩
    | some target =>
      cases req.body with
      | none => exact ⟨rfl, fun f hf => by cases hf⟩
      | some body =>
        simp only
        cases env.upstreamHeaders (directProvider req.uri.path) req.method req.headers target
          (directReference req.uri) body with
        | error e => exact ⟨rfl, fun f hf => by cases hf⟩
        | ok sentHeaders =>
          refine ⟨rfl, ?_⟩
          rintro f ⟨⟩
          rfl

/-- Such a request is no stream, and has none of the client's credentials. -/
theorem passedOn_spec {req : ClientRequest env.gateway.features} {f : Forwarded Host}
    (h : passedOn env req = some f) :
    f.isStream = false ∧ ∀ name ∈ clientCredentials, f.headers.values name = [] := by
  obtain ⟨baseUrl, -, h⟩ := Option.bind_eq_some_iff.mp h
  obtain ⟨target, -, h⟩ := Option.bind_eq_some_iff.mp h
  obtain ⟨body, -, h⟩ := Option.bind_eq_some_iff.mp h
  obtain ⟨sentHeaders, -, rfl⟩ := Option.map_eq_some_iff.mp h
  exact ⟨rfl, values_strip_clientCredentials req.headers⟩

/-- The response of a provider is received as it is. Where it is logged, the sender is known. -/
theorem received_of_response {req : ClientRequest env.gateway.features} (r : UpstreamResponse)
    (model : Option (ModelId Date)) :
    received env none ⟨⟨false⟩, model⟩ ⟨req.authContext⟩ (.response r) =
      .ok (⟨r.status, r.retryAfter, .plain (r.frames.map Dispatcher.frameItem)⟩,
        ⟨⟨false⟩, model⟩) := by
  have hknown : ¬(env.gateway.features.isObservabilityEnabled = true ∧
      req.authContext.isNone = true) := by
    rintro ⟨hobserved, hnone⟩
    have hsome := req.authenticated (HeliconeFeatures.isAuthEnabled_of_observability hobserved)
    rw [Option.isNone_iff_eq_none.mp hnone] at hsome
    cases hsome
  exact if_neg hknown

/-- As it is, it is the response of the provider. -/
theorem asIs_plain (r : UpstreamResponse) :
    asIs ⟨r.status, r.retryAfter, .plain (r.frames.map Dispatcher.frameItem)⟩ = unmapped r := by
  unfold asIs unmapped
  exact congrArg (ErrorBody.MappedResponse.mk r.status)
    (congrArg (List.map _) (ErrorBody.frames_plain r.frames))

end Passed

namespace MetaRouter

variable (m : MetaRouter Host Document Date)

/-- What is called on the direct route. -/
theorem chosen_of_directProxy {req : ClientRequest m.env.gateway.features}
    (hroute : metaRoute req.uri.path = .directProxy) :
    m.chosen req =
      if (m.env.gateway.baseUrl (directProvider req.uri.path)).isSome then
        .ok ((responseFuture .ofDirectProxy).layer
            (directProxyWithoutMapper m.env (directProvider req.uri.path)),
          req.request ⟨rest req.uri.path ++ queryText req.uri.query⟩ (some ⟨⟨false⟩, none⟩))
      else .error (.unsupportedProvider (directProvider req.uri.path)) := by
  unfold chosen routeCall
  rw [hroute]
  dsimp only
  rw [handleDirectProxyRequest_eq]
  by_cases hbase : (m.env.gateway.baseUrl (directProvider req.uri.path)).isSome = true
  · rw [if_pos hbase, if_pos hbase]
    simp only [Except.mapError, bind, Except.bind, directProxiesWithoutMapper, if_pos hbase]
    rfl
  · rw [if_neg hbase, if_neg hbase]
    rfl

/-- A provider that is configured is called. -/
theorem call_of_directProxy {req : ClientRequest m.env.gateway.features}
    (hroute : metaRoute req.uri.path = .directProxy)
    (hbase : (m.env.gateway.baseUrl (directProvider req.uri.path)).isSome = true) :
    m.call req = (dispatcher m.env (directProvider req.uri.path)
      ((req.request ⟨rest req.uri.path ++ queryText req.uri.query⟩
        (some ⟨⟨false⟩, none⟩)).behindProxy (directProvider req.uri.path))).map
          fun answer => (directAnswer m.env answer).mapError .ofDirectProxy := by
  have hchosen := m.chosen_of_directProxy hroute
  rw [if_pos hbase] at hchosen
  unfold call
  rw [hchosen]
  dsimp only
  rw [Layer.layer_of_ok _ rfl, directProxyWithoutMapper_eq, Call.map_map]
  rfl

/-- What is sent on the direct route is the request of the client, if anything is. -/
theorem sent_of_directProxy {req : ClientRequest m.env.gateway.features}
    (hroute : metaRoute req.uri.path = .directProxy) :
    (m.call req).sent = (passedOn m.env req).toList := by
  by_cases hbase : (m.env.gateway.baseUrl (directProvider req.uri.path)).isSome = true
  · rw [m.call_of_directProxy hroute hbase, Call.sent_map]
    exact (dispatcher_behindProxy m.env req none).1
  · have hchosen := m.chosen_of_directProxy hroute
    rw [if_neg hbase] at hchosen
    unfold call passedOn
    rw [hchosen, Option.not_isSome_iff_eq_none.mp hbase]
    rfl

/-- **A request of the route**, which rests on `env`: to a provider of the router that the path
names, to the provider that the body of a chat request names, or the request of the client itself.
-/
def SentFor (providers : RouterId → Set InferenceProvider)
    (req : ClientRequest m.env.gateway.features) (env : Env Host Document Date)
    (f : Forwarded Host) : Prop :=
  match metaRoute req.uri.path with
  | .router => ∃ routerId router apiPath,
      extractRouterIdAndPath req.uri.path = some (routerId, apiPath) ∧
        m.inner routerId = some router ∧ router.env = env ∧ f.provider ∈ providers routerId ∧
          SentByMapper env f
  | .unifiedApi => m.env = env ∧ SentByMapper env f ∧
      (∃ body, req.body = some body ∧ Names env body f.provider) ∧
        ∃ pathAndQuery, handleUnifiedApiRequest req.uri = .ok pathAndQuery ∧
          pathAndQuery.path = "/chat/completions".toList
  | .directProxy => m.env = env ∧ f.isStream = false ∧ passedOn m.env req = some f

/-- A router that is called is the one that the path names. -/
theorem extractRouterIdAndPath_of_handle {isConfigured : RouterId → Bool} {uri : RequestUri}
    {routerId : RouterId} {pathAndQuery : PathAndQuery}
    (h : handleRouterRequest isConfigured uri = .ok (routerId, pathAndQuery)) :
    ∃ apiPath, extractRouterIdAndPath uri.path = some (routerId, apiPath) := by
  unfold handleRouterRequest at h
  split at h
  · cases h
  · next routerId' apiPath hextracted =>
    split at h
    · cases h
    · split at h
      · cases h
        exact ⟨apiPath, hextracted⟩
      · cases h

/-- What is sent on the route of the routers. -/
theorem sent_of_router {providers : RouterId → Set InferenceProvider}
    (hinner : ∀ routerId router, m.inner routerId = some router →
      ∀ endpointType service, router.inner endpointType = some service →
        Stack router.env (providers routerId) service)
    {req : ClientRequest m.env.gateway.features} (hroute : metaRoute req.uri.path = .router) :
    (m.call req).sent = [] ∨ ∃ f routerId router apiPath,
      (m.call req).sent = List.replicate (router.env.posts f) f ∧
      extractRouterIdAndPath req.uri.path = some (routerId, apiPath) ∧
        m.inner routerId = some router ∧ f.provider ∈ providers routerId ∧
          SentByMapper router.env f := by
  unfold call
  cases hchosen : m.chosen req with
  | error e => exact Or.inl rfl
  | ok called =>
    unfold chosen routeCall at hchosen
    rw [hroute] at hchosen
    -- the path names a router, and there is one of that name
    obtain ⟨⟨routerId, pathAndQuery⟩, hrouted, hchosen⟩ := bind_eq_ok_iff.mp hchosen
    obtain ⟨router, hrouter, hchosen⟩ := bind_eq_ok_iff.mp hchosen
    cases hchosen
    have hrouter := Option.okOr_eq_ok_iff.mp hrouter
    obtain ⟨apiPath, hextracted⟩ :=
      extractRouterIdAndPath_of_handle (mapError_eq_ok_iff.mp hrouted)
    have hreq : NoEndpoint (req.request pathAndQuery none : Request Date) := rfl
    dsimp only
    rw [Layer.layer_of_ok _ rfl, Call.sent_map]
    rcases sentCopies_call router (hinner routerId router hrouter) hreq with
      hnil | ⟨f, hsent, hprovider, hf⟩
    · exact Or.inl hnil
    · exact Or.inr ⟨f, routerId, router, apiPath, hsent, hextracted, hrouter, hprovider, hf⟩

/-- What is sent on the route of the unified API. -/
theorem sent_of_unifiedApi {req : ClientRequest m.env.gateway.features}
    (hroute : metaRoute req.uri.path = .unifiedApi) :
    (m.call req).sent = [] ∨ ∃ f, (m.call req).sent = List.replicate (m.env.posts f) f ∧
      SentByMapper m.env f ∧ (∃ body, req.body = some body ∧ Names m.env body f.provider) ∧
        ∃ pathAndQuery, handleUnifiedApiRequest req.uri = .ok pathAndQuery ∧
          pathAndQuery.path = "/chat/completions".toList := by
  unfold call
  cases hchosen : m.chosen req with
  | error e => exact Or.inl rfl
  | ok called =>
    unfold chosen routeCall at hchosen
    rw [hroute] at hchosen
    obtain ⟨pathAndQuery, hrouted, hchosen⟩ := bind_eq_ok_iff.mp hchosen
    cases hchosen
    dsimp only
    -- the layers in front of the unified API let every request through
    unfold unifiedApi
    rw [Layer.layer_of_ok _ rfl, Layer.layer_of_ok _ rfl, Layer.layer_of_ok _ rfl,
      Layer.layer_of_ok _ rfl]
    simp only [Call.sent_map]
    rcases sent_unified m.env (req.request pathAndQuery none) with
      hnil | ⟨f, body, hsent, hf, hbody, hnames, pathAndQuery', hpath, hchat⟩
    · exact Or.inl hnil
    · cases hpath
      exact Or.inr ⟨f, hsent, hf, ⟨body, hbody, hnames⟩, pathAndQuery,
        mapError_eq_ok_iff.mp hrouted, hchat⟩

end MetaRouter

/-! ### A gateway to Bedrock -/

/-- The router with other services behind its layers. -/
def Router.withServices (router : Router Host Document Date) (env : Env Host Document Date)
    (inner : EndpointType → Option (Service (Request Date) (Forwarded Host) Answer)) :
    Router Host Document Date :=
  { router with env, inner }

/-- The gateway with its default router. -/
def bedrockMetaRouter : MetaRouter (List Char) Serde.Json Day where
  env := bedrockEnv
  inner routerId :=
    match routerId with
    | .default => some (openAIRouter.withServices bedrockEnv fun _ =>
        some (requestContext.layer (dispatcherService bedrockEnv .bedrock)))
    | .named _ => none
  display _ := ""

/-- A request of a client of this gateway. -/
def clientOf (uri : RequestUri) : ClientRequest bedrockEnv.gateway.features where
  method := "POST"
  uri
  headers := []
  body := some (Mapper.helloBody "bedrock/amazon.titan-text-express-v1:0")
  authContext := none
  authenticated := by decide

def defaultChatUri : RequestUri :=
  ⟨"/router/default/chat/completions".toList, none, by decide, RequestUri.query_ok_none⟩

def foundationModelsUri : RequestUri :=
  ⟨"/bedrock/foundation-models".toList, none, by decide, RequestUri.query_ok_none⟩

end Fallback

end AiGateway
