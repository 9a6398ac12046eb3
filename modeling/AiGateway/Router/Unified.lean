import AiGateway.Framework.Splits
import AiGateway.Router.Mapped

/-!
# The unified API

`router/unified_api.rs` over the direct proxies of `router/direct.rs`: one endpoint for the models
of all providers. The body says which provider is meant, by what stands before the first slash of
its model, so it is collected and read before a proxy is chosen, and then read again by the mapper
of this proxy.

* `determineProvider_eq_ok_iff`: which requests name a provider;
* `sent_unified`: nothing is sent for any other request, and for these copies of at most one
  request, to the origin of the provider that is named, if there is one.
-/

namespace AiGateway

open Web Http Layered Except

namespace Fallback

variable {Host Document Date : Type} (env : Env Host Document Date)

/-! ### The code -/

/-- `ApiError`, the ones the unified API answers with by itself. -/
inductive UnifiedError
  | collectBodyError
  | extensionNotFound (name : String)
  | unsupportedEndpoint (endpoint : List Char)
  | invalidRequestBody
  | mapper (e : MapperError)
  | unsupportedProvider (provider : InferenceProvider)
  /-- An error of a proxy, which is meant to have none. -/
  | internal

inductive UnifiedFailure
  | error (e : UnifiedError)
  | panicked

/-- `UnifiedApi`. -/
inductive UnifiedApi
  | chatCompletions

/-- `TryFrom<&str>`. -/
def UnifiedApi.tryFrom (value : List Char) : Except UnifiedError UnifiedApi :=
  if value = "/chat/completions".toList then .ok .chatCompletions
  else .error (.unsupportedEndpoint value)

/-- The service of a provider in `DirectProxies`; its rate limiter and its cache are disabled. -/
def directProxy (provider : InferenceProvider) :
    Service (Request Date) (Forwarded Host) Answer :=
  disabled.layer (disabled.layer (requestContext.layer (dispatcherService env provider)))

/-- `DirectProxies::new` has a proxy for each provider that is configured. -/
def directProxies (provider : InferenceProvider) :
    Option (Service (Request Date) (Forwarded Host) Answer) :=
  if (env.gateway.baseUrl provider).isSome then some (directProxy env provider) else none

/-- The message of a model that is not supported. -/
def unsupportedModel (model : List Char) : List Char :=
  "provider for the given model: '".toList ++ (model ++ "' not supported".toList)

/-- The state `CollectBody`: the endpoint is put among the extensions. -/
def collectBody (req : Request Date) : Except UnifiedError (Request Date × Bytes) := do
  let collected ← req.body.okOr .collectBodyError
  let extractedPathAndQuery ←
    req.extensions.pathAndQuery.okOr (.extensionNotFound "PathAndQuery")
  match ← UnifiedApi.tryFrom extractedPathAndQuery.path with
  | .chatCompletions =>
    return ({ req with extensions := { req.extensions with apiEndpoint := some .openAI } },
      collected)

/-- The provider of a model. -/
def providerOf (sourceModel : ModelId Date) : Except UnifiedError InferenceProvider :=
  match sourceModel with
  | .modelIdWithVersion provider _ => .ok provider
  | .bedrock _ => .ok .bedrock
  | .ollama _ => .ok .ollama
  | .unknown _ =>
    .error (.unsupportedEndpoint (unsupportedModel (sourceModel.display env.lib.chrono)))

/-- The state `DetermineProvider`: the provider is put among the extensions. -/
def determineProvider (req : Request Date) (body : Bytes) :
    Except UnifiedError (Request Date × InferenceProvider) := do
  let deserializedBody ← (env.lib.chatRequest body).okOr .invalidRequestBody
  let sourceModel ←
    (ModelId.fromStr env.lib.chrono deserializedBody.model.toList).mapError .mapper
  let provider ← providerOf env sourceModel
  return ({ req.withProvider provider with body := some body }, provider)

/-- The states up to `InitProxy`: the proxy, and the request it is called with. -/
def initProxy (req : Request Date) : Except UnifiedError
    (Request Date × Service (Request Date) (Forwarded Host) Answer) := do
  let (req, body) ← collectBody req
  let (req, provider) ← determineProvider env req body
  let proxy ← (directProxies env provider).okOr (.unsupportedProvider provider)
  return (req, proxy)

/-- The state `Proxy`. -/
def proxied : Answer → Except UnifiedFailure ErrorBody.MappedResponse
  | .ok response => .ok response
  | .error (.error _) => .error (.error .internal)
  | .error .panicked => .error .panicked

/-- **The unified API**, `Service::call` and the `poll` of its `ResponseFuture`. -/
def unified : Service (Request Date) (Forwarded Host)
    (Except UnifiedFailure ErrorBody.MappedResponse) := fun req =>
  match initProxy env req with
  | .error e => .answer (.error (.error e))
  | .ok (req, proxy) => (proxy req).map proxied

/-! ### The provider a body names -/

/-- The model of a body is the name of a provider, a slash, and what the provider reads as a model
of its own. -/
def Names (body : Bytes) (provider : InferenceProvider) : Prop :=
  ∃ request name model source, env.lib.chatRequest body = some request ∧
    request.model.toList = name ++ '/' :: model ∧ '/' ∉ name ∧ model ≠ [] ∧
    provider = InferenceProvider.fromStr (String.ofList name) ∧
    ModelId.fromStrAndProvider env.lib.chrono provider model = .ok source

variable {env}

/-- A model that is read belongs to the provider that is named. -/
theorem fromStr_eq_ok_iff {chrono : Chrono Date} {s : List Char} {source : ModelId Date} :
    ModelId.fromStr chrono s = .ok source ↔
      ∃ name model, s = name ++ '/' :: model ∧ '/' ∉ name ∧ model ≠ [] ∧
        ModelId.fromStrAndProvider chrono (InferenceProvider.fromStr (String.ofList name)) model =
          .ok source := by
  constructor
  · intro h
    unfold ModelId.fromStr at h
    split at h
    · next name model hsplit =>
      split at h
      · cases h
      · next hmodel =>
        exact ⟨name, model, Text.eq_of_splitFirst hsplit, Text.notMem_of_splitFirst hsplit,
          hmodel, h⟩
    · cases h
  · rintro ⟨name, model, rfl, hname, hmodel, h⟩
    unfold ModelId.fromStr
    rw [Text.splitFirst_append hname]
    dsimp only
    rw [if_neg hmodel]
    exact h

theorem providerOf_eq_ok_iff {sourceModel : ModelId Date} {provider : InferenceProvider} :
    providerOf env sourceModel = .ok provider ↔ sourceModel.inferenceProvider = some provider := by
  unfold providerOf ModelId.inferenceProvider
  cases sourceModel <;> simp

/-- **Which provider is determined.** -/
theorem determineProvider_eq_ok_iff {req req' : Request Date} {body : Bytes}
    {provider : InferenceProvider} :
    determineProvider env req body = .ok (req', provider) ↔
      Names env body provider ∧ req' = { req.withProvider provider with body := some body } := by
  unfold determineProvider
  constructor
  · intro h
    -- the body is a request, its model is an id, and the id names a provider
    obtain ⟨request, hrequest, h⟩ := bind_eq_ok_iff.mp h
    obtain ⟨source, hsource, h⟩ := bind_eq_ok_iff.mp h
    obtain ⟨provider', hprovider, h⟩ := bind_eq_ok_iff.mp h
    cases h
    obtain ⟨name, model, hmodel, hname, hne, hread⟩ :=
      fromStr_eq_ok_iff.mp (mapError_eq_ok_iff.mp hsource)
    have hown := (ModelId.spec_of_fromStrAndProvider hread).1.inferenceProvider
    obtain rfl := Option.some.inj (hown.symm.trans (providerOf_eq_ok_iff.mp hprovider))
    exact ⟨⟨request, name, model, source, Option.okOr_eq_ok_iff.mp hrequest, hmodel, hname, hne,
      rfl, hread⟩, rfl⟩
  · rintro ⟨⟨request, name, model, source, hrequest, hmodel, hname, hne, rfl, hread⟩, rfl⟩
    have hown := (ModelId.spec_of_fromStrAndProvider hread).1.inferenceProvider
    have hsource : ModelId.fromStr env.lib.chrono request.model.toList = .ok source :=
      fromStr_eq_ok_iff.mpr ⟨name, model, hmodel, hname, hne, hread⟩
    rw [hrequest, Option.okOr]
    simp only [hsource, providerOf_eq_ok_iff.mpr hown, Except.mapError, bind, Except.bind, pure,
      Except.pure]

/-- The endpoint is that of chats. -/
theorem collectBody_eq_ok {req req' : Request Date} {body : Bytes}
    (h : collectBody req = .ok (req', body)) :
    req.body = some body ∧ (∃ pathAndQuery, req.extensions.pathAndQuery = some pathAndQuery ∧
      pathAndQuery.path = "/chat/completions".toList) := by
  obtain ⟨collected, hbody, h⟩ := bind_eq_ok_iff.mp h
  obtain ⟨pathAndQuery, hpath, h⟩ := bind_eq_ok_iff.mp h
  obtain ⟨unifiedApi, hapi, h⟩ := bind_eq_ok_iff.mp h
  cases h
  refine ⟨Option.okOr_eq_ok_iff.mp hbody, pathAndQuery, Option.okOr_eq_ok_iff.mp hpath, ?_⟩
  unfold UnifiedApi.tryFrom at hapi
  split at hapi
  · assumption
  · cases hapi

/-- **Which proxy is called**: the one of the provider that the body of a chat request names, with
this body. -/
theorem initProxy_spec {req req' : Request Date}
    {proxy : Service (Request Date) (Forwarded Host) Answer}
    (h : initProxy env req = .ok (req', proxy)) :
    ∃ body provider, req.body = some body ∧ req'.body = some body ∧ Names env body provider ∧
      proxy = directProxy env provider ∧
      ∃ pathAndQuery, req.extensions.pathAndQuery = some pathAndQuery ∧
        pathAndQuery.path = "/chat/completions".toList := by
  obtain ⟨⟨collected, body⟩, hcollected, h⟩ := bind_eq_ok_iff.mp h
  obtain ⟨⟨determined, provider⟩, hdetermined, h⟩ := bind_eq_ok_iff.mp h
  obtain ⟨proxy', hproxy, h⟩ := bind_eq_ok_iff.mp h
  cases h
  obtain ⟨hnames, rfl⟩ := determineProvider_eq_ok_iff.mp hdetermined
  obtain ⟨hbody, hpath⟩ := collectBody_eq_ok hcollected
  obtain ⟨-, hsome⟩ := Option.ite_none_right_eq_some.mp (Option.okOr_eq_ok_iff.mp hproxy)
  exact ⟨body, provider, hbody, rfl, hnames, (Option.some.inj hsome).symm, hpath⟩

/-- **What the unified API comes to**: nothing is sent, or the proxy of the provider that the body
of a chat request names is called with this body. -/
theorem unified_cases (env : Env Host Document Date) (req : Request Date) :
    (unified env req).sent = [] ∨ ∃ body provider req', req.body = some body ∧
      req'.body = some body ∧ Names env body provider ∧
      (∃ pathAndQuery, req.extensions.pathAndQuery = some pathAndQuery ∧
        pathAndQuery.path = "/chat/completions".toList) ∧
      (unified env req).sent = (directProxy env provider req').sent := by
  unfold unified
  split
  · exact Or.inl rfl
  · next req' proxy hinit =>
    obtain ⟨body, provider, hbody, hbody', hnames, rfl, hpath⟩ := initProxy_spec hinit
    exact Or.inr ⟨body, provider, req', hbody, hbody', hnames, hpath, rfl⟩

/-- A direct proxy is a stack on the dispatcher service of its provider. -/
theorem stack_directProxy (env : Env Host Document Date) (provider : InferenceProvider) :
    Stack env {provider} (directProxy env provider) :=
  .layer _ (.layer _ (.layer _ (.dispatcher provider rfl)))

/-- **The provider that is named gets the request.** The unified API sends copies of at most one
request, and it sends one only for a chat request whose body names a provider that is configured: it
goes to the origin of this provider, to the path of one of its endpoints, without the client's
credentials. -/
theorem sent_unified (env : Env Host Document Date) (req : Request Date) :
    (unified env req).sent = [] ∨ ∃ f body,
      (unified env req).sent = List.replicate (env.posts f) f ∧ SentByMapper env f ∧
      req.body = some body ∧ Names env body f.provider ∧
      ∃ pathAndQuery, req.extensions.pathAndQuery = some pathAndQuery ∧
        pathAndQuery.path = "/chat/completions".toList := by
  rcases unified_cases env req with
    hnil | ⟨body, provider, req', hbody, -, hnames, hpath, hsent⟩
  · exact Or.inl hnil
  · rw [hsent]
    rcases sentCopies_of_stack env (stack_directProxy env provider) req' with
      hnil | ⟨f, hone, hprovider, hf⟩
    · exact Or.inl hnil
    · obtain rfl := Set.mem_singleton_iff.mp hprovider
      exact Or.inr ⟨f, body, hone, hf, hbody, hnames, hpath⟩

/-- A gateway to Bedrock. -/
def bedrockEnv : Env (List Char) Serde.Json Day :=
  { openAIRouter.env with
    gateway :=
      ⟨fun _ => some ⟨"https".toList, some "bedrock-runtime.us-east-1.amazonaws.com".toList, none,
        false⟩, .none⟩
    client := fun _ => Credentials.newBedrock Credentials.providerConfig
      (some (.awsCredentials "id" "secret")) }

example : (unified bedrockEnv (chatRequest "bedrock/amazon.titan-text-express-v1:0")).sent.map
    (fun f => (f.provider, f.pathAndQuery)) =
      [(.bedrock, "/model/amazon.titan-text-express-v1/converse".toList)] := by rfl

end Fallback

end AiGateway
