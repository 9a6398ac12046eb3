import AiGateway.Router.Fallback

/-!
# Where mapped requests go

The direct proxy joins the base URL of a provider with the path the client sent, which may name a
host of its own. Behind a mapper, as in the routers and in the unified API, the path is that of an
endpoint of the provider, with the model or without, and only the query is left of the client's.

* `join_of_path`: such a path is joined with the base URL without naming an authority;
* `sentCopies_of_stack`: so whatever is stacked in front of the dispatcher services, and however it
  chooses among them, all that is sent for a request are copies of one request to a provider, and
  that one goes to the origin that is configured for the provider, to the path of one of its
  endpoints, and without the client's credentials;
* `sentCopies_call`: this is so for the routers.
-/

namespace AiGateway

open Web Http Layered Except

/-! ### The path of an endpoint -/

/-- A path starts with one slash, and a character that is none. -/
def StartsInSegment (text : List Char) : Prop :=
  ∃ c rest, text = '/' :: c :: rest ∧ c ≠ '/' ∧ c ≠ '\\' ∧ c ≠ '#'

theorem StartsInSegment.append {text : List Char} (h : StartsInSegment text) (more : List Char) :
    StartsInSegment (text ++ more) := by
  obtain ⟨c, rest, rfl, hc⟩ := h
  exact ⟨c, rest ++ more, rfl, hc⟩

/-- Cutting a fragment off leaves the start. -/
theorem StartsInSegment.takeWhile {text : List Char} (h : StartsInSegment text) :
    StartsInSegment (text.takeWhile (· ≠ '#')) := by
  obtain ⟨c, rest, rfl, hslash, hback, hhash⟩ := h
  refine ⟨c, rest.takeWhile (· ≠ '#'), ?_, hslash, hback, hhash⟩
  rw [List.takeWhile_cons_of_pos (by decide), List.takeWhile_cons_of_pos (by simpa using hhash)]

theorem asStr_of_startsInSegment {text : List Char} (h : StartsInSegment text) :
    (PathAndQuery.mk text).asStr = text := by
  obtain ⟨c, rest, rfl, -⟩ := h
  rfl

/-- So does the path of every endpoint, whatever the model in it is called. -/
theorem startsInSegment_path {Date : Type} {chrono : Chrono Date} {endpoint : ApiEndpoint}
    {modelId : Option (ModelId Date)} {isStream : Bool} {basePath : List Char}
    (h : endpoint.path chrono modelId isStream = some basePath) : StartsInSegment basePath := by
  have hfixed : ∀ c rest, c ≠ '/' → c ≠ '\\' → c ≠ '#' → some ('/' :: c :: rest) = some basePath →
      StartsInSegment basePath := by
    rintro c rest hslash hback hhash ⟨⟩
    exact ⟨c, rest, rfl, hslash, hback, hhash⟩
  cases endpoint with
  | openAI => exact hfixed 'v' _ (by decide) (by decide) (by decide) h
  | anthropic => exact hfixed 'v' _ (by decide) (by decide) (by decide) h
  | google => exact hfixed 'v' _ (by decide) (by decide) (by decide) h
  | ollama => exact hfixed 'v' _ (by decide) (by decide) (by decide) h
  | bedrock =>
    obtain ⟨m, -, hpath⟩ := Option.map_eq_some_iff.mp h
    exact hfixed 'm' _ (by decide) (by decide) (by decide) (congrArg some hpath)

/-- **Joining it stays at the base URL.** -/
theorem join_of_path {Host : Type} (parseAuthority : AuthorityParser Host) (base : Url Host)
    {reference : List Char} (h : StartsInSegment reference) :
    base.join parseAuthority reference = if base.cannotBeABase then none else some base := by
  obtain ⟨c, rest, rfl, hslash, hback, -⟩ := h
  have hscheme : parseScheme ('/' :: c :: rest) = none := rfl
  -- the second character is no slash, so no authority is named
  have hauthority : ∀ scheme, authorityText scheme ('/' :: c :: rest) = none := by
    intro scheme
    have hnot : isSlash scheme c = false := by simp [isSlash, hslash, hback]
    show (if isSlash scheme '/' && isSlash scheme c then some rest else none) = none
    rw [hnot, Bool.and_false]
    rfl
  simp [Url.join, Url.joinRelative, hscheme, hauthority]

namespace Fallback

variable {Host Document Date : Type} (env : Env Host Document Date)

/-! ### What the dispatcher sends -/

/-- The headers that would give the client's own credentials to a provider. -/
def clientCredentials : List String := ["authorization", "helicone-api-key"]

/-- The dispatcher removes them. -/
theorem values_strip_clientCredentials (headers : HeaderMap) :
    ∀ name ∈ clientCredentials, (Credentials.strip headers).values name = [] := by
  have hstripped : ∀ name ∈ clientCredentials,
      name ≠ "accept-encoding" ∧ name ∈ Credentials.stripped := by decide
  intro name hname
  obtain ⟨hne, hmem⟩ := hstripped name hname
  exact (Credentials.values_strip headers hne).trans (if_pos hmem)

/-- **A request that a mapper has made**: it goes to the origin that is configured for the
provider, to the path of one of its endpoints, with a query, and without the client's credentials.
-/
structure SentByMapper (f : Forwarded Host) : Prop where
  target : env.gateway.baseUrl f.provider = some f.target
  path : ∃ (endpoint : ApiEndpoint) (modelId : Option (ModelId Date)) (isStream : Bool)
    (basePath : List Char) (query : Option (List Char)), endpoint.provider = f.provider ∧
      endpoint.path env.lib.chrono modelId isStream = some basePath ∧
      f.pathAndQuery = (basePath ++ queryText query).takeWhile (· ≠ '#')
  credentials : ∀ name ∈ clientCredentials, f.headers.values name = []

/-- At most one request, which a mapper has made, to one of some providers. It is sent as often as
its event source sends it, if it has one. -/
def SentCopies (providers : Set InferenceProvider) (sent : List (Forwarded Host)) : Prop :=
  sent = [] ∨ ∃ f, sent = List.replicate (env.posts f) f ∧ f.provider ∈ providers ∧
    SentByMapper env f

/-- What a mapper has put into a request: the path of an endpoint of the provider. -/
def MappedTo (provider : InferenceProvider) (req : Request Date) : Prop :=
  ∃ (endpoint : ApiEndpoint) (modelId : Option (ModelId Date)) (isStream : Bool)
    (basePath : List Char) (query : Option (List Char)), endpoint.provider = provider ∧
      endpoint.path env.lib.chrono modelId isStream = some basePath ∧
      req.extensions.pathAndQuery = some ⟨(basePath ++ queryText query).takeWhile (· ≠ '#')⟩

/-- The mapper maps to an endpoint of the provider among the extensions. -/
theorem mapperLayer_maintains_mappedTo (provider : InferenceProvider) :
    (mapperLayer env).Maintains
      (fun req => req.extensions.inferenceProvider = some provider) (MappedTo env provider) := by
  intro req req' hprovider hthrough
  have hmapped : mapped env req = .ok req' := mapError_eq_ok_iff.mp hthrough
  obtain ⟨⟨pathAndQuery, source, target⟩, hendpoints, hrest⟩ := bind_eq_ok_iff.mp hmapped
  obtain ⟨out, hout, hreq'⟩ := bind_eq_ok_iff.mp hrest
  cases hreq'
  -- the endpoint is one of the provider
  obtain ⟨targetProvider, htarget, hendpoints⟩ := bind_eq_ok_iff.mp hendpoints
  obtain ⟨pathAndQuery', -, hendpoints⟩ := bind_eq_ok_iff.mp hendpoints
  obtain ⟨source', -, hendpoints⟩ := bind_eq_ok_iff.mp hendpoints
  obtain ⟨target', hsource, hendpoints⟩ := bind_eq_ok_iff.mp hendpoints
  cases hendpoints
  have hsame : targetProvider = provider :=
    Option.some.inj ((Option.okOr_eq_ok_iff.mp htarget).symm.trans hprovider)
  obtain ⟨htargets, -⟩ := ApiEndpoint.mapped_spec (mapError_eq_ok_iff.mp hsource)
  -- and the path is the one of this endpoint
  have hmap := mapError_eq_ok_iff.mp hout
  obtain ⟨bytes, -, hmap⟩ := bind_eq_ok_iff.mp hmap
  obtain ⟨converter, -, hmap⟩ := bind_eq_ok_iff.mp hmap
  obtain ⟨⟨body, mapperCtx⟩, -, hmap⟩ := bind_eq_ok_iff.mp hmap
  obtain ⟨basePath, hpath, hmap⟩ := bind_eq_ok_iff.mp hmap
  obtain ⟨mappedPath, hchecked, hmap⟩ := bind_eq_ok_iff.mp hmap
  cases hmap
  obtain ⟨hdata, -⟩ := PathAndQuery.eq_of_fromStr (Option.okOr_eq_ok_iff.mp hchecked)
  refine ⟨target, _, _, basePath, pathAndQuery.query, htargets.trans hsame,
    Option.okOr_eq_ok_iff.mp hpath, ?_⟩
  exact congrArg (fun data => some (PathAndQuery.mk data)) hdata

/-- **The dispatcher** sends a mapped request, if it sends anything. -/
theorem sends_dispatcher (provider : InferenceProvider) :
    Sends (dispatcher env provider) (MappedTo env provider) (SentCopies env {provider}) := by
  intro req hmapped
  unfold dispatcher
  split
  · exact Or.inl rfl
  · next forwarded mapperCtx reqCtx hprepared =>
    refine Or.inr ⟨forwarded, rfl, ?_⟩
    obtain ⟨_, -, hprepared⟩ := bind_eq_ok_iff.mp hprepared
    obtain ⟨_, -, hprepared⟩ := bind_eq_ok_iff.mp hprepared
    obtain ⟨baseUrl, hbase, hprepared⟩ := bind_eq_ok_iff.mp hprepared
    obtain ⟨pathAndQuery, hpath, hprepared⟩ := bind_eq_ok_iff.mp hprepared
    obtain ⟨_, -, hprepared⟩ := bind_eq_ok_iff.mp hprepared
    obtain ⟨target, hjoin, hprepared⟩ := bind_eq_ok_iff.mp hprepared
    obtain ⟨body, -, hprepared⟩ := bind_eq_ok_iff.mp hprepared
    obtain ⟨sentHeaders, -, hprepared⟩ := bind_eq_ok_iff.mp hprepared
    cases hprepared
    have hbase := Option.okOr_eq_ok_iff.mp hbase
    have hjoin := Option.okOr_eq_ok_iff.mp hjoin
    obtain ⟨endpoint, modelId, isStream, basePath, query, hendpoint, hbasePath, hdata⟩ := hmapped
    obtain rfl := Option.some.inj
      ((Option.okOr_eq_ok_iff.mp (mapError_eq_ok_iff.mp hpath)).symm.trans hdata)
    have hstart := ((startsInSegment_path hbasePath).append (queryText query)).takeWhile
    have hstr := asStr_of_startsInSegment hstart
    -- joined with such a path, the base URL is what it is
    rw [hstr, join_of_path _ _ hstart] at hjoin
    split at hjoin
    · cases hjoin
    · obtain rfl := Option.some.inj hjoin
      exact ⟨rfl, hbase,
        ⟨endpoint, modelId, isStream, basePath, query, hendpoint, hbasePath, hstr⟩,
        values_strip_clientCredentials req.headers⟩

/-- So does the service around it, whatever the request comes with. -/
theorem sends_dispatcherService (provider : InferenceProvider) :
    Sends (dispatcherService env provider) (fun _ => True) (SentCopies env {provider}) := by
  have hnil : SentCopies env {provider} [] := Or.inl rfl
  have hmapper := (sends_dispatcher env provider).layer hnil
    (mapperLayer_maintains_mappedTo env provider)
  have hhandler : (errorHandler env).Maintains
      (fun req : Request Date => req.extensions.inferenceProvider = some provider)
      (fun req => req.extensions.inferenceProvider = some provider) := by
    rintro req _ hreq ⟨⟩
    exact hreq
  have hextensions : (addExtensions provider).Maintains (fun _ : Request Date => True)
      (fun req => req.extensions.inferenceProvider = some provider) := by
    rintro req _ - ⟨⟩
    rfl
  exact (hmapper.layer hnil hhandler).layer hnil hextensions

/-! ### Stacks -/

/-- What can be made of the dispatcher services of some providers: layers in front of a service, and
a choice among services, which may depend on the request and on anything else. -/
inductive Stack (providers : Set InferenceProvider) :
    Service (Request Date) (Forwarded Host) Answer → Prop
  | dispatcher (provider : InferenceProvider) : provider ∈ providers →
      Stack providers (dispatcherService env provider)
  | layer (l : Layer (Request Date) (Request Date) Answer Answer)
      {service : Service (Request Date) (Forwarded Host) Answer} :
      Stack providers service → Stack providers (l.layer service)
  | choice (pick : Request Date → Except Answer (Service (Request Date) (Forwarded Host) Answer)) :
      (∀ req service, pick req = .ok service → Stack providers service) →
      Stack providers fun req =>
        match pick req with
        | .ok service => service req
        | .error answer => .answer answer

/-- **A stack sends copies of at most one request.** -/
theorem sentCopies_of_stack {providers : Set InferenceProvider}
    {service : Service (Request Date) (Forwarded Host) Answer} (h : Stack env providers service)
    (req : Request Date) : SentCopies env providers (service req).sent := by
  induction h generalizing req with
  | dispatcher provider hmem =>
    rcases sends_dispatcherService env provider req trivial with hnil | ⟨f, hsent, hprovider, hf⟩
    · exact Or.inl hnil
    · obtain rfl := Set.mem_singleton_iff.mp hprovider
      exact Or.inr ⟨f, hsent, hmem, hf⟩
  | layer l _ ih =>
    have hsends : Sends _ (fun _ => True) (SentCopies env providers) := fun req _ => ih req
    have hany : l.Maintains (fun _ => True) (fun _ => True) := fun _ _ _ _ => trivial
    exact hsends.layer (Or.inl rfl) hany req trivial
  | choice pick _ ih =>
    dsimp only
    split
    · next service hpick => exact ih req service hpick req
    · exact Or.inl rfl

/-- **What a call of a router comes to**: nothing is sent, a balancer is called with the body of the
request, or the direct proxy is, with the request itself. -/
theorem Router.call_cases (router : Router Host Document Date) (req : Request Date) :
    (router.call req).sent = [] ∨
    (∃ endpointType balancer req', router.inner endpointType = some balancer ∧
      req'.body = req.body ∧ router.call req = balancer req') ∨
    router.call req = router.directProxy req := by
  unfold Router.call
  split
  · exact Or.inl rfl
  · split
    · next apiEndpoint _ =>
      split
      · next balancer hbalancer =>
        let req' : Request Date :=
          { req with extensions := { req.extensions with apiEndpoint := some apiEndpoint } }
        exact Or.inr (Or.inl ⟨apiEndpoint.endpointType, balancer, req', hbalancer, rfl, rfl⟩)
      · exact Or.inl rfl
    · exact Or.inr (Or.inr rfl)

/-- **A router sends copies of at most one request**, and only to a provider of its balancers: to
the origin that is configured for it, to the path of one of its endpoints, and without the client's
credentials. The fallback to the SDK provider sends nothing. -/
theorem sentCopies_call {providers : Set InferenceProvider} (router : Router Host Document Date)
    (hinner : ∀ endpointType service, router.inner endpointType = some service →
      Stack router.env providers service)
    {req : Request Date} (hreq : NoEndpoint req) :
    SentCopies router.env providers (router.call req).sent := by
  rcases router.call_cases req with hnil | ⟨_, balancer, req', hbalancer, -, hcall⟩ | hcall
  · exact Or.inl hnil
  · rw [hcall]
    exact sentCopies_of_stack router.env (hinner _ balancer hbalancer) req'
  · rw [hcall]
    exact Or.inl (silent_directProxy router req hreq)

/-! ### A chat request -/

/-- A chat request for a model, as it comes to a router. -/
def chatRequest (model : String) : Request Day where
  method := "POST"
  headers := []
  extensions :=
    { pathAndQuery := some ⟨"/chat/completions".toList⟩, inferenceProvider := none,
      apiEndpoint := none, mapperCtx := none, authContext := none, requestContext := none }
  body := some (Mapper.helloBody model)

end Fallback

end AiGateway
