import AiGateway.Framework.Headers
import AiGateway.Monitor.Metrics
import AiGateway.Monitor.RetryAfter
import AiGateway.Types.Provider

/-!
# Upstream credentials

The headers of a request on its way to a provider: what `Dispatcher::dispatch` takes off the
client's request, what the client of each provider adds to it, and how requests to Bedrock are
signed. A client adds its own headers only where the request has none of that name.

The signer is a parameter, as is the time a request is signed at.

* `values_strip`: the headers that stay;
* `values_upstream`, `values_upstream_bedrock`: the values of a name in the request sent;
* `uninfluenced_iff`: the pairs of requests that get the same credentials, those of the gateway.
-/

namespace AiGateway

open Except Http

/-! ### Keys and clients -/

/-- `ProviderKey`. -/
inductive ProviderKey
  | secret (key : String)
  | awsCredentials (accessKey secretKey : String)
  | notRequired
  deriving DecidableEq

/-- `as_aws_credentials`. -/
def ProviderKey.asAwsCredentials : ProviderKey → Option String × Option String
  | awsCredentials accessKey secretKey => (some accessKey, some secretKey)
  | _ => (none, none)

namespace Credentials

inductive ClientError
  | providerNotSupported (provider : InferenceProvider)
  /-- The `unwrap` of a header value. -/
  | panicked
  deriving DecidableEq

/-- `Client`: the headers it adds to requests, and the keys it signs them with. -/
structure Client where
  provider : InferenceProvider
  defaultHeaders : HeaderMap
  accessKey : Option String
  secretKey : Option String

/-- A header value that is unwrapped. -/
def unwrapHeader (s : String) : Except ClientError HeaderValue :=
  match HeaderValue.fromStr s with
  | some value => .ok value
  | none => .error .panicked

/-- The header that carries a secret, behind a prefix. -/
def secretHeaders (name pre : String) : Option ProviderKey → Except ClientError HeaderMap
  | some (.secret key) => (unwrapHeader (pre ++ key)).map fun value => [(name, value)]
  | _ => .ok []

def applicationJson : HeaderValue := ⟨"application/json".toUTF8.toList, by decide +kernel⟩

/-- The headers every client adds. -/
def withCommonHeaders (headers : HeaderMap) (host : HeaderValue) : HeaderMap :=
  (headers.insert "host" host).insert "content-type" applicationJson

/-- The configuration of a provider. -/
structure ProviderConfig where
  hostHeader : HeaderValue
  version : Option String

/-- `DEFAULT_ANTHROPIC_VERSION`. -/
def defaultAnthropicVersion : String := "2023-06-01"

/-- `new` of `openai_client.rs`, and of `google_gemini_client.rs`. -/
def newBearer (provider : InferenceProvider) (config : ProviderConfig) (key : Option ProviderKey) :
    Except ClientError Client := do
  let headers ← secretHeaders "authorization" "Bearer " key
  return ⟨provider, withCommonHeaders headers config.hostHeader, none, none⟩

/-- `new` of `anthropic_client.rs`. -/
def newAnthropic (config : ProviderConfig) (key : Option ProviderKey) :
    Except ClientError Client := do
  let headers ← secretHeaders "x-api-key" "" key
  let version ← unwrapHeader (config.version.getD defaultAnthropicVersion)
  return ⟨.anthropic,
    withCommonHeaders (headers.insert "anthropic-version" version) config.hostHeader, none, none⟩

/-- `new` of `ollama_client.rs`. -/
def newOllama (config : ProviderConfig) : Client :=
  ⟨.ollama, withCommonHeaders [] config.hostHeader, none, none⟩

/-- `new` of `bedrock_client.rs`. -/
def newBedrock (config : ProviderConfig) (key : Option ProviderKey) : Client :=
  let credentials := (key.map ProviderKey.asAwsCredentials).getD (none, none)
  ⟨.bedrock, withCommonHeaders [] config.hostHeader, credentials.1, credentials.2⟩

/-- `Client::new_inner`. -/
def Client.newInner (config : ProviderConfig) (provider : InferenceProvider)
    (key : Option ProviderKey) : Except ClientError Client :=
  match provider with
  | .openAI => newBearer .openAI config key
  | .anthropic => newAnthropic config key
  | .googleGemini => newBearer .googleGemini config key
  | .bedrock => .ok (newBedrock config key)
  | .ollama => .ok (newOllama config)
  | .named name => .error (.providerNotSupported (.named name))

/-! ### Dispatching -/

def identity : HeaderValue := ⟨"identity".toUTF8.toList, by decide +kernel⟩

/-- What `dispatch` does to the headers of a request. -/
def strip (headers : HeaderMap) : HeaderMap :=
  let headers := headers.remove "host"
  let headers := headers.remove "authorization"
  let headers := headers.remove "content-length"
  let headers := headers.remove "helicone-api-key"
  let headers := headers.remove "accept-encoding"
  headers.insert "accept-encoding" identity

/-- Where a request goes and what it carries, besides headers. -/
structure Target where
  method : String
  url : String
  host : Option (List Char)
  body : Bytes

inductive DispatchError
  | invalidCredentials
  | hostRequired
  | awsRequestSigningError
  deriving DecidableEq

/-- What a request is signed with. -/
structure SigningParams (Time : Type) where
  accessKey : String
  secretKey : String
  region : List Char
  time : Time

/-- **The signer**, `aws_sigv4` with its default settings. It brings the headers into a
canonical form, which may fail, and signs that form with the rest of the request. -/
structure Signer (Time Canonical : Type) where
  canonical : SigningParams Time → List (String × List Char) → Option Canonical
  authorization : SigningParams Time → Target → Canonical → HeaderValue
  amzDate : Time → HeaderValue

section Dispatch

variable {Time Canonical : Type} (signer : Signer Time Canonical)

/-- The headers the signer is given: those that are text. -/
def signable (headers : HeaderMap) : List (String × List Char) :=
  headers.filterMap fun entry => (headerToStr entry.2.bytes).map fun text => (entry.1, text)

/-- The headers the signer puts on a request. -/
def signedHeaders (params : SigningParams Time) (target : Target) (c : Canonical) : HeaderMap :=
  [("authorization", signer.authorization params target c),
    ("x-amz-date", signer.amzDate params.time)]

/-- The parameters of `extract_and_sign_aws_headers`. The region is the second label of the
host. -/
def Client.signingParams (client : Client) (target : Target) (now : Time) :
    Except DispatchError (SigningParams Time) :=
  match client.accessKey, client.secretKey with
  | some accessKey, some secretKey =>
    match target.host with
    | none => .error .hostRequired
    | some host =>
      match (host.splitOn '.')[1]? with
      | none => .error .hostRequired
      | some region => .ok ⟨accessKey, secretKey, region, now⟩
  | _, _ => .error .invalidCredentials

/-- `extract_and_sign_aws_headers` of `bedrock_client.rs`. A signed header is only copied to a
request that has none of that name. -/
def Client.sign (client : Client) (target : Target) (now : Time) (headers : HeaderMap) :
    Except DispatchError HeaderMap := do
  let params ← client.signingParams target now
  match signer.canonical params (signable headers) with
  | none => .error .awsRequestSigningError
  | some c => .ok (headers.addDefaults (signedHeaders signer params target c))

/-- `extract_and_sign_aws_headers` of `client.rs`. -/
def Client.extractAndSignAwsHeaders (client : Client) (target : Target) (now : Time)
    (headers : HeaderMap) : Except DispatchError HeaderMap :=
  match client.provider with
  | .bedrock => client.sign signer target now headers
  | _ => .ok headers

/-- **The headers of the request that is sent.** -/
def upstream (client : Client) (target : Target) (now : Time) (headers : HeaderMap) :
    Except DispatchError HeaderMap := do
  let headers ← client.extractAndSignAwsHeaders signer target now (strip headers)
  return headers.addDefaults client.defaultHeaders

end Dispatch

/-! ### The headers that stay -/

/-- The names `dispatch` removes. -/
def stripped : List String :=
  ["host", "authorization", "content-length", "helicone-api-key", "accept-encoding"]

/-- **What is stripped.** Names that are not removed keep their values. -/
theorem values_strip (m : HeaderMap) {name : String} (h : name ≠ "accept-encoding") :
    (strip m).values name = if name ∈ stripped then [] else m.values name := by
  unfold strip
  simp only [HeaderMap.values_insert, HeaderMap.values_remove, if_neg h]
  unfold stripped
  by_cases hkey : name = "helicone-api-key"
  · simp [hkey]
  by_cases hlength : name = "content-length"
  · simp [hlength]
  by_cases hauth : name = "authorization"
  · simp [hauth]
  by_cases hhost : name = "host"
  · simp [hhost]
  simp [hkey, hlength, hauth, hhost, h]

theorem values_strip_authorization (m : HeaderMap) : (strip m).values "authorization" = [] := by
  rw [values_strip m (by decide), if_pos (by decide)]

/-- The headers that carry other credentials are not removed. -/
theorem values_strip_of_notMem (m : HeaderMap) {name : String} (h : name ∉ stripped) :
    (strip m).values name = m.values name := by
  have hne : name ≠ "accept-encoding" := by
    rintro rfl
    exact h (by decide)
  rw [values_strip m hne, if_neg h]

/-! ### The headers a client adds -/

theorem values_withCommonHeaders (headers : HeaderMap) (host : HeaderValue) {name : String}
    (hhost : name ≠ "host") (htype : name ≠ "content-type") :
    (withCommonHeaders headers host).values name = headers.values name := by
  unfold withCommonHeaders
  rw [HeaderMap.values_insert, if_neg htype, HeaderMap.values_insert, if_neg hhost]

/-- The values of the header that carries a secret. -/
def secretValues (pre : String) : Option ProviderKey → List HeaderValue
  | some (.secret key) => (HeaderValue.fromStr (pre ++ key)).toList
  | _ => []

theorem values_secretHeaders {name pre : String} {key : Option ProviderKey} {headers : HeaderMap}
    (h : secretHeaders name pre key = .ok headers) (name' : String) :
    headers.values name' = if name' = name then secretValues pre key else [] := by
  unfold secretHeaders at h
  unfold secretValues
  split at h
  · next k =>
    unfold unwrapHeader at h
    cases hvalue : HeaderValue.fromStr (pre ++ k) with
    | none =>
      rw [hvalue] at h
      cases h
    | some value =>
      rw [hvalue] at h
      cases h
      rw [HeaderMap.values_cons]
      by_cases hname : name' = name
      · rw [if_pos hname, if_pos hname.symm]
        rfl
      · rw [if_neg hname, if_neg (Ne.symm hname)]
        rfl
  · cases h
    split <;> rfl

/-! ### Clients -/

section Clients

variable {config : ProviderConfig} {provider : InferenceProvider} {key : Option ProviderKey}
  {client : Client}

theorem provider_of_newInner (h : Client.newInner config provider key = .ok client) :
    client.provider = provider := by
  unfold Client.newInner at h
  split at h
  · obtain ⟨headers, -, h⟩ := bind_eq_ok_iff.mp h
    cases h
    rfl
  · obtain ⟨headers, -, h⟩ := bind_eq_ok_iff.mp h
    obtain ⟨version, -, h⟩ := bind_eq_ok_iff.mp h
    cases h
    rfl
  · obtain ⟨headers, -, h⟩ := bind_eq_ok_iff.mp h
    cases h
    rfl
  · cases h
    rfl
  · cases h
    rfl
  · cases h

theorem values_newBearer (h : newBearer provider config key = .ok client) :
    client.defaultHeaders.values "authorization" = secretValues "Bearer " key := by
  obtain ⟨headers, hheaders, h⟩ := bind_eq_ok_iff.mp h
  cases h
  rw [values_withCommonHeaders _ _ (by decide) (by decide), values_secretHeaders hheaders,
    if_pos rfl]

theorem values_newAnthropic (h : newAnthropic config key = .ok client) :
    client.defaultHeaders.values "authorization" = [] ∧
      client.defaultHeaders.values "x-api-key" = secretValues "" key := by
  obtain ⟨headers, hheaders, h⟩ := bind_eq_ok_iff.mp h
  obtain ⟨version, -, h⟩ := bind_eq_ok_iff.mp h
  cases h
  constructor
  · rw [values_withCommonHeaders _ _ (by decide) (by decide), HeaderMap.values_insert,
      if_neg (by decide), values_secretHeaders hheaders, if_neg (by decide)]
  · rw [values_withCommonHeaders _ _ (by decide) (by decide), HeaderMap.values_insert,
      if_neg (by decide), values_secretHeaders hheaders, if_pos rfl]

end Clients

/-! ### The request that is sent -/

theorem if_then_nil_else_self (l : List HeaderValue) : (if l = [] then [] else l) = l := by
  split
  · next h => exact h.symm
  · rfl

/-- A value that fills a gap is there if nothing else is. -/
theorem if_nil_eq_iff {l k : List HeaderValue} :
    (if l = [] then k else l) = k ↔ l = [] ∨ l = k := by
  by_cases h : l = []
  · rw [if_pos h]
    exact iff_of_true rfl (Or.inl h)
  · rw [if_neg h]
    exact ⟨Or.inr, fun hor => hor.resolve_left h⟩

section Upstream

variable {Time Canonical : Type} (signer : Signer Time Canonical) {client : Client}
  {target : Target} {now : Time} {headers sent : HeaderMap}

/-- Without a signature the client's own headers are all that is added. -/
theorem upstream_eq_ok (hprovider : client.provider ≠ .bedrock) :
    upstream signer client target now headers =
      .ok ((strip headers).addDefaults client.defaultHeaders) := by
  unfold upstream Client.extractAndSignAwsHeaders
  split
  · next hbedrock => exact absurd hbedrock hprovider
  · rfl

theorem values_upstream (hprovider : client.provider ≠ .bedrock)
    (h : upstream signer client target now headers = .ok sent) (name : String) :
    sent.values name = if (strip headers).values name = [] then client.defaultHeaders.values name
      else (strip headers).values name := by
  rw [upstream_eq_ok signer hprovider] at h
  cases h
  exact HeaderMap.values_addDefaults _ _ name

/-- **A signed request.** What is signed are the headers that stay, and a signed header gives
way to one of the request. -/
theorem values_upstream_bedrock (hprovider : client.provider = .bedrock)
    (h : upstream signer client target now headers = .ok sent) :
    ∃ params c, client.signingParams target now = .ok params ∧
      signer.canonical params (signable (strip headers)) = some c ∧
      ∀ name, client.defaultHeaders.values name = [] →
        sent.values name = if (strip headers).values name = []
          then (signedHeaders signer params target c).values name
          else (strip headers).values name := by
  obtain ⟨signed, hsigned, h⟩ := bind_eq_ok_iff.mp h
  cases h
  unfold Client.extractAndSignAwsHeaders at hsigned
  rw [hprovider] at hsigned
  obtain ⟨params, hparams, hsigned⟩ := bind_eq_ok_iff.mp hsigned
  cases hc : signer.canonical params (signable (strip headers)) with
  | none =>
    rw [hc] at hsigned
    cases hsigned
  | some c =>
    rw [hc] at hsigned
    cases hsigned
    refine ⟨params, c, hparams, hc, fun name hname => ?_⟩
    -- the client adds nothing under this name
    rw [HeaderMap.values_addDefaults, hname, ← HeaderMap.values_addDefaults]
    exact if_then_nil_else_self _

end Upstream

/-! ### The gateway's own credentials -/

/-- The headers by which a provider knows who sends a request. -/
def authNames : InferenceProvider → List String
  | .anthropic => ["authorization", "x-api-key"]
  | .bedrock => ["authorization", "x-amz-date", "x-amz-security-token"]
  | _ => ["authorization"]

section Credentials

variable {Time Canonical : Type} (signer : Signer Time Canonical)

/-- **The credentials of a request are derived from the configured key.** -/
def Derived (provider : InferenceProvider) (key : Option ProviderKey) (target : Target) (now : Time)
    (sent : HeaderMap) : Prop :=
  match provider with
  | .openAI => sent.values "authorization" = secretValues "Bearer " key
  | .googleGemini => sent.values "authorization" = secretValues "Bearer " key
  | .anthropic =>
    sent.values "authorization" = [] ∧ sent.values "x-api-key" = secretValues "" key
  | .bedrock => ∃ params c,
      key = some (.awsCredentials params.accessKey params.secretKey) ∧ params.time = now ∧
        ∀ name ∈ authNames .bedrock,
          sent.values name = (signedHeaders signer params target c).values name
  | _ => sent.values "authorization" = []

/-- **Two requests are sent with the same credentials**, those of the gateway. -/
structure Uninfluenced (provider : InferenceProvider) (key : Option ProviderKey) (target : Target)
    (now : Time) (sent₁ sent₂ : HeaderMap) : Prop where
  same : ∀ name ∈ authNames provider, sent₁.values name = sent₂.values name
  derived₁ : Derived signer provider key target now sent₁
  derived₂ : Derived signer provider key target now sent₂

/-- A request leaves the credentials to the gateway: it has no header of the provider's that
is not stripped, unless with the gateway's own value. -/
def LeavesCredentials (provider : InferenceProvider) (key : Option ProviderKey) (now : Time)
    (headers : HeaderMap) : Prop :=
  match provider with
  | .anthropic =>
    headers.values "x-api-key" = [] ∨ headers.values "x-api-key" = secretValues "" key
  | .bedrock =>
    (headers.values "x-amz-date" = [] ∨ headers.values "x-amz-date" = [signer.amzDate now]) ∧
      headers.values "x-amz-security-token" = []
  | _ => True

/-- Where requests are signed, the two have the same canonical form. -/
def SignedAlike (client : Client) (target : Target) (now : Time) (headers₁ headers₂ : HeaderMap) :
    Prop :=
  client.provider = .bedrock → ∀ params, client.signingParams target now = .ok params →
    signer.canonical params (signable (strip headers₁)) =
      signer.canonical params (signable (strip headers₂))

/-- The signatures of two requests do not collide. -/
def NoCollision (client : Client) (target : Target) (now : Time) (headers₁ headers₂ : HeaderMap) :
    Prop :=
  ∀ params c₁ c₂, client.signingParams target now = .ok params →
    signer.canonical params (signable (strip headers₁)) = some c₁ →
    signer.canonical params (signable (strip headers₂)) = some c₂ →
    signer.authorization params target c₁ = signer.authorization params target c₂ → c₁ = c₂

/-- The bearer providers read a header that is always stripped. -/
theorem authorization_of_bearer {config : ProviderConfig} {provider : InferenceProvider}
    {key : Option ProviderKey} {client : Client}
    (hclient : newBearer provider config key = .ok client)
    (hprovider : client.provider ≠ .bedrock) {target : Target} {now : Time}
    {headers sent : HeaderMap} (h : upstream signer client target now headers = .ok sent) :
    sent.values "authorization" = secretValues "Bearer " key := by
  rw [values_upstream signer hprovider h, values_strip_authorization, if_pos rfl,
    values_newBearer hclient]

/-- Ollama is sent no credentials. -/
theorem authorization_of_ollama {config : ProviderConfig} {target : Target} {now : Time}
    {headers sent : HeaderMap}
    (h : upstream signer (newOllama config) target now headers = .ok sent) :
    sent.values "authorization" = [] := by
  have hprovider : (newOllama config).provider ≠ .bedrock := InferenceProvider.noConfusion
  rw [values_upstream signer hprovider h, values_strip_authorization, if_pos rfl]
  exact values_withCommonHeaders [] config.hostHeader (by decide) (by decide)

/-- The request to Anthropic keeps a key that the client has sent. -/
theorem values_anthropic {config : ProviderConfig} {key : Option ProviderKey} {client : Client}
    (hclient : newAnthropic config key = .ok client) (hprovider : client.provider ≠ .bedrock)
    {target : Target} {now : Time} {headers sent : HeaderMap}
    (h : upstream signer client target now headers = .ok sent) :
    sent.values "authorization" = [] ∧
      sent.values "x-api-key" = if headers.values "x-api-key" = [] then secretValues "" key
        else headers.values "x-api-key" := by
  obtain ⟨hauthorization, hkey⟩ := values_newAnthropic hclient
  constructor
  · rw [values_upstream signer hprovider h, values_strip_authorization, if_pos rfl, hauthorization]
  · rw [values_upstream signer hprovider h, values_strip_of_notMem headers (by decide), hkey]

/-- Requests are signed with the configured key. -/
theorem signingParams_newBedrock {config : ProviderConfig} {key : Option ProviderKey}
    {target : Target} {now : Time} {params : SigningParams Time}
    (h : (newBedrock config key).signingParams target now = .ok params) :
    key = some (.awsCredentials params.accessKey params.secretKey) ∧ params.time = now := by
  unfold Client.signingParams newBedrock at h
  dsimp only at h
  cases key with
  | none => cases h
  | some k =>
    cases k with
    | secret key => cases h
    | notRequired => cases h
    | awsCredentials accessKey secretKey =>
      simp only [Option.map_some, Option.getD_some, ProviderKey.asAwsCredentials] at h
      split at h
      · cases h
      · split at h
        · cases h
        · cases h
          exact ⟨rfl, rfl⟩

theorem values_newBedrock (config : ProviderConfig) (key : Option ProviderKey) {name : String}
    (h : name ∈ authNames .bedrock) : (newBedrock config key).defaultHeaders.values name = [] := by
  have hne : name ≠ "host" ∧ name ≠ "content-type" := by
    constructor
    · rintro rfl
      exact absurd h (by decide)
    · rintro rfl
      exact absurd h (by decide)
  exact values_withCommonHeaders [] config.hostHeader hne.1 hne.2

/-- The credentials of a signed request, one header at a time. -/
theorem values_bedrock {config : ProviderConfig} {key : Option ProviderKey} {target : Target}
    {now : Time} {headers sent : HeaderMap}
    (h : upstream signer (newBedrock config key) target now headers = .ok sent) :
    ∃ params c, (newBedrock config key).signingParams target now = .ok params ∧
      signer.canonical params (signable (strip headers)) = some c ∧
      sent.values "authorization" = [signer.authorization params target c] ∧
      sent.values "x-amz-date" = (if headers.values "x-amz-date" = [] then [signer.amzDate now]
        else headers.values "x-amz-date") ∧
      sent.values "x-amz-security-token" = headers.values "x-amz-security-token" := by
  obtain ⟨params, c, hparams, hc, hvalues⟩ := values_upstream_bedrock signer rfl h
  obtain ⟨-, htime⟩ := signingParams_newBedrock hparams
  refine ⟨params, c, hparams, hc, ?_, ?_, ?_⟩
  · rw [hvalues _ (values_newBedrock config key (by decide)), values_strip_authorization,
      if_pos rfl]
    rfl
  · rw [hvalues _ (values_newBedrock config key (by decide)),
      values_strip_of_notMem headers (by decide), ← htime]
    rfl
  · rw [hvalues _ (values_newBedrock config key (by decide)),
      values_strip_of_notMem headers (by decide)]
    exact if_then_nil_else_self _

/-- The credentials that a signature brings with it. -/
theorem forall_signedHeaders_iff {params : SigningParams Time} {target : Target} {c : Canonical}
    {sent : HeaderMap} :
    (∀ name ∈ authNames .bedrock,
        sent.values name = (signedHeaders signer params target c).values name) ↔
      sent.values "authorization" = [signer.authorization params target c] ∧
      sent.values "x-amz-date" = [signer.amzDate params.time] ∧
      sent.values "x-amz-security-token" = [] := by
  constructor
  · intro h
    exact ⟨h _ (by decide), h _ (by decide), h _ (by decide)⟩
  · rintro ⟨hauthorization, hdate, htoken⟩ name hname
    simp only [authNames, List.mem_cons, List.not_mem_nil, or_false] at hname
    rcases hname with rfl | rfl | rfl
    · exact hauthorization
    · exact hdate
    · exact htoken

section Pairs

variable {config : ProviderConfig} {key : Option ProviderKey} {target : Target} {now : Time}
  {headers₁ headers₂ sent₁ sent₂ : HeaderMap}

/-- A credential that both requests carry in one header. -/
theorem uninfluenced_of_authorization {provider : InferenceProvider}
    (hnames : authNames provider = ["authorization"]) {values : List HeaderValue}
    (hderived : ∀ sent : HeaderMap, sent.values "authorization" = values →
      Derived signer provider key target now sent)
    (h₁ : sent₁.values "authorization" = values) (h₂ : sent₂.values "authorization" = values) :
    Uninfluenced signer provider key target now sent₁ sent₂ := by
  refine ⟨fun name hname => ?_, hderived sent₁ h₁, hderived sent₂ h₂⟩
  rw [hnames] at hname
  rw [List.mem_singleton.mp hname, h₁, h₂]

theorem uninfluenced_anthropic_iff {client : Client}
    (hclient : newAnthropic config key = .ok client)
    (hprovider : client.provider ≠ .bedrock)
    (h₁ : upstream signer client target now headers₁ = .ok sent₁)
    (h₂ : upstream signer client target now headers₂ = .ok sent₂) :
    Uninfluenced signer .anthropic key target now sent₁ sent₂ ↔
      LeavesCredentials signer .anthropic key now headers₁ ∧
        LeavesCredentials signer .anthropic key now headers₂ := by
  obtain ⟨hauthorization₁, hkey₁⟩ := values_anthropic signer hclient hprovider h₁
  obtain ⟨hauthorization₂, hkey₂⟩ := values_anthropic signer hclient hprovider h₂
  constructor
  · rintro ⟨-, ⟨-, hderived₁⟩, -, hderived₂⟩
    rw [hkey₁] at hderived₁
    rw [hkey₂] at hderived₂
    exact ⟨if_nil_eq_iff.mp hderived₁, if_nil_eq_iff.mp hderived₂⟩
  -- without credentials of its own, either request has those of the gateway
  · rintro ⟨hown₁, hown₂⟩
    have hown₁' := hkey₁.trans (if_nil_eq_iff.mpr hown₁)
    have hown₂' := hkey₂.trans (if_nil_eq_iff.mpr hown₂)
    refine ⟨fun name hname => ?_, ⟨hauthorization₁, hown₁'⟩, hauthorization₂, hown₂'⟩
    simp only [authNames, List.mem_cons, List.not_mem_nil, or_false] at hname
    rcases hname with rfl | rfl
    · rw [hauthorization₁, hauthorization₂]
    · rw [hown₁', hown₂']

/-- A signed request has the credentials of the key exactly when it brings none of its own. -/
theorem derived_bedrock_iff {headers sent : HeaderMap}
    (h : upstream signer (newBedrock config key) target now headers = .ok sent) :
    Derived signer .bedrock key target now sent ↔
      LeavesCredentials signer .bedrock key now headers := by
  obtain ⟨params, c, hparams, -, hauthorization, hdate, htoken⟩ := values_bedrock signer h
  obtain ⟨hkey, htime⟩ := signingParams_newBedrock hparams
  constructor
  · rintro ⟨params', c', -, htime', hvalues⟩
    obtain ⟨-, hdate', htoken'⟩ := (forall_signedHeaders_iff signer).mp hvalues
    rw [hdate, htime'] at hdate'
    exact ⟨if_nil_eq_iff.mp hdate', htoken.symm.trans htoken'⟩
  · rintro ⟨hown, hnone⟩
    refine ⟨params, c, hkey, htime, (forall_signedHeaders_iff signer).mpr ⟨hauthorization, ?_, ?_⟩⟩
    · rw [hdate, htime]
      exact if_nil_eq_iff.mpr hown
    · rw [htoken, hnone]

theorem uninfluenced_bedrock_iff
    (h₁ : upstream signer (newBedrock config key) target now headers₁ = .ok sent₁)
    (h₂ : upstream signer (newBedrock config key) target now headers₂ = .ok sent₂)
    (hcollision : NoCollision signer (newBedrock config key) target now headers₁ headers₂) :
    Uninfluenced signer .bedrock key target now sent₁ sent₂ ↔
      (LeavesCredentials signer .bedrock key now headers₁ ∧
        LeavesCredentials signer .bedrock key now headers₂) ∧
      SignedAlike signer (newBedrock config key) target now headers₁ headers₂ := by
  obtain ⟨params, c₁, hparams, hc₁, hauthorization₁, hdate₁, htoken₁⟩ := values_bedrock signer h₁
  obtain ⟨params', c₂, hparams', hc₂, hauthorization₂, hdate₂, htoken₂⟩ := values_bedrock signer h₂
  -- both are signed with the same key, in the same region and at the same time
  obtain rfl := Except.ok.inj (hparams.symm.trans hparams')
  constructor
  · rintro ⟨hsame, hderived₁, hderived₂⟩
    refine ⟨⟨(derived_bedrock_iff signer h₁).mp hderived₁,
      (derived_bedrock_iff signer h₂).mp hderived₂⟩, fun _ params' hparams' => ?_⟩
    obtain rfl := Except.ok.inj (hparams.symm.trans hparams')
    have hauthorization := hsame "authorization" (by decide)
    rw [hauthorization₁, hauthorization₂] at hauthorization
    rw [hc₁, hc₂, hcollision params c₁ c₂ hparams hc₁ hc₂ (List.singleton_inj.mp hauthorization)]
  · rintro ⟨⟨hown₁, hown₂⟩, halike⟩
    have hc := halike rfl params hparams
    rw [hc₁, hc₂] at hc
    obtain rfl := Option.some.inj hc
    refine ⟨fun name hname => ?_, (derived_bedrock_iff signer h₁).mpr hown₁,
      (derived_bedrock_iff signer h₂).mpr hown₂⟩
    simp only [authNames, List.mem_cons, List.not_mem_nil, or_false] at hname
    rcases hname with rfl | rfl | rfl
    · rw [hauthorization₁, hauthorization₂]
    · rw [hdate₁, hdate₂, if_nil_eq_iff.mpr hown₁.1, if_nil_eq_iff.mpr hown₂.1]
    · rw [htoken₁, htoken₂, hown₁.2, hown₂.2]

end Pairs

/-- **Which requests get the gateway's credentials.** Two requests that differ in their headers
are sent with the same credentials, those of the configured key, exactly when neither has a
header of the provider's that `dispatch` leaves on it and, for Bedrock, what is signed of them
is the same. -/
theorem uninfluenced_iff (config : ProviderConfig) (provider : InferenceProvider)
    (key : Option ProviderKey) (client : Client)
    (hclient : Client.newInner config provider key = .ok client) (target : Target) (now : Time)
    (headers₁ headers₂ sent₁ sent₂ : HeaderMap)
    (h₁ : upstream signer client target now headers₁ = .ok sent₁)
    (h₂ : upstream signer client target now headers₂ = .ok sent₂)
    (hcollision : NoCollision signer client target now headers₁ headers₂) :
    Uninfluenced signer provider key target now sent₁ sent₂ ↔
      (LeavesCredentials signer provider key now headers₁ ∧
        LeavesCredentials signer provider key now headers₂) ∧
      SignedAlike signer client target now headers₁ headers₂ := by
  have hne : provider ≠ .bedrock → client.provider ≠ .bedrock := by
    rw [provider_of_newInner hclient]
    exact id
  -- only Bedrock signs
  have hunsigned : provider ≠ .bedrock → SignedAlike signer client target now headers₁ headers₂ :=
    fun hprovider hbedrock => absurd hbedrock (hne hprovider)
  cases provider with
  | openAI =>
    exact iff_of_true (uninfluenced_of_authorization signer rfl (fun _ h => h)
      (authorization_of_bearer signer hclient (hne (by decide)) h₁)
      (authorization_of_bearer signer hclient (hne (by decide)) h₂))
      ⟨⟨trivial, trivial⟩, hunsigned (by decide)⟩
  | googleGemini =>
    exact iff_of_true (uninfluenced_of_authorization signer rfl (fun _ h => h)
      (authorization_of_bearer signer hclient (hne (by decide)) h₁)
      (authorization_of_bearer signer hclient (hne (by decide)) h₂))
      ⟨⟨trivial, trivial⟩, hunsigned (by decide)⟩
  | ollama =>
    cases hclient
    exact iff_of_true (uninfluenced_of_authorization signer rfl (fun _ h => h)
      (authorization_of_ollama signer h₁) (authorization_of_ollama signer h₂))
      ⟨⟨trivial, trivial⟩, hunsigned (by decide)⟩
  | anthropic =>
    rw [uninfluenced_anthropic_iff signer hclient (hne (by decide)) h₁ h₂]
    exact (and_iff_left (hunsigned (by decide))).symm
  | bedrock =>
    cases hclient
    exact uninfluenced_bedrock_iff signer h₁ h₂ hcollision
  | named name => cases hclient

end Credentials

/-- A signer that takes the headers as they are. -/
def plainSigner {Time : Type} : Signer Time (List (String × List Char)) where
  canonical _ headers := some headers
  authorization _ _ _ := ⟨"AWS4-HMAC-SHA256".toUTF8.toList, by decide +kernel⟩
  amzDate _ := ⟨"20250101T000000Z".toUTF8.toList, by decide +kernel⟩

/-- A chat on Bedrock. -/
def converse : Target where
  method := "POST"
  url := "https://bedrock-runtime.us-east-1.amazonaws.com/model/nova/converse"
  host := some "bedrock-runtime.us-east-1.amazonaws.com".toList
  body := []

def providerConfig : ProviderConfig := ⟨identity, none⟩

/-- A request with one header, which holds one letter. -/
def oneHeader (name : String) (b : UInt8) (h : [b].all valueByte = true) : HeaderMap :=
  [(name, ⟨[b], h⟩)]

/-- The keys that clients authenticate with do not reach Bedrock. -/
theorem uninfluenced_iff_bedrock : ∃ client sent₁ sent₂,
    Client.newInner providerConfig .bedrock (some (.awsCredentials "id" "secret")) = .ok client ∧
    upstream plainSigner client converse () (oneHeader "authorization" 65 (by decide)) = .ok sent₁ ∧
    upstream plainSigner client converse () (oneHeader "authorization" 66 (by decide)) = .ok sent₂ ∧
    Uninfluenced plainSigner .bedrock (some (.awsCredentials "id" "secret")) converse ()
      sent₁ sent₂ := by
  refine ⟨_, _, _, rfl, rfl, rfl, ?_⟩
  refine (uninfluenced_iff plainSigner providerConfig .bedrock _ _ rfl converse ()
    (oneHeader "authorization" 65 (by decide)) (oneHeader "authorization" 66 (by decide))
    _ _ rfl rfl ?_).mpr ⟨⟨⟨Or.inl rfl, rfl⟩, Or.inl rfl, rfl⟩, fun _ _ _ => rfl⟩
  -- what is signed of them is the same
  intro params c₁ c₂ _ hc₁ hc₂ _
  exact Option.some.inj (hc₁.symm.trans hc₂)

/-- **A client can bring its own key.** Anthropic reads `x-api-key`, which is not stripped, and
the gateway's key only fills a gap. -/
theorem uninfluenced_fails : ¬ ∀ (provider : InferenceProvider) (key : Option ProviderKey)
    (client : Client), Client.newInner providerConfig provider key = .ok client →
    ∀ headers₁ headers₂ sent₁ sent₂ : HeaderMap,
      upstream plainSigner client converse () headers₁ = .ok sent₁ →
      upstream plainSigner client converse () headers₂ = .ok sent₂ →
      Uninfluenced plainSigner provider key converse () sent₁ sent₂ := by
  intro h
  have hbuilt : (Client.newInner providerConfig .anthropic (some (.secret "g"))).isOk = true := by
    decide +kernel
  cases hclient : Client.newInner providerConfig .anthropic (some (.secret "g")) with
  | error e =>
    rw [hclient] at hbuilt
    cases hbuilt
  | ok client =>
    have hprovider : client.provider ≠ .bedrock := by
      rw [provider_of_newInner hclient]
      decide
    have hrun := h .anthropic _ client hclient [] (oneHeader "x-api-key" 65 (by decide)) _ _
      (upstream_eq_ok plainSigner hprovider) (upstream_eq_ok plainSigner hprovider)
    -- the second request is not sent with the gateway's key
    have hsent := @upstream_eq_ok _ _ plainSigner client converse ()
      (oneHeader "x-api-key" 65 (by decide)) hprovider
    obtain ⟨-, hkey⟩ := values_anthropic plainSigner hclient hprovider hsent
    exact absurd (hkey.symm.trans hrun.derived₂.2) (by decide +kernel)

end Credentials

end AiGateway
