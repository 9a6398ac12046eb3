import AiGateway.Cache.Service
import AiGateway.Config.RateLimit
import AiGateway.Config.Sections
import AiGateway.Types.ModelId
import AiGateway.Types.Router

/-!
# The sections about traffic

How the sections of `config::Config` are written and read, which say where requests go and
how many of them: the providers and the model mappings, the stores, the global middleware
and the routers.

The two tables that are embedded in the program are a parameter (`Embedded`), and
`Embedded.Sound` is what having been read establishes of them.

* `providers_keeps`, `modelMapping_keeps`: the embedded tables are kept;
* `CacheStore.keeps`, `RateLimitStore.keeps`, `RouterConfigs.keeps`: so are the defaults.
-/

namespace AiGateway.Sections

open Serde

/-! ### Keys -/

def printModelName (name : ModelName) : String := String.ofList name

def writeModelName (name : ModelName) : Json := .str (printModelName name)

def readModelName (value : Json) : Except DeError ModelName :=
  (deserializeString value).map String.toList

/-- A name is read as it is written. -/
theorem readModelName_write (name : ModelName) :
    readModelName (writeModelName name) = .ok name := congrArg Except.ok String.toList_ofList

def modelNameKey : MapKey DeError ModelName where
  print := printModelName
  parse s := .ok s.toList
  print_parse s name h := by
    obtain rfl := Except.ok.inj h
    exact String.ofList_toList

def writeInferenceProvider (provider : InferenceProvider) : Json := .str provider.asStr

/-- A provider that is not built in is named by a string only. -/
def readInferenceProvider : Json → Except DeError InferenceProvider
  | .str s => .ok (.fromStr s)
  | .obj [(s, .null)] =>
    match InferenceProvider.fromStr s with
    | .named _ => .error .invalidType
    | provider => .ok provider
  | _ => .error .invalidType

def inferenceProviderKey : MapKey DeError InferenceProvider where
  print := InferenceProvider.asStr
  parse s := .ok (.fromStr s)
  print_parse s provider h := by
    obtain rfl := Except.ok.inj h
    exact InferenceProvider.asStr_fromStr s

def printEndpointType : EndpointType → String
  | .chat => "chat"
  | .image => "image"
  | .audio => "audio"

def parseEndpointType (s : String) : Except DeError EndpointType :=
  if s = "chat" then .ok .chat
  else if s = "image" then .ok .image
  else if s = "audio" then .ok .audio
  else .error (.unknownVariant s)

def endpointTypeKey : MapKey DeError EndpointType where
  print := printEndpointType
  parse := parseEndpointType
  print_parse s endpointType h := by
    unfold parseEndpointType at h
    split at h
    · next hs =>
      obtain rfl := Except.ok.inj h
      exact hs.symm
    split at h
    · next hs =>
      obtain rfl := Except.ok.inj h
      exact hs.symm
    split at h
    · next hs =>
      obtain rfl := Except.ok.inj h
      exact hs.symm
    · cases h

def routerIdKey : MapKey DeError RouterId where
  print id := String.ofList id.asStr
  parse s := .ok (.deserialize s.toList)
  print_parse s id h := by
    obtain rfl := Except.ok.inj h
    rw [RouterId.asStr_deserialize]
    exact String.ofList_toList

/-! ### Providers -/

structure GlobalProviderConfig where
  models : List ModelName
  baseUrl : String
  version : Option String

def GlobalProviderConfig.record (formats : Formats) : Record DeError GlobalProviderConfig where
  members := [
    { key := "models", codec := indexSet writeModelName readModelName, get := models
      set := fun v s => { s with models := v }, missing := some (.missingField "models") },
    { key := "base-url", codec := url formats, get := baseUrl
      set := fun v s => { s with baseUrl := v }, missing := some (.missingField "base-url") },
    { key := "version", codec := string.option, get := version
      set := fun v s => { s with version := v } }]
  base := ⟨[], "", none⟩
  invalid := .invalidType
  nodup := by simp
  apart := by simp [Member.Apart]

/-- The entry of a provider is kept. -/
theorem GlobalProviderConfig.keeps {formats : Formats} {config : GlobalProviderConfig}
    (hmodels : config.models.Nodup) (hurl : formats.parseUrl config.baseUrl = some config.baseUrl) :
    (GlobalProviderConfig.record formats).codec.Keeps config [] := by
  have hversion : string.option.Keeps config.version [] := by
    refine Codec.noFields_leaf.option.keeps fun b hread => ?_
    cases hv : config.version with
    | none =>
      rw [hv] at hread
      exact (Except.ok.inj hread).symm
    | some s =>
      rw [hv] at hread
      exact (Except.ok.inj hread).symm
  refine Record.keeps ?_ (by simp) ?_
  -- no field has fields of its own, and none is left out
  · simp only [Record.fields, record, List.map_cons, List.map_nil, List.forall_mem_cons]
    refine ⟨fun path hpath => Codec.noFields_leaf _ _ path (hpath.resolve_right (by simp)),
      fun path hpath => Codec.noFields_leaf _ _ path (hpath.resolve_right (by simp)),
      fun path hpath => Codec.noFields_leaf.option _ _ path (hpath.resolve_right (by simp)),
      by simp⟩
  · simp only [Record.fields, record, List.map_cons, List.map_nil, List.forall_mem_cons]
    exact ⟨.of rfl rfl (indexSet_keeps readModelName_write hmodels),
      .of rfl rfl (serialized_keeps hurl), .of rfl rfl hversion, by simp⟩

/-- `ProvidersConfig`. -/
def providers (formats : Formats) :
    Codec DeError (List (InferenceProvider × GlobalProviderConfig)) :=
  .map inferenceProviderKey (GlobalProviderConfig.record formats).codec .invalidType

/-- `ModelMappingConfig`. -/
def modelMapping : Codec DeError (List (ModelName × NESet ModelName)) :=
  (Codec.map modelNameKey (neSet writeModelName readModelName) .invalidType).refusing fun entries =>
    if entries.isEmpty then some .invalidType else none

/-- The tables that are embedded in the program. -/
structure Embedded where
  providers : List (InferenceProvider × GlobalProviderConfig)
  modelMapping : List (ModelName × NESet ModelName)

/-- **What is known of the embedded tables**, which have been read themselves. -/
structure Embedded.Sound (embedded : Embedded) (formats : Formats) : Prop where
  keys : ∀ p ∈ embedded.providers, InferenceProvider.fromStr p.1.asStr = p.1
  models : ∀ p ∈ embedded.providers, p.2.models.Nodup
  urls : ∀ p ∈ embedded.providers, formats.parseUrl p.2.baseUrl = some p.2.baseUrl

theorem providers_keeps {formats : Formats} {embedded : Embedded}
    (h : embedded.Sound formats) : (providers formats).Keeps embedded.providers [] :=
  Codec.map_keeps (fun p hp => congrArg Except.ok (h.keys p hp))
    fun p hp => GlobalProviderConfig.keeps (h.models p hp) (h.urls p hp)

theorem modelMapping_keeps (embedded : Embedded) :
    modelMapping.Keeps embedded.modelMapping [] := by
  refine (Codec.map_keeps (fun p _ => congrArg Except.ok String.toList_ofList)
    fun p _ => neSet_keeps ?_).refusing
  exact readItems_map readModelName_write _

/-! ### Stores -/

inductive CacheStore
  | redis (hostUrl : String)
  | inMemory (maxSize : ℕ)

namespace CacheStore

def default : CacheStore := .inMemory (1024 * 1024 * 256)

def redisRecord (formats : Formats) : Record DeError String where
  members := [{ key := "host-url", codec := url formats, get := id, set := fun v _ => v }]
  base := "redis://localhost:6340"
  invalid := .invalidType
  nodup := by simp
  apart := by simp

def redisVariant (formats : Formats) : Variant DeError CacheStore where
  name := "redis"
  record := redisRecord formats
  wrap := redis
  get
    | redis hostUrl => some hostUrl
    | inMemory _ => none
  get_wrap _ := rfl

def inMemoryRecord : Record DeError ℕ where
  members := [{ key := "max-size", codec := usize, get := id, set := fun v _ => v }]
  base := 1024 * 1024 * 256
  invalid := .invalidType
  nodup := by simp
  apart := by simp

def inMemoryVariant : Variant DeError CacheStore where
  name := "in-memory"
  record := inMemoryRecord
  wrap := inMemory
  get
    | redis _ => none
    | inMemory maxSize => some maxSize
  get_wrap _ := rfl

def tagged (formats : Formats) : Tagged DeError CacheStore where
  tag := "type"
  variants := [redisVariant formats, inMemoryVariant]
  invalid := .invalidType
  unknown := .unknownVariant

end CacheStore

theorem CacheStore.keeps (formats : Formats) :
    (CacheStore.tagged formats).codec.Keeps .default [] := by
  have hown : (tagged formats).Own inMemoryVariant := by
    refine ⟨by simp [tagged], ?_, ?_, ?_, ?_⟩
    · simp [tagged, redisVariant, inMemoryVariant]
    · simp [tagged, inMemoryVariant, Record.fields, inMemoryRecord]
    · simp [tagged, redisVariant, inMemoryVariant]
    · simp [tagged, redisVariant, inMemoryVariant]
  have hrecord : inMemoryRecord.codec.Keeps (1024 * 1024 * 256) [] := by
    refine Record.keeps_base (by simp) ?_
    simp only [Record.fields, inMemoryRecord, List.map_cons, List.map_nil, List.forall_mem_cons]
    exact ⟨.of rfl rfl (unsigned_keeps (by decide)), by simp⟩
  exact Tagged.keeps hown hrecord

structure RedisConfig where
  hostUrl : Secret
  connectionTimeout : Duration

def RedisConfig.default : RedisConfig where
  hostUrl := ⟨"redis://localhost:6379"⟩
  connectionTimeout := seconds 1

def RedisConfig.record (formats : Formats) : Record DeError RedisConfig where
  members := [
    { key := "host-url", codec := secret (readText formats.parseUrl), get := hostUrl
      set := fun v s => { s with hostUrl := v } },
    { key := "connection-timeout", codec := duration formats, get := connectionTimeout
      set := fun v s => { s with connectionTimeout := v } }]
  base := .default
  invalid := .invalidType
  unknown := some .unknownField
  nodup := by simp
  apart := by simp [Member.Apart]

inductive RateLimitStore
  | inMemory
  | redis (config : RedisConfig)

namespace RateLimitStore

def inMemoryRecord : Record DeError Unit where
  members := []
  base := ()
  invalid := .invalidType
  nodup := by simp
  apart := by simp

def inMemoryVariant : Variant DeError RateLimitStore where
  name := "in-memory"
  record := inMemoryRecord
  wrap _ := inMemory
  get
    | inMemory => some ()
    | redis _ => none
  get_wrap _ := rfl

def redisVariant (formats : Formats) : Variant DeError RateLimitStore where
  name := "redis"
  record := RedisConfig.record formats
  wrap := redis
  get
    | inMemory => none
    | redis config => some config
  get_wrap _ := rfl

def tagged (formats : Formats) : Tagged DeError RateLimitStore where
  tag := "type"
  variants := [inMemoryVariant, redisVariant formats]
  invalid := .invalidType
  unknown := .unknownVariant

end RateLimitStore

theorem RateLimitStore.keeps (formats : Formats) :
    (RateLimitStore.tagged formats).codec.Keeps .inMemory [] := by
  have hown : (tagged formats).Own inMemoryVariant := by
    refine ⟨by simp [tagged], ?_, ?_, ?_, ?_⟩
    · simp [tagged, redisVariant, inMemoryVariant]
    · simp [inMemoryVariant, Record.fields, inMemoryRecord]
    · simp [tagged, redisVariant, inMemoryVariant]
    · simp [tagged, redisVariant, inMemoryVariant]
  have hrecord : inMemoryRecord.codec.Keeps () [] :=
    Record.keeps_base (by simp) (by simp [Record.fields, inMemoryRecord])
  exact Tagged.keeps hown hrecord

/-! ### Global middleware -/

def cacheRecord : Record DeError Cache.CacheConfig where
  members := [
    { key := "directive", codec := string.option, get := Cache.CacheConfig.directive
      skip := Option.isNone, set := fun v s => { s with directive := v } },
    { key := "buckets", codec := u8, get := Cache.CacheConfig.buckets
      set := fun v s => { s with buckets := v } },
    { key := "seed", codec := string.option, get := Cache.CacheConfig.seed
      skip := Option.isNone, set := fun v s => { s with seed := v } }]
  base := ⟨none, 1, none⟩
  invalid := .invalidType
  nodup := by simp
  apart := by simp [Member.Apart]

def nonZeroU32 : Codec DeError {n : ℕ // 0 < n ∧ n ≤ u32Max} :=
  .leaf (fun n => .num n.1 0) fun
    | .num n 0 =>
      if h : 0 < n.toNat ∧ n.toNat ≤ u32Max then .ok ⟨n.toNat, h⟩ else .error .invalidType
    | _ => .error .invalidType

def gcraRecord (formats : Formats) : Record DeError GcraConfig where
  members := [
    { key := "refill-frequency", codec := duration formats, get := GcraConfig.refillFrequency
      set := fun v s => { s with refillFrequency := v } },
    { key := "capacity", codec := nonZeroU32
      get := fun s => ⟨s.capacity, s.capacity_pos, s.capacity_le⟩
      set := fun v s =>
        { s with capacity := v.1, capacity_pos := v.2.1, capacity_le := v.2.2 } }]
  base := .default
  invalid := .invalidType
  unknown := some .unknownField
  nodup := by simp
  apart := by simp [Member.Apart]

def limitsRecord (formats : Formats) : Record DeError LimitsConfig where
  members := [
    { key := "per-api-key", codec := (gcraRecord formats).codec, get := LimitsConfig.perApiKey
      set := fun v _ => ⟨v⟩, missing := some (.missingField "per-api-key") }]
  base := ⟨.default⟩
  invalid := .invalidType
  nodup := by simp
  apart := by simp

structure GlobalRateLimitConfig where
  limits : Option LimitsConfig
  cleanupInterval : Duration

/-- The members of a record that is flattened into another. -/
def flattened : Json → Fields
  | .obj fields => fields
  | _ => []

/-- `GlobalRateLimitConfig`. The limits are flattened into it, and are nothing if they cannot
be read. The default of the configuration has none of this. -/
def globalRateLimit (formats : Formats) : Codec DeError GlobalRateLimitConfig :=
  .leaf
    (fun config => .obj ((match config.limits with
      | some limits => flattened ((limitsRecord formats).serialize limits)
      | none => []) ++
        [("cleanup-interval", (duration formats).serialize config.cleanupInterval)]))
    fun
      | .obj fields =>
        let limits := ((limitsRecord formats).deserialize (.obj fields)).toOption
        match Json.get fields "cleanup-interval" with
        | some value =>
          ((duration formats).deserialize value).map fun interval => ⟨limits, interval⟩
        | none => .ok ⟨limits, seconds (60 * 5)⟩
      | _ => .error .invalidType

structure MiddlewareConfig where
  cache : Option Cache.CacheConfig
  rateLimit : Option GlobalRateLimitConfig

def MiddlewareConfig.default : MiddlewareConfig := ⟨none, none⟩

def MiddlewareConfig.record (formats : Formats) : Record DeError MiddlewareConfig where
  members := [
    { key := "cache", codec := cacheRecord.codec.option, get := cache, skip := Option.isNone
      set := fun v s => { s with cache := v } },
    { key := "rate-limit", codec := (globalRateLimit formats).option, get := rateLimit
      skip := Option.isNone, set := fun v s => { s with rateLimit := v } }]
  base := .default
  invalid := .invalidType
  unknown := some .unknownField
  nodup := by simp
  apart := by simp [Member.Apart]

theorem MiddlewareConfig.keeps (formats : Formats) :
    (MiddlewareConfig.record formats).codec.Keeps .default [] := by
  refine Record.keeps_base (by simp) ?_
  simp only [Record.fields, record, List.map_cons, List.map_nil, List.forall_mem_cons]
  exact ⟨.of_skip rfl rfl fun v _ => Codec.option_same_none v,
    .of_skip rfl rfl fun v _ => Codec.option_same_none v, by simp⟩

/-! ### Routers -/

def targetRecord (formats : Formats) : Record DeError BalanceTarget where
  members := [
    { key := "provider", codec := .leaf writeInferenceProvider readInferenceProvider
      get := BalanceTarget.provider, set := fun v s => { s with provider := v }
      missing := some (.missingField "provider") },
    { key := "weight", codec := decimal formats, get := BalanceTarget.weight
      set := fun v s => { s with weight := v }, missing := some (.missingField "weight") }]
  base := ⟨.openAI, 0⟩
  invalid := .invalidType
  nodup := by simp
  apart := by simp [Member.Apart]

/-- The set of a strategy. -/
def strategyRecord {α : Type} [DecidableEq α] (elem : Codec DeError α) (base : NESet α) :
    Record DeError (NESet α) where
  members := [
    { key := "providers", codec := neSet elem.serialize elem.deserialize, get := id
      set := fun v _ => v, missing := some (.missingField "providers") }]
  base := base
  invalid := .invalidType
  nodup := by simp
  apart := by simp

def weightedVariant (formats : Formats) : Variant DeError BalanceConfigInner where
  name := "weighted"
  record := strategyRecord (targetRecord formats).codec
    ⟨[⟨.openAI, 1⟩], List.nodup_singleton _, List.cons_ne_nil _ _⟩
  wrap := .weighted
  get
    | .weighted providers => some providers
    | .latency _ => none
  get_wrap _ := rfl

/-- The providers of the default balancer. -/
def defaultProviders : NESet InferenceProvider :=
  ⟨[.openAI, .anthropic, .googleGemini], by simp, by simp⟩

def latencyVariant : Variant DeError BalanceConfigInner where
  name := "latency"
  record := strategyRecord (.leaf writeInferenceProvider readInferenceProvider) defaultProviders
  wrap := .latency
  get
    | .weighted _ => none
    | .latency providers => some providers
  get_wrap _ := rfl

def balanceTagged (formats : Formats) : Tagged DeError BalanceConfigInner where
  tag := "strategy"
  variants := [weightedVariant formats, latencyVariant]
  invalid := .invalidType
  unknown := .unknownVariant

/-- `BalanceConfig`. -/
def balance (formats : Formats) : Codec DeError (List (EndpointType × BalanceConfigInner)) :=
  .map endpointTypeKey (balanceTagged formats).codec .invalidType

def defaultBalance : List (EndpointType × BalanceConfigInner) :=
  [(.chat, .latency defaultProviders)]

theorem balance_keeps (formats : Formats) : (balance formats).Keeps defaultBalance [] := by
  have hown : (balanceTagged formats).Own latencyVariant := by
    refine ⟨by simp [balanceTagged], ?_, ?_, ?_, ?_⟩
    · simp [balanceTagged, weightedVariant, latencyVariant]
    · simp [balanceTagged, latencyVariant, Record.fields, strategyRecord]
    · simp [balanceTagged, weightedVariant, latencyVariant]
    · simp [balanceTagged, weightedVariant, latencyVariant]
  have hlatency : (strategyRecord (.leaf writeInferenceProvider readInferenceProvider)
      defaultProviders).codec.Keeps defaultProviders [] := by
    refine Record.keeps_base (by simp) ?_
    simp only [Record.fields, strategyRecord, List.map_cons, List.map_nil, List.forall_mem_cons]
    exact ⟨.of rfl rfl (neSet_keeps rfl), by simp⟩
  refine Codec.map_keeps ?_ ?_
  · intro p hp
    obtain rfl := List.mem_singleton.mp hp
    rfl
  · simp only [defaultBalance, List.forall_mem_cons]
    exact ⟨Tagged.keeps hown hlatency, by simp⟩

/-- `Strategy`. -/
inductive RetryStrategy
  | exponential (base max : Duration)

def exponentialVariant (formats : Formats) : Variant DeError RetryStrategy where
  name := "exponential"
  record :=
    { members := [
        { key := "base", codec := duration formats, get := Prod.fst, set := fun v s => (v, s.2)
          missing := some (.missingField "base") },
        { key := "max", codec := duration formats, get := Prod.snd, set := fun v s => (s.1, v)
          missing := some (.missingField "max") }]
      base := (seconds 0, seconds 0)
      invalid := .invalidType
      nodup := by simp
      apart := by simp [Member.Apart] }
  wrap := fun (base, max) => .exponential base max
  get | .exponential base max => some (base, max)
  get_wrap _ := rfl

def retryTagged (formats : Formats) : Tagged DeError RetryStrategy where
  tag := "strategy"
  variants := [exponentialVariant formats]
  invalid := .invalidType
  unknown := .unknownVariant

structure RetryConfig where
  enabled : Bool
  maxRetries : UInt8
  strategy : RetryStrategy

/-- A field without a default. -/
def required {α : Type} (fields : Fields) (key : String) (c : Codec DeError α) :
    Except DeError α :=
  match Json.get fields key with
  | some value => c.deserialize value
  | none => .error (.missingField key)

/-- `RetryConfig`, with the strategy flattened into it. The default has none of this. -/
def retry (formats : Formats) : Codec DeError RetryConfig :=
  .leaf
    (fun config => .obj ([("enabled", bool.serialize config.enabled),
      ("max-retries", u8.serialize config.maxRetries)] ++
        flattened ((retryTagged formats).serialize config.strategy)))
    fun
      | .obj fields => do
        let enabled ← required fields "enabled" bool
        let maxRetries ← required fields "max-retries" u8
        let strategy ← (retryTagged formats).deserialize (.obj fields)
        return ⟨enabled, maxRetries, strategy⟩
      | _ => .error .invalidType

inductive RouterRateLimitConfig
  | none
  | custom (store : Option RateLimitStore) (limits : LimitsConfig)

/-- `is_disabled`. -/
def RouterRateLimitConfig.isDisabled : RouterRateLimitConfig → Bool
  | none => true
  | custom _ _ => false

/-- `RouterRateLimitConfig`, untagged, with the limits flattened into it. -/
def routerRateLimit (formats : Formats) : Codec DeError RouterRateLimitConfig :=
  .leaf
    (fun
      | .none => .null
      | .custom store limits =>
        .obj (("store", (RateLimitStore.tagged formats).codec.option.serialize store) ::
          flattened ((limitsRecord formats).serialize limits)))
    fun
      | .null => .ok .none
      | .obj fields =>
        if ∀ p ∈ fields, p.1 = "store" ∨ p.1 = "per-api-key" then do
          let store ← match Json.get fields "store" with
            | some value => (RateLimitStore.tagged formats).codec.option.deserialize value
            | none => .ok none
          let limits ← (limitsRecord formats).deserialize (.obj fields)
          return .custom store limits
        else .error .invalidType
      | _ => .error .invalidType

structure RouterConfig where
  loadBalance : List (EndpointType × BalanceConfigInner)
  modelMappings : Option (List (ModelName × NESet ModelName))
  cache : Option Cache.CacheConfig
  retries : Option RetryConfig
  rateLimit : RouterRateLimitConfig

def RouterConfig.default : RouterConfig where
  loadBalance := defaultBalance
  modelMappings := none
  cache := none
  retries := none
  rateLimit := .none

def RouterConfig.record (formats : Formats) : Record DeError RouterConfig where
  members := [
    { key := "load-balance", codec := balance formats, get := loadBalance
      set := fun v s => { s with loadBalance := v } },
    { key := "model-mappings", codec := modelMapping.option, get := modelMappings
      skip := Option.isNone, set := fun v s => { s with modelMappings := v } },
    { key := "cache", codec := cacheRecord.codec.option, get := cache
      skip := Option.isNone, set := fun v s => { s with cache := v } },
    { key := "retries", codec := (retry formats).option, get := retries
      skip := Option.isNone, set := fun v s => { s with retries := v } },
    { key := "rate-limit", codec := routerRateLimit formats, get := rateLimit
      skip := RouterRateLimitConfig.isDisabled, set := fun v s => { s with rateLimit := v } }]
  base := .default
  invalid := .invalidType
  nodup := by simp
  apart := by simp [Member.Apart]

/-- `RouterConfigs`. -/
def routers (formats : Formats) : Codec DeError (List (RouterId × RouterConfig)) :=
  .map routerIdKey (RouterConfig.record formats).codec .invalidType

def defaultRouters : List (RouterId × RouterConfig) := [(.default, .default)]

theorem RouterConfig.keeps (formats : Formats) :
    (RouterConfig.record formats).codec.Keeps .default [] := by
  refine Record.keeps_base (by simp) ?_
  simp only [Record.fields, record, List.map_cons, List.map_nil, List.forall_mem_cons]
  exact ⟨.of rfl rfl (balance_keeps formats), .of_skip rfl rfl fun v _ => Codec.option_same_none v,
    .of_skip rfl rfl fun v _ => Codec.option_same_none v,
    .of_skip rfl rfl fun v _ => Codec.option_same_none v,
    .of_skip rfl rfl fun v path => Codec.noFields_leaf v _ path, by simp⟩

theorem routers_keeps (formats : Formats) : (routers formats).Keeps defaultRouters [] := by
  refine Codec.map_keeps ?_ ?_
  · intro p hp
    obtain rfl := List.mem_singleton.mp hp
    rfl
  · simp only [defaultRouters, List.forall_mem_cons]
    exact ⟨RouterConfig.keeps formats, by simp⟩

/-! ### The remaining sections -/

structure ResponseHeadersConfig where
  provider : Bool
  providerRequestId : Bool

def ResponseHeadersConfig.default : ResponseHeadersConfig := ⟨true, true⟩

def ResponseHeadersConfig.record : Record DeError ResponseHeadersConfig where
  members := [
    { key := "provider", codec := bool, get := provider
      set := fun v s => { s with provider := v } },
    { key := "provider-request-id", codec := bool, get := providerRequestId
      set := fun v s => { s with providerRequestId := v } }]
  base := .default
  invalid := .invalidType
  nodup := by simp
  apart := by simp [Member.Apart]

inductive DeploymentTarget
  | cloud
  | sidecar

namespace DeploymentTarget

def asStr : DeploymentTarget → String
  | cloud => "cloud"
  | sidecar => "sidecar"

def ofVariant (s : String) : Option DeploymentTarget :=
  if s = "cloud" then some cloud
  else if s = "sidecar" then some sidecar
  else none

end DeploymentTarget

def deploymentTarget : Codec DeError DeploymentTarget :=
  unitVariant DeploymentTarget.asStr DeploymentTarget.ofVariant

theorem ResponseHeadersConfig.keeps : ResponseHeadersConfig.record.codec.Keeps .default [] := by
  refine Record.keeps_base (by simp) ?_
  simp only [Record.fields, record, List.map_cons, List.map_nil, List.forall_mem_cons]
  exact ⟨.of rfl rfl (bool_keeps _), .of rfl rfl (bool_keeps _), by simp⟩

theorem deploymentTarget_keeps : deploymentTarget.Keeps .sidecar [] := unitVariant_keeps rfl

end AiGateway.Sections
