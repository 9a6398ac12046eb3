import AiGateway.Config.Limits

/-!
# The layers of the rate limiter

`middleware/rate_limit/service.rs`: from the configuration that was read, the layer in front of
the whole gateway and the layer of each router are made when the gateway is started (`app.rs`,
`router/meta.rs`, `router/service.rs`). Either may turn out to be no limiter at all.

A request goes through the layers of the gateway and then through those of the service it is
for, until one of them answers it. The layers that answer are a parameter: a limiter that denies
the request, and a cache that has an answer.

* `global_enabledWith_iff`: when the layer of the gateway limits as it should;
* `perRouter_enabledWith`: the layer of a router always does;
* `enforced_iff`: the configurations and requests for which every limit is enforced.
-/

namespace AiGateway.Limits

open Serde Except

/-! ### Layers -/

/-- `RedisRateLimitLayer`, without its pool. -/
structure RedisRateLimitLayer where
  config : LimitsConfig
  url : String
  routerId : Option RouterId

inductive InnerLayer
  | none
  | inMemory (config : RateLimiterConfig)
  | redis (layer : RedisRateLimitLayer)

inductive InitError
  | invalidRateLimitConfig (message : String)
  | other
  deriving DecidableEq

/-- What starting the gateway depends on. -/
structure Env where
  /-- The pool of the gateway's layer, or of a router's, can be built. -/
  poolBuilds : Option RouterId → String → Bool
  /-- Everything else that is made. -/
  startOthers : Config → Except InitError Unit

section Layers

variable (env : Env)

/-- `RedisRateLimitLayer::new`. -/
def RedisRateLimitLayer.new (config : LimitsConfig) (url : String) (routerId : Option RouterId) :
    Except InitError RedisRateLimitLayer :=
  if env.poolBuilds routerId url then .ok ⟨config, url, routerId⟩ else .error .other

def newRedisInner (rl : Option LimitsConfig) (url : String) : InnerLayer :=
  match rl with
  | some rl =>
    match RedisRateLimitLayer.new env rl url .none with
    | .ok layer => .redis layer
    | .error _ => .none
  | none => .none

def newInMemoryInner : Option RateLimiterConfig → InnerLayer
  | some rl => .inMemory rl
  | none => .none

/-- `global_rate_limit` of the state of the application. -/
def globalRateLimit (config : Config) : Option RateLimiterConfig :=
  config.global.bind fun rl => limiterConfig rl.limits

/-- `Layer::global`. -/
def globalLayer (config : Config) : InnerLayer :=
  match config.global with
  | some rateLimitConfig =>
    match config.rateLimitStore with
    | .redis redisConfig => newRedisInner env rateLimitConfig.limits redisConfig.hostUrl
    | .inMemory => newInMemoryInner (globalRateLimit config)
  | none => .none

/-- The limiter of a router that keeps its own state. It is built as the global one is, but the
builder's refusal is an error. -/
def inMemoryLayer (limits : LimitsConfig) : Except InitError InnerLayer := do
  let rl ← (limiterConfig (some limits)).okOr
    (.invalidRateLimitConfig "Invalid rate limit config")
  return .inMemory rl

/-- `Layer::per_router`. -/
def perRouter (rateLimitStore : RateLimitStore) (routerId : RouterId) :
    RouterRateLimitConfig → Except InitError InnerLayer
  | .none => .ok .none
  | .custom store limits =>
    match store.getD rateLimitStore with
    | .redis redisConfig =>
      match RedisRateLimitLayer.new env limits redisConfig.hostUrl routerId with
      | .ok layer => .ok (.redis layer)
      -- without a pool the router falls back to its own state
      | .error _ => inMemoryLayer limits
    | .inMemory => inMemoryLayer limits

/-- The loop over the routers. -/
def newRouters (rateLimitStore : RateLimitStore) :
    List (RouterId × RouterRateLimitConfig) → Except InitError (List (RouterId × InnerLayer))
  | [] => .ok []
  | (id, config) :: configs => do
    let layer ← perRouter env rateLimitStore id config
    let layers ← newRouters rateLimitStore configs
    return (id, layer) :: layers

/-- `App`, as far as it is about rate limits. -/
structure App where
  global : InnerLayer
  routers : List (RouterId × InnerLayer)

/-- `App::new`. -/
def App.new (config : Config) : Except InitError App := do
  env.startOthers config
  let routers ← newRouters env config.rateLimitStore config.routers
  return ⟨globalLayer env config, routers⟩

end Layers

/-! ### Requests -/

/-- What a request is for. -/
inductive Route
  /-- An endpoint of a router, behind its balancer. -/
  | endpoint (id : RouterId)
  /-- The direct proxy of a router. -/
  | direct (id : RouterId)
  | unifiedApi
  | directProxy
  deriving DecidableEq

/-- What a layer belongs to. -/
inductive Scope
  | global
  | router (id : RouterId)
  | unifiedApi
  | directProxy
  deriving DecidableEq

/-- The scope of a router, from the key of its entry. -/
def routerScope (id : String) : Scope := .router (.deserialize id.toList)

/-- The layers that may answer a request. -/
inductive Middleware
  | limiter (scope : Scope)
  | cache (scope : Scope)
  deriving DecidableEq

def Middleware.scope : Middleware → Scope
  | limiter scope => scope
  | cache scope => scope

structure Request where
  route : Route
  /-- The layers that would answer it. -/
  answers : Middleware → Bool

/-- The layers that are entered, up to the one that answers. -/
def entered (answers : Middleware → Bool) : List Middleware → List Middleware
  | [] => []
  | layer :: layers => if answers layer then [layer] else layer :: entered answers layers

namespace App

/-- The layers of a service, from the outside in. The cache of a router is in front of the
limiter, but for the direct proxy. -/
def service (app : App) : Route → List Middleware
  | .endpoint id =>
    match app.routers.lookup id with
    | some _ => [.cache (.router id), .limiter (.router id)]
    | none => []
  | .direct id =>
    match app.routers.lookup id with
    | some _ => [.limiter (.router id), .cache (.router id)]
    | none => []
  | .unifiedApi => [.limiter .unifiedApi, .cache .unifiedApi]
  | .directProxy => [.limiter .directProxy, .cache .directProxy]

/-- All the layers on the way of a request. -/
def layers (app : App) (route : Route) : List Middleware :=
  .limiter .global :: .cache .global :: app.service route

/-- What is behind a limiter. -/
def inner (app : App) : Scope → InnerLayer
  | .global => app.global
  | .router id => (app.routers.lookup id).getD .none
  -- statically disabled
  | .unifiedApi => .none
  | .directProxy => .none

/-- The layers a request goes through. -/
def through (app : App) (r : Request) : List Middleware := entered r.answers (app.layers r.route)

end App

/-- The layer limits as it was configured: by the same capacity, which is refilled in the same
time. -/
def InnerLayer.EnabledWith (gcra : GcraConfig) : InnerLayer → Prop
  | none => False
  | inMemory config => config = ⟨gcra.perCellDuration, gcra.capacity⟩
  | redis layer => layer.config = ⟨gcra⟩

/-- The request enters a limiter of the scope that was built from the given quota. -/
def Limited (app : App) (r : Request) (scope : Scope) (gcra : GcraConfig) : Prop :=
  .limiter scope ∈ app.through r ∧ (app.inner scope).EnabledWith gcra

/-- **The limits are enforced** on a request: in each scope it goes through that has an entry for
a limit, this can be read, and the request is limited by it. -/
structure Enforced (readers : Readers) (inputConfig : Json) (app : App) (r : Request) : Prop where
  global : ∀ entry, globalEntry inputConfig = some entry → entry ≠ .null →
    ∃ gcra, readGcraConfig readers (stripped entry) = some gcra ∧ Limited app r .global gcra
  router : ∀ id entry, routerEntry inputConfig id = some entry → entry ≠ .null →
    (∃ layer ∈ app.through r, layer.scope = routerScope id) →
    ∃ gcra, ((stripped entry).field "per-api-key").bind (readGcraConfig readers) = some gcra ∧
      Limited app r (routerScope id) gcra

/-- The store can hold a global limit: there is a nanosecond for each request of the quota, or
the pool can be built. -/
def CanHold (env : Env) (gcra : GcraConfig) : RateLimitStore → Prop
  | .inMemory => gcra.capacity ≤ gcra.refillFrequency.nanos
  | .redis config => env.poolBuilds none config.hostUrl = true

/-! ### The layers that are made -/

variable {env : Env} {gcra : GcraConfig} {layer : InnerLayer}

/-- When the in-memory limiter can be built, and what it is then. -/
theorem limiterConfig_eq (gcra : GcraConfig) :
    limiterConfig (some ⟨gcra⟩) =
      if gcra.capacity ≤ gcra.refillFrequency.nanos then
        some ⟨gcra.perCellDuration, gcra.capacity⟩
      else none := by
  -- the capacity is not zero, so that the builder only minds the period
  have hrefused : gcra.perCellDuration.nanos = 0 ∨ gcra.capacity = 0 ↔
      ¬ gcra.capacity ≤ gcra.refillFrequency.nanos := by
    rw [or_iff_left gcra.capacity_pos.ne', gcra.perCellDuration_nanos,
      Nat.div_eq_zero_iff_lt gcra.capacity_pos, not_le]
  unfold limiterConfig
  dsimp only
  by_cases h : gcra.capacity ≤ gcra.refillFrequency.nanos
  · rw [if_pos h, if_neg fun hzero => hrefused.mp hzero h]
  · rw [if_neg h, if_pos (hrefused.mpr h)]

theorem limiterConfig_eq_some_iff {rl : RateLimiterConfig} :
    limiterConfig (some ⟨gcra⟩) = some rl ↔
      gcra.capacity ≤ gcra.refillFrequency.nanos ∧ ⟨gcra.perCellDuration, gcra.capacity⟩ = rl := by
  rw [limiterConfig_eq, Option.ite_none_right_eq_some, Option.some_inj]

theorem inMemoryLayer_enabledWith (h : inMemoryLayer ⟨gcra⟩ = .ok layer) :
    layer.EnabledWith gcra := by
  obtain ⟨rl, hrl, h⟩ := bind_eq_ok_iff.mp h
  cases h
  exact (limiterConfig_eq_some_iff.mp (Option.okOr_eq_ok_iff.mp hrl)).2.symm

theorem redisLayer_config {config : LimitsConfig} {url : String} {routerId : Option RouterId}
    {redis : RedisRateLimitLayer}
    (h : RedisRateLimitLayer.new env config url routerId = .ok redis) :
    redis.config = config := by
  unfold RedisRateLimitLayer.new at h
  split at h
  · cases h
    rfl
  · cases h

/-- **The layer of a router limits** as it was configured, in whichever store. -/
theorem perRouter_enabledWith {rateLimitStore : RateLimitStore} {id : RouterId}
    {store : Option RateLimitStore}
    (h : perRouter env rateLimitStore id (.custom store ⟨gcra⟩) = .ok layer) :
    layer.EnabledWith gcra := by
  unfold perRouter at h
  dsimp only at h
  split at h
  · split at h
    · next redis hredis =>
      cases h
      exact redisLayer_config hredis
    · exact inMemoryLayer_enabledWith h
  · exact inMemoryLayer_enabledWith h

/-- **When the layer of the gateway limits** as it was configured. -/
theorem global_enabledWith_iff {config : Config} {global : GlobalRateLimitConfig}
    (hglobal : config.global = some global) (hlimits : global.limits = some ⟨gcra⟩) :
    (globalLayer env config).EnabledWith gcra ↔ CanHold env gcra config.rateLimitStore := by
  unfold globalLayer globalRateLimit newRedisInner RedisRateLimitLayer.new
  rw [hglobal]
  dsimp only
  cases config.rateLimitStore with
  | redis redisConfig =>
    -- with Redis, the layer is there if a pool can be made
    rw [hlimits]
    unfold CanHold
    dsimp only
    split
    · next layer hlayer =>
      split at hlayer
      · next hpool =>
        cases hlayer
        exact iff_of_true rfl hpool
      · cases hlayer
    · next e hlayer =>
      split at hlayer
      · cases hlayer
      · next hpool => exact iff_of_false id hpool
  | inMemory =>
    -- in memory, it is there if the governor can be configured
    rw [Option.bind_some, hlimits]
    cases hlimiter : limiterConfig (some ⟨gcra⟩) with
    | some rl =>
      obtain ⟨hle, hrl⟩ := limiterConfig_eq_some_iff.mp hlimiter
      exact iff_of_true hrl.symm hle
    | none =>
      refine iff_of_false id fun hle => ?_
      rw [limiterConfig_eq_some_iff.mpr ⟨hle, rfl⟩] at hlimiter
      cases hlimiter

theorem lookup_of_newRouters {rateLimitStore : RateLimitStore}
    {configs : List (RouterId × RouterRateLimitConfig)} {layers : List (RouterId × InnerLayer)}
    (h : newRouters env rateLimitStore configs = .ok layers) {id : RouterId}
    {config : RouterRateLimitConfig} (hlookup : configs.lookup id = some config) :
    ∃ layer, perRouter env rateLimitStore id config = .ok layer ∧
      layers.lookup id = some layer := by
  induction configs generalizing layers with
  | nil => cases hlookup
  | cons p configs ih =>
    obtain ⟨first, hfirst, h⟩ := bind_eq_ok_iff.mp h
    obtain ⟨rest, hrest, h⟩ := bind_eq_ok_iff.mp h
    cases h
    by_cases hid : id = p.1
    · subst hid
      rw [List.lookup_cons_self] at hlookup
      cases hlookup
      exact ⟨first, hfirst, List.lookup_cons_self⟩
    · rw [List.lookup_cons, beq_eq_false_iff_ne.mpr hid] at hlookup ⊢
      exact ih hrest hlookup

/-! ### The layers that are entered -/

variable {answers : Middleware → Bool} {app : App} {r : Request} {m : Middleware} {id : RouterId}

theorem mem_entered_cons_iff {first : Middleware} {layers : List Middleware} :
    m ∈ entered answers (first :: layers) ↔
      m = first ∨ answers first = false ∧ m ∈ entered answers layers := by
  show m ∈ (if answers first then [first] else first :: entered answers layers) ↔ _
  by_cases h : answers first = true
  · simp [h]
  · simp [h]

theorem mem_of_mem_entered {layers : List Middleware} (h : m ∈ entered answers layers) :
    m ∈ layers := by
  induction layers with
  | nil => exact h
  | cons first layers ih =>
    rcases mem_entered_cons_iff.mp h with rfl | ⟨-, h⟩
    · exact List.mem_cons_self
    · exact List.mem_cons_of_mem _ (ih h)

/-- The limiter of the gateway comes first. -/
theorem global_mem_through (app : App) (r : Request) : .limiter .global ∈ app.through r :=
  mem_entered_cons_iff.mpr (Or.inl rfl)

/-- Behind the layers of the gateway are those of a service. -/
theorem mem_through_iff (hscope : m.scope ≠ .global) :
    m ∈ app.through r ↔
      r.answers (.limiter .global) = false ∧ r.answers (.cache .global) = false ∧
        m ∈ entered r.answers (app.service r.route) := by
  have hne : ∀ first : Middleware, first.scope = .global → m ≠ first :=
    fun first hfirst h => hscope (h ▸ hfirst)
  unfold App.through App.layers
  rw [mem_entered_cons_iff, or_iff_right (hne _ rfl), mem_entered_cons_iff,
    or_iff_right (hne _ rfl)]

/-- The services that have layers of a router. -/
theorem route_of_mem_service {route : Route} (h : m ∈ app.service route)
    (hscope : m.scope = .router id) : route = .endpoint id ∨ route = .direct id := by
  -- every layer of such a service is in the scope of its router
  have hof : ∀ {id' : RouterId} {layers : List Middleware},
      (∀ layer ∈ layers, layer.scope = .router id') → m ∈ layers → id' = id := by
    intro id' layers hall hmem
    have heq := (hall m hmem).symm.trans hscope
    cases heq
    rfl
  unfold App.service at h
  cases route with
  | endpoint id' =>
    refine Or.inl (congrArg Route.endpoint ?_)
    dsimp only at h
    split at h
    · exact hof (by simp [Middleware.scope]) h
    · cases h
  | direct id' =>
    refine Or.inr (congrArg Route.direct ?_)
    dsimp only at h
    split at h
    · exact hof (by simp [Middleware.scope]) h
    · cases h
  | unifiedApi =>
    -- the layers of the other services are the gateway's
    simp only [List.mem_cons, List.not_mem_nil, or_false] at h
    rcases h with rfl | rfl <;> cases hscope
  | directProxy =>
    simp only [List.mem_cons, List.not_mem_nil, or_false] at h
    rcases h with rfl | rfl <;> cases hscope

/-- **When a request enters the limiter of its router**: nothing but the router's own cache can
answer it before. -/
theorem limiter_mem_through_iff {layer : InnerLayer} (hlookup : app.routers.lookup id = some layer)
    (hthrough : ∃ m ∈ app.through r, m.scope = .router id) :
    .limiter (.router id) ∈ app.through r ↔
      (r.route = .endpoint id → r.answers (.cache (.router id)) = false) := by
  obtain ⟨m, hmem, hscope⟩ := hthrough
  obtain ⟨hlimiter, hcache, hmem⟩ :=
    (mem_through_iff (fun h => by rw [hscope] at h; cases h)).mp hmem
  rw [mem_through_iff (fun h => by cases h), and_iff_right hlimiter, and_iff_right hcache]
  rcases route_of_mem_service (mem_of_mem_entered hmem) hscope with hroute | hroute
  · have hservice : app.service (.endpoint id) = [.cache (.router id), .limiter (.router id)] := by
      unfold App.service
      dsimp only
      rw [hlookup]
    rw [hroute, hservice, mem_entered_cons_iff, mem_entered_cons_iff]
    simp
  · have hservice : app.service (.direct id) = [.limiter (.router id), .cache (.router id)] := by
      unfold App.service
      dsimp only
      rw [hlookup]
    rw [hroute, hservice, mem_entered_cons_iff]
    simp

/-! ### The limits that are enforced -/

/-- The layers of a gateway that was started. -/
theorem exists_of_new {config : Config} (h : App.new env config = .ok app) :
    app.global = globalLayer env config ∧
      newRouters env config.rateLimitStore config.routers = .ok app.routers := by
  obtain ⟨_, -, h⟩ := bind_eq_ok_iff.mp h
  obtain ⟨routers, hrouters, h⟩ := bind_eq_ok_iff.mp h
  cases h
  exact ⟨rfl, hrouters⟩

/-- **When the limits are enforced.** A gateway that has been started enforces every configured
limit on a request exactly when

* the entry of the global limit, if there is one, can be read, and the store can hold it;
* the request, if it is for an endpoint of a router with a limit, is not answered by the cache of
  that router. -/
theorem enforced_iff (readers : Readers) (env : Env) (inputConfig : Json) (config : Config)
    (app : App) (r : Request) (hdistinct : inputConfig.DistinctKeys)
    (hread : tryRead readers inputConfig = some config) (hnew : App.new env config = .ok app) :
    Enforced readers inputConfig app r ↔
      (∀ entry, globalEntry inputConfig = some entry → entry ≠ .null →
        ∃ gcra, readGcraConfig readers (stripped entry) = some gcra ∧
          CanHold env gcra config.rateLimitStore) ∧
      ∀ id entry, routerEntry inputConfig id = some entry → entry ≠ .null →
        (∃ m ∈ app.through r, m.scope = routerScope id) →
        r.route = .endpoint (.deserialize id.toList) →
          r.answers (.cache (routerScope id)) = false := by
  obtain ⟨hglobal, hrouters⟩ := exists_of_new hnew
  have hscopes : ∀ gcra, Limited app r .global gcra ↔
      (globalLayer env config).EnabledWith gcra := fun gcra =>
    (and_iff_right (global_mem_through app r)).trans (by rw [← hglobal]; rfl)
  constructor
  · intro h
    refine ⟨?_, ?_⟩
    · intro entry hentry hnull
      obtain ⟨gcra, hgcra, hlimited⟩ := h.global entry hentry hnull
      obtain ⟨global, hsome, hlimits⟩ := limits_of_tryRead hdistinct hread hentry hnull
      rw [hgcra] at hlimits
      exact ⟨gcra, hgcra, (global_enabledWith_iff hsome hlimits).mp ((hscopes gcra).mp hlimited)⟩
    · intro id entry hentry hnull hthrough
      obtain ⟨_, -, hmem, -⟩ := h.router id entry hentry hnull hthrough
      obtain ⟨store, gcra, hlookup, -⟩ := exists_router_of_tryRead hdistinct hread hentry hnull
      obtain ⟨layer, -, hlookup⟩ := lookup_of_newRouters hrouters hlookup
      exact (limiter_mem_through_iff hlookup hthrough).mp hmem
  · rintro ⟨hheld, hcache⟩
    -- the global limit, and the limits of the routers
    refine ⟨?_, ?_⟩
    · intro entry hentry hnull
      obtain ⟨gcra, hgcra, hholds⟩ := hheld entry hentry hnull
      obtain ⟨global, hsome, hlimits⟩ := limits_of_tryRead hdistinct hread hentry hnull
      rw [hgcra] at hlimits
      exact ⟨gcra, hgcra, (hscopes gcra).mpr ((global_enabledWith_iff hsome hlimits).mpr hholds)⟩
    · intro id entry hentry hnull hthrough
      obtain ⟨store, gcra, hlookup, hgcra⟩ := exists_router_of_tryRead hdistinct hread hentry hnull
      obtain ⟨layer, hlayer, hlookup⟩ := lookup_of_newRouters hrouters hlookup
      refine ⟨gcra, hgcra, ?_, ?_⟩
      · exact (limiter_mem_through_iff hlookup hthrough).mpr
          (hcache id entry hentry hnull hthrough)
      · have hinner : app.inner (routerScope id) = layer := by
          show (app.routers.lookup _).getD .none = layer
          rw [hlookup, Option.getD_some]
        rw [hinner]
        exact perRouter_enabledWith hlayer

/-! ### A misspelt field -/

/-- Readers that know one duration. -/
def oneSecondReaders : Readers where
  parseDuration s := if s = "1s" then some (Duration.fromSecs 1 Duration.one_le_u64Max) else none
  parseUrl := some
  cache _ := some ()
  router _ := some ()
  sections _ := some ()
  defaultLoadBalance := .obj []
  defaultSections := []

/-- Nothing fails. -/
def willingEnv : Env where
  poolBuilds _ _ := true
  startOthers _ := .ok ()

/-- A global limit of three requests, with one more field. -/
def limitedConfig (key : String) : Json :=
  .obj [("global", .obj [("rate-limit", .obj [("per-api-key",
    .obj [("capacity", .num 3 0), (key, .str "1s")])])])]

/-- A request that no layer answers. -/
def defaultRequest : Request where
  route := .endpoint .default
  answers _ := false

/-- Three requests a second are enforced. -/
theorem enforced_iff_seconds :
    ∃ config app,
      tryRead oneSecondReaders (limitedConfig "refill-frequency") = some config ∧
        App.new willingEnv config = .ok app ∧
        Enforced oneSecondReaders (limitedConfig "refill-frequency") app defaultRequest := by
  refine ⟨_, _, rfl, rfl, ?_⟩
  refine (enforced_iff oneSecondReaders willingEnv (limitedConfig "refill-frequency") _ _
    defaultRequest ⟨by simp, ⟨by simp, ⟨by simp, ⟨by simp, trivial, trivial, trivial⟩, trivial⟩,
      trivial⟩, trivial⟩ rfl rfl).mpr ⟨?_, ?_⟩
  · intro entry hentry hnull
    cases hentry
    -- a third of a second for each
    have hperiod : 3 ≤ (Duration.fromSecs 1 Duration.one_le_u64Max).nanos := by decide
    exact ⟨_, rfl, hperiod⟩
  · intro id entry hentry
    cases hentry

/-- **A misspelt field switches the limit off.** The gateway starts, and no request is limited. -/
theorem enforced_fails :
    ¬ ∀ (readers : Readers) (env : Env) (inputConfig : Json) (config : Config) (app : App)
      (r : Request), inputConfig.DistinctKeys → tryRead readers inputConfig = some config →
      App.new env config = .ok app → Enforced readers inputConfig app r := by
  intro h
  have henforced := h oneSecondReaders willingEnv (limitedConfig "refill-frequncy") _ _
    defaultRequest ⟨by simp, ⟨by simp, ⟨by simp, ⟨by simp, trivial, trivial, trivial⟩, trivial⟩,
      trivial⟩, trivial⟩ rfl rfl
  obtain ⟨gcra, hgcra, -⟩ := henforced.global _ rfl (fun h => by cases h)
  cases hgcra

end AiGateway.Limits
