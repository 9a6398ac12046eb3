import AiGateway.Config.Validation
import AiGateway.Framework.Registry
import AiGateway.Framework.ReadyCache
import AiGateway.Monitor.RetryAfter

/-!
# Wiring the balancers of a router

`Router::new`, `ProviderBalancer::new` and the maps of `AppState` that connect a balancer
with its monitors. A balancer hears of providers that come and go through one channel, and
its dispatchers report rate limits through another. The other ends are left in maps under the
id of the router, where the monitors pick them up once every router is built.

A channel is known by its number. Keys, clients and the layers around a balancer may each
refuse a router, and do nothing else here.

* `build_spec`, `buildAll_spec`: what building one balancer, and those of a router, leaves in
  the maps;
* `wired_iff_lookup`: the balancers that are still connected;
* `wired_iff`: the routers all of whose balancers are.
-/

namespace AiGateway.Wiring

open Except Tower Registry

/-! ### Channels -/

/-- `mpsc::Sender`. -/
structure Sender (Item : Type) where
  channel : ℕ
  deriving DecidableEq

/-- `mpsc::Receiver`. -/
structure Receiver (Item : Type) where
  channel : ℕ
  deriving DecidableEq

/-! ### The monitors -/

/-- `ProviderMonitorInner` of `monitor/health/provider.rs`. -/
structure HealthMonitorInner (K : Type) where
  tx : Sender (Change K)
  routerId : RouterId
  routerConfig : RouterConfig
  unhealthyKeys : List K

inductive ProviderHealthMonitor
  | weighted (inner : HealthMonitorInner WeightedKey)
  | p2c (inner : HealthMonitorInner Key)

/-- `ProviderMonitorInner` of `monitor/rate_limit/provider.rs`. -/
structure RateLimitMonitorInner (K : Type) where
  tx : Sender (Change K)
  routerId : RouterId
  routerConfig : RouterConfig

inductive ProviderRateLimitMonitor
  | weighted (inner : RateLimitMonitorInner WeightedKey)
  | p2c (inner : RateLimitMonitorInner Key)

/-- The channel a monitor sends its changes to. -/
def ProviderHealthMonitor.changes : ProviderHealthMonitor → ℕ
  | weighted inner => inner.tx.channel
  | p2c inner => inner.tx.channel

/-- The channel a monitor sends its changes to. -/
def ProviderRateLimitMonitor.changes : ProviderRateLimitMonitor → ℕ
  | weighted inner => inner.tx.channel
  | p2c inner => inner.tx.channel

/-! ### The balancers -/

/-- `Dispatcher`, as far as it reports rate limits. -/
structure Dispatcher where
  provider : InferenceProvider
  rateLimitTx : Sender RateLimitEvent

/-- `ConfigDiscovery`: the services a balancer starts with, and where it hears of others. -/
structure ConfigDiscovery (K : Type) where
  initial : AList fun _ : K => Dispatcher
  events : Receiver (Change K)

inductive ProviderBalancer
  | peakEwma (discovery : ConfigDiscovery Key)
  | weighted (discovery : ConfigDiscovery WeightedKey)

/-- The channel a balancer hears changes from. -/
def ProviderBalancer.changes : ProviderBalancer → ℕ
  | peakEwma discovery => discovery.events.channel
  | weighted discovery => discovery.events.channel

/-- The dispatchers a balancer starts with. -/
def ProviderBalancer.dispatchers : ProviderBalancer → List Dispatcher
  | peakEwma discovery => discovery.initial.entries.map Sigma.snd
  | weighted discovery => discovery.initial.entries.map Sigma.snd

/-! ### The shared maps -/

/-- The maps of `AppState` the monitors are found in, and the number of the next channel. -/
structure AppState where
  healthMonitors : AList fun _ : RouterId => ProviderHealthMonitor
  rateLimitMonitors : AList fun _ : RouterId => ProviderRateLimitMonitor
  rateLimitSenders : AList fun _ : RouterId => Sender RateLimitEvent
  rateLimitReceivers : AList fun _ : RouterId => Receiver RateLimitEvent
  nextChannel : ℕ

/-- `InitError`, as far as the balancers can cause it. -/
inductive InitError
  | defaultRouterNotFound
  | invalidWeightedBalancer (e : InvalidWeightedBalancer)
  | p2cNotSupported
  | rateLimitChannelsNotInitialized (routerId : RouterId)
  /-- The keys, a client or another service of a router. -/
  | other

namespace AppState

/-- The state the gateway starts with. -/
def new : AppState := ⟨∅, ∅, ∅, ∅, 0⟩

/-- `mpsc::channel`. -/
def channel (Item : Type) (state : AppState) : Sender Item × Receiver Item × AppState :=
  (⟨state.nextChannel⟩, ⟨state.nextChannel⟩, { state with nextChannel := state.nextChannel + 1 })

/-- `add_weighted_router_health_monitor` and `add_p2c_router_health_monitor`. -/
def addRouterHealthMonitor (state : AppState) (routerId : RouterId)
    (monitor : ProviderHealthMonitor) : AppState :=
  { state with healthMonitors := state.healthMonitors.insert routerId monitor }

/-- `add_weighted_router_rate_limit_monitor` and `add_p2c_router_rate_limit_monitor`. -/
def addRouterRateLimitMonitor (state : AppState) (routerId : RouterId)
    (monitor : ProviderRateLimitMonitor) : AppState :=
  { state with rateLimitMonitors := state.rateLimitMonitors.insert routerId monitor }

/-- `add_rate_limit_tx`. -/
def addRateLimitTx (state : AppState) (routerId : RouterId) (tx : Sender RateLimitEvent) :
    AppState :=
  { state with rateLimitSenders := state.rateLimitSenders.insert routerId tx }

/-- `add_rate_limit_rx`. -/
def addRateLimitRx (state : AppState) (routerId : RouterId) (rx : Receiver RateLimitEvent) :
    AppState :=
  { state with rateLimitReceivers := state.rateLimitReceivers.insert routerId rx }

/-- `get_rate_limit_tx`. -/
def getRateLimitTx (state : AppState) (routerId : RouterId) :
    Except InitError (Sender RateLimitEvent) :=
  match state.rateLimitSenders.lookup routerId with
  | some tx => .ok tx
  | none => .error (.rateLimitChannelsNotInitialized routerId)

end AppState

/-! ### Building a router -/

/-- **What else a router is built from.** Each of these may refuse it. -/
structure Surroundings where
  /-- `add_provider_keys_for_router`. -/
  providerKeys : RouterId → RouterConfig → Except InitError Unit
  /-- `rate_limit::Layer::per_router` and `CacheLayer::for_router`. -/
  layers : RouterId → RouterConfig → Except InitError Unit
  /-- `Client::new_for_router`. -/
  client : RouterId → InferenceProvider → Except InitError Unit
  /-- `Dispatcher::new_direct_proxy`. -/
  directProxy : Except InitError Unit
  /-- The unified API and the direct proxies of the gateway. -/
  otherServices : Except InitError Unit

section Building

variable (rnd : ℚ → ℚ) (env : Surroundings)

/-- `Dispatcher::new`. -/
def Dispatcher.new (state : AppState) (routerId : RouterId) (provider : InferenceProvider) :
    Except InitError Dispatcher := do
  env.client routerId provider
  let rateLimitTx ← state.getRateLimitTx routerId
  return ⟨provider, rateLimitTx⟩

/-- What tells one strategy from the other. -/
structure Strategy (K : Type) where
  /-- The keys of one endpoint type. -/
  keys : EndpointType × BalanceConfigInner → Except InitError (List K)
  provider : K → InferenceProvider
  healthMonitor : HealthMonitorInner K → ProviderHealthMonitor
  rateLimitMonitor : RateLimitMonitorInner K → ProviderRateLimitMonitor
  balancer : ConfigDiscovery K → ProviderBalancer

/-- `weighted`. Its discovery refuses another strategy. -/
def weightedStrategy : Strategy WeightedKey where
  keys entry :=
    match WeightedKey.ofEntry rnd entry with
    | some keys => .ok keys
    | none => .error .p2cNotSupported
  provider := WeightedKey.provider
  healthMonitor := .weighted
  rateLimitMonitor := .weighted
  balancer := .weighted

/-- `peak_ewma`. -/
def peakEwmaStrategy : Strategy Key where
  keys entry := .ok (entry.2.providers.map fun provider => ⟨provider, entry.1⟩)
  provider := Key.provider
  healthMonitor := .p2c
  rateLimitMonitor := .p2c
  balancer := .peakEwma

section Discovery

variable {K : Type} [DecidableEq K] (strategy : Strategy K) (state : AppState)
  (routerId : RouterId)

/-- The inner loop of `ConfigDiscovery::new` and `new_weighted`. -/
def insertServices (services : AList fun _ : K => Dispatcher) :
    List K → Except InitError (AList fun _ : K => Dispatcher)
  | [] => .ok services
  | key :: keys => do
    let dispatcher ← Dispatcher.new env state routerId (strategy.provider key)
    insertServices (services.insert key dispatcher) keys

/-- The outer loop, over the endpoint types. -/
def serviceMap (services : AList fun _ : K => Dispatcher) :
    List (EndpointType × BalanceConfigInner) → Except InitError (AList fun _ : K => Dispatcher)
  | [] => .ok services
  | entry :: entries => do
    let keys ← strategy.keys entry
    let services ← insertServices env strategy state routerId services keys
    serviceMap services entries

/-- `ConfigDiscovery::new` and `new_weighted`. -/
def ConfigDiscovery.new (config : RouterConfig) (rx : Receiver (Change K)) :
    Except InitError (ConfigDiscovery K) := do
  let services ← serviceMap env strategy state routerId ∅ config.loadBalance.entries
  return ⟨services, rx⟩

end Discovery

/-- The body that `weighted` and `peak_ewma` share. The discovery is called last, so that its
dispatchers find the sender that was put in before. -/
def ProviderBalancer.build {K : Type} [DecidableEq K] (strategy : Strategy K) (state : AppState)
    (routerId : RouterId) (config : RouterConfig) :
    Except InitError (ProviderBalancer × AppState) := do
  let (changeTx, changeRx, state) := state.channel (Change K)
  let (rateLimitTx, rateLimitRx, state) := state.channel RateLimitEvent
  let state := state.addRouterHealthMonitor routerId
    (strategy.healthMonitor ⟨changeTx, routerId, config, []⟩)
  let state := state.addRateLimitTx routerId rateLimitTx
  let state := state.addRateLimitRx routerId rateLimitRx
  let state := state.addRouterRateLimitMonitor routerId
    (strategy.rateLimitMonitor ⟨changeTx, routerId, config⟩)
  let discovery ← ConfigDiscovery.new env strategy state routerId config changeRx
  return (strategy.balancer discovery, state)

/-- `ProviderBalancer::new`. -/
def ProviderBalancer.new (state : AppState) (routerId : RouterId) (config : RouterConfig)
    (balanceConfig : BalanceConfigInner) : Except InitError (ProviderBalancer × AppState) :=
  match balanceConfig with
  | .weighted _ => ProviderBalancer.build env (weightedStrategy rnd) state routerId config
  | .latency _ => ProviderBalancer.build env peakEwmaStrategy state routerId config

/-- The loop of `Router::new`. -/
def buildAll (routerId : RouterId) (config : RouterConfig) :
    AppState → List (EndpointType × BalanceConfigInner) →
    Except InitError (List (EndpointType × ProviderBalancer) × AppState)
  | state, [] => .ok ([], state)
  | state, (endpointType, balanceConfig) :: entries => do
    let (balancer, state) ← ProviderBalancer.new rnd env state routerId config balanceConfig
    let (inner, state) ← buildAll routerId config state entries
    return ((endpointType, balancer) :: inner, state)

/-- `Router`. -/
structure Router where
  inner : List (EndpointType × ProviderBalancer)

/-- `Router::new`, on the configuration found under its id. -/
def Router.new (state : AppState) (routerId : RouterId) (config : RouterConfig) :
    Except InitError (Router × AppState) := do
  config.validate.mapError .invalidWeightedBalancer
  env.providerKeys routerId config
  env.layers routerId config
  let (inner, state) ← buildAll rnd env routerId config state config.loadBalance.entries
  env.directProxy
  return (⟨inner⟩, state)

/-- The loop of `MetaRouter::from_config`. -/
def newRouters : AppState → List (RouterId × MappedRouterConfig) →
    Except InitError (List (RouterId × Router) × AppState)
  | state, [] => .ok ([], state)
  | state, (routerId, config) :: entries => do
    let (router, state) ← Router.new rnd env state routerId config.toRouterConfig
    let (inner, state) ← newRouters state entries
    return ((routerId, router) :: inner, state)

/-- `MetaRouter::from_config`, from the state the gateway starts with. -/
def MetaRouter.fromConfig (configs : RouterConfigs) :
    Except InitError (List (RouterId × Router) × AppState) := do
  let (inner, state) ← newRouters rnd env AppState.new configs.entries
  env.otherServices
  return (inner, state)

end Building

/-! ### Starting the monitors -/

/-- The loop over `monitors.drain()`: each monitor is started on the receiver under its id. -/
def startMonitors (receivers : AList fun _ : RouterId => Receiver RateLimitEvent) :
    List (Sigma fun _ : RouterId => ProviderRateLimitMonitor) →
    Except InitError (List (ProviderRateLimitMonitor × Receiver RateLimitEvent) ×
      AList fun _ : RouterId => Receiver RateLimitEvent)
  | [] => .ok ([], receivers)
  | ⟨routerId, monitor⟩ :: monitors =>
    match receivers.lookup routerId with
    | none => .error (.rateLimitChannelsNotInitialized routerId)
    | some rx => do
      let (tasks, receivers) ← startMonitors (receivers.erase routerId) monitors
      return ((monitor, rx) :: tasks, receivers)

/-- A tick of `RateLimitMonitor::run_forever`. -/
def AppState.startRateLimitMonitors (state : AppState) :
    Except InitError (List (ProviderRateLimitMonitor × Receiver RateLimitEvent) × AppState) := do
  let (tasks, receivers) ← startMonitors state.rateLimitReceivers state.rateLimitMonitors.entries
  return (tasks, { state with rateLimitMonitors := ∅, rateLimitReceivers := receivers })

/-! ### Dispatchers -/

section Building

variable (rnd : ℚ → ℚ) (env : Surroundings)

/-- A dispatcher has the sender that is in the map when it is made. -/
theorem rateLimitTx_of_new {state : AppState} {routerId : RouterId} {provider : InferenceProvider}
    {dispatcher : Dispatcher} {tx : Sender RateLimitEvent}
    (htx : state.rateLimitSenders.lookup routerId = some tx)
    (h : Dispatcher.new env state routerId provider = .ok dispatcher) :
    dispatcher.rateLimitTx = tx := by
  obtain ⟨u, -, h⟩ := bind_eq_ok_iff.mp h
  obtain ⟨tx', htx', h⟩ := bind_eq_ok_iff.mp h
  unfold AppState.getRateLimitTx at htx'
  rw [htx] at htx'
  cases htx'
  cases h
  rfl

section Discovery

variable {K : Type} [DecidableEq K] (strategy : Strategy K) {state : AppState}
  {routerId : RouterId} {tx : Sender RateLimitEvent}

/-- Every dispatcher of a service map reports to one sender. -/
def AllReport (tx : Sender RateLimitEvent) (services : AList fun _ : K => Dispatcher) : Prop :=
  ∀ key dispatcher, services.lookup key = some dispatcher → dispatcher.rateLimitTx = tx

theorem allReport_empty : AllReport tx (∅ : AList fun _ : K => Dispatcher) := by
  intro key dispatcher h
  rw [AList.lookup_empty] at h
  cases h

theorem AllReport.insert {services : AList fun _ : K => Dispatcher} (h : AllReport tx services)
    (key : K) {dispatcher : Dispatcher} (hdispatcher : dispatcher.rateLimitTx = tx) :
    AllReport tx (services.insert key dispatcher) := by
  intro key' dispatcher' h'
  by_cases hkey : key' = key
  · subst hkey
    rw [AList.lookup_insert] at h'
    cases h'
    exact hdispatcher
  · rw [AList.lookup_insert_ne hkey] at h'
    exact h key' dispatcher' h'

theorem AllReport.insertServices {services services' : AList fun _ : K => Dispatcher}
    (hall : AllReport tx services) (htx : state.rateLimitSenders.lookup routerId = some tx)
    {keys : List K}
    (h : insertServices env strategy state routerId services keys = .ok services') :
    AllReport tx services' := by
  induction keys generalizing services with
  | nil =>
    cases h
    exact hall
  | cons key keys ih =>
    obtain ⟨dispatcher, hdispatcher, h⟩ := bind_eq_ok_iff.mp h
    exact ih (hall.insert key (rateLimitTx_of_new env htx hdispatcher)) h

theorem AllReport.serviceMap {services services' : AList fun _ : K => Dispatcher}
    (hall : AllReport tx services) (htx : state.rateLimitSenders.lookup routerId = some tx)
    {entries : List (EndpointType × BalanceConfigInner)}
    (h : serviceMap env strategy state routerId services entries = .ok services') :
    AllReport tx services' := by
  induction entries generalizing services with
  | nil =>
    cases h
    exact hall
  | cons entry entries ih =>
    obtain ⟨keys, -, h⟩ := bind_eq_ok_iff.mp h
    obtain ⟨services₁, hservices, h⟩ := bind_eq_ok_iff.mp h
    exact ih (hall.insertServices env strategy htx hservices) h

end Discovery

/-! ### One balancer -/

/-- **The maps after some balancers were built.** The newest comes first. Each map follows
what was built, and no two balancers share a channel. -/
structure Built (state : AppState) (log : List (RouterId × ProviderBalancer)) : Prop where
  health : Logs (fun monitor balancer => monitor.changes = balancer.changes)
    state.healthMonitors log
  rateLimit : Logs (fun monitor balancer => monitor.changes = balancer.changes)
    state.rateLimitMonitors log
  receivers : Logs
    (fun rx balancer => ∀ d ∈ balancer.dispatchers, d.rateLimitTx.channel = rx.channel)
    state.rateLimitReceivers log
  fresh : ∀ p ∈ log, p.2.changes < state.nextChannel
  nodup : (log.map fun p => p.2.changes).Nodup

/-- A strategy whose monitors and balancers are on the channels they are given. -/
structure Strategy.Lawful {K : Type} (strategy : Strategy K) : Prop where
  health : ∀ inner, (strategy.healthMonitor inner).changes = inner.tx.channel
  rateLimit : ∀ inner, (strategy.rateLimitMonitor inner).changes = inner.tx.channel
  changes : ∀ discovery, (strategy.balancer discovery).changes = discovery.events.channel
  dispatchers : ∀ discovery,
    (strategy.balancer discovery).dispatchers = discovery.initial.entries.map Sigma.snd

theorem weightedStrategy_lawful : (weightedStrategy rnd).Lawful :=
  ⟨fun _ => rfl, fun _ => rfl, fun _ => rfl, fun _ => rfl⟩

theorem peakEwmaStrategy_lawful : peakEwmaStrategy.Lawful :=
  ⟨fun _ => rfl, fun _ => rfl, fun _ => rfl, fun _ => rfl⟩

/-- **Building a balancer.** It is one more entry in every map. -/
theorem build_spec {K : Type} [DecidableEq K] {strategy : Strategy K} (hlawful : strategy.Lawful)
    {state state' : AppState} {log : List (RouterId × ProviderBalancer)} (hbuilt : Built state log)
    {routerId : RouterId} {config : RouterConfig} {balancer : ProviderBalancer}
    (h : ProviderBalancer.build env strategy state routerId config = .ok (balancer, state')) :
    Built state' ((routerId, balancer) :: log) := by
  obtain ⟨discovery, hdiscovery, h⟩ := bind_eq_ok_iff.mp h
  obtain ⟨services, hservices, hdiscovery⟩ := bind_eq_ok_iff.mp hdiscovery
  cases hdiscovery
  cases h
  -- the changes go through the first of the two new channels, the rate limits through the second
  have hchanges : (strategy.balancer ⟨services, ⟨state.nextChannel⟩⟩).changes = state.nextChannel :=
    hlawful.changes _
  have hreport : AllReport ⟨state.nextChannel + 1⟩ services :=
    allReport_empty.serviceMap env strategy (AList.lookup_insert _) hservices
  have hdispatchers : ∀ d ∈ (strategy.balancer ⟨services, ⟨state.nextChannel⟩⟩).dispatchers,
      d.rateLimitTx.channel = state.nextChannel + 1 := by
    intro d hd
    rw [hlawful.dispatchers] at hd
    obtain ⟨⟨key, d'⟩, hmem, rfl⟩ := List.mem_map.mp hd
    rw [hreport key d' (AList.mem_lookup_iff.mpr hmem)]
  refine ⟨hbuilt.health.insert routerId ?_, hbuilt.rateLimit.insert routerId ?_,
    hbuilt.receivers.insert routerId hdispatchers, ?_, ?_⟩
  · exact (hlawful.health _).trans hchanges.symm
  · exact (hlawful.rateLimit _).trans hchanges.symm
  · intro p hp
    show p.2.changes < state.nextChannel + 1 + 1
    rcases List.mem_cons.mp hp with rfl | hp
    · rw [hchanges]
      omega
    · exact (hbuilt.fresh p hp).trans (by omega)
  · rw [List.map_cons, List.nodup_cons]
    refine ⟨fun hmem => ?_, hbuilt.nodup⟩
    obtain ⟨p, hp, hp'⟩ := List.mem_map.mp hmem
    exact absurd (hbuilt.fresh p hp) (by rw [hp', hchanges]; exact lt_irrefl _)

theorem new_spec {state state' : AppState} {log : List (RouterId × ProviderBalancer)}
    (hbuilt : Built state log) {routerId : RouterId} {config : RouterConfig}
    {balanceConfig : BalanceConfigInner} {balancer : ProviderBalancer}
    (h : ProviderBalancer.new rnd env state routerId config balanceConfig =
      .ok (balancer, state')) :
    Built state' ((routerId, balancer) :: log) := by
  cases balanceConfig with
  | weighted providers => exact build_spec env (weightedStrategy_lawful rnd) hbuilt h
  | latency providers => exact build_spec env peakEwmaStrategy_lawful hbuilt h

/-! ### All balancers -/

/-- The balancers of a router, under its id. -/
def underId (routerId : RouterId) (inner : List (EndpointType × ProviderBalancer)) :
    List (RouterId × ProviderBalancer) :=
  inner.map fun entry => (routerId, entry.2)

/-- The balancers of several routers, under their ids. -/
def balancersOf (routers : List (RouterId × Router)) : List (RouterId × ProviderBalancer) :=
  routers.flatMap fun p => underId p.1 p.2.inner

/-- **Building the balancers of a router**, one for each endpoint type. -/
theorem buildAll_spec {routerId : RouterId} {config : RouterConfig}
    {entries : List (EndpointType × BalanceConfigInner)} {state state' : AppState}
    {log : List (RouterId × ProviderBalancer)} (hbuilt : Built state log)
    {inner : List (EndpointType × ProviderBalancer)}
    (h : buildAll rnd env routerId config state entries = .ok (inner, state')) :
    inner.length = entries.length ∧ Built state' ((underId routerId inner).reverse ++ log) := by
  induction entries generalizing state log inner with
  | nil =>
    cases h
    exact ⟨rfl, hbuilt⟩
  | cons entry entries ih =>
    obtain ⟨⟨balancer, state₁⟩, hnew, h⟩ := bind_eq_ok_iff.mp h
    obtain ⟨⟨inner', state₂⟩, hrest, h⟩ := bind_eq_ok_iff.mp h
    cases h
    obtain ⟨hlength, hbuilt'⟩ := ih (new_spec rnd env hbuilt hnew) hrest
    refine ⟨by rw [List.length_cons, List.length_cons, hlength], ?_⟩
    unfold underId at hbuilt' ⊢
    rw [List.map_cons, List.reverse_cons, List.append_assoc]
    exact hbuilt'

/-- What stays of a router's configuration once it is built. -/
structure BuiltFrom (entry : RouterId × MappedRouterConfig) (router : RouterId × Router) :
    Prop where
  routerId : router.1 = entry.1
  length : router.2.inner.length = entry.2.loadBalance.entries.length

theorem newRouters_spec {entries : List (RouterId × MappedRouterConfig)} {state state' : AppState}
    {log : List (RouterId × ProviderBalancer)} (hbuilt : Built state log)
    {routers : List (RouterId × Router)}
    (h : newRouters rnd env state entries = .ok (routers, state')) :
    List.Forall₂ BuiltFrom entries routers ∧
      Built state' ((balancersOf routers).reverse ++ log) := by
  induction entries generalizing state log routers with
  | nil =>
    cases h
    exact ⟨.nil, hbuilt⟩
  | cons entry entries ih =>
    obtain ⟨⟨router, state₁⟩, hrouter, h⟩ := bind_eq_ok_iff.mp h
    obtain ⟨⟨routers', state₂⟩, hrest, h⟩ := bind_eq_ok_iff.mp h
    cases h
    -- the balancers of this router come after the checks, and nothing after them is shared
    obtain ⟨u₁, -, hrouter⟩ := bind_eq_ok_iff.mp hrouter
    obtain ⟨u₂, -, hrouter⟩ := bind_eq_ok_iff.mp hrouter
    obtain ⟨u₃, -, hrouter⟩ := bind_eq_ok_iff.mp hrouter
    obtain ⟨⟨inner, state₃⟩, hinner, hrouter⟩ := bind_eq_ok_iff.mp hrouter
    obtain ⟨u₄, -, hrouter⟩ := bind_eq_ok_iff.mp hrouter
    cases hrouter
    obtain ⟨hlength, hbuilt₁⟩ := buildAll_spec rnd env hbuilt hinner
    obtain ⟨hrouters, hbuilt₂⟩ := ih hbuilt₁ hrest
    refine ⟨.cons ⟨rfl, hlength⟩ hrouters, ?_⟩
    unfold balancersOf at hbuilt₂ ⊢
    rw [List.flatMap_cons, List.reverse_append, List.append_assoc]
    exact hbuilt₂

theorem built_new : Built AppState.new [] :=
  ⟨logs_empty, logs_empty, logs_empty, (fun p hp => by cases hp), List.nodup_nil⟩

end Building

/-! ### The monitors that are started -/

/-- Monitors that all have a receiver are all started, each on its own. -/
theorem startMonitors_spec {receivers : AList fun _ : RouterId => Receiver RateLimitEvent}
    {monitors : List (Sigma fun _ : RouterId => ProviderRateLimitMonitor)}
    (hnodup : monitors.NodupKeys)
    (hreceivers : ∀ p ∈ monitors, ∃ rx, receivers.lookup p.1 = some rx) :
    ∃ tasks rest, startMonitors receivers monitors = .ok (tasks, rest) ∧
      ∀ monitor rx, (monitor, rx) ∈ tasks ↔
        ∃ routerId, Sigma.mk routerId monitor ∈ monitors ∧
          receivers.lookup routerId = some rx := by
  induction monitors generalizing receivers with
  | nil => exact ⟨[], receivers, rfl, by simp⟩
  | cons p monitors ih =>
    obtain ⟨routerId, monitor⟩ := p
    obtain ⟨hfresh, hrest⟩ := List.nodupKeys_cons.mp hnodup
    obtain ⟨rx, hrx⟩ := hreceivers _ List.mem_cons_self
    -- the other monitors are under other ids, and their receivers are still there
    have hkept : ∀ p ∈ monitors, (receivers.erase routerId).lookup p.1 = receivers.lookup p.1 := by
      intro p hp
      refine AList.lookup_erase_ne fun heq => hfresh ?_
      show routerId ∈ monitors.keys
      rw [← heq]
      exact List.mem_map_of_mem hp
    obtain ⟨tasks, rest, hstart, htasks⟩ := ih hrest fun p hp => by
      rw [hkept p hp]
      exact hreceivers p (List.mem_cons_of_mem _ hp)
    refine ⟨(monitor, rx) :: tasks, rest, ?_, ?_⟩
    · unfold startMonitors
      rw [hrx]
      dsimp only
      rw [hstart]
      rfl
    · intro monitor' rx'
      rw [List.mem_cons, htasks]
      constructor
      · rintro (heq | ⟨routerId', hmem, hlookup⟩)
        · cases heq
          exact ⟨routerId, List.mem_cons_self, hrx⟩
        · rw [hkept _ hmem] at hlookup
          exact ⟨routerId', List.mem_cons_of_mem _ hmem, hlookup⟩
      · rintro ⟨routerId', hmem, hlookup⟩
        rcases List.mem_cons.mp hmem with heq | hmem
        · cases heq
          rw [hrx] at hlookup
          cases hlookup
          exact Or.inl rfl
        · rw [← hkept _ hmem] at hlookup
          exact Or.inr ⟨routerId', hmem, hlookup⟩

/-- The monitors are started on the receivers of their routers. -/
theorem Built.startRateLimitMonitors {state : AppState} {log : List (RouterId × ProviderBalancer)}
    (hbuilt : Built state log) :
    ∃ tasks state', state.startRateLimitMonitors = .ok (tasks, state') ∧
      ∀ monitor rx, (monitor, rx) ∈ tasks ↔
        ∃ routerId, state.rateLimitMonitors.lookup routerId = some monitor ∧
          state.rateLimitReceivers.lookup routerId = some rx := by
  -- a monitor and a receiver are put in together
  have hreceivers : ∀ p ∈ state.rateLimitMonitors.entries,
      ∃ rx, state.rateLimitReceivers.lookup p.1 = some rx := by
    intro p hp
    obtain ⟨balancer, hlog, -⟩ :=
      hbuilt.rateLimit.exists_log_of_lookup (AList.mem_lookup_iff.mpr hp)
    obtain ⟨rx, hrx, -⟩ := hbuilt.receivers.exists_of_lookup hlog
    exact ⟨rx, hrx⟩
  obtain ⟨tasks, rest, hstart, htasks⟩ :=
    startMonitors_spec state.rateLimitMonitors.nodupKeys hreceivers
  refine ⟨tasks, { state with rateLimitMonitors := ∅, rateLimitReceivers := rest }, ?_,
    fun monitor rx => (htasks monitor rx).trans ?_⟩
  · unfold AppState.startRateLimitMonitors
    rw [hstart]
    rfl
  · exact exists_congr fun routerId => and_congr_left' AList.mem_lookup_iff.symm

/-! ### Connected balancers -/

/-- **A balancer that is connected.** A health monitor sends its changes to the balancer, and
so does a rate limit monitor, which receives the events of every dispatcher of the balancer
once it is started. -/
structure Wired (state : AppState) (balancer : ProviderBalancer) : Prop where
  health : ∃ routerId monitor, state.healthMonitors.lookup routerId = some monitor ∧
    monitor.changes = balancer.changes
  rateLimit : ∃ tasks state', state.startRateLimitMonitors = .ok (tasks, state') ∧
    ∃ task ∈ tasks, task.1.changes = balancer.changes ∧
      ∀ d ∈ balancer.dispatchers, d.rateLimitTx.channel = task.2.channel

section Wired

variable {state : AppState} {log : List (RouterId × ProviderBalancer)}

/-- A balancer is known by its channel. -/
theorem Built.eq_of_changes (hbuilt : Built state log) {p q : RouterId × ProviderBalancer}
    (hp : p ∈ log) (hq : q ∈ log) (h : p.2.changes = q.2.changes) : p = q :=
  List.inj_on_of_nodup_map hbuilt.nodup hp hq h

/-- **The balancers that are connected** are those built last under their ids. -/
theorem wired_iff_lookup (hbuilt : Built state log) {routerId : RouterId}
    {balancer : ProviderBalancer} (hmem : (routerId, balancer) ∈ log) :
    Wired state balancer ↔ log.lookup routerId = some balancer := by
  constructor
  · rintro ⟨⟨routerId', monitor, hmonitor, hchanges⟩, -⟩
    -- the monitor belongs to the last balancer of its id, which is this one by its channel
    obtain ⟨balancer', hlog, hchanges'⟩ := hbuilt.health.exists_log_of_lookup hmonitor
    have heq := hbuilt.eq_of_changes hmem (mem_of_lookup hlog) (hchanges.symm.trans hchanges')
    cases heq
    exact hlog
  · intro hlog
    obtain ⟨monitor, hmonitor, hchanges⟩ := hbuilt.health.exists_of_lookup hlog
    obtain ⟨monitor', hmonitor', hchanges'⟩ := hbuilt.rateLimit.exists_of_lookup hlog
    obtain ⟨rx, hrx, hdispatchers⟩ := hbuilt.receivers.exists_of_lookup hlog
    obtain ⟨tasks, state', hstart, htasks⟩ := hbuilt.startRateLimitMonitors
    exact ⟨⟨routerId, monitor, hmonitor, hchanges⟩, tasks, state', hstart, (monitor', rx),
      (htasks monitor' rx).mpr ⟨routerId, hmonitor', hrx⟩, hchanges', hdispatchers⟩

/-- **All balancers of an id are connected** exactly when there is at most one. -/
theorem forall_wired_iff (hbuilt : Built state log) (routerId : RouterId) :
    (∀ balancer, (routerId, balancer) ∈ log → Wired state balancer) ↔
      (log.map Prod.fst).count routerId ≤ 1 := by
  have hnodup : (log.map Prod.snd).Nodup := by
    have h := hbuilt.nodup
    rw [show (fun p : RouterId × ProviderBalancer => p.2.changes) =
      ProviderBalancer.changes ∘ Prod.snd from rfl, ← List.map_map] at h
    exact h.of_map
  rw [← forall_lookup_iff hnodup]
  exact forall_congr' fun balancer => forall_congr' fun hmem => wired_iff_lookup hbuilt hmem

end Wired

/-! ### The routers of a configuration -/

/-- The entries of an id among the balancers are the endpoint types of its router. -/
theorem count_balancersOf {routers : List (RouterId × Router)}
    (hnodup : (routers.map Prod.fst).Nodup) {routerId : RouterId} {router : Router}
    (hmem : (routerId, router) ∈ routers) :
    ((balancersOf routers).map Prod.fst).count routerId = router.inner.length := by
  have hkeys : ∀ p : RouterId × Router,
      (underId p.1 p.2.inner).map Prod.fst = List.replicate p.2.inner.length p.1 := by
    intro p
    unfold underId
    rw [List.map_map]
    exact List.map_const'
  -- by induction on the routers, whose ids are all different
  induction routers with
  | nil => cases hmem
  | cons p routers ih =>
    obtain ⟨hfresh, hrest⟩ := List.nodup_cons.mp hnodup
    unfold balancersOf at ih ⊢
    rw [List.flatMap_cons, List.map_append, List.count_append, hkeys, List.count_replicate]
    rcases List.mem_cons.mp hmem with rfl | hmem
    · -- no other router has its id
      have hzero :
          ((routers.flatMap fun p => underId p.1 p.2.inner).map Prod.fst).count routerId = 0 := by
        rw [List.count_eq_zero, List.map_flatMap]
        intro hmem
        obtain ⟨q, hq, hmem⟩ := List.mem_flatMap.mp hmem
        rw [hkeys] at hmem
        have hid : q.1 ∈ routers.map Prod.fst := List.mem_map_of_mem hq
        rw [← List.eq_of_mem_replicate hmem] at hid
        exact hfresh hid
      rw [hzero, if_pos (beq_self_eq_true _), Nat.add_zero]
    · have hne : p.1 ≠ routerId := fun heq => hfresh (heq ▸ List.mem_map_of_mem hmem)
      rw [if_neg (by simpa using hne), Nat.zero_add]
      exact ih hrest hmem

theorem mem_balancersOf {routers : List (RouterId × Router)}
    (hnodup : (routers.map Prod.fst).Nodup) {routerId : RouterId} {router : Router}
    (hrouter : (routerId, router) ∈ routers) (balancer : ProviderBalancer) :
    (routerId, balancer) ∈ balancersOf routers ↔ ∃ entry ∈ router.inner, entry.2 = balancer := by
  unfold balancersOf
  rw [List.mem_flatMap]
  constructor
  · rintro ⟨p, hp, hmem⟩
    obtain ⟨entry, hentry, heq⟩ := List.mem_map.mp hmem
    obtain ⟨hid, hbalancer⟩ := Prod.mk.inj heq
    -- only one router has this id
    have hp' := List.inj_on_of_nodup_map hnodup hp hrouter hid
    rw [hp'] at hentry
    exact ⟨entry, hentry, hbalancer⟩
  · rintro ⟨entry, hentry, rfl⟩
    exact ⟨_, hrouter, List.mem_map_of_mem hentry⟩

theorem map_fst_of_builtFrom {entries : List (RouterId × MappedRouterConfig)}
    {routers : List (RouterId × Router)} (h : List.Forall₂ BuiltFrom entries routers) :
    routers.map Prod.fst = entries.map Prod.fst := by
  induction h with
  | nil => rfl
  | cons hfrom hrest ih => rw [List.map_cons, List.map_cons, hfrom.routerId, ih]

/-- Every router is built from the configuration under its id. -/
theorem exists_config_of_builtFrom {entries : List (RouterId × MappedRouterConfig)}
    {routers : List (RouterId × Router)} (h : List.Forall₂ BuiltFrom entries routers)
    {routerId : RouterId} {router : Router} (hmem : (routerId, router) ∈ routers) :
    ∃ config, (routerId, config) ∈ entries ∧
      router.inner.length = config.loadBalance.entries.length := by
  obtain ⟨⟨id, config⟩, hentry, hfrom⟩ := h.flip.exists_of_mem hmem
  obtain rfl : routerId = id := hfrom.routerId
  exact ⟨config, hentry, hfrom.length⟩

/-- **The routers whose balancers are all connected.** Once the gateway is built, they are
those with at most one endpoint type. -/
theorem wired_iff (rnd : ℚ → ℚ) (env : Surroundings) (configs : RouterConfigs)
    (routers : List (RouterId × Router)) (state : AppState)
    (hbuilt : MetaRouter.fromConfig rnd env configs = .ok (routers, state))
    (routerId : RouterId) (config : MappedRouterConfig)
    (hconfig : (routerId, config) ∈ configs.entries)
    (router : Router) (hrouter : (routerId, router) ∈ routers) :
    (∀ entry ∈ router.inner, Wired state entry.2) ↔ config.loadBalance.entries.length ≤ 1 := by
  obtain ⟨⟨routers', state'⟩, hnew, hbuilt⟩ := bind_eq_ok_iff.mp hbuilt
  obtain ⟨u, -, hbuilt⟩ := bind_eq_ok_iff.mp hbuilt
  cases hbuilt
  obtain ⟨hfrom, hlog⟩ := newRouters_spec rnd env built_new hnew
  rw [List.append_nil] at hlog
  have hnodup : (routers.map Prod.fst).Nodup := by
    rw [map_fst_of_builtFrom hfrom]
    exact configs.nodup
  -- the ids are distinct, so this is the configuration the router was built from
  obtain ⟨config', hconfig', hlength⟩ := exists_config_of_builtFrom hfrom hrouter
  have heq := List.inj_on_of_nodup_map configs.nodup hconfig hconfig' rfl
  cases heq
  have hcount : ((balancersOf routers).reverse.map Prod.fst).count routerId =
      config.loadBalance.entries.length := by
    rw [List.map_reverse, List.count_reverse, count_balancersOf hnodup hrouter, hlength]
  rw [← hcount, ← forall_wired_iff hlog]
  -- the balancers under the id are those of the router
  constructor
  · intro h balancer hmem
    obtain ⟨entry, hentry, rfl⟩ := (mem_balancersOf hnodup hrouter balancer).mp
      (List.mem_reverse.mp hmem)
    exact h entry hentry
  · intro h entry hentry
    exact h entry.2 (List.mem_reverse.mpr
      ((mem_balancersOf hnodup hrouter entry.2).mpr ⟨entry, hentry, rfl⟩))

/-! ### Two endpoint types -/

/-- Nothing refuses a router. -/
def Surroundings.willing : Surroundings where
  providerKeys _ _ := .ok ()
  layers _ _ := .ok ()
  client _ _ := .ok ()
  directProxy := .ok ()
  otherServices := .ok ()

/-- The latency strategy over OpenAI alone. -/
def openAILatency : BalanceConfigInner := .latency ⟨[.openAI], by decide, by decide⟩

/-- A gateway whose default router has these endpoint types. -/
def defaultRouter (entries : List (EndpointType × BalanceConfigInner))
    (h : (entries.map Prod.fst).Nodup) : RouterConfigs where
  entries := [(.default, { loadBalance := ⟨entries, h⟩, modelMappings := none })]
  nodup := List.nodup_singleton _

/-- A router for chats alone is connected. -/
theorem wired_iff_chat : ∃ routers state router,
    MetaRouter.fromConfig id .willing (defaultRouter [(.chat, openAILatency)] (by decide)) =
      .ok (routers, state) ∧
    (RouterId.default, router) ∈ routers ∧ ∀ entry ∈ router.inner, Wired state entry.2 := by
  refine ⟨_, _, _, rfl, List.mem_cons_self, ?_⟩
  exact (wired_iff id .willing (defaultRouter [(.chat, openAILatency)] (by decide)) _ _ rfl
    .default _ List.mem_cons_self _ List.mem_cons_self).mpr (by decide)

/-- **The second balancer takes the place of the first.** A router for chats and images
passes every check, and the balancer for chats has no monitor. -/
theorem wired_fails : ¬ ∀ (rnd : ℚ → ℚ) (env : Surroundings) (configs : RouterConfigs)
    (routers : List (RouterId × Router)) (state : AppState),
    MetaRouter.fromConfig rnd env configs = .ok (routers, state) →
    ∀ p ∈ routers, ∀ entry ∈ p.2.inner, Wired state entry.2 := by
  intro h
  obtain ⟨⟨routerId, monitor, hmonitor, hchanges⟩, -⟩ := h id .willing
    (defaultRouter [(.chat, openAILatency), (.image, openAILatency)] (by decide)) _ _ rfl
    _ List.mem_cons_self _ List.mem_cons_self
  -- the only monitor is on the third channel, and the balancer for chats on the first
  cases routerId with
  | default =>
    cases hmonitor
    exact absurd hchanges (by decide)
  | named name => cases hmonitor

end AiGateway.Wiring
