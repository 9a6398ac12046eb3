import AiGateway.Monitor.System
import AiGateway.Router.Wiring

/-!
# The endpoint types of a router

A router has a balancer for each endpoint type, and sends a request to the balancer of its
type. What services does such a balancer hold? Its discovery reads the configuration of the
whole router, and so does the health monitor, so that both know the services of
every endpoint type.

* `Traffic` puts requests in front of the monitors: a request is sent to a service of the
  balancer, and the responses to it are what the rate limit monitor hears of;
* `Confined.step`: a monitor that is only told of some keys sends changes of those alone;
* `separated_iff`: the balancers of a router hold services of their own endpoint types alone
  exactly when there is at most one.
-/

namespace AiGateway.Wiring

open Transition Tower Except

variable {K : Type} [DecidableEq K]

/-! ### Traffic -/

/-- A strategy with its monitors. -/
structure Watched (K : Type) where
  strategy : Strategy K
  endpointType : K → EndpointType
  kind : MonitorKind K

/-- `peak_ewma`. -/
def watchedPeakEwma : Watched Key where
  strategy := peakEwmaStrategy
  endpointType := Key.endpointType
  kind := latencyMonitor

/-- `weighted`, for a router. -/
def watchedWeighted (rnd : ℚ → ℚ) (config : RouterConfig) : Watched WeightedKey where
  strategy := weightedStrategy rnd
  endpointType := WeightedKey.endpointType
  kind := weightedMonitor rnd config

/-- The key is configured for the endpoint type, with its weight if it has one. -/
def Configured (strategy : Strategy K) (config : RouterConfig) (endpointType : EndpointType)
    (key : K) : Prop :=
  ∃ balanceConfig keys, (endpointType, balanceConfig) ∈ config.loadBalance.entries ∧
    strategy.keys (endpointType, balanceConfig) = .ok keys ∧ key ∈ keys

/-- A balancer with its monitors, and the keys of the services that requests were sent to. -/
structure Traffic (K : Type) where
  monitor : MonitorState K
  sent : List K

inductive TrafficAction (K : Type)
  | request (source : ApiEndpoint) (key : K)
  | monitor (action : MonitorAction K)

/-- What the monitors hear of: the health monitor goes through the configuration of the
router, and the rate limit monitor is told of responses to requests that were sent. -/
def Concerns (watched : Watched K) (config : RouterConfig) (endpointType : EndpointType)
    (s : Traffic K) : MonitorAction K → Prop
  | .healthCheck key _ => ∃ t, Configured watched.strategy config t key
  | .rateLimited response => ∃ source : ApiEndpoint, source.endpointType = endpointType ∧
      ∃ key ∈ s.sent, source.mapped (watched.strategy.provider key) = .ok response.apiEndpoint
  | _ => True

/-- **The steps of a balancer in traffic.** The router sends it requests of one endpoint type. -/
inductive TrafficStep (parseHttpDate : List Char → Option DateTime) (watched : Watched K)
    (config : RouterConfig) (endpointType : EndpointType) :
    Traffic K → TrafficAction K → Traffic K → Prop
  | request (s : Traffic K) (source : ApiEndpoint) (key : K) :
      source.endpointType = endpointType → key ∈ s.monitor.services →
      TrafficStep parseHttpDate watched config endpointType s (.request source key)
        { s with sent := key :: s.sent }
  | act (s : Traffic K) (a : MonitorAction K) (monitor : MonitorState K) :
      Concerns watched config endpointType s a →
      MonitorStep parseHttpDate watched.kind s.monitor a monitor →
      TrafficStep parseHttpDate watched config endpointType s (.monitor a)
        { s with monitor := monitor }

/-- The balancer for an endpoint type, which starts with the services of `keys`. -/
def traffic (parseHttpDate : List Char → Option DateTime) (watched : Watched K)
    (config : RouterConfig) (keys : List K) (endpointType : EndpointType) :
    System (Traffic K) (TrafficAction K) where
  init := ⟨(monitors parseHttpDate watched.kind keys).init, []⟩
  step := TrafficStep parseHttpDate watched config endpointType

/-- The services that are in the balancer, and those that requests were sent to, are all of
the endpoint type and configured for it. -/
def OnlyOwn (watched : Watched K) (config : RouterConfig) (endpointType : EndpointType)
    (s : Traffic K) : Prop :=
  ∀ key, key ∈ s.monitor.services ∨ key ∈ s.sent →
    watched.endpointType key = endpointType ∧ Configured watched.strategy config endpointType key

/-- This is so in every state of every run. -/
def ServesOnly (parseHttpDate : List Char → Option DateTime) (watched : Watched K)
    (config : RouterConfig) (keys : List K) (endpointType : EndpointType) : Prop :=
  ∀ tr, (traffic parseHttpDate watched config keys endpointType).Run
      (traffic parseHttpDate watched config keys endpointType).init tr →
    System.AllStates (OnlyOwn watched config endpointType)
      (traffic parseHttpDate watched config keys endpointType).init tr

/-- A balancer of a router serves the endpoint type it is registered for. -/
def Separated (parseHttpDate : List Char → Option DateTime) (rnd : ℚ → ℚ) (config : RouterConfig)
    (endpointType : EndpointType) : ProviderBalancer → Prop
  | .peakEwma discovery =>
    ServesOnly parseHttpDate watchedPeakEwma config discovery.initial.keys endpointType
  | .weighted discovery =>
    ServesOnly parseHttpDate (watchedWeighted rnd config) config discovery.initial.keys endpointType

/-! ### What the monitors can send -/

/-- The key a health monitor is at. -/
def HealthStage.At (stage : HealthStage K) (key : K) : Prop :=
  stage = .removing key ∨ stage = .inserting key

/-- The key a rate limit monitor is at. -/
def RateStage.At (stage : RateStage K) (key : K) : Prop :=
  (∃ response, stage = .removing key response) ∨
    ∃ restore : ProviderRestore K, stage = .restoring restore ∧ restore.key = key

/-- Everything the monitors and the balancer hold is about the allowed keys. -/
structure Confined (allowed : K → Prop) (s : MonitorState K) : Prop where
  health : ∀ key, HealthStage.At s.health key → allowed key
  rate : ∀ key, RateStage.At s.rate key → allowed key
  pending : ∀ restore ∈ s.pendingRestores, allowed restore.key
  initial : ∀ key ∈ s.initial, allowed key
  events : ∀ change ∈ s.events, allowed change.key
  services : ∀ key ∈ s.services, allowed key

variable {allowed : K → Prop} {s : MonitorState K}

omit [DecidableEq K] in
/-- A stage that is at no key. -/
theorem RateStage.not_at {stage : RateStage K}
    (hremoving : ∀ key response, stage ≠ .removing key response)
    (hrestoring : ∀ restore, stage ≠ .restoring restore) (key : K) : ¬ RateStage.At stage key := by
  rintro (⟨response, h⟩ | ⟨restore, h, -⟩)
  · exact hremoving key response h
  · exact hrestoring restore h

theorem Confined.changeServices {services : Finset K} (h : ∀ key ∈ services, allowed key)
    {change : Change K} (hchange : allowed change.key) :
    ∀ key ∈ changeServices services change, allowed key := by
  intro key hkey
  cases change with
  | insert k =>
    rcases Finset.mem_insert.mp hkey with rfl | hkey
    · exact hchange
    · exact h key hkey
  | remove k => exact h key (Finset.mem_of_mem_erase hkey)

omit [DecidableEq K] in
theorem Confined.send (h : Confined allowed s) {c : Change K} (hc : allowed c.key) :
    ∀ change ∈ (s.send c).events, allowed change.key := by
  intro change hchange
  rcases List.mem_append.mp hchange with hchange | hchange
  · exact h.events change hchange
  · rw [List.mem_singleton.mp hchange]
    exact hc

theorem Confined.checkHealth (h : Confined allowed s) {key : K} (hkey : allowed key)
    (isHealthy : Bool) : Confined allowed (checkHealth s key isHealthy) := by
  unfold AiGateway.checkHealth
  dsimp only
  split
  · refine ⟨?_, h.rate, h.pending, h.initial, h.events, h.services⟩
    rintro k (hk | hk)
    · cases hk
      exact hkey
    · cases hk
  · split
    · refine ⟨?_, h.rate, h.pending, h.initial, h.events, h.services⟩
      rintro k (hk | hk)
      · cases hk
      · cases hk
        exact hkey
    · exact h

theorem Confined.receiveEvent (h : Confined allowed s) {kind : MonitorKind K}
    {response : TooManyRequests}
    (hkey : ∀ key, kind.createKeyForEndpoint response.apiEndpoint = some key → allowed key) :
    Confined allowed (receiveEvent kind s response) := by
  unfold AiGateway.receiveEvent
  split
  · refine ⟨h.health, ?_, h.pending, h.initial, h.events, h.services⟩
    exact fun k hk =>
      absurd hk (RateStage.not_at (fun _ _ h => by cases h) (fun _ h => by cases h) k)
  · next key hcreate =>
    split
    · exact h
    · refine ⟨h.health, ?_, h.pending, h.initial, h.events, h.services⟩
      rintro k (⟨r, hk⟩ | ⟨restore, hk, -⟩)
      · cases hk
        exact hkey key hcreate
      · cases hk

theorem Confined.scheduleRestore (h : Confined allowed s) {key : K} (hkey : allowed key)
    (parseHttpDate : List Char → Option DateTime) (kind : MonitorKind K)
    (response : TooManyRequests) :
    Confined allowed (scheduleRestore parseHttpDate kind (s.send (.remove key)) key response) := by
  have hevents := h.send (c := .remove key) hkey
  have hidle : ∀ k, RateStage.At (.idle : RateStage K) k → allowed k :=
    fun k hk => absurd hk (RateStage.not_at (fun _ _ h => by cases h) (fun _ h => by cases h) k)
  have hpanicked : ∀ k, RateStage.At (.panicked : RateStage K) k → allowed k :=
    fun k hk => absurd hk (RateStage.not_at (fun _ _ h => by cases h) (fun _ h => by cases h) k)
  unfold AiGateway.scheduleRestore
  split
  · refine ⟨h.health, hidle, ?_, h.initial, hevents, h.services⟩
    intro restore hrestore
    rcases List.mem_cons.mp hrestore with rfl | hrestore
    · exact hkey
    · exact h.pending restore hrestore
  · exact ⟨h.health, hpanicked, h.pending, h.initial, hevents, h.services⟩

theorem Confined.deliver (h : Confined allowed s) : Confined allowed (deliver s) := by
  unfold AiGateway.deliver
  split
  · next key initial hinit =>
    have hall := h.initial
    rw [hinit] at hall
    exact ⟨h.health, h.rate, h.pending, fun k hk => hall k (List.mem_cons_of_mem _ hk), h.events,
      Confined.changeServices h.services (hall key List.mem_cons_self)⟩
  · next change events hinit hevents =>
    have hall := h.events
    rw [hevents] at hall
    exact ⟨h.health, h.rate, h.pending, h.initial, fun c hc => hall c (List.mem_cons_of_mem _ hc),
      Confined.changeServices h.services (hall change List.mem_cons_self)⟩
  · exact h

/-- **One step.** Monitors that are only told of the allowed keys keep to them. -/
theorem Confined.step {parseHttpDate : List Char → Option DateTime} {kind : MonitorKind K}
    {s' : MonitorState K} {a : MonitorAction K} (h : Confined allowed s)
    (hstep : MonitorStep parseHttpDate kind s a s')
    (hhealth : ∀ key isHealthy, a = .healthCheck key isHealthy → allowed key)
    (hrate : ∀ response, a = .rateLimited response →
      ∀ key, kind.createKeyForEndpoint response.apiEndpoint = some key → allowed key) :
    Confined allowed s' := by
  -- a stage that has been left is at no key
  have hdone : ∀ stage : HealthStage K, stage = .idle ∨ stage = .failed →
      ∀ k, HealthStage.At stage k → allowed k := by
    rintro stage (rfl | rfl) k (hk | hk) <;> cases hk
  have hover : ∀ stage : RateStage K, stage = .idle ∨ stage = .failed →
      ∀ k, RateStage.At stage k → allowed k := by
    rintro stage (rfl | rfl) k (⟨r, hk⟩ | ⟨r, hk, -⟩) <;> cases hk
  cases hstep with
  | healthCheck key isHealthy hidle => exact h.checkHealth (hhealth key isHealthy rfl) isHealthy
  | healthRemoveSent key hstage hroom =>
    have hkey := h.health key (Or.inl hstage)
    exact ⟨hdone _ (Or.inl rfl), h.rate, h.pending, h.initial, h.send (c := .remove key) hkey,
      h.services⟩
  | healthInsertSent key hstage hroom =>
    have hkey := h.health key (Or.inr hstage)
    exact ⟨hdone _ (Or.inl rfl), h.rate, h.pending, h.initial, h.send (c := .insert key) hkey,
      h.services⟩
  | healthFailed key hstage =>
    exact ⟨hdone _ (Or.inr rfl), h.rate, h.pending, h.initial, h.events, h.services⟩
  | rateLimited response hidle => exact h.receiveEvent (hrate response rfl)
  | rateRemoveSent key response hstage hroom =>
    exact h.scheduleRestore (h.rate key (Or.inl ⟨response, hstage⟩)) parseHttpDate kind response
  | timerFired before after restore hidle hpending =>
    -- the key of the timer was pending
    have hall := h.pending
    rw [hpending] at hall
    refine ⟨h.health, ?_, ?_, h.initial, h.events, h.services⟩
    · rintro k (⟨r, hk⟩ | ⟨r, hk, rfl⟩)
      · cases hk
      · cases hk
        exact hall restore (List.mem_append_right before List.mem_cons_self)
    · intro r hr
      refine hall r (List.perm_middle.mem_iff.mpr (List.mem_cons_of_mem _ hr))
  | restoreSent restore hstage hroom =>
    have hkey := h.rate restore.key (Or.inr ⟨restore, hstage, rfl⟩)
    exact ⟨h.health, hover _ (Or.inl rfl), h.pending, h.initial,
      h.send (c := .insert restore.key) hkey, h.services⟩
  | restoreFailed restore hstage =>
    exact ⟨h.health, hover _ (Or.inr rfl), h.pending, h.initial, h.events, h.services⟩
  | delivered => exact h.deliver

/-! ### The strategies -/

/-- What is used of a strategy: a key is of the endpoint type it is configured for, and the key
made for a response of a configured provider is configured itself. -/
structure Watched.Lawful (watched : Watched K) (config : RouterConfig) : Prop where
  endpointType : ∀ t key, Configured watched.strategy config t key → watched.endpointType key = t
  created : ∀ t key apiEndpoint key', Configured watched.strategy config t key →
    apiEndpoint.provider = watched.strategy.provider key → apiEndpoint.endpointType = t →
    watched.kind.createKeyForEndpoint apiEndpoint = some key' →
    Configured watched.strategy config t key'
  /-- There is a provider for each endpoint type. -/
  exists_key : ∀ entry keys, watched.strategy.keys entry = .ok keys → ∃ key, key ∈ keys

theorem watchedPeakEwma_lawful (config : RouterConfig) : watchedPeakEwma.Lawful config where
  endpointType t key h := by
    obtain ⟨balanceConfig, keys, -, hkeys, hmem⟩ := h
    cases hkeys
    obtain ⟨provider, -, rfl⟩ := List.mem_map.mp hmem
    rfl
  created t key apiEndpoint key' h hprovider htype hcreate := by
    obtain ⟨balanceConfig, keys, hentry, hkeys, hmem⟩ := h
    cases hkeys
    cases hcreate
    obtain ⟨provider, hconfigured, rfl⟩ := List.mem_map.mp hmem
    refine ⟨balanceConfig, _, hentry, rfl, List.mem_map.mpr ⟨provider, hconfigured, ?_⟩⟩
    rw [hprovider, htype]
    rfl
  exists_key entry keys h := by
    cases h
    -- the providers of an entry are a set that is not empty
    have hne : entry.2.providers ≠ [] := by
      cases entry.2 with
      | weighted providers =>
        rw [Ne, BalanceConfigInner.providers, List.dedup_eq_nil, List.map_eq_nil_iff]
        exact providers.ne_nil
      | latency providers => exact providers.ne_nil
    obtain ⟨provider, hmem⟩ := List.exists_mem_of_ne_nil _ hne
    exact ⟨_, List.mem_map_of_mem hmem⟩

/-- The keys of the weighted strategy are the targets with their weights. -/
theorem weightedStrategy_keys {rnd : ℚ → ℚ} {entry : EndpointType × BalanceConfigInner}
    {keys : List WeightedKey} (h : (weightedStrategy rnd).keys entry = .ok keys) :
    ∃ providers, entry.2 = .weighted providers ∧
      keys = providers.elems.map fun target =>
        ⟨target.provider, entry.1, Weight.ofDecimal rnd target.weight⟩ := by
  obtain ⟨t, balanceConfig⟩ := entry
  cases balanceConfig with
  | weighted providers =>
    cases h
    exact ⟨providers, rfl, rfl⟩
  | latency providers => cases h

theorem watchedWeighted_lawful (rnd : ℚ → ℚ) (config : RouterConfig) :
    (watchedWeighted rnd config).Lawful config where
  endpointType t key h := by
    obtain ⟨balanceConfig, keys, -, hkeys, hmem⟩ := h
    obtain ⟨providers, -, rfl⟩ := weightedStrategy_keys hkeys
    obtain ⟨target, -, rfl⟩ := List.mem_map.mp hmem
    rfl
  created t key apiEndpoint key' h hprovider htype hcreate := by
    -- the monitor looks the provider up in the configuration of the endpoint type
    change createWeightedKey rnd config apiEndpoint = some key' at hcreate
    unfold createWeightedKey at hcreate
    rw [htype] at hcreate
    split at hcreate
    · next providers hget =>
      obtain ⟨target, hfind, rfl⟩ := Option.map_eq_some_iff.mp hcreate
      have hentry := Registry.mem_of_lookup hget
      have htarget : target.provider = apiEndpoint.provider := by
        simpa using List.find?_some hfind
      refine ⟨_, _, hentry, rfl, List.mem_map.mpr ⟨target, List.mem_of_find?_eq_some hfind, ?_⟩⟩
      rw [htarget]
    · cases hcreate
  exists_key entry keys h := by
    obtain ⟨providers, -, rfl⟩ := weightedStrategy_keys h
    obtain ⟨target, hmem⟩ := List.exists_mem_of_ne_nil _ providers.ne_nil
    exact ⟨_, List.mem_map_of_mem hmem⟩

/-! ### Runs -/

section Runs

variable {parseHttpDate : List Char → Option DateTime} {watched : Watched K}
  {config : RouterConfig} {keys : List K} {endpointType : EndpointType}

/-- The invariant: nothing concerns a key of another endpoint type. -/
structure TrafficInv (watched : Watched K) (config : RouterConfig) (endpointType : EndpointType)
    (s : Traffic K) : Prop where
  monitor : Confined (Configured watched.strategy config endpointType) s.monitor
  sent : ∀ key ∈ s.sent, Configured watched.strategy config endpointType key

theorem trafficInv_init
    (hkeys : ∀ key ∈ keys, Configured watched.strategy config endpointType key) :
    TrafficInv watched config endpointType
      (traffic parseHttpDate watched config keys endpointType).init where
  monitor :=
    { health := by rintro key (h | h) <;> cases h
      rate := by rintro key (⟨r, h⟩ | ⟨r, h, -⟩) <;> cases h
      pending := fun _ h => absurd h List.not_mem_nil
      initial := hkeys
      events := fun _ h => absurd h List.not_mem_nil
      services := fun _ h => absurd h (Finset.notMem_empty _) }
  sent _ h := absurd h List.not_mem_nil

/-- With no other endpoint type, the monitors are told of no other key. -/
theorem TrafficInv.step (hlawful : watched.Lawful config)
    (hone : ∀ t key, Configured watched.strategy config t key → t = endpointType)
    {s s' : Traffic K} {a : TrafficAction K} (h : TrafficInv watched config endpointType s)
    (hstep : (traffic parseHttpDate watched config keys endpointType).step s a s') :
    TrafficInv watched config endpointType s' := by
  cases hstep with
  | request source key htype hmem =>
    refine ⟨h.monitor, fun k hk => ?_⟩
    rcases List.mem_cons.mp hk with rfl | hk
    · exact h.monitor.services k hmem
    · exact h.sent k hk
  | act a monitor hconcerns hmonitor =>
    refine ⟨h.monitor.step hmonitor ?_ ?_, h.sent⟩
    · rintro key isHealthy rfl
      obtain ⟨t, hkey⟩ := hconcerns
      obtain rfl := hone t key hkey
      exact hkey
    · rintro response rfl key hcreate
      -- the response answers a request that was sent to a configured provider
      obtain ⟨source, htype, sent, hsent, hmapped⟩ := hconcerns
      obtain ⟨hprovider, htype'⟩ := ApiEndpoint.mapped_spec hmapped
      exact hlawful.created endpointType sent _ key (h.sent sent hsent) hprovider
        (htype'.trans htype) hcreate

theorem servesOnly_of_forall (hlawful : watched.Lawful config)
    (hone : ∀ t key, Configured watched.strategy config t key → t = endpointType)
    (hkeys : ∀ key ∈ keys, Configured watched.strategy config endpointType key) :
    ServesOnly parseHttpDate watched config keys endpointType := by
  intro tr hrun
  have hinv := hrun.invariant (fun _ _ _ hs hstep => hs.step hlawful hone hstep)
    (trafficInv_init hkeys)
  refine hinv.imp fun s hs key hkey => ?_
  have hconfigured : Configured watched.strategy config endpointType key :=
    hkey.elim (hs.monitor.services key) (hs.sent key)
  exact ⟨hlawful.endpointType endpointType key hconfigured, hconfigured⟩

/-- What is in the balancer stays there while others are inserted. -/
theorem mem_drain_inserts {services : Finset K} {inserted : List K} {key : K}
    (h : key ∈ services ∨ key ∈ inserted) :
    key ∈ drain services (inserted.map Change.insert) := by
  induction inserted generalizing services with
  | nil => exact h.resolve_right List.not_mem_nil
  | cons k inserted ih =>
    refine ih ?_
    rcases h with h | h
    · exact Or.inl (Finset.mem_insert_of_mem h)
    · rcases List.mem_cons.mp h with rfl | h
      · exact Or.inl (Finset.mem_insert_self _ _)
      · exact Or.inr h

/-- The balancer may take up all the services it starts with. -/
theorem exists_run_initial (s : Traffic K) :
    ∃ tr, (traffic parseHttpDate watched config keys endpointType).Run s tr ∧
      (System.finalState s tr).monitor.services =
        drain s.monitor.services (s.monitor.initial.map Change.insert) := by
  generalize hinit : s.monitor.initial = initial
  induction initial generalizing s with
  | nil => exact ⟨[], .nil s, rfl⟩
  | cons key initial ih =>
    have hstep : (traffic parseHttpDate watched config keys endpointType).step s
        (.monitor .delivered) { s with monitor := deliver s.monitor } :=
      TrafficStep.act s .delivered _ trivial (.delivered s.monitor)
    have hdeliver : deliver s.monitor =
        { s.monitor with
          initial := initial, services := changeServices s.monitor.services (.insert key) } := by
      unfold deliver
      rw [hinit]
    obtain ⟨tr, hrun, hfinal⟩ := ih { s with monitor := deliver s.monitor } (by rw [hdeliver])
    refine ⟨_ :: tr, .cons hstep hrun, ?_⟩
    rw [System.finalState_cons, hfinal, hdeliver]
    rfl

/-- A balancer that starts with a key serves it. -/
theorem ServesOnly.of_mem (h : ServesOnly parseHttpDate watched config keys endpointType) {key : K}
    (hkey : key ∈ keys) : watched.endpointType key = endpointType := by
  obtain ⟨tr, hrun, hfinal⟩ :=
    @exists_run_initial K _ parseHttpDate watched config keys endpointType
      (traffic parseHttpDate watched config keys endpointType).init
  have hmem : key ∈ (System.finalState
      (traffic parseHttpDate watched config keys endpointType).init tr).monitor.services := by
    rw [hfinal]
    exact mem_drain_inserts (Or.inr hkey)
  exact ((h tr hrun).finalState key (Or.inl hmem)).1

end Runs

/-! ### What a discovery starts with -/

section Discovery

variable {env : Surroundings} {strategy : Strategy K} {state : AppState} {routerId : RouterId}

theorem mem_insertServices {services services' : AList fun _ : K => Dispatcher} {keys : List K}
    (h : insertServices env strategy state routerId services keys = .ok services') (key : K) :
    key ∈ services' ↔ key ∈ services ∨ key ∈ keys := by
  induction keys generalizing services with
  | nil =>
    cases h
    exact (or_iff_left List.not_mem_nil).symm
  | cons k keys ih =>
    obtain ⟨dispatcher, -, h⟩ := bind_eq_ok_iff.mp h
    rw [ih h, AList.mem_insert, List.mem_cons, or_assoc, or_left_comm]

theorem mem_serviceMap {services services' : AList fun _ : K => Dispatcher}
    {entries : List (EndpointType × BalanceConfigInner)}
    (h : serviceMap env strategy state routerId services entries = .ok services') (key : K) :
    key ∈ services' ↔
      key ∈ services ∨ ∃ entry ∈ entries, ∃ keys, strategy.keys entry = .ok keys ∧ key ∈ keys := by
  induction entries generalizing services with
  | nil =>
    cases h
    simp
  | cons entry entries ih =>
    obtain ⟨keys, hkeys, h⟩ := bind_eq_ok_iff.mp h
    obtain ⟨services₁, hservices, h⟩ := bind_eq_ok_iff.mp h
    rw [ih h, mem_insertServices hservices, or_assoc, List.exists_mem_cons_iff]
    simp only [hkeys, Except.ok.injEq, exists_eq_left']

/-- Every endpoint type has keys in the strategy of a discovery. -/
theorem exists_keys_of_serviceMap {services services' : AList fun _ : K => Dispatcher}
    {entries : List (EndpointType × BalanceConfigInner)}
    (h : serviceMap env strategy state routerId services entries = .ok services') :
    ∀ entry ∈ entries, ∃ keys, strategy.keys entry = .ok keys := by
  induction entries generalizing services with
  | nil => exact fun _ hmem => absurd hmem List.not_mem_nil
  | cons entry entries ih =>
    obtain ⟨keys, hkeys, h⟩ := bind_eq_ok_iff.mp h
    obtain ⟨services₁, -, h⟩ := bind_eq_ok_iff.mp h
    intro e he
    rcases List.mem_cons.mp he with rfl | he
    · exact ⟨keys, hkeys⟩
    · exact ih h e he

/-- **Every discovery of a router starts with all its keys.** -/
theorem build_keys {config : RouterConfig} {balancer : ProviderBalancer} {state' : AppState}
    (h : ProviderBalancer.build env strategy state routerId config = .ok (balancer, state')) :
    ∃ discovery, balancer = strategy.balancer discovery ∧
      (∀ key, key ∈ discovery.initial.keys ↔ ∃ t, Configured strategy config t key) ∧
      ∀ entry ∈ config.loadBalance.entries, ∃ keys, strategy.keys entry = .ok keys := by
  obtain ⟨discovery, hdiscovery, h⟩ := bind_eq_ok_iff.mp h
  obtain ⟨services, hservices, hdiscovery⟩ := bind_eq_ok_iff.mp hdiscovery
  cases hdiscovery
  cases h
  refine ⟨_, rfl, fun key => ?_, exists_keys_of_serviceMap hservices⟩
  rw [← AList.mem_keys, mem_serviceMap hservices]
  constructor
  · rintro (hmem | ⟨⟨t, balanceConfig⟩, hentry, keys, hkeys, hmem⟩)
    · exact absurd hmem (AList.notMem_empty key)
    · exact ⟨t, balanceConfig, keys, hentry, hkeys, hmem⟩
  · rintro ⟨t, balanceConfig, keys, hentry, hkeys, hmem⟩
    exact Or.inr ⟨(t, balanceConfig), hentry, keys, hkeys, hmem⟩

end Discovery

/-- **One strategy.** A balancer that starts with all the keys of its router serves its own
endpoint type alone exactly when there is no other one. -/
theorem servesOnly_iff {parseHttpDate : List Char → Option DateTime} {watched : Watched K}
    {config : RouterConfig} (hlawful : watched.Lawful config) {keys : List K}
    (hkeys : ∀ key, key ∈ keys ↔ ∃ t, Configured watched.strategy config t key)
    (hstrategy : ∀ entry ∈ config.loadBalance.entries,
      ∃ keys, watched.strategy.keys entry = .ok keys)
    (endpointType : EndpointType) :
    ServesOnly parseHttpDate watched config keys endpointType ↔
      ∀ entry ∈ config.loadBalance.entries, entry.1 = endpointType := by
  constructor
  -- the keys of every entry are in the set the balancer starts with
  · intro h entry hentry
    obtain ⟨ks, hks⟩ := hstrategy entry hentry
    obtain ⟨key, hmem⟩ := hlawful.exists_key entry ks hks
    have hconfigured : Configured watched.strategy config entry.1 key :=
      ⟨entry.2, ks, hentry, hks, hmem⟩
    rw [← hlawful.endpointType entry.1 key hconfigured]
    exact h.of_mem ((hkeys key).mpr ⟨entry.1, hconfigured⟩)
  · intro h
    have hone : ∀ t key, Configured watched.strategy config t key → t = endpointType := by
      rintro t key ⟨balanceConfig, ks, hentry, -, -⟩
      exact h _ hentry
    refine servesOnly_of_forall hlawful hone fun key hmem => ?_
    obtain ⟨t, hconfigured⟩ := (hkeys key).mp hmem
    obtain rfl := hone t key hconfigured
    exact hconfigured

/-- The same for a balancer of either strategy. -/
theorem separated_new_iff (parseHttpDate : List Char → Option DateTime) {rnd : ℚ → ℚ}
    {env : Surroundings} {state state' : AppState} {routerId : RouterId} {config : RouterConfig}
    {balanceConfig : BalanceConfigInner} {balancer : ProviderBalancer}
    (h : ProviderBalancer.new rnd env state routerId config balanceConfig = .ok (balancer, state'))
    (endpointType : EndpointType) :
    Separated parseHttpDate rnd config endpointType balancer ↔
      ∀ entry ∈ config.loadBalance.entries, entry.1 = endpointType := by
  cases balanceConfig with
  | weighted providers =>
    obtain ⟨discovery, rfl, hkeys, hstrategy⟩ := build_keys h
    exact servesOnly_iff (watchedWeighted_lawful rnd config) hkeys hstrategy endpointType
  | latency providers =>
    obtain ⟨discovery, rfl, hkeys, hstrategy⟩ := build_keys h
    exact servesOnly_iff (watchedPeakEwma_lawful config) hkeys hstrategy endpointType

/-! ### The balancers of a router -/

/-- A balancer is built for each entry of the configuration, in this order. -/
theorem buildAll_forall₂ {rnd : ℚ → ℚ} {env : Surroundings} {routerId : RouterId}
    {config : RouterConfig} {entries : List (EndpointType × BalanceConfigInner)}
    {state state' : AppState} {inner : List (EndpointType × ProviderBalancer)}
    (h : buildAll rnd env routerId config state entries = .ok (inner, state')) :
    List.Forall₂ (fun entry p => entry.1 = p.1 ∧ ∃ s s',
      ProviderBalancer.new rnd env s routerId config entry.2 = .ok (p.2, s')) entries inner := by
  induction entries generalizing state inner with
  | nil =>
    cases h
    exact .nil
  | cons entry entries ih =>
    obtain ⟨⟨balancer, state₁⟩, hnew, h⟩ := bind_eq_ok_iff.mp h
    obtain ⟨⟨inner', state₂⟩, hrest, h⟩ := bind_eq_ok_iff.mp h
    cases h
    exact .cons ⟨rfl, state, state₁, hnew⟩ (ih hrest)

/-- Distinct entries are all the same exactly when there is at most one. -/
theorem forall_eq_iff_length_le_one {entries : List (EndpointType × BalanceConfigInner)}
    (hnodup : (entries.map Prod.fst).Nodup) :
    (∀ entry ∈ entries, ∀ other ∈ entries, other.1 = entry.1) ↔ entries.length ≤ 1 := by
  rcases entries with _ | ⟨first, _ | ⟨second, rest⟩⟩
  · exact iff_of_true (fun _ h => absurd h List.not_mem_nil) (Nat.zero_le 1)
  · refine iff_of_true (fun entry hentry other hother => ?_) le_rfl
    rw [List.mem_singleton.mp hentry, List.mem_singleton.mp hother]
  · refine iff_of_false (fun h => ?_) (fun h => by simp at h)
    -- the second entry would have the type of the first
    have heq := h first List.mem_cons_self second (List.mem_cons_of_mem _ List.mem_cons_self)
    rw [List.map_cons, List.map_cons, List.nodup_cons] at hnodup
    exact hnodup.1 (heq ▸ List.mem_cons_self)

/-- **When the balancers of a router are separated.** Each of them serves its own endpoint
type alone, whatever requests and changes come, exactly when there is at most one. -/
theorem separated_iff (parseHttpDate : List Char → Option DateTime) (rnd : ℚ → ℚ)
    (env : Surroundings) (state state' : AppState) (routerId : RouterId) (config : RouterConfig)
    (router : Router) (hnew : Router.new rnd env state routerId config = .ok (router, state')) :
    (∀ p ∈ router.inner, Separated parseHttpDate rnd config p.1 p.2) ↔
      config.loadBalance.entries.length ≤ 1 := by
  obtain ⟨u, -, hnew⟩ := bind_eq_ok_iff.mp hnew
  obtain ⟨u, -, hnew⟩ := bind_eq_ok_iff.mp hnew
  obtain ⟨u, -, hnew⟩ := bind_eq_ok_iff.mp hnew
  obtain ⟨⟨inner, state₁⟩, hbuild, hnew⟩ := bind_eq_ok_iff.mp hnew
  obtain ⟨u, -, hnew⟩ := bind_eq_ok_iff.mp hnew
  cases hnew
  have hinner := buildAll_forall₂ hbuild
  rw [← forall_eq_iff_length_le_one config.loadBalance.nodup]
  -- each balancer belongs to an entry, and each entry has a balancer
  constructor
  · intro h entry hentry
    obtain ⟨p, hp, htype, s, s', hbalancer⟩ := hinner.exists_of_mem hentry
    rw [htype]
    exact (separated_new_iff parseHttpDate hbalancer p.1).mp (h p hp)
  · intro h p hp
    obtain ⟨entry, hentry, htype, s, s', hbalancer⟩ := hinner.flip.exists_of_mem hp
    rw [separated_new_iff parseHttpDate hbalancer, ← htype]
    exact h entry hentry

/-! ### Chats and images -/

/-- The latency strategy over Anthropic alone. -/
def anthropicLatency : BalanceConfigInner := .latency ⟨[.anthropic], by decide, by decide⟩

/-- Chats go to OpenAI, and images to Anthropic. -/
def chatsAndImages : RouterConfig where
  loadBalance := ⟨[(.chat, openAILatency), (.image, anthropicLatency)], by decide⟩

/-- Chats go to OpenAI, and there is nothing else. -/
def chatsAlone : RouterConfig where
  loadBalance := ⟨[(.chat, openAILatency)], by decide⟩

theorem separated_iff_chat :
    ∃ router state', Router.new id .willing .new .default chatsAlone = .ok (router, state') ∧
      ∀ p ∈ router.inner, Separated (fun _ => none) id chatsAlone p.1 p.2 := by
  refine ⟨_, _, rfl, ?_⟩
  exact (separated_iff (fun _ => none) id .willing .new _ .default chatsAlone _ rfl).mpr le_rfl

/-- **The balancer for chats holds the service for images.** Anthropic, which is configured
for images alone, is sent chats. -/
theorem separated_fails : ¬ ∀ (parseHttpDate : List Char → Option DateTime) (rnd : ℚ → ℚ)
    (env : Surroundings) (state state' : AppState) (routerId : RouterId) (config : RouterConfig)
    (router : Router), Router.new rnd env state routerId config = .ok (router, state') →
    ∀ p ∈ router.inner, Separated parseHttpDate rnd config p.1 p.2 := by
  intro h
  have hchat := h (fun _ => none) id .willing .new _ .default chatsAndImages _ rfl _
    List.mem_cons_self
  have hmem : (⟨.anthropic, .image⟩ : Key) ∈ [(⟨.anthropic, .image⟩ : Key), ⟨.openAI, .chat⟩] :=
    List.mem_cons_self
  have htype := ServesOnly.of_mem hchat hmem
  cases htype

end AiGateway.Wiring
