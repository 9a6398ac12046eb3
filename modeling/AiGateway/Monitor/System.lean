import AiGateway.Discover.Key
import AiGateway.Framework.ReadyCache
import AiGateway.Framework.Runs
import AiGateway.Monitor.RetryAfter
import Mathlib.Data.Finset.Basic
import Mathlib.Data.Finset.Insert
import Mathlib.Data.Finset.Dedup

/-!
# The monitors of a balancer

The health monitor (`discover/monitor/health/provider.rs`), the rate limit
monitor (`discover/monitor/rate_limit/provider.rs`), the channel of changes they
share, the discovery that puts the configured services in front of it, and the
set of services of the balancer at its end.

Each monitor is a task of its own, so its steps are cut at its `await`s: between
the decision to send a change and the moment the channel has room for it, the
other tasks run. What a task does after a send and before its next `await` is one
step with it.

* `changeServices` and `drain` are the balancer's side: what a change does to its
  set of services, and the set once everything sent has been applied;
* `MonitorKind` collects what distinguishes the monitors of the two strategies;
  the code has them as two copies of the same loops.
-/

namespace AiGateway

open Transition Tower

variable {K : Type} [DecidableEq K]

/-! ### The balancer -/

/-- `update_pending_from_discover`, on the keys of the pending and ready services. -/
def changeServices (services : Finset K) : Change K → Finset K
  | .insert key => insert key services
  | .remove key => services.erase key

/-- This is what a change does to the members of the balancer's cache. -/
theorem toFinset_members_apply (c : ReadyCache K) (change : Change K) :
    (c.apply change).members.toFinset = changeServices c.members.toFinset change := by
  ext k
  cases change with
  | insert key =>
    rw [changeServices, Finset.mem_insert, List.mem_toFinset, List.mem_toFinset]
    exact ReadyCache.mem_members_push
  | remove key =>
    rw [changeServices, Finset.mem_erase, List.mem_toFinset, List.mem_toFinset]
    exact ReadyCache.mem_members_evict

/-- The services once the given changes have been applied, in order. -/
def drain (services : Finset K) (changes : List (Change K)) : Finset K :=
  changes.foldl changeServices services

/-- The services the balancer ends up with are those of its cache. -/
theorem toFinset_members_foldl (c : ReadyCache K) (changes : List (Change K)) :
    (changes.foldl ReadyCache.apply c).members.toFinset = drain c.members.toFinset changes := by
  induction changes generalizing c with
  | nil => rfl
  | cons change changes ih =>
    rw [List.foldl_cons, ih, toFinset_members_apply]
    rfl

@[simp] theorem drain_nil (services : Finset K) : drain services [] = services := rfl

@[simp] theorem drain_cons (services : Finset K) (c : Change K) (changes : List (Change K)) :
    drain services (c :: changes) = drain (changeServices services c) changes := rfl

@[simp] theorem drain_append (services : Finset K) (changes changes' : List (Change K)) :
    drain services (changes ++ changes') = drain (drain services changes) changes' :=
  List.foldl_append

/-! ### The two kinds of monitors -/

/-- What the monitors of a strategy do in a way of their own. -/
structure MonitorKind (K : Type) where
  /-- `create_key_for_endpoint`; `none` is its error. -/
  createKeyForEndpoint : ApiEndpoint → Option K
  /-- The provider is recorded as rate limited before the time to wait is computed. -/
  recordsFirst : Bool

/-- The monitors of the latency strategy. -/
def latencyMonitor : MonitorKind Key where
  createKeyForEndpoint apiEndpoint := some ⟨apiEndpoint.provider, apiEndpoint.endpointType⟩
  recordsFirst := false

/-- The key of the first target that names the provider of the endpoint. -/
def createWeightedKey (rnd : ℚ → ℚ) (config : RouterConfig) (apiEndpoint : ApiEndpoint) :
    Option WeightedKey :=
  match config.loadBalance.get apiEndpoint.endpointType with
  | some (.weighted providers) =>
    (providers.elems.find? fun target => target.provider = apiEndpoint.provider).map fun target =>
      ⟨apiEndpoint.provider, apiEndpoint.endpointType, Weight.ofDecimal rnd target.weight⟩
  | _ => none

/-- The monitors of the weighted strategy. -/
def weightedMonitor (rnd : ℚ → ℚ) (config : RouterConfig) : MonitorKind WeightedKey where
  createKeyForEndpoint := createWeightedKey rnd config
  recordsFirst := true

/-! ### The wait -/

/-- `DEFAULT_WAIT_SECONDS`. -/
def defaultWaitSeconds : U64 := ⟨30, by decide⟩

/-- `RATE_LIMIT_BUFFER_SECONDS`. -/
def rateLimitBuffer : Duration := Duration.fromSecs 30 (by decide)

/-- The time until a provider is restored. Adding durations panics on overflow,
which is `none`. -/
def restoreWait (event : RateLimitEvent) : Option Duration :=
  let seconds := event.retryAfterSeconds.getD defaultWaitSeconds
  (Duration.fromSecs seconds.1 seconds.2).checkedAdd rateLimitBuffer

/-- `ProviderRestore`. -/
structure ProviderRestore (K : Type) where
  key : K
  apiEndpoint : ApiEndpoint
  timer : Duration

/-! ### The tasks -/

/-- Where the health monitor stands. -/
inductive HealthStage (K : Type)
  | idle
  /-- Sending the removal of a key that became unhealthy. -/
  | removing (key : K)
  /-- Building and sending the service of a key that became healthy. -/
  | inserting (key : K)
  /-- A dispatcher could not be built, and the monitor returned its error. -/
  | failed

/-- Where the rate limit monitor stands. -/
inductive RateStage (K : Type)
  | idle
  /-- Sending the removal of a key that was rate limited. -/
  | removing (key : K) (response : TooManyRequests)
  /-- Building and sending the service of a key whose timer has fired. -/
  | restoring (restore : ProviderRestore K)
  | failed
  | panicked

/-- The state of the monitors and the balancer. -/
structure MonitorState (K : Type) where
  unhealthyKeys : Finset K
  health : HealthStage K
  rateLimitedProviders : Finset K
  pendingRestores : List (ProviderRestore K)
  rate : RateStage K
  /-- The configured services that discovery has not inserted yet. -/
  initial : List K
  /-- The channel of changes. -/
  events : List (Change K)
  services : Finset K

/-- What the balancer's set will be once every change already sent is applied:
the configured services come first. -/
def MonitorState.drained (s : MonitorState K) : Finset K :=
  drain s.services (s.initial.map Change.insert ++ s.events)

/-- What a step of the system is about. -/
inductive MonitorAction (K : Type)
  | healthCheck (key : K) (isHealthy : Bool)
  | healthRemoveSent
  | healthInsertSent
  | healthFailed
  | rateLimited (response : TooManyRequests)
  | rateRemoveSent
  | timerFired (restore : ProviderRestore K)
  | restoreSent
  | restoreFailed
  | delivered

/-- One round of the health monitor's loop, for one key. -/
def checkHealth (s : MonitorState K) (key : K) (isHealthy : Bool) : MonitorState K :=
  let wasUnhealthy := key ∈ s.unhealthyKeys
  -- only a change of the verdict leads to a message
  if ¬isHealthy ∧ ¬wasUnhealthy then { s with health := .removing key }
  else if isHealthy ∧ wasUnhealthy then
    { s with unhealthyKeys := s.unhealthyKeys.erase key, health := .inserting key }
  else s

/-- The rate limit monitor receives an event. -/
def receiveEvent (kind : MonitorKind K) (s : MonitorState K) (response : TooManyRequests) :
    MonitorState K :=
  match kind.createKeyForEndpoint response.apiEndpoint with
  | none => { s with rate := .failed }
  | some key =>
    -- an event about a provider that is out already is ignored
    if key ∈ s.rateLimitedProviders then s else { s with rate := .removing key response }

/-- The removal has been sent: schedule the restore. -/
def scheduleRestore (parseHttpDate : List Char → Option DateTime) (kind : MonitorKind K)
    (s : MonitorState K) (key : K) (response : TooManyRequests) : MonitorState K :=
  match restoreWait (response.event parseHttpDate) with
  | some timer =>
    { s with
      rateLimitedProviders := insert key s.rateLimitedProviders
      pendingRestores := ⟨key, response.apiEndpoint, timer⟩ :: s.pendingRestores
      rate := .idle }
  | none =>
    { s with
      rateLimitedProviders :=
        if kind.recordsFirst then insert key s.rateLimitedProviders else s.rateLimitedProviders
      rate := .panicked }

/-- The balancer applies the next change. -/
def deliver (s : MonitorState K) : MonitorState K :=
  match s.initial, s.events with
  -- discovery hands out the configured services before it polls the channel
  | key :: initial, _ =>
    { s with initial := initial, services := changeServices s.services (.insert key) }
  | [], change :: events =>
    { s with events := events, services := changeServices s.services change }
  | [], [] => s

/-- `CHANNEL_CAPACITY`. -/
def channelCapacity : ℕ := 16

/-- The channel has room for a change. -/
def MonitorState.HasRoom (s : MonitorState K) : Prop := s.events.length < channelCapacity

instance (s : MonitorState K) : Decidable s.HasRoom := inferInstanceAs (Decidable (_ < _))

/-- The change is sent. -/
def MonitorState.send (s : MonitorState K) (change : Change K) : MonitorState K :=
  { s with events := s.events ++ [change] }

/-- **The steps of the system**, in any order the tasks allow. -/
inductive MonitorStep (parseHttpDate : List Char → Option DateTime) (kind : MonitorKind K) :
    MonitorState K → MonitorAction K → MonitorState K → Prop
  | healthCheck (s : MonitorState K) (key : K) (isHealthy : Bool) : s.health = .idle →
      MonitorStep parseHttpDate kind s (.healthCheck key isHealthy) (checkHealth s key isHealthy)
  | healthRemoveSent (s : MonitorState K) (key : K) : s.health = .removing key → s.HasRoom →
      MonitorStep parseHttpDate kind s .healthRemoveSent
        { s.send (.remove key) with
          unhealthyKeys := insert key s.unhealthyKeys, health := .idle }
  | healthInsertSent (s : MonitorState K) (key : K) : s.health = .inserting key → s.HasRoom →
      MonitorStep parseHttpDate kind s .healthInsertSent
        { s.send (.insert key) with health := .idle }
  | healthFailed (s : MonitorState K) (key : K) : s.health = .inserting key →
      MonitorStep parseHttpDate kind s .healthFailed { s with health := .failed }
  | rateLimited (s : MonitorState K) (response : TooManyRequests) : s.rate = .idle →
      MonitorStep parseHttpDate kind s (.rateLimited response) (receiveEvent kind s response)
  | rateRemoveSent (s : MonitorState K) (key : K) (response : TooManyRequests) :
      s.rate = .removing key response → s.HasRoom →
      MonitorStep parseHttpDate kind s .rateRemoveSent
        (scheduleRestore parseHttpDate kind (s.send (.remove key)) key response)
  | timerFired (s : MonitorState K) (before after : List (ProviderRestore K))
      (restore : ProviderRestore K) : s.rate = .idle →
      s.pendingRestores = before ++ restore :: after →
      MonitorStep parseHttpDate kind s (.timerFired restore)
        { s with pendingRestores := before ++ after, rate := .restoring restore }
  | restoreSent (s : MonitorState K) (restore : ProviderRestore K) :
      s.rate = .restoring restore → s.HasRoom →
      MonitorStep parseHttpDate kind s .restoreSent
        { s.send (.insert restore.key) with
          rateLimitedProviders := s.rateLimitedProviders.erase restore.key, rate := .idle }
  | restoreFailed (s : MonitorState K) (restore : ProviderRestore K) :
      s.rate = .restoring restore →
      MonitorStep parseHttpDate kind s .restoreFailed { s with rate := .failed }
  | delivered (s : MonitorState K) :
      MonitorStep parseHttpDate kind s .delivered (deliver s)

/-- The monitors of a balancer that starts with the services of `keys`. -/
def monitors (parseHttpDate : List Char → Option DateTime) (kind : MonitorKind K)
    (keys : List K) : System (MonitorState K) (MonitorAction K) where
  init :=
    { unhealthyKeys := ∅, health := .idle, rateLimitedProviders := ∅, pendingRestores := [],
      rate := .idle, initial := keys, events := [], services := ∅ }
  step := MonitorStep parseHttpDate kind

/-! ### What the steps leave alone -/

section Frame

variable {parseHttpDate : List Char → Option DateTime} {kind : MonitorKind K}

@[simp] theorem drained_send (s : MonitorState K) (change : Change K) :
    (s.send change).drained = changeServices s.drained change := by
  -- what is sent last is applied last
  unfold MonitorState.drained MonitorState.send
  rw [← List.append_assoc, drain_append]
  rfl

/-- Delivering a change does not change what will have been applied. -/
@[simp] theorem drained_deliver (s : MonitorState K) : (deliver s).drained = s.drained := by
  unfold deliver
  split
  · next key initial hinit => simp [MonitorState.drained, hinit]
  · next change events hinit hevents => simp [MonitorState.drained, hinit, hevents]
  · rfl

/-- Delivery is the balancer's business: the monitors do not notice. -/
theorem deliver_frame (s : MonitorState K) :
    (deliver s).unhealthyKeys = s.unhealthyKeys ∧ (deliver s).health = s.health ∧
      (deliver s).rateLimitedProviders = s.rateLimitedProviders ∧
      (deliver s).pendingRestores = s.pendingRestores ∧ (deliver s).rate = s.rate := by
  unfold deliver
  split <;> exact ⟨rfl, rfl, rfl, rfl, rfl⟩

/-- A health check concerns the health monitor. It forgets at most a key, and one that
it is about to insert is forgotten. -/
theorem checkHealth_frame (s : MonitorState K) (key : K) (isHealthy : Bool) :
    ∃ unhealthy health, unhealthy ⊆ s.unhealthyKeys ∧
      (∀ k, health = .inserting k → s.health = .inserting k ∨ k ∉ unhealthy) ∧
      checkHealth s key isHealthy = { s with unhealthyKeys := unhealthy, health := health } := by
  unfold checkHealth
  dsimp only
  split
  · -- the key became unhealthy: it is recorded once its removal has been sent
    exact ⟨s.unhealthyKeys, .removing key, subset_rfl, (fun _ h => by cases h), rfl⟩
  · split
    · -- the key became healthy: it is forgotten before its insertion is sent
      refine ⟨_, _, Finset.erase_subset _ _, fun k h => ?_, rfl⟩
      cases h
      exact Or.inr (Finset.notMem_erase _ _)
    · exact ⟨s.unhealthyKeys, s.health, subset_rfl, fun _ h => Or.inl h, rfl⟩

/-- Receiving an event only moves the stage of the rate limit monitor. -/
theorem receiveEvent_frame (s : MonitorState K) (response : TooManyRequests) :
    ∃ rate, receiveEvent kind s response = { s with rate := rate } := by
  unfold receiveEvent
  split
  · exact ⟨_, rfl⟩
  · split
    · exact ⟨s.rate, rfl⟩
    · exact ⟨_, rfl⟩

/-- Scheduling a restore concerns the rate limit monitor, and adds at most its key. -/
theorem scheduleRestore_frame (s : MonitorState K) (key : K) (response : TooManyRequests) :
    ∃ limited pending rate, limited ⊆ insert key s.rateLimitedProviders ∧
      scheduleRestore parseHttpDate kind s key response =
        { s with rateLimitedProviders := limited, pendingRestores := pending, rate := rate } := by
  unfold scheduleRestore
  cases restoreWait (response.event parseHttpDate) with
  | some timer => exact ⟨_, _, _, subset_rfl, rfl⟩
  | none =>
    refine ⟨_, s.pendingRestores, _, ?_, rfl⟩
    split
    · exact subset_rfl
    · exact Finset.subset_insert _ _

end Frame

end AiGateway
