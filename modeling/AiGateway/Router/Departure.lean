import AiGateway.Discover.Shares
import AiGateway.Monitor.Timers
import AiGateway.Router.Separation
import Mathlib.Data.Finset.Filter
import Mathlib.Data.Finset.Lattice.Basic

/-!
# How a rate limited provider leaves a weighted balancer

A weighted balancer has a service for each weight a provider is listed with. What happens to
them when one of them is answered with a 429? The rate limit monitor makes a key of the
first target that names the provider, and removes that one. Discovery and the health monitor
have the others still.

* `Leaves`: a response is acted on, no service of a removed provider is left in the balancer
  until it is restored, and then all that were removed come back;
* `mem_configured`, `target_of_createWeightedKey`: what discovery inserts, and what the monitor
  removes;
* `leaves_iff`: the one is the other for a router that lists each provider for chat and with one
  weight, and then only the health monitor can bring a provider back too early.
-/

namespace AiGateway.Wiring

open Transition Tower

/-! ### The property -/

/-- The keys of a provider whose removal was sent, and that have not been restored. -/
def removedKeys (s : MonitorState WeightedKey) (provider : InferenceProvider) :
    Finset WeightedKey :=
  s.rateLimitedProviders.filter fun key => key.provider = provider

/-- No service of a provider that was removed is in the balancer, once every change already sent
has been applied. -/
def Gone (s : MonitorState WeightedKey) : Prop :=
  ∀ k ∈ s.drained, removedKeys s k.provider = ∅

/-- A response is acted on: its provider is out, or is about to be. -/
def ActedOn (response : TooManyRequests) (s : MonitorState WeightedKey) : Prop :=
  (removedKeys s response.apiEndpoint.provider).Nonempty ∨
    ∃ key, s.rate = .removing key response ∧ key.provider = response.apiEndpoint.provider

/-- **A rate limited provider leaves entirely**, and comes back as it left. -/
structure Leaves (s : Traffic WeightedKey) (a : TrafficAction WeightedKey)
    (s' : Traffic WeightedKey) : Prop where
  gone : Gone s'.monitor
  actedOn : ∀ response, a = .monitor (.rateLimited response) → ActedOn response s'.monitor
  restored : ∀ restore, a = .monitor .restoreSent → s.monitor.rate = .restoring restore →
    s'.monitor.drained = s.monitor.drained ∪ removedKeys s.monitor restore.key.provider

/-- The health monitor does not put back a provider that is out for its rate limit. -/
def Calm (s : Traffic WeightedKey) (a : TrafficAction WeightedKey) (_s' : Traffic WeightedKey) :
    Prop :=
  a = .monitor .healthInsertSent → ∀ key, s.monitor.health = .inserting key →
    removedKeys s.monitor key.provider = ∅

/-- Every provider that has an endpoint is listed for chat only, and all its weights come to
the same number of ten thousandths. -/
def OneWeightEach (rnd : ℚ → ℚ) (config : RouterConfig) : Prop :=
  ∀ apiEndpoint : ApiEndpoint, ∃ weight, ∀ entry ∈ config.loadBalance.entries, ∀ providers,
    entry.2 = .weighted providers → ∀ target ∈ providers.elems,
      target.provider = apiEndpoint.provider →
        entry.1 = .chat ∧ Weight.ofDecimal rnd target.weight = weight

@[simp] theorem mem_removedKeys {s : MonitorState WeightedKey} {provider : InferenceProvider}
    {key : WeightedKey} :
    key ∈ removedKeys s provider ↔ key ∈ s.rateLimitedProviders ∧ key.provider = provider :=
  Finset.mem_filter

theorem removedKeys_eq_empty_iff {s : MonitorState WeightedKey} {provider : InferenceProvider} :
    removedKeys s provider = ∅ ↔ ∀ key ∈ s.rateLimitedProviders, key.provider ≠ provider :=
  Finset.filter_eq_empty_iff

/-! ### The keys of a configuration -/

section Keys

variable {rnd : ℚ → ℚ} {config : RouterConfig} {keys : List WeightedKey}

theorem mem_ofEntry {entry : EndpointType × BalanceConfigInner} {found : List WeightedKey}
    (h : WeightedKey.ofEntry rnd entry = some found) {key : WeightedKey} :
    key ∈ found ↔ ∃ providers, entry.2 = .weighted providers ∧ ∃ target ∈ providers.elems,
      key = ⟨target.provider, entry.1, Weight.ofDecimal rnd target.weight⟩ := by
  obtain ⟨endpointType, balanceConfig⟩ := entry
  cases balanceConfig with
  | latency providers => cases h
  | weighted providers =>
    obtain rfl := Option.some.inj h
    simp [eq_comm]

/-- **What discovery inserts**: a key for each target. -/
theorem mem_configured (hkeys : WeightedKey.configured rnd config = some keys)
    {key : WeightedKey} :
    key ∈ keys ↔ ∃ entry ∈ config.loadBalance.entries, ∃ providers,
      entry.2 = .weighted providers ∧ ∃ target ∈ providers.elems,
        key = ⟨target.provider, entry.1, Weight.ofDecimal rnd target.weight⟩ := by
  unfold WeightedKey.configured at hkeys
  obtain ⟨found, hfound, rfl⟩ := Option.map_eq_some_iff.mp hkeys
  have hall := List.forall₂_of_mapM_eq_some hfound
  rw [List.mem_dedup, List.mem_flatten]
  constructor
  · rintro ⟨l, hl, hkey⟩
    obtain ⟨entry, hentry, hof⟩ := hall.flip.exists_of_mem hl
    exact ⟨entry, hentry, (mem_ofEntry hof).mp hkey⟩
  · rintro ⟨entry, hentry, hkey⟩
    obtain ⟨l, hl, hof⟩ := hall.exists_of_mem hentry
    exact ⟨l, hl, (mem_ofEntry hof).mpr hkey⟩

/-- What the monitor removes is the key of a target that is listed for chat. -/
theorem target_of_createWeightedKey {apiEndpoint : ApiEndpoint} {key : WeightedKey}
    (h : createWeightedKey rnd config apiEndpoint = some key) :
    key.provider = apiEndpoint.provider ∧ ∃ providers,
      (.chat, .weighted providers) ∈ config.loadBalance.entries ∧ ∃ target ∈ providers.elems,
        key = ⟨target.provider, .chat, Weight.ofDecimal rnd target.weight⟩ := by
  unfold createWeightedKey at h
  split at h
  · next providers hget =>
    obtain ⟨target, hfind, rfl⟩ := Option.map_eq_some_iff.mp h
    have hprovider : target.provider = apiEndpoint.provider := by
      simpa using List.find?_some hfind
    refine ⟨rfl, providers, Registry.mem_of_lookup hget, target,
      List.mem_of_find?_eq_some hfind, ?_⟩
    rw [hprovider]
    rfl
  · cases h

/-- A provider that is listed for chat is found. -/
theorem exists_createWeightedKey (rnd : ℚ → ℚ) {apiEndpoint : ApiEndpoint}
    {providers : NESet BalanceTarget}
    (hentry : (.chat, .weighted providers) ∈ config.loadBalance.entries) {target : BalanceTarget}
    (htarget : target ∈ providers.elems) (hprovider : target.provider = apiEndpoint.provider) :
    ∃ key, createWeightedKey rnd config apiEndpoint = some key := by
  have hget : config.loadBalance.get apiEndpoint.endpointType = some (.weighted providers) :=
    Registry.lookup_of_mem config.loadBalance.nodup hentry
  unfold createWeightedKey
  rw [hget]
  dsimp only
  cases hfind : providers.elems.find? fun target => target.provider = apiEndpoint.provider with
  | some found => exact ⟨_, rfl⟩
  | none => exact absurd hprovider (by simpa using List.find?_eq_none.mp hfind target htarget)

/-- What discovery inserts for a provider is what the monitor removes for it. -/
def MatchesRemoval (rnd : ℚ → ℚ) (config : RouterConfig) (keys : List WeightedKey) : Prop :=
  ∀ apiEndpoint : ApiEndpoint, ∀ key ∈ keys, key.provider = apiEndpoint.provider →
    createWeightedKey rnd config apiEndpoint = some key

/-- **The two agree** where each provider is listed for chat with one weight. -/
theorem matchesRemoval_iff (hkeys : WeightedKey.configured rnd config = some keys) :
    MatchesRemoval rnd config keys ↔ OneWeightEach rnd config := by
  constructor
  · intro h apiEndpoint
    -- the weight of the key that is removed, if there is one
    refine ⟨((createWeightedKey rnd config apiEndpoint).map WeightedKey.weight).getD .min, ?_⟩
    intro entry hentry providers hbalance target htarget hprovider
    have hcreate := h apiEndpoint _ ((mem_configured hkeys).mpr
      ⟨entry, hentry, providers, hbalance, target, htarget, rfl⟩) hprovider
    obtain ⟨-, _, -, _, -, heq⟩ := target_of_createWeightedKey hcreate
    rw [hcreate]
    exact ⟨congrArg WeightedKey.endpointType heq, rfl⟩
  · intro h apiEndpoint key hkey hprovider
    obtain ⟨weight, hone⟩ := h apiEndpoint
    obtain ⟨⟨endpointType, balanceConfig⟩, hentry, providers, hbalance, target, htarget, rfl⟩ :=
      (mem_configured hkeys).mp hkey
    obtain ⟨hchat, hweight⟩ := hone _ hentry providers hbalance target htarget hprovider
    dsimp only at hchat hbalance
    subst hchat
    subst hbalance
    obtain ⟨key, hcreate⟩ := exists_createWeightedKey rnd hentry htarget hprovider
    obtain ⟨hkey, providers', hentry', target', htarget', rfl⟩ :=
      target_of_createWeightedKey hcreate
    obtain ⟨-, hweight'⟩ := hone _ hentry' providers' rfl target' htarget' hkey
    rw [hcreate, hweight, hweight', show target.provider = target'.provider from
      hprovider.trans hkey.symm]

end Keys

/-! ### The invariant -/

section Runs

variable {parseHttpDate : List Char → Option DateTime} {rnd : ℚ → ℚ} {config : RouterConfig}
  {keys : List WeightedKey} {s s' : Traffic WeightedKey} {a : TrafficAction WeightedKey}

/-- **What carries the comparison.** Everything is about configured keys, and the restores that
are held back are of keys that are out, each for one. -/
structure DepartureInv (rnd : ℚ → ℚ) (config : RouterConfig) (keys : List WeightedKey)
    (s : Traffic WeightedKey) : Prop where
  confined : Confined (· ∈ keys) s.monitor
  sent : ∀ key ∈ s.sent, key ∈ keys
  limited : ∀ key ∈ s.monitor.rateLimitedProviders, key ∈ keys ∧
    ∃ apiEndpoint : ApiEndpoint, key.provider = apiEndpoint.provider
  removing : ∀ key response, s.monitor.rate = .removing key response →
    key ∉ s.monitor.rateLimitedProviders ∧
      createWeightedKey rnd config response.apiEndpoint = some key
  nodup : (heldBack s.monitor).Nodup
  held : ∀ key ∈ heldBack s.monitor, key ∈ s.monitor.rateLimitedProviders
  gone : Gone s.monitor

theorem departureInv_init :
    DepartureInv rnd config keys
      (traffic parseHttpDate (watchedWeighted rnd config) config keys .chat).init where
  confined :=
    { health := by rintro key (h | h) <;> cases h
      rate := by rintro key (⟨r, h⟩ | ⟨r, h, -⟩) <;> cases h
      pending := by intro restore h; cases h
      initial := fun key h => h
      events := by intro change h; cases h
      services := fun key h => absurd h (Finset.notMem_empty key) }
  sent := by intro key h; cases h
  limited := fun key h => absurd h (Finset.notMem_empty key)
  removing := by intro key response h; cases h
  nodup := List.nodup_nil
  held := by intro key h; cases h
  gone := fun k _ => Finset.filter_empty _

/-! ### What a step does -/

theorem Confined.drained {allowed : WeightedKey → Prop} {s : MonitorState WeightedKey}
    (h : Confined allowed s) : ∀ key ∈ s.drained, allowed key := by
  have hdrain : ∀ (changes : List (Change WeightedKey)) (services : Finset WeightedKey),
      (∀ change ∈ changes, allowed change.key) → (∀ key ∈ services, allowed key) →
      ∀ key ∈ drain services changes, allowed key := by
    intro changes
    induction changes with
    | nil => exact fun _ _ hservices => hservices
    | cons change changes ih =>
      intro services hchanges hservices
      obtain ⟨hchange, hchanges⟩ := List.forall_mem_cons.mp hchanges
      exact ih _ hchanges (Confined.changeServices hservices hchange)
  refine hdrain _ _ ?_ h.services
  intro change hchange
  rcases List.mem_append.mp hchange with hchange | hchange
  · obtain ⟨key, hkey, rfl⟩ := List.mem_map.mp hchange
    exact h.initial key hkey
  · exact h.events change hchange

/-- Scheduling a restore records the key, and holds it back unless the wait overflows. -/
theorem scheduleRestore_weighted (parseHttpDate : List Char → Option DateTime) (rnd : ℚ → ℚ)
    (config : RouterConfig) (s : MonitorState WeightedKey) (key : WeightedKey)
    (response : TooManyRequests) :
    let s' := scheduleRestore parseHttpDate (weightedMonitor rnd config) s key response
    s'.drained = s.drained ∧
      s'.rateLimitedProviders = insert key s.rateLimitedProviders ∧
      (∀ k r, s'.rate ≠ .removing k r) ∧
      (heldBack s' = s.pendingRestores.map ProviderRestore.key ∨
        heldBack s' = key :: s.pendingRestores.map ProviderRestore.key) := by
  intro s'
  unfold s' scheduleRestore
  cases restoreWait (response.event parseHttpDate) with
  | some timer => exact ⟨rfl, rfl, (fun _ _ h => by cases h), Or.inr rfl⟩
  | none => exact ⟨rfl, rfl, (fun _ _ h => by cases h), Or.inl rfl⟩

/-- A step that sends nothing adds no change, and records and forgets no provider. -/
theorem frame_of_step {kind : MonitorKind WeightedKey} {s s' : MonitorState WeightedKey}
    {a : MonitorAction WeightedKey} (h : MonitorStep parseHttpDate kind s a s')
    (hsend : a ∉ [.healthRemoveSent, .healthInsertSent, .rateRemoveSent, .restoreSent]) :
    s'.drained = s.drained ∧ s'.rateLimitedProviders = s.rateLimitedProviders := by
  cases h with
  | healthCheck key isHealthy hidle =>
    obtain ⟨unhealthy, health, -, -, hframe⟩ := checkHealth_frame s key isHealthy
    rw [hframe]
    exact ⟨rfl, rfl⟩
  | healthFailed | timerFired | restoreFailed => exact ⟨rfl, rfl⟩
  | rateLimited response hidle =>
    obtain ⟨rate, hframe⟩ := receiveEvent_frame s response
    rw [hframe]
    exact ⟨rfl, rfl⟩
  | delivered => exact ⟨drained_deliver s, (deliver_frame s).2.2.1⟩
  | healthRemoveSent | healthInsertSent | rateRemoveSent | restoreSent =>
    exact absurd (by simp) hsend

theorem Gone.congr {s s' : MonitorState WeightedKey} (h : Gone s)
    (hdrained : s'.drained = s.drained)
    (hlimited : s'.rateLimitedProviders = s.rateLimitedProviders) : Gone s' := by
  intro k hk
  rw [hdrained] at hk
  unfold removedKeys
  rw [hlimited]
  exact h k hk

/-- Discovery inserts one key for a provider that has an endpoint. -/
theorem MatchesRemoval.eq_of_provider (hmatch : MatchesRemoval rnd config keys)
    {apiEndpoint : ApiEndpoint} {key k : WeightedKey} (hkey : key ∈ keys) (hk : k ∈ keys)
    (hprovider : key.provider = apiEndpoint.provider) (heq : k.provider = key.provider) :
    k = key :=
  Option.some.inj ((hmatch apiEndpoint k hk (heq.trans hprovider)).symm.trans
    (hmatch apiEndpoint key hkey hprovider))

/-- The only key of a provider that is out. -/
theorem DepartureInv.removedKeys_eq (hmatch : MatchesRemoval rnd config keys)
    (hs : DepartureInv rnd config keys s) {key : WeightedKey}
    (hkey : key ∈ s.monitor.rateLimitedProviders) :
    removedKeys s.monitor key.provider = {key} := by
  obtain ⟨hmem, apiEndpoint, hprovider⟩ := hs.limited key hkey
  ext k
  rw [mem_removedKeys, Finset.mem_singleton]
  constructor
  · rintro ⟨hk, heq⟩
    exact hmatch.eq_of_provider hmem (hs.limited k hk).1 hprovider heq
  · rintro rfl
    exact ⟨hkey, rfl⟩

/-- A response of a dispatcher is acted on. -/
theorem DepartureInv.actedOn (hmatch : MatchesRemoval rnd config keys)
    (hs : DepartureInv rnd config keys s) {response : TooManyRequests}
    (hconcerns : Concerns (watchedWeighted rnd config) config .chat s (.rateLimited response)) :
    ActedOn response (receiveEvent (weightedMonitor rnd config) s.monitor response) := by
  obtain ⟨source, -, key, hsent, hmapped⟩ := hconcerns
  have hprovider : response.apiEndpoint.provider = key.provider :=
    (ApiEndpoint.mapped_spec hmapped).1
  have hcreate :
      (weightedMonitor rnd config).createKeyForEndpoint response.apiEndpoint = some key :=
    hmatch response.apiEndpoint key (hs.sent key hsent) hprovider.symm
  unfold receiveEvent
  rw [hcreate]
  dsimp only
  split
  · next hout => exact Or.inl ⟨key, mem_removedKeys.mpr ⟨hout, hprovider.symm⟩⟩
  · exact Or.inr ⟨key, rfl, hprovider.symm⟩

/-- A provider that is being restored is still recorded. -/
theorem DepartureInv.held_of_restoring (hs : DepartureInv rnd config keys s)
    {restore : ProviderRestore WeightedKey} (hstage : s.monitor.rate = .restoring restore) :
    restore.key ∈ s.monitor.rateLimitedProviders := by
  refine hs.held _ ?_
  rw [heldBack_of_restoring hstage]
  exact List.mem_cons_self

/-- What the restore puts back is what was removed. -/
theorem DepartureInv.restored (hmatch : MatchesRemoval rnd config keys)
    (hs : DepartureInv rnd config keys s) {restore : ProviderRestore WeightedKey}
    (hstage : s.monitor.rate = .restoring restore) :
    insert restore.key s.monitor.drained =
      s.monitor.drained ∪ removedKeys s.monitor restore.key.provider := by
  rw [hs.removedKeys_eq hmatch (hs.held_of_restoring hstage), Finset.union_comm]
  rfl

/-- The key that is removed is the only one of its provider. -/
theorem DepartureInv.gone_of_removed (hmatch : MatchesRemoval rnd config keys)
    (hs : DepartureInv rnd config keys s) {key : WeightedKey} {response : TooManyRequests}
    (hstage : s.monitor.rate = .removing key response) :
    Gone (scheduleRestore parseHttpDate (weightedMonitor rnd config)
      (s.monitor.send (.remove key)) key response) := by
  intro k hk
  refine removedKeys_eq_empty_iff.mpr fun out hout => ?_
  obtain ⟨hdrained, hlimited, -, -⟩ := scheduleRestore_weighted parseHttpDate rnd config
    (s.monitor.send (.remove key)) key response
  rw [hdrained, drained_send] at hk
  obtain ⟨hne, hmem⟩ := Finset.mem_erase.mp hk
  rw [hlimited] at hout
  rcases Finset.mem_insert.mp hout with rfl | hout
  · have hprovider := (target_of_createWeightedKey (hs.removing out response hstage).2).1
    have hout' := hs.confined.rate out (Or.inl ⟨response, hstage⟩)
    intro heq
    exact hne (hmatch.eq_of_provider hout' (hs.confined.drained k hmem) hprovider heq.symm)
  · exact removedKeys_eq_empty_iff.mp (hs.gone k hmem) out hout

/-- Nothing else is out of the provider that comes back. -/
theorem DepartureInv.other_of_restored (hmatch : MatchesRemoval rnd config keys)
    (hs : DepartureInv rnd config keys s) {restore : ProviderRestore WeightedKey}
    (hstage : s.monitor.rate = .restoring restore) {k out : WeightedKey}
    (hk : k ∈ (s.monitor.send (.insert restore.key)).drained) (hne : out ≠ restore.key)
    (hout : out ∈ s.monitor.rateLimitedProviders) : out.provider ≠ k.provider := by
  rw [drained_send] at hk
  rcases Finset.mem_insert.mp hk with rfl | hk
  · intro heq
    have hall : restore.key ∈ removedKeys s.monitor out.provider := by
      rw [heq, hs.removedKeys_eq hmatch (hs.held_of_restoring hstage)]
      exact Finset.mem_singleton_self _
    rw [hs.removedKeys_eq hmatch hout] at hall
    exact hne (Finset.mem_singleton.mp hall).symm
  · exact removedKeys_eq_empty_iff.mp (hs.gone k hk) out hout

/-- **What is left in the balancer.** A step leaves a service of a removed provider there only if
the health monitor puts it back. -/
theorem DepartureInv.gone_iff (hmatch : MatchesRemoval rnd config keys)
    (hs : DepartureInv rnd config keys s) {a : MonitorAction WeightedKey}
    {monitor : MonitorState WeightedKey}
    (hstep : MonitorStep parseHttpDate (weightedMonitor rnd config) s.monitor a monitor) :
    Gone monitor ↔ Calm s (.monitor a) { s with monitor := monitor } := by
  have hgone := hs.gone
  have hframe := frame_of_step hstep
  cases hstep with
  -- nothing is sent, so nothing changes of what is in the balancer
  | healthCheck | healthFailed | rateLimited | timerFired | restoreFailed | delivered =>
    obtain ⟨hdrained, hlimited⟩ := hframe (by simp)
    exact iff_of_true (hgone.congr hdrained hlimited) (by rintro ⟨⟩)
  | healthRemoveSent key hstage hroom =>
    refine iff_of_true (fun k hk => hgone k ?_) (by rintro ⟨⟩)
    have hdrained : k ∈ (s.monitor.send (.remove key)).drained := hk
    rw [drained_send] at hdrained
    exact Finset.mem_of_mem_erase hdrained
  -- the insertion may be of a key that is out for its limit
  | healthInsertSent key hstage hroom =>
    have hdrained : (s.monitor.send (.insert key)).drained = insert key s.monitor.drained :=
      drained_send s.monitor (.insert key)
    constructor
    · intro h _ k hk
      obtain rfl : key = k := HealthStage.inserting.inj (hstage.symm.trans hk)
      refine h key ?_
      show key ∈ (s.monitor.send (.insert key)).drained
      rw [hdrained]
      exact Finset.mem_insert_self _ _
    · intro h k hk
      have hk' : k ∈ (s.monitor.send (.insert key)).drained := hk
      rw [hdrained, Finset.mem_insert] at hk'
      rcases hk' with rfl | hk'
      · exact h rfl k hstage
      · exact hgone k hk'
  | rateRemoveSent key response hstage hroom =>
    exact iff_of_true (hs.gone_of_removed hmatch hstage) (by rintro ⟨⟩)
  | restoreSent restore hstage hroom =>
    refine iff_of_true (fun k hk => removedKeys_eq_empty_iff.mpr fun out hout => ?_) (by rintro ⟨⟩)
    obtain ⟨hne, hout⟩ := Finset.mem_erase.mp hout
    exact hs.other_of_restored hmatch hstage hk hne hout

/-- **One step.** It keeps the property exactly if it is calm. -/
theorem DepartureInv.leaves_step_iff (hmatch : MatchesRemoval rnd config keys)
    (hs : DepartureInv rnd config keys s)
    (hstep : TrafficStep parseHttpDate (watchedWeighted rnd config) config .chat s a s') :
    Leaves s a s' ↔ Calm s a s' := by
  cases hstep with
  | request source key htype hmem =>
    exact iff_of_true ⟨hs.gone, (by rintro response ⟨⟩), (by rintro restore ⟨⟩)⟩ (by rintro ⟨⟩)
  | act a monitor hconcerns hmonitor =>
    rw [← hs.gone_iff hmatch hmonitor]
    refine ⟨fun h => h.gone, fun h => ⟨h, ?_, ?_⟩⟩
    · rintro response ⟨⟩
      cases hmonitor
      exact hs.actedOn hmatch hconcerns
    · rintro restore ⟨⟩ hstage
      cases hmonitor with
      | restoreSent r hr hroom =>
        obtain rfl := RateStage.restoring.inj (hstage.symm.trans hr)
        rw [← hs.restored hmatch hstage]
        exact drained_send s.monitor (.insert restore.key)

/-- The invariant, where the rate limit monitor stands as it did. -/
theorem DepartureInv.of_rate_eq (hs : DepartureInv rnd config keys s)
    {monitor : MonitorState WeightedKey} (hconfined : Confined (· ∈ keys) monitor)
    (hlimited : monitor.rateLimitedProviders = s.monitor.rateLimitedProviders)
    (hpending : monitor.pendingRestores = s.monitor.pendingRestores)
    (hrate : monitor.rate = s.monitor.rate) (hgone : Gone monitor) :
    DepartureInv rnd config keys { s with monitor := monitor } := by
  have hheld : heldBack monitor = heldBack s.monitor := by
    unfold heldBack
    rw [hpending, hrate]
  exact
    { confined := hconfined
      sent := hs.sent
      limited := by rw [hlimited]; exact hs.limited
      removing := by rw [hlimited, hrate]; exact hs.removing
      nodup := by rw [hheld]; exact hs.nodup
      held := by rw [hheld, hlimited]; exact hs.held
      gone := hgone }

/-- What a response does to the bookkeeping: the monitor may be about to remove a key. -/
theorem receiveEvent_spec (kind : MonitorKind WeightedKey) (s : MonitorState WeightedKey)
    (response : TooManyRequests) :
    let s' := receiveEvent kind s response
    s'.rateLimitedProviders = s.rateLimitedProviders ∧ s'.pendingRestores = s.pendingRestores ∧
      (s'.rate = s.rate ∨ s'.rate = .failed ∨ ∃ key, s'.rate = .removing key response ∧
        key ∉ s.rateLimitedProviders ∧
        kind.createKeyForEndpoint response.apiEndpoint = some key) := by
  intro s'
  unfold s' receiveEvent
  split
  · exact ⟨rfl, rfl, Or.inr (Or.inl rfl)⟩
  · next key hcreate =>
    split
    · exact ⟨rfl, rfl, Or.inl rfl⟩
    · next hout => exact ⟨rfl, rfl, Or.inr (Or.inr ⟨key, rfl, hout, hcreate⟩)⟩

theorem DepartureInv.of_received (hs : DepartureInv rnd config keys s)
    (hidle : s.monitor.rate = .idle) {response : TooManyRequests}
    (hconfined : Confined (· ∈ keys)
      (receiveEvent (weightedMonitor rnd config) s.monitor response))
    (hgone : Gone (receiveEvent (weightedMonitor rnd config) s.monitor response)) :
    DepartureInv rnd config keys
      { s with monitor := receiveEvent (weightedMonitor rnd config) s.monitor response } := by
  obtain ⟨hlimited, hpending, hrate⟩ :=
    receiveEvent_spec (weightedMonitor rnd config) s.monitor response
  generalize receiveEvent (weightedMonitor rnd config) s.monitor response = monitor
    at hlimited hpending hrate hconfined hgone ⊢
  rw [hidle] at hrate
  have hheld : heldBack monitor = heldBack s.monitor := by
    rw [heldBack_of_ne (s := monitor), heldBack_of_ne (s := s.monitor), hpending]
    · rw [hidle]
      exact fun _ h => by cases h
    · rintro restore h
      rcases hrate with hrate | hrate | ⟨key, hrate, -⟩ <;> cases hrate.symm.trans h
  refine
    { confined := hconfined
      sent := hs.sent
      limited := by rw [hlimited]; exact hs.limited
      removing := ?_
      nodup := by rw [hheld]; exact hs.nodup
      held := by rw [hheld, hlimited]; exact hs.held
      gone := hgone }
  intro k r hstage
  rw [hlimited]
  -- only a key that may be removed brings the monitor to this stage
  rcases hrate with hrate | hrate | ⟨key, hrate, hout, hcreate⟩ <;> cases hrate.symm.trans hstage
  exact ⟨hout, hcreate⟩

theorem DepartureInv.of_removed (hs : DepartureInv rnd config keys s) {key : WeightedKey}
    {response : TooManyRequests} (hstage : s.monitor.rate = .removing key response)
    {monitor : MonitorState WeightedKey} (hconfined : Confined (· ∈ keys) monitor)
    (hlimited : monitor.rateLimitedProviders = insert key s.monitor.rateLimitedProviders)
    (hstage' : ∀ k r, monitor.rate ≠ .removing k r)
    (hheld' : heldBack monitor = s.monitor.pendingRestores.map ProviderRestore.key ∨
      heldBack monitor = key :: s.monitor.pendingRestores.map ProviderRestore.key)
    (hgone : Gone monitor) : DepartureInv rnd config keys { s with monitor := monitor } := by
  obtain ⟨hout, hcreate⟩ := hs.removing key response hstage
  -- while it is removed, the key is not held back
  have hheld : heldBack s.monitor = s.monitor.pendingRestores.map ProviderRestore.key :=
    heldBack_of_ne fun restore h => by cases hstage.symm.trans h
  have hnodup := hs.nodup
  have hin := hs.held
  rw [← hheld] at hheld'
  refine ⟨hconfined, hs.sent, ?_, (fun k r h => absurd h (hstage' k r)), ?_, ?_, hgone⟩
  · intro k hk
    rw [hlimited] at hk
    rcases Finset.mem_insert.mp hk with rfl | hk
    · exact ⟨hs.confined.rate k (Or.inl ⟨response, hstage⟩), response.apiEndpoint,
        (target_of_createWeightedKey hcreate).1⟩
    · exact hs.limited k hk
  -- now it may be, and it was not limited before
  · show (heldBack monitor).Nodup
    rcases hheld' with hheld' | hheld' <;> rw [hheld']
    · exact hnodup
    · exact List.nodup_cons.mpr ⟨fun hmem => hout (hin key hmem), hnodup⟩
  · intro k hk
    rw [hlimited]
    change k ∈ heldBack monitor at hk
    rcases hheld' with hheld' | hheld' <;> rw [hheld'] at hk
    · exact Finset.mem_insert_of_mem (hin k hk)
    · rcases List.mem_cons.mp hk with rfl | hk
      · exact Finset.mem_insert_self _ _
      · exact Finset.mem_insert_of_mem (hin k hk)

/-- The monitors are told of configured keys only. -/
theorem DepartureInv.confined_step (hkeys : WeightedKey.configured rnd config = some keys)
    (hs : DepartureInv rnd config keys s) {a : MonitorAction WeightedKey}
    {monitor : MonitorState WeightedKey}
    (hconcerns : Concerns (watchedWeighted rnd config) config .chat s a)
    (hstep : MonitorStep parseHttpDate (weightedMonitor rnd config) s.monitor a monitor) :
    Confined (· ∈ keys) monitor := by
  refine hs.confined.step hstep ?_ ?_
  · rintro key isHealthy rfl
    obtain ⟨endpointType, balanceConfig, found, hentry, hfound, hkey⟩ := hconcerns
    obtain ⟨providers, hbalance, rfl⟩ := weightedStrategy_keys hfound
    obtain ⟨target, htarget, rfl⟩ := List.mem_map.mp hkey
    exact (mem_configured hkeys).mpr ⟨_, hentry, providers, hbalance, target, htarget, rfl⟩
  · rintro response rfl key hcreate
    obtain ⟨-, providers, hentry, target, htarget, rfl⟩ := target_of_createWeightedKey hcreate
    exact (mem_configured hkeys).mpr ⟨_, hentry, providers, rfl, target, htarget, rfl⟩

/-- The keys that wait while another one is restored. -/
theorem DepartureInv.pending_of_restoring (hs : DepartureInv rnd config keys s)
    {restore : ProviderRestore WeightedKey} (hstage : s.monitor.rate = .restoring restore) :
    restore.key ∉ s.monitor.pendingRestores.map ProviderRestore.key ∧
      (s.monitor.pendingRestores.map ProviderRestore.key).Nodup ∧
      ∀ k ∈ s.monitor.pendingRestores.map ProviderRestore.key,
        k ∈ s.monitor.rateLimitedProviders := by
  have hnodup := hs.nodup
  have hin := hs.held
  rw [heldBack_of_restoring hstage] at hnodup hin
  obtain ⟨hnot, hnodup⟩ := List.nodup_cons.mp hnodup
  exact ⟨hnot, hnodup, fun k hk => hin k (List.mem_cons_of_mem _ hk)⟩

/-- **The invariant is kept** by the steps that keep the property. -/
theorem DepartureInv.step (hkeys : WeightedKey.configured rnd config = some keys)
    (hs : DepartureInv rnd config keys s)
    (hstep : TrafficStep parseHttpDate (watchedWeighted rnd config) config .chat s a s')
    (hgone : Gone s'.monitor) : DepartureInv rnd config keys s' := by
  cases hstep with
  | request source key htype hmem =>
    refine { hs with sent := ?_ }
    intro k hk
    rcases List.mem_cons.mp hk with rfl | hk
    · exact hs.confined.services k hmem
    · exact hs.sent k hk
  | act a monitor hconcerns hmonitor =>
    have hconfined := hs.confined_step hkeys hconcerns hmonitor
    cases hmonitor with
    | healthCheck key isHealthy hidle =>
      obtain ⟨unhealthy, health, -, -, hframe⟩ := checkHealth_frame s.monitor key isHealthy
      rw [hframe] at hconfined hgone ⊢
      exact hs.of_rate_eq hconfined rfl rfl rfl hgone
    | healthRemoveSent | healthInsertSent | healthFailed =>
      exact hs.of_rate_eq hconfined rfl rfl rfl hgone
    | delivered =>
      obtain ⟨-, -, hlimited, hpending, hrate⟩ := deliver_frame s.monitor
      exact hs.of_rate_eq hconfined hlimited hpending hrate hgone
    | rateLimited response hidle => exact hs.of_received hidle hconfined hgone
    | rateRemoveSent key response hstage hroom =>
      obtain ⟨-, hlimited, hstage', hheld⟩ := scheduleRestore_weighted parseHttpDate rnd config
        (s.monitor.send (.remove key)) key response
      exact hs.of_removed hstage hconfined hlimited hstage' hheld hgone
    -- the key goes from the pending ones to the stage, and is held back throughout
    | timerFired before after restore hidle hpending =>
      have hperm := heldBack_fired hidle hpending
      exact ⟨hconfined, hs.sent, hs.limited, (fun _ _ h => by cases h), hperm.nodup_iff.mp hs.nodup,
        fun k hk => hs.held k (hperm.mem_iff.mpr hk), hgone⟩
    -- the key that comes back is limited no longer
    | restoreSent restore hstage hroom =>
      obtain ⟨hnot, hnodup, hin⟩ := hs.pending_of_restoring hstage
      refine ⟨hconfined, hs.sent, fun k hk => hs.limited k (Finset.mem_of_mem_erase hk),
        (fun _ _ h => by cases h), hnodup, fun k hk => ?_, hgone⟩
      exact Finset.mem_erase.mpr ⟨fun heq => hnot (heq ▸ hk), hin k hk⟩
    | restoreFailed restore hstage =>
      obtain ⟨-, hnodup, hin⟩ := hs.pending_of_restoring hstage
      exact ⟨hconfined, hs.sent, hs.limited, (fun _ _ h => by cases h), hnodup, hin, hgone⟩

/-! ### Runs -/

/-- Discovery hands everything out. -/
theorem exists_run_delivered (parseHttpDate : List Char → Option DateTime) (rnd : ℚ → ℚ)
    (config : RouterConfig) (keys : List WeightedKey) (hevents : s.monitor.events = []) :
    ∃ tr, (traffic parseHttpDate (watchedWeighted rnd config) config keys .chat).Run s tr ∧
      (∀ p ∈ tr, p.1 = .monitor .delivered) ∧
      System.finalState s tr = { s with monitor := { s.monitor with
        initial := [], services := s.monitor.drained } } := by
  -- the keys that discovery starts with are handed out one by one
  generalize hinitial : s.monitor.initial = initial
  induction initial generalizing s with
  | nil =>
    refine ⟨[], .nil s, (fun p hp => by cases hp), ?_⟩
    have hdrained : s.monitor.drained = s.monitor.services := by
      unfold MonitorState.drained
      rw [hinitial, hevents]
      rfl
    rw [hdrained, ← hinitial]
    rfl
  | cons key initial ih =>
    have hdeliver : deliver s.monitor = { s.monitor with
        initial := initial, services := changeServices s.monitor.services (.insert key) } := by
      unfold deliver
      rw [hinitial]
    have hstep : TrafficStep parseHttpDate (watchedWeighted rnd config) config .chat s
        (.monitor .delivered) { s with monitor := deliver s.monitor } :=
      .act s .delivered _ trivial (.delivered _)
    have hevents' : (deliver s.monitor).events = [] := by rw [hdeliver]; exact hevents
    have hinitial' : (deliver s.monitor).initial = initial := by rw [hdeliver]
    obtain ⟨tr, hrun, hlabels, hfinal⟩ :=
      ih (s := { s with monitor := deliver s.monitor }) hevents' hinitial'
    refine ⟨_ :: tr, .cons hstep hrun, List.forall_mem_cons.mpr ⟨rfl, hlabels⟩, ?_⟩
    rw [System.finalState_cons, hfinal, drained_deliver, hdeliver]

/-- The balancer with everything that discovery has, in front of which one request was sent. -/
def requested (keys : List WeightedKey) (key : WeightedKey) : Traffic WeightedKey where
  monitor :=
    { unhealthyKeys := ∅, health := .idle, rateLimitedProviders := ∅, pendingRestores := [],
      rate := .idle, initial := [], events := []
      services := drain ∅ (keys.map Change.insert) }
  sent := [key]

/-- It gets there. -/
theorem exists_run_requested (parseHttpDate : List Char → Option DateTime) (rnd : ℚ → ℚ)
    (config : RouterConfig) {key : WeightedKey} (hkey : key ∈ keys) :
    ∃ tr, (traffic parseHttpDate (watchedWeighted rnd config) config keys .chat).Run
        (traffic parseHttpDate (watchedWeighted rnd config) config keys .chat).init tr ∧
      (∀ p ∈ tr, p.1 ≠ .monitor .healthInsertSent) ∧
      System.finalState (traffic parseHttpDate (watchedWeighted rnd config) config keys .chat).init
        tr = requested keys key := by
  obtain ⟨tr, hrun, hlabels, hfinal⟩ := exists_run_delivered parseHttpDate rnd config keys
    (s := (traffic parseHttpDate (watchedWeighted rnd config) config keys .chat).init) rfl
  have hdelivered : System.finalState
      (traffic parseHttpDate (watchedWeighted rnd config) config keys .chat).init tr =
        { requested keys key with sent := [] } := by
    rw [hfinal]
    simp [traffic, monitors, requested, MonitorState.drained]
  -- once all services are there, a request may go to any of them
  have hstep : TrafficStep parseHttpDate (watchedWeighted rnd config) config .chat
      { requested keys key with sent := [] } (.request .openAI key) (requested keys key) :=
    .request _ .openAI key rfl (mem_drain_inserts (Or.inr hkey))
  refine ⟨tr ++ [(.request .openAI key, requested keys key)], hrun.append ?_, ?_, ?_⟩
  · rw [hdelivered]
    exact .cons hstep (.nil _)
  · intro p hp
    rcases List.mem_append.mp hp with hp | hp
    · rw [hlabels p hp]
      exact fun h => by cases h
    · rw [List.mem_singleton.mp hp]
      exact fun h => by cases h
  · rw [System.finalState_append, System.finalState_cons]
    rfl

/-- A dispatcher is answered with a 429. -/
theorem concerns_requested {key : WeightedKey} {apiEndpoint : ApiEndpoint}
    (hprovider : key.provider = apiEndpoint.provider) :
    Concerns (watchedWeighted rnd config) config .chat (requested keys key)
      (.rateLimited ⟨apiEndpoint, none, 0⟩) := by
  refine ⟨.openAI, rfl, key, List.mem_singleton_self _, ?_⟩
  show ApiEndpoint.openAI.mapped key.provider = .ok apiEndpoint
  rw [hprovider]
  cases apiEndpoint <;> rfl

/-- It is, and the monitor of the rate limits receives the answer. -/
theorem step_received {key : WeightedKey} {apiEndpoint : ApiEndpoint}
    (hprovider : key.provider = apiEndpoint.provider) :
    TrafficStep parseHttpDate (watchedWeighted rnd config) config .chat (requested keys key)
      (.monitor (.rateLimited ⟨apiEndpoint, none, 0⟩))
      ⟨receiveEvent (weightedMonitor rnd config) (requested keys key).monitor
        ⟨apiEndpoint, none, 0⟩, [key]⟩ :=
  .act _ _ _ (concerns_requested hprovider) (.rateLimited _ _ rfl)

/-- If no key is made, the monitor has failed, with the provider in the balancer. -/
theorem not_leaves_of_none {key : WeightedKey} {apiEndpoint : ApiEndpoint}
    (hcreate : createWeightedKey rnd config apiEndpoint = none) {sent : List WeightedKey} :
    ¬Leaves (requested keys key) (.monitor (.rateLimited ⟨apiEndpoint, none, 0⟩))
      ⟨receiveEvent (weightedMonitor rnd config) (requested keys key).monitor
        ⟨apiEndpoint, none, 0⟩, sent⟩ := by
  have hfailed : receiveEvent (weightedMonitor rnd config) (requested keys key).monitor
      ⟨apiEndpoint, none, 0⟩ = { (requested keys key).monitor with rate := .failed } := by
    unfold receiveEvent
    rw [show (weightedMonitor rnd config).createKeyForEndpoint apiEndpoint = none from hcreate]
  rw [hfailed]
  intro hleaves
  rcases hleaves.actedOn _ rfl with ⟨k, hk⟩ | ⟨k, hk, -⟩
  · exact absurd (mem_removedKeys.mp hk).1 (Finset.notMem_empty k)
  · cases hk

/-- The state in which a key is about to be removed. -/
def removing (keys : List WeightedKey) (key out : WeightedKey) (response : TooManyRequests) :
    Traffic WeightedKey where
  monitor := { (requested keys key).monitor with rate := .removing out response }
  sent := [key]

theorem receiveEvent_requested {key out : WeightedKey} {response : TooManyRequests}
    (hcreate : createWeightedKey rnd config response.apiEndpoint = some out) :
    receiveEvent (weightedMonitor rnd config) (requested keys key).monitor response =
      (removing keys key out response).monitor := by
  unfold receiveEvent
  rw [show (weightedMonitor rnd config).createKeyForEndpoint response.apiEndpoint = some out
    from hcreate]
  exact if_neg (Finset.notMem_empty out)

/-- If another key is removed than the one that was answered, that one stays. -/
theorem eq_of_gone_removing {key out : WeightedKey} (hkey : key ∈ keys)
    {response : TooManyRequests} (hprovider : out.provider = key.provider)
    (hgone : Gone (scheduleRestore parseHttpDate (weightedMonitor rnd config)
      ((removing keys key out response).monitor.send (.remove out)) out response)) : out = key := by
  obtain ⟨hdrained, hlimited, -, -⟩ := scheduleRestore_weighted parseHttpDate rnd config
    ((removing keys key out response).monitor.send (.remove out)) out response
  by_contra hne
  have hstays : key ∈ (scheduleRestore parseHttpDate (weightedMonitor rnd config)
      ((removing keys key out response).monitor.send (.remove out)) out response).drained := by
    rw [hdrained, drained_send]
    exact Finset.mem_erase.mpr ⟨fun heq => hne heq.symm, mem_drain_inserts (Or.inr hkey)⟩
  have hout := removedKeys_eq_empty_iff.mp (hgone key hstays) out
    (hlimited.symm ▸ Finset.mem_insert_self _ _)
  exact hout hprovider

/-- **The runs that tell.** A dispatcher is answered with a 429 at once; its key is the one that is
removed, or else its provider has not left. -/
theorem createWeightedKey_of_leaves {key : WeightedKey} (hkey : key ∈ keys)
    (apiEndpoint : ApiEndpoint) (hprovider : key.provider = apiEndpoint.provider)
    (h : ∀ tr, (traffic parseHttpDate (watchedWeighted rnd config) config keys .chat).Run
        (traffic parseHttpDate (watchedWeighted rnd config) config keys .chat).init tr →
      (∀ p ∈ tr, p.1 ≠ .monitor .healthInsertSent) →
      System.AllSteps Leaves
        (traffic parseHttpDate (watchedWeighted rnd config) config keys .chat).init tr) :
    createWeightedKey rnd config apiEndpoint = some key := by
  obtain ⟨tr, hrun, hlabels, hfinal⟩ :=
    exists_run_requested parseHttpDate rnd config hkey
  -- whatever follows the request has the property as well
  have hafter : ∀ tr', (traffic parseHttpDate (watchedWeighted rnd config) config keys .chat).Run
      (requested keys key) tr' → (∀ p ∈ tr', p.1 ≠ .monitor .healthInsertSent) →
      System.AllSteps Leaves (requested keys key) tr' := by
    intro tr' hrun' hlabels'
    rw [← hfinal] at hrun' ⊢
    refine (System.allSteps_append.mp (h _ (hrun.append hrun') fun p hp => ?_)).2
    exact (List.mem_append.mp hp).elim (hlabels p) (hlabels' p)
  have hreceived : TrafficStep parseHttpDate (watchedWeighted rnd config) config .chat
      (requested keys key) (.monitor (.rateLimited ⟨apiEndpoint, none, 0⟩)) _ :=
    step_received hprovider
  cases hcreate : createWeightedKey rnd config apiEndpoint with
  | none =>
    have hleaves := (hafter _ (.cons hreceived (.nil _))
      (by rintro p hp; rw [List.mem_singleton.mp hp]; exact fun h => by cases h)).1
    exact absurd hleaves (not_leaves_of_none hcreate)
  | some out =>
    have hremoving : receiveEvent (weightedMonitor rnd config) (requested keys key).monitor
        ⟨apiEndpoint, none, 0⟩ = (removing keys key out ⟨apiEndpoint, none, 0⟩).monitor :=
      receiveEvent_requested hcreate
    rw [hremoving] at hreceived
    have hsent : TrafficStep parseHttpDate (watchedWeighted rnd config) config .chat
        (removing keys key out ⟨apiEndpoint, none, 0⟩) (.monitor .rateRemoveSent) _ :=
      .act _ _ _ trivial (.rateRemoveSent _ out _ rfl (Nat.succ_pos 15))
    have hleaves := (hafter _ (.cons hreceived (.cons hsent (.nil _)))
      (by
        rintro p hp
        rcases List.mem_cons.mp hp with rfl | hp
        · exact fun h => by cases h
        · rw [List.mem_singleton.mp hp]
          exact fun h => by cases h)).2.1
    exact congrArg some (eq_of_gone_removing hkey
      ((target_of_createWeightedKey hcreate).1.trans hprovider.symm) hleaves.gone)

/-- **A rate limited provider leaves entirely**, in all runs in which the health monitor is calm
and in no others, exactly if the router lists each provider for chat with one weight. -/
theorem leaves_iff (parseHttpDate : List Char → Option DateTime) (rnd : ℚ → ℚ)
    (config : RouterConfig) {keys : List WeightedKey}
    (hkeys : WeightedKey.configured rnd config = some keys) :
    (∀ tr, (traffic parseHttpDate (watchedWeighted rnd config) config keys .chat).Run
        (traffic parseHttpDate (watchedWeighted rnd config) config keys .chat).init tr →
      (System.AllSteps Leaves
          (traffic parseHttpDate (watchedWeighted rnd config) config keys .chat).init tr ↔
        System.AllSteps Calm
          (traffic parseHttpDate (watchedWeighted rnd config) config keys .chat).init tr)) ↔
      OneWeightEach rnd config := by
  rw [← matchesRemoval_iff hkeys]
  constructor
  · intro h apiEndpoint key hkey hprovider
    refine createWeightedKey_of_leaves hkey apiEndpoint hprovider fun tr hrun hlabels =>
      (h tr hrun).mpr ?_
    exact System.allSteps_of_forall_label (fun _ _ _ hlabel h => absurd h hlabel) hlabels
  · intro hmatch tr hrun
    exact hrun.allSteps_iff (fun _ _ _ hs hstep => hs.leaves_step_iff hmatch hstep)
      (fun _ _ _ hs hstep hcalm =>
        hs.step hkeys hstep ((hs.leaves_step_iff hmatch hstep).mpr hcalm).gone)
      departureInv_init

end Runs

/-! ### A provider with two weights -/

/-- A quarter and three quarters of the traffic. -/
def quarter : Weight := ⟨2500, Nat.le_of_ble_eq_true rfl⟩

def threeQuarters : Weight := ⟨7500, Nat.le_of_ble_eq_true rfl⟩

theorem quarters_ne : (⟨.openAI, 1 / 4⟩ : BalanceTarget) ≠ ⟨.anthropic, 3 / 4⟩ := by
  decide +kernel

/-- A router with one weight for each of its providers. -/
def sharedConfig : RouterConfig :=
  twoTargets ⟨.openAI, 1 / 4⟩ ⟨.anthropic, 3 / 4⟩ quarters_ne

/-- OpenAI, behind a quarter of the traffic. -/
def openAIQuarter : WeightedKey := ⟨.openAI, .chat, quarter⟩

def sharedTraffic : System (Traffic WeightedKey) (TrafficAction WeightedKey) :=
  traffic (fun _ => none) (watchedWeighted id sharedConfig) sharedConfig
    [openAIQuarter, ⟨.anthropic, .chat, threeQuarters⟩] .chat

/-- What discovery inserts for these providers is what is removed for them. -/
theorem matchesRemoval_shared :
    MatchesRemoval id sharedConfig [openAIQuarter, ⟨.anthropic, .chat, threeQuarters⟩] := by
  intro apiEndpoint key hkey hprovider
  rcases List.mem_cons.mp hkey with rfl | hkey
  · obtain rfl : apiEndpoint = .openAI := by cases apiEndpoint <;> first | rfl | cases hprovider
    decide +kernel
  · obtain rfl := List.mem_singleton.mp hkey
    obtain rfl : apiEndpoint = .anthropic := by cases apiEndpoint <;> first | rfl | cases hprovider
    decide +kernel

/-- OpenAI leaves entirely, and comes back. -/
theorem leaves_iff_shared :
    ∃ tr, tr.length = 7 ∧ System.AllSteps Leaves sharedTraffic.init tr := by
  have hcreate : createWeightedKey id sharedConfig .openAI = some openAIQuarter := by
    decide +kernel
  have hreceived : ∀ s : Traffic WeightedKey, openAIQuarter ∉ s.monitor.rateLimitedProviders →
      openAIQuarter ∈ s.sent → s.monitor.rate = .idle →
      sharedTraffic.step s (.monitor (.rateLimited openAITooManyRequests))
        { s with monitor :=
          { s.monitor with rate := .removing openAIQuarter openAITooManyRequests } } := by
    -- a request was sent to the provider that answers
    intro s hout hsent hidle
    have hstep : MonitorStep (fun _ => none) (weightedMonitor id sharedConfig) s.monitor
        (.rateLimited openAITooManyRequests) _ :=
      .rateLimited s.monitor openAITooManyRequests hidle
    unfold receiveEvent at hstep
    rw [show (weightedMonitor id sharedConfig).createKeyForEndpoint
      openAITooManyRequests.apiEndpoint = some openAIQuarter from hcreate] at hstep
    dsimp only at hstep
    rw [if_neg hout] at hstep
    exact .act s _ _ ⟨.openAI, rfl, openAIQuarter, hsent, rfl⟩ hstep
  have hrun : sharedTraffic.Run sharedTraffic.init _ :=
    .cons (.act _ .delivered _ trivial (.delivered _)) <|
    .cons (.act _ .delivered _ trivial (.delivered _)) <|
    .cons (.request _ .openAI openAIQuarter rfl (by decide +kernel)) <|
    .cons (hreceived _ (Finset.notMem_empty _) (List.mem_singleton_self _) rfl) <|
    .cons (.act _ .rateRemoveSent _ trivial
      (.rateRemoveSent _ openAIQuarter openAITooManyRequests rfl (by decide +kernel))) <|
    .cons (.act _ (.timerFired ⟨openAIQuarter, .openAI, openAIRestore.timer⟩) _ trivial
      (.timerFired _ [] [] ⟨openAIQuarter, .openAI, openAIRestore.timer⟩ rfl rfl)) <|
    .cons (.act _ .restoreSent _ trivial
      (.restoreSent _ ⟨openAIQuarter, .openAI, openAIRestore.timer⟩ rfl (by decide +kernel))) <|
    .nil _
  have hkeys : WeightedKey.configured id sharedConfig =
      some [openAIQuarter, ⟨.anthropic, .chat, threeQuarters⟩] := by decide +kernel
  refine ⟨_, ?_, ((leaves_iff (fun _ => none) id _ hkeys).mpr
    ((matchesRemoval_iff hkeys).mp matchesRemoval_shared) _ hrun).mpr ?_⟩
  · rfl
  · exact ⟨by rintro ⟨⟩, by rintro ⟨⟩, by rintro ⟨⟩, by rintro ⟨⟩, by rintro ⟨⟩, by rintro ⟨⟩,
      by rintro ⟨⟩, trivial⟩

/-- **A provider with two weights stays.** OpenAI is listed twice, and the router is valid. -/
theorem leaves_fails : ¬ ∀ (parseHttpDate : List Char → Option DateTime) (config : RouterConfig)
    (keys : List WeightedKey), config.validate = .ok () →
      WeightedKey.configured id config = some keys →
      ∀ tr, (traffic parseHttpDate (watchedWeighted id config) config keys .chat).Run
          (traffic parseHttpDate (watchedWeighted id config) config keys .chat).init tr →
        System.AllSteps Leaves
          (traffic parseHttpDate (watchedWeighted id config) config keys .chat).init tr := by
  intro h
  have hall := h (fun _ => none) (twoTargets ⟨.openAI, 1 / 4⟩ ⟨.openAI, 3 / 4⟩ (by decide +kernel))
    [⟨.openAI, .chat, quarter⟩, ⟨.openAI, .chat, threeQuarters⟩]
    (validate_twoTargets (by norm_num)) (by decide +kernel)
  have hmem : (⟨.openAI, .chat, threeQuarters⟩ : WeightedKey) ∈
      [⟨.openAI, .chat, quarter⟩, ⟨.openAI, .chat, threeQuarters⟩] := by decide
  have hsecond := createWeightedKey_of_leaves hmem .openAI rfl fun tr hrun _ => hall tr hrun
  exact absurd hsecond (by decide +kernel)

end AiGateway.Wiring
