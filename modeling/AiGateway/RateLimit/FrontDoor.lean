import AiGateway.ControlPlane.Client
import AiGateway.Framework.Projection
import AiGateway.RateLimit.Layer
import AiGateway.RateLimit.Shared
import Mathlib.Data.Multiset.AddSub

/-!
# The front door

Authentication and the limiters, as `build_service_stack` of `app.rs` and the router put them
before everything else, while the control plane changes the keys. A request is authenticated by the
keys that are there when it comes; then it waits at the limiters on its way, one after the other.
Updates, other requests, and whatever makes a request leave without an answer of a limiter (a cache
that has the answer, a client that hangs up) come at any time in between.

The limiters are those that keep their entries in Redis, all in one, as in `sharedRedis`; those that
keep their own state, which is the default, are not among them.

* `times_add_waiting_le`: what has been seen of a user at a limiter, with what still waits for it,
  is no more than what has come with a key of this user;
* `charged_of_frontDoor`: who is charged, in every run;
* `revoked_of_frontDoor`: once no key of a user is listed, only what was waiting is still charged.
-/

namespace AiGateway

open Transition Http Cache ControlPlane

/-! ### The limiters on the way -/

namespace Limits

/-- The Redis limiter of a layer, if that is what it is. -/
def App.redisLayer? (app : App) : Middleware → Option RedisRateLimitLayer
  | .limiter scope =>
    match app.inner scope with
    | .redis layer => some layer
    | _ => none
  | .cache _ => none

/-- The Redis limiters on the way of a request, from the outside in. -/
def App.redisLayers (app : App) (route : Route) : List RedisRateLimitLayer :=
  (app.layers route).filterMap app.redisLayer?

/-- The scopes of the limiters on the way of a request. -/
def App.scopes (app : App) (route : Route) : List (Option RouterId) :=
  (app.redisLayers route).map (·.routerId)

/-- The layer that has a scope. -/
def scopeOf : Option RouterId → Scope
  | some id => .router id
  | none => .global

/-- The quota of a scope. -/
def App.quota (app : App) (routerId : Option RouterId) : GcraConfig :=
  match app.inner (scopeOf routerId) with
  | .redis layer => layer.config.perApiKey
  | _ => GcraConfig.default

/-- **Every layer has the scope that it is made for.** -/
def App.WellScoped (app : App) : Prop :=
  ∀ routerId layer, app.inner (scopeOf routerId) = .redis layer → layer.routerId = routerId

/-- The limiters are those of the gateway and of configured routers. -/
def App.ScopedBy (app : App) (routing : RoutingConfig) : Prop :=
  ∀ routerId layer, app.inner (scopeOf routerId) = .redis layer → routing.IsScope routerId

section Made

variable {env : Env}

theorem routerId_of_new {config : LimitsConfig} {url : String} {routerId : Option RouterId}
    {layer : RedisRateLimitLayer}
    (h : RedisRateLimitLayer.new env config url routerId = .ok layer) :
    layer.routerId = routerId := by
  unfold RedisRateLimitLayer.new at h
  split at h
  · cases h
    rfl
  · cases h

theorem routerId_of_globalLayer {config : Config} {layer : RedisRateLimitLayer}
    (h : globalLayer env config = .redis layer) : layer.routerId = none := by
  unfold globalLayer at h
  split at h
  · split at h
    · unfold newRedisInner at h
      split at h
      · split at h
        · next hnew =>
          cases h
          exact routerId_of_new hnew
        · cases h
      · cases h
    · unfold newInMemoryInner at h
      split at h <;> cases h
  · cases h

/-- A limiter that keeps its own state is none in Redis. -/
theorem inMemoryLayer_ne_redis {limits : LimitsConfig} {layer : RedisRateLimitLayer} :
    inMemoryLayer limits ≠ .ok (.redis layer) := by
  intro h
  obtain ⟨rl, -, h⟩ := Except.bind_eq_ok_iff.mp h
  cases h

theorem routerId_of_perRouter {store : RateLimitStore} {id : RouterId}
    {config : RouterRateLimitConfig} {layer : RedisRateLimitLayer}
    (h : perRouter env store id config = .ok (.redis layer)) : layer.routerId = some id := by
  unfold perRouter at h
  split at h
  · cases h
  · split at h
    · split at h
      · next hnew =>
        cases h
        exact routerId_of_new hnew
      · exact absurd h inMemoryLayer_ne_redis
    · exact absurd h inMemoryLayer_ne_redis

theorem routerId_of_newRouters {store : RateLimitStore}
    {configs : List (RouterId × RouterRateLimitConfig)} {layers : List (RouterId × InnerLayer)}
    (h : newRouters env store configs = .ok layers) {id : RouterId} {layer : RedisRateLimitLayer}
    (hlookup : layers.lookup id = some (.redis layer)) : layer.routerId = some id := by
  induction configs generalizing layers with
  | nil =>
    cases h
    cases hlookup
  | cons p configs ih =>
    obtain ⟨first, hfirst, h⟩ := Except.bind_eq_ok_iff.mp h
    obtain ⟨rest, hrest, h⟩ := Except.bind_eq_ok_iff.mp h
    cases h
    by_cases hid : id = p.1
    · subst hid
      rw [List.lookup_cons_self] at hlookup
      obtain rfl := Option.some.inj hlookup
      exact routerId_of_perRouter hfirst
    · rw [List.lookup_cons, beq_eq_false_iff_ne.mpr hid] at hlookup
      exact ih hrest hlookup

/-- **A gateway that is started is well scoped.** -/
theorem wellScoped_of_new {config : Config} {app : App} (h : App.new env config = .ok app) :
    app.WellScoped := by
  obtain ⟨-, -, h⟩ := Except.bind_eq_ok_iff.mp h
  obtain ⟨routers, hrouters, h⟩ := Except.bind_eq_ok_iff.mp h
  cases h
  intro routerId layer hlayer
  cases routerId with
  | none => exact routerId_of_globalLayer hlayer
  | some id =>
    cases hlookup : routers.lookup id with
    | none =>
      have hinner : (routers.lookup id).getD .none = .redis layer := hlayer
      rw [hlookup] at hinner
      cases hinner
    | some inner =>
      have hinner : (routers.lookup id).getD .none = .redis layer := hlayer
      rw [hlookup, Option.getD_some] at hinner
      rw [hinner] at hlookup
      exact routerId_of_newRouters hrouters hlookup

theorem map_fst_newRouters {store : RateLimitStore}
    {configs : List (RouterId × RouterRateLimitConfig)} {layers : List (RouterId × InnerLayer)}
    (h : newRouters env store configs = .ok layers) :
    layers.map Prod.fst = configs.map Prod.fst := by
  induction configs generalizing layers with
  | nil =>
    cases h
    rfl
  | cons p configs ih =>
    obtain ⟨first, -, h⟩ := Except.bind_eq_ok_iff.mp h
    obtain ⟨rest, hrest, h⟩ := Except.bind_eq_ok_iff.mp h
    cases h
    exact congrArg (p.1 :: ·) (ih hrest)

/-- **A gateway that is started** has no limiters but those of its configuration. -/
theorem scopedBy_of_new {config : Config} {app : App} (h : App.new env config = .ok app)
    {routing : RoutingConfig} (hids : ∀ p ∈ config.routers, p.1 ∈ routing.routerIds) :
    app.ScopedBy routing := by
  obtain ⟨-, -, h⟩ := Except.bind_eq_ok_iff.mp h
  obtain ⟨routers, hrouters, h⟩ := Except.bind_eq_ok_iff.mp h
  cases h
  rintro routerId layer hlayer id ⟨⟩
  cases hlookup : routers.lookup id with
  | none =>
    have hinner : (routers.lookup id).getD .none = .redis layer := hlayer
    rw [hlookup] at hinner
    cases hinner
  | some inner =>
    -- what is looked up is among the routers of the configuration
    obtain ⟨before, after, rfl, -⟩ := List.lookup_eq_some_iff.mp hlookup
    have hmem : id ∈ config.routers.map Prod.fst := by
      rw [← map_fst_newRouters hrouters]
      exact List.mem_map.mpr ⟨(id, inner), by simp, rfl⟩
    obtain ⟨p, hp, rfl⟩ := List.mem_map.mp hmem
    exact hids p hp

end Made

section Layers

variable {app : App}

theorem inner_of_redisLayer? {scope : Scope} {layer : RedisRateLimitLayer}
    (h : app.redisLayer? (.limiter scope) = some layer) : app.inner scope = .redis layer := by
  unfold App.redisLayer? at h
  dsimp only at h
  split at h
  · next hinner =>
    obtain rfl := Option.some.inj h
    exact hinner
  · cases h

/-- On the way of a request are the limiter of the gateway and, at most, that of one router. -/
theorem redisLayers_eq (app : App) (route : Route) : ∃ own : Option RedisRateLimitLayer,
    app.redisLayers route = (app.redisLayer? (.limiter .global)).toList ++ own.toList ∧
      ∀ layer ∈ own, ∃ id, app.redisLayer? (.limiter (.router id)) = some layer := by
  have hservice : ∃ own : Option RedisRateLimitLayer,
      (app.service route).filterMap app.redisLayer? = own.toList ∧
        ∀ layer ∈ own, ∃ id, app.redisLayer? (.limiter (.router id)) = some layer := by
    -- the caches are no limiters
    have hrouter : ∀ id (layers : List Middleware), layers.filterMap app.redisLayer? =
        [Middleware.limiter (.router id)].filterMap app.redisLayer? →
        ∃ own : Option RedisRateLimitLayer, layers.filterMap app.redisLayer? = own.toList ∧
          ∀ layer ∈ own, ∃ id, app.redisLayer? (.limiter (.router id)) = some layer := by
      intro id layers hlayers
      refine ⟨app.redisLayer? (.limiter (.router id)), ?_, fun layer hlayer => ⟨id, hlayer⟩⟩
      rw [hlayers, List.filterMap_cons, List.filterMap_nil]
      cases app.redisLayer? (.limiter (.router id)) <;> rfl
    unfold App.service
    cases route with
    | endpoint id =>
      dsimp only
      split
      · exact hrouter id _ rfl
      · exact ⟨none, rfl, nofun⟩
    | direct id =>
      dsimp only
      split
      · exact hrouter id _ (by rw [List.filterMap_cons, List.filterMap_cons]; rfl)
      · exact ⟨none, rfl, nofun⟩
    | unifiedApi => exact ⟨none, rfl, nofun⟩
    | directProxy => exact ⟨none, rfl, nofun⟩
  obtain ⟨own, hown, hrouters⟩ := hservice
  refine ⟨own, ?_, hrouters⟩
  unfold App.redisLayers App.layers
  rw [List.filterMap_cons]
  cases app.redisLayer? (.limiter .global) with
  | none => exact hown
  | some layer => exact congrArg (layer :: ·) hown

/-- The limiters on the way are those of their scopes. -/
theorem inner_of_mem_redisLayers (h : app.WellScoped) {route : Route}
    {layer : RedisRateLimitLayer} (hlayer : layer ∈ app.redisLayers route) :
    app.inner (scopeOf layer.routerId) = .redis layer := by
  have hscoped : ∀ routerId, app.inner (scopeOf routerId) = .redis layer →
      app.inner (scopeOf layer.routerId) = .redis layer := by
    intro routerId hinner
    rw [h routerId layer hinner]
    exact hinner
  obtain ⟨own, heq, hown⟩ := redisLayers_eq app route
  rw [heq] at hlayer
  rcases List.mem_append.mp hlayer with hlayer | hlayer
  · exact hscoped none (inner_of_redisLayer? (Option.mem_toList.mp hlayer))
  · obtain ⟨id, hid⟩ := hown layer (Option.mem_toList.mp hlayer)
    exact hscoped (some id) (inner_of_redisLayer? hid)

theorem quota_of_inner {layer : RedisRateLimitLayer}
    (h : app.inner (scopeOf layer.routerId) = .redis layer) :
    app.quota layer.routerId = layer.config.perApiKey := by
  unfold App.quota
  rw [h]

/-- **No scope comes twice** on the way of a request. -/
theorem nodup_scopes (h : app.WellScoped) (route : Route) : (app.scopes route).Nodup := by
  obtain ⟨own, heq, hown⟩ := redisLayers_eq app route
  unfold App.scopes
  rw [heq]
  cases hglobal : app.redisLayer? (.limiter .global) with
  | none => cases own <;> simp
  | some global =>
    cases own with
    | none => simp
    | some layer =>
      obtain ⟨id, hid⟩ := hown layer rfl
      have hnone : global.routerId = none := h none global (inner_of_redisLayer? hglobal)
      have hsome : layer.routerId = some id := h (some id) layer (inner_of_redisLayer? hid)
      simp [hnone, hsome]

end Layers

end Limits

/-! ### The system -/

open Limits

/-- What stands before everything else. -/
structure Entrance (Message : Type) where
  fromSlice : Message → Option MessageTypeRX
  sha256 : Bytes → Bytes
  parseUuid : String → Option String
  features : HeliconeFeatures
  routing : RoutingConfig
  app : App
  wellScoped : app.WellScoped
  scopedBy : app.ScopedBy routing

/-- A request that comes. -/
structure Arrival where
  headers : HeaderMap
  route : Route
  /-- The time that the timer has put into the request. -/
  now : Timestamp

/-- A request that has passed authentication. -/
structure Waiting (app : App) where
  authContext : Option AuthContext
  now : Timestamp
  /-- The limiters that it has yet to pass. -/
  ahead : List RedisRateLimitLayer
  inner : ∀ layer ∈ ahead, app.inner (scopeOf layer.routerId) = .redis layer
  nodup : (ahead.map (·.routerId)).Nodup

/-- The request behind the next limiter. -/
def Waiting.pass {app : App} (w : Waiting app) : Waiting app where
  authContext := w.authContext
  now := w.now
  ahead := w.ahead.tail
  inner layer hlayer := w.inner layer (List.mem_of_mem_tail hlayer)
  nodup := by
    rw [List.map_tail]
    exact w.nodup.tail

/-- A request whose `SETEX` has been sent. -/
structure Writing (app : App) where
  write : Write
  /-- The request behind the limiter, unless the header arithmetic panics. -/
  onward : List (Waiting app)

structure DoorState (app : App) where
  client : ClientState
  metrics : AuthMetrics
  waiting : List (Waiting app)
  writing : List (Writing app)
  entries : List Char → Option Entry

namespace DoorState

variable {app : App}

/-- What Redis has, and what is on its way to it. -/
def redis (s : DoorState app) : SharedState := ⟨s.entries, s.writing.map Writing.write⟩

/-- The requests that have passed authentication. -/
def inside (s : DoorState app) : List (Waiting app) := s.waiting ++ s.writing.flatMap Writing.onward

/-- What becomes of a request once its `GET` has returned: it is answered, or its write is sent. -/
def read (s : DoorState app) (others : List (Waiting app)) (w : Waiting app) (key : List Char) :
    AfterGet → DoorState app
  | .respond _ => { s with waiting := others }
  | .setEx e o =>
    { s with
      waiting := others
      writing := ⟨⟨key, e⟩, if o.isAdmitted then [w.pass] else []⟩ :: s.writing }

end DoorState

inductive DoorAction (Message : Type)
  /-- The task that follows the control plane takes a step. -/
  | control (a : ClientAction Message)
  | arrive (req : Arrival)
  | redis (m : SharedMessage)
  | leave

section System

variable {Message : Type} (e : Entrance Message)

/-- Authentication. Whoever passes waits at the first limiter. -/
def Entrance.enter (config : ControlPlane.Config) (req : Arrival) (metrics : AuthMetrics) :
    List (Waiting e.app) :=
  match (authorize e.sha256 e.parseUuid e.features config req.headers metrics).1 with
  | .ok authContext =>
    [⟨authContext, req.now, e.app.redisLayers req.route,
      fun _ hlayer => inner_of_mem_redisLayers e.wellScoped hlayer,
      nodup_scopes e.wellScoped req.route⟩]
  | .error _ => []

/-- **The steps at the front door.** -/
inductive DoorStep : DoorState e.app → DoorAction Message → DoorState e.app → Prop
  | control (s : DoorState e.app) (a : ClientAction Message) (client : ClientState) :
      ClientStep e.fromSlice s.client a client →
      DoorStep s (.control a) { s with client := client }
  | arrive (s : DoorState e.app) (req : Arrival) :
      DoorStep s (.arrive req)
        { s with
          metrics := (authorize e.sha256 e.parseUuid e.features s.client.state.config req.headers
            s.metrics).2
          waiting := e.enter s.client.state.config req s.metrics ++ s.waiting }
  /-- Any request that waits may be the next one at its limiter. -/
  | get (s : DoorState e.app) (before after : List (Waiting e.app)) (w : Waiting e.app)
      (layer : RedisRateLimitLayer) (ahead : List RedisRateLimitLayer) (key : List Char) :
      s.waiting = before ++ w :: after → w.ahead = layer :: ahead →
      getRedisRlKey w.authContext layer.routerId = .ok key →
      DoorStep s (.redis (.get ⟨layer.routerId, w.authContext, w.now⟩))
        (s.read (before ++ after) w key
          (afterGet layer.config.perApiKey (get (s.entries key) w.now.ms) w.now.ms))
  /-- Without a user, it fails there. -/
  | failed (s : DoorState e.app) (before after : List (Waiting e.app)) (w : Waiting e.app)
      (layer : RedisRateLimitLayer) (ahead : List RedisRateLimitLayer) (error : InternalError) :
      s.waiting = before ++ w :: after → w.ahead = layer :: ahead →
      getRedisRlKey w.authContext layer.routerId = .error error →
      DoorStep s (.redis (.get ⟨layer.routerId, w.authContext, w.now⟩))
        { s with waiting := before ++ after }
  /-- Any write may be the next one. Its request goes on. -/
  | setEx (s : DoorState e.app) (before after : List (Writing e.app)) (x : Writing e.app) :
      s.writing = before ++ x :: after →
      DoorStep s (.redis (.setEx x.write))
        { s with
          waiting := x.onward ++ s.waiting
          writing := before ++ after
          entries := Function.update s.entries x.write.key (some x.write.entry) }
  | leave (s : DoorState e.app) (before after : List (Waiting e.app)) (w : Waiting e.app) :
      s.waiting = before ++ w :: after →
      DoorStep s .leave { s with waiting := before ++ after }

/-- The front door of a gateway whose client has just connected. -/
def frontDoor (state : ControlPlaneState) : System (DoorState e.app) (DoorAction Message) where
  init := ⟨⟨state, .reading⟩, ⟨0, 0⟩, [], [], fun _ => none⟩
  step := DoorStep e

/-- The message that Redis executes. -/
def DoorAction.message? : DoorAction Message → Option SharedMessage
  | .redis m => some m
  | _ => none

/-- What Redis sees of a run. -/
def messagesIn {app : App} (tr : List (DoorAction Message × DoorState app)) :
    List (SharedMessage × SharedState) :=
  System.project DoorAction.message? DoorState.redis tr

/-- The message that is taken in. -/
def DoorAction.taken : DoorAction Message → Option MessageTypeRX
  | .control a => a.taken
  | _ => none

/-- The messages that are taken in. -/
def DoorAction.takenIn (as : List (DoorAction Message)) : List MessageTypeRX :=
  as.filterMap DoorAction.taken

end System

/-! ### Who comes, who waits and who is seen -/

section Accounts

variable {Message : Type} (e : Entrance Message) (c : Consumer) {app : App}

/-- Whose key the headers hold, by a list of keys. -/
def Entrance.ownerOf (keys : List ControlPlane.Key) (organizationId : String)
    (headers : HeaderMap) : Option String := do
  let apiKey ← apiKeyOf headers
  let key ← keys.find? fun k => k.keyHash = hashKey e.sha256 (Text.remove bearer apiKey)
  let _ ← e.parseUuid organizationId
  e.parseUuid key.ownerId

/-- What an action brings to a limiter for a user: the time of a request with a key of the user. -/
def Entrance.brings (keys : List ControlPlane.Key) (organizationId : String) :
    DoorAction Message → Multiset ℤ
  | .arrive req =>
    if e.ownerOf keys organizationId req.headers = some c.userId ∧
        c.scope ∈ e.app.scopes req.route then {req.now.ms}
    else 0
  | _ => 0

/-- What some actions bring, while the keys change. -/
def Entrance.presented : List ControlPlane.Key → String → List (DoorAction Message) → Multiset ℤ
  | _, _, [] => 0
  | keys, organizationId, a :: as =>
    let taken := a.taken.toList
    e.brings c keys organizationId a +
      presented (lastOf MessageTypeRX.keys? keys taken)
        (lastOf MessageTypeRX.organizationId? organizationId taken) as

namespace Consumer

/-- A request of the user has yet to pass the limiter. -/
def Awaits (w : Waiting app) : Prop :=
  w.authContext.map AuthContext.userId = some c.userId ∧ c.scope ∈ w.ahead.map (·.routerId)

instance (w : Waiting app) : Decidable (c.Awaits w) :=
  inferInstanceAs (Decidable (_ ∧ _))

def awaited (w : Waiting app) : Multiset ℤ := if c.Awaits w then {w.now.ms} else 0

/-- The times of the requests that have yet to pass the limiter. -/
def waiting (ws : List (Waiting app)) : Multiset ℤ := (ws.map c.awaited).sum

/-- The time of a request that is the user's, at the limiter. -/
def seen (m : SharedMessage) : Multiset ℤ :=
  match c.sees m with
  | some now => {now.ms}
  | none => 0

@[simp] theorem waiting_nil : c.waiting ([] : List (Waiting app)) = 0 := rfl

@[simp] theorem waiting_cons (w : Waiting app) (ws : List (Waiting app)) :
    c.waiting (w :: ws) = c.awaited w + c.waiting ws := List.sum_cons

@[simp] theorem waiting_append (ws ws' : List (Waiting app)) :
    c.waiting (ws ++ ws') = c.waiting ws + c.waiting ws' := by
  unfold waiting
  rw [List.map_append, List.sum_append]

theorem coe_times_cons (m : SharedMessage) (s : SharedState)
    (tr : List (SharedMessage × SharedState)) :
    (c.times ((m, s) :: tr) : Multiset ℤ) = c.seen m + c.times tr := by
  unfold seen
  cases hm : c.sees m with
  | some now =>
    rw [times_cons_of_some hm]
    rfl
  | none => rw [times_cons_of_none hm, zero_add]

end Consumer

variable {c}

theorem consumer?_eq_some_iff {r : LimitedRequest} :
    r.consumer? = some c ↔
      r.scope = c.scope ∧ r.authContext.map AuthContext.userId = some c.userId := by
  obtain ⟨scope, authContext, now⟩ := r
  obtain ⟨scope', userId⟩ := c
  unfold LimitedRequest.consumer?
  cases authContext with
  | none => simp
  | some ctx => simp

/-- **A limiter sees a request once**: it is behind it then. -/
theorem seen_add_awaited_pass_le (w : Waiting app) {layer : RedisRateLimitLayer}
    {ahead : List RedisRateLimitLayer} (hahead : w.ahead = layer :: ahead) :
    c.seen (.get ⟨layer.routerId, w.authContext, w.now⟩) + c.awaited w.pass ≤ c.awaited w := by
  have htail : w.pass.ahead = ahead := congrArg List.tail hahead
  unfold Consumer.seen Consumer.awaited Consumer.sees
  by_cases hr : (LimitedRequest.mk layer.routerId w.authContext w.now).consumer? = some c
  · -- the limiter is behind it, and comes no second time
    obtain ⟨hscope, huser⟩ := consumer?_eq_some_iff.mp hr
    have hnodup := w.nodup
    rw [hahead, List.map_cons, List.nodup_cons] at hnodup
    have hpass : ¬ c.Awaits w.pass := by
      rintro ⟨-, hmem⟩
      rw [htail, ← hscope] at hmem
      exact hnodup.1 hmem
    have hawaits : c.Awaits w := by
      refine ⟨huser, ?_⟩
      rw [hahead, List.map_cons, ← hscope]
      exact List.mem_cons_self
    dsimp only
    rw [if_pos hr, if_neg hpass, if_pos hawaits, add_zero]
  -- this limiter does not look at it, so what awaits it is as before
  · dsimp only
    rw [if_neg hr, zero_add]
    by_cases hpass : c.Awaits w.pass
    · obtain ⟨huser, hmem⟩ := hpass
      have hawaits : c.Awaits w := by
        refine ⟨huser, ?_⟩
        rw [hahead, List.map_cons]
        rw [htail] at hmem
        exact List.mem_cons_of_mem _ hmem
      rw [if_pos hawaits, if_pos ⟨huser, hmem⟩]
      exact le_refl _
    · rw [if_neg hpass]
      exact Multiset.zero_le _

/-- A request that has been read, on its own. -/
theorem seen_add_waiting_read_le (s : DoorState app) (others : List (Waiting app))
    (w : Waiting app) {layer : RedisRateLimitLayer} {ahead : List RedisRateLimitLayer}
    (hahead : w.ahead = layer :: ahead) (key : List Char) (rest : AfterGet) :
    c.seen (.get ⟨layer.routerId, w.authContext, w.now⟩) +
        c.waiting (s.read others w key rest).inside ≤
      c.awaited w + (c.waiting others + c.waiting (s.writing.flatMap Writing.onward)) := by
  have hpass := seen_add_awaited_pass_le (c := c) w hahead
  have hseen : c.seen (.get ⟨layer.routerId, w.authContext, w.now⟩) ≤ c.awaited w :=
    (Multiset.le_add_right _ _).trans hpass
  unfold DoorState.inside
  cases rest with
  | respond o =>
    rw [Consumer.waiting_append]
    exact add_le_add_left hseen _
  | setEx e o =>
    dsimp only [DoorState.read]
    rw [Consumer.waiting_append, List.flatMap_cons, Consumer.waiting_append]
    -- the request goes on, or it panics
    have honward : c.waiting (if o.isAdmitted then [w.pass] else []) ≤ c.awaited w.pass := by
      split
      · simp
      · exact Multiset.zero_le _
    rw [Multiset.le_iff_count] at hpass honward ⊢
    intro now
    have hcount := hpass now
    have hmore := honward now
    simp only [Multiset.count_add] at hcount ⊢
    omega

variable {e}

/-- Who passes authentication holds a key of the user. -/
theorem ownerOf_of_authorize {config : ControlPlane.Config} {headers : HeaderMap}
    {metrics : AuthMetrics} {ctx : AuthContext}
    (h : (authorize e.sha256 e.parseUuid e.features config headers metrics).1 = .ok (some ctx)) :
    e.ownerOf config.keys config.auth.organizationId headers = some ctx.userId := by
  have henabled : e.features.isAuthEnabled = true := by
    cases hfeatures : e.features with
    | none =>
      -- without authentication there is no user
      rw [hfeatures] at h
      cases h
    | auth => rfl
    | all => rfl
  obtain ⟨apiKey, ctx', hkey, hctx, hinner⟩ := (authorize_eq_ok_iff henabled).mp h
  obtain rfl := Option.some.inj hctx
  obtain ⟨⟨key, hfound, hower⟩, horg, -⟩ := authenticateRequestInner_eq_ok_iff.mp hinner
  unfold Entrance.ownerOf
  unfold Config.getKeyFromHash at hfound
  simp only [hkey, hfound, horg, hower, Option.bind_eq_bind, Option.bind_some]

theorem waiting_enter_le (config : ControlPlane.Config) (req : Arrival) (metrics : AuthMetrics) :
    c.waiting (e.enter config req metrics) ≤
      e.brings c config.keys config.auth.organizationId (.arrive req) := by
  unfold Entrance.enter
  split
  · next authContext hok =>
    rw [Consumer.waiting_cons, Consumer.waiting_nil, add_zero]
    unfold Consumer.awaited Entrance.brings
    split
    · next hawaits =>
      obtain ⟨huser, hscope⟩ := hawaits
      obtain ⟨ctx, rfl, hctx⟩ := Option.map_eq_some_iff.mp huser
      have howner := ownerOf_of_authorize hok
      rw [hctx] at howner
      exact (if_pos (And.intro howner hscope)).ge
    · exact Multiset.zero_le _
  · exact Multiset.zero_le _

variable {s s' : DoorState e.app} {a : DoorAction Message}

/-- **A step keeps the accounts**: what is seen has waited, and what waits has come. -/
theorem DoorStep.account (h : DoorStep e s a s') :
    a.message?.elim 0 c.seen + c.waiting s'.inside ≤ c.waiting s.inside +
      e.brings c s.client.state.config.keys s.client.state.config.auth.organizationId a := by
  cases h with
  -- the client moves no request
  | control a client hclient => exact le_of_eq (add_comm _ _)
  | arrive req =>
    -- who passes authentication has come with a key
    have henter := waiting_enter_le (e := e) (c := c) s.client.state.config req s.metrics
    unfold DoorState.inside
    dsimp only [DoorAction.message?, Option.elim]
    rw [zero_add, List.append_assoc, Consumer.waiting_append, add_comm]
    exact add_le_add_right henter _
  | get before after w layer ahead key hwaiting hahead hkey =>
    -- the request is seen, and stands behind the limiter or is gone
    have hread := seen_add_waiting_read_le (c := c) s (before ++ after) w hahead key
      (afterGet layer.config.perApiKey (AiGateway.get (s.entries key) w.now.ms) w.now.ms)
    dsimp only [DoorAction.message?, Option.elim, Entrance.brings]
    refine hread.trans (le_of_eq ?_)
    unfold DoorState.inside
    rw [hwaiting]
    simp only [Consumer.waiting_append, Consumer.waiting_cons, add_zero]
    abel
  | failed before after w layer ahead error hwaiting hahead herr =>
    have hseen := (Multiset.le_add_right _ _).trans (seen_add_awaited_pass_le (c := c) w hahead)
    dsimp only [DoorAction.message?, Option.elim, Entrance.brings]
    unfold DoorState.inside
    rw [hwaiting]
    simp only [Consumer.waiting_append, Consumer.waiting_cons, add_zero]
    refine (add_le_add_left hseen _).trans (le_of_eq ?_)
    abel
  | setEx before after x hwriting =>
    -- a write is nobody's request; its request waits again, for the next limiter
    have hseen : c.seen (.setEx x.write) = 0 := rfl
    dsimp only [DoorAction.message?, Option.elim, Entrance.brings]
    unfold DoorState.inside
    rw [hwriting, hseen]
    simp only [Consumer.waiting_append, List.flatMap_append, List.flatMap_cons, zero_add, add_zero]
    exact le_of_eq (by abel)
  | leave before after w hwaiting =>
    dsimp only [DoorAction.message?, Option.elim, Entrance.brings]
    unfold DoorState.inside
    rw [hwaiting]
    simp only [Consumer.waiting_append, Consumer.waiting_cons, zero_add, add_zero]
    refine (Multiset.le_add_right _ (c.awaited w)).trans (le_of_eq ?_)
    abel

/-- The keys are the last ones that were taken in. -/
theorem DoorStep.config_eq (h : DoorStep e s a s') :
    s'.client.state.config.keys = lastOf MessageTypeRX.keys? s.client.state.config.keys
        a.taken.toList ∧
      s'.client.state.config.auth.organizationId =
        lastOf MessageTypeRX.organizationId? s.client.state.config.auth.organizationId
          a.taken.toList := by
  cases h with
  | control a client hclient =>
    have hfollow := (ClientStep.spec hclient).1
    dsimp only [DoorAction.taken]
    rw [hfollow]
    cases a.taken with
    | none => exact ⟨rfl, rfl⟩
    | some m => exact ⟨keys_applyAll _ [m], organizationId_applyAll _ [m]⟩
  | arrive req => exact ⟨rfl, rfl⟩
  | get before after w layer ahead key hwaiting hahead hkey =>
    cases afterGet layer.config.perApiKey (AiGateway.get (s.entries key) w.now.ms) w.now.ms <;>
      exact ⟨rfl, rfl⟩
  | failed before after w layer ahead error hwaiting hahead herr => exact ⟨rfl, rfl⟩
  | setEx before after x hwriting => exact ⟨rfl, rfl⟩
  | leave before after w hwaiting => exact ⟨rfl, rfl⟩

/-- **What is seen, and what waits, has come.** From any state of the front door. -/
theorem times_add_waiting_le {state : ControlPlaneState}
    {tr : List (DoorAction Message × DoorState e.app)} (hrun : (frontDoor e state).Run s tr) :
    (c.times (messagesIn tr) : Multiset ℤ) + c.waiting (System.finalState s tr).inside ≤
      c.waiting s.inside + e.presented c s.client.state.config.keys
        s.client.state.config.auth.organizationId (tr.map Prod.fst) := by
  -- by induction on the run, with `DoorStep.account` for each step
  induction hrun with
  | nil s => exact le_of_eq (add_comm _ _)
  | @cons s s' a tr hstep _ ih =>
    have haccount := DoorStep.account (c := c) hstep
    have hseen : (c.times (messagesIn ((a, s') :: tr)) : Multiset ℤ) =
        a.message?.elim 0 c.seen + c.times (messagesIn tr) := by
      unfold messagesIn
      cases hmessage : a.message? with
      | none =>
        rw [System.project_cons_of_none hmessage]
        exact (zero_add _).symm
      | some m =>
        rw [System.project_cons_of_some hmessage]
        exact c.coe_times_cons m s'.redis _
    -- what the rest of the run brings is counted by the keys that the step leaves
    obtain ⟨hkeys, horg⟩ := hstep.config_eq
    rw [hkeys, horg] at ih
    rw [hseen, System.finalState_cons, List.map_cons]
    unfold Entrance.presented
    dsimp only
    -- each time is counted on its own
    rw [Multiset.le_iff_count] at haccount ih ⊢
    intro now
    have hstepCount := haccount now
    have hrestCount := ih now
    simp only [Multiset.count_add] at hstepCount hrestCount ⊢
    omega

/-- After a run, the keys are the last ones that were taken in. -/
theorem keys_finalState {state : ControlPlaneState}
    {tr : List (DoorAction Message × DoorState e.app)} (hrun : (frontDoor e state).Run s tr) :
    (System.finalState s tr).client.state.config.keys =
      lastOf MessageTypeRX.keys? s.client.state.config.keys
        (DoorAction.takenIn (tr.map Prod.fst)) := by
  induction hrun with
  | nil s => rfl
  | @cons s s' a tr hstep _ ih =>
    unfold DoorAction.takenIn at ih ⊢
    rw [System.finalState_cons, ih, hstep.config_eq.1, List.map_cons]
    cases htaken : a.taken with
    | none =>
      rw [List.filterMap_cons_none htaken]
      rfl
    | some m =>
      rw [List.filterMap_cons_some htaken, lastOf_cons, Option.toList_some, lastOf_cons]
      rfl

/-- The times that a limiter sees, by the actions of a run. -/
theorem times_messagesIn (tr : List (DoorAction Message × DoorState e.app)) :
    c.times (messagesIn tr) =
      (((tr.map Prod.fst).filterMap DoorAction.message?).filterMap c.sees).map Timestamp.ms := by
  unfold Consumer.times messagesIn
  rw [System.map_fst_project]

/-- What a request sends is sent to Redis. -/
theorem DoorState.redis_read (s : DoorState app) (others : List (Waiting app)) (w : Waiting app)
    (key : List Char) (rest : AfterGet) :
    (s.read others w key rest).redis = s.redis.send key rest := by
  cases rest <;> rfl

/-- Redis sees a run of its own. -/
theorem run_messagesIn {state : ControlPlaneState}
    {tr : List (DoorAction Message × DoorState e.app)} (hrun : (frontDoor e state).Run s tr) :
    (sharedRedis e.routing e.app.quota).Run s.redis (messagesIn tr) := by
  refine System.Run.project ?_ ?_ hrun
  · intro s a s' m hstep hm
    cases hstep with
    | control a client hclient => cases hm
    | arrive req => cases hm
    | get before after w layer ahead key hwaiting hahead hkey =>
      obtain rfl := Option.some.inj hm
      -- the layer is the one of its scope, and has its quota
      have hinner := w.inner layer (hahead ▸ List.mem_cons_self)
      rw [DoorState.redis_read, ← quota_of_inner hinner]
      exact SharedStep.get (e.scopedBy layer.routerId layer hinner) hkey
    | failed before after w layer ahead error hwaiting hahead herr =>
      obtain rfl := Option.some.inj hm
      exact SharedStep.failed herr
    | setEx before after x hwriting =>
      obtain rfl := Option.some.inj hm
      have hwrites : s.redis.writes =
          before.map Writing.write ++ x.write :: after.map Writing.write := by
        unfold DoorState.redis
        rw [hwriting, List.map_append, List.map_cons]
      have hstep : SharedStep e.routing e.app.quota s.redis (.setEx x.write) _ :=
        SharedStep.setEx hwrites
      rw [← List.map_append] at hstep
      exact hstep
    | leave before after w hwaiting => cases hm
  · intro s a s' hstep hm
    cases hstep with
    | control a client hclient => rfl
    | arrive req => rfl
    | get before after w layer ahead key hwaiting hahead hkey => cases hm
    | failed before after w layer ahead error hwaiting hahead herr => cases hm
    | setEx before after x hwriting => cases hm
    | leave before after w hwaiting => rfl

end Accounts

/-! ### A key that is revoked -/

def testLayer : RedisRateLimitLayer := ⟨⟨GcraConfig.default⟩, "redis://localhost:6379", none⟩

/-- A gateway with a limit of its own and no routers. -/
def testEntrance : Entrance MessageTypeRX where
  fromSlice := some
  sha256 := testSha256
  parseUuid := testParseUuid
  features := .auth
  routing := oneRouter .default
  app := ⟨.redis testLayer, []⟩
  wellScoped := by
    rintro (_ | id) layer h
    · cases h
      rfl
    · cases h
  scopedBy := by
    rintro (_ | id) layer h
    · rintro id ⟨⟩
    · cases h

def testArrival : Arrival := ⟨testHeaders, .unifiedApi, Timestamp.ofMs 0⟩

/-- The user of the tests at the limiter of the gateway. -/
def testConsumer : Consumer := ⟨none, testUserId⟩

def testState : ControlPlaneState := ⟨testConfig, ⟨[], Nat.zero_le _⟩⟩

/-- The request of the tests passes, and waits at the limiter. -/
theorem exists_enter_test : ∃ (ctx : AuthContext) (w : Waiting testEntrance.app),
    ctx.userId = testUserId ∧ testEntrance.enter testConfig testArrival ⟨0, 0⟩ = [w] ∧
      w.authContext = some ctx ∧ w.ahead = [testLayer] ∧ w.now = Timestamp.ofMs 0 := by
  have hleft : Text.remove bearer (bearer ++ testKey) = testKey := by decide
  have husable : ControlPlane.Usable testParseUuid testConfig testRegistered
      (Text.remove bearer (bearer ++ testKey)) testUserId := by
    rw [hleft]
    exact usable_testKey
  have henabled : testEntrance.features.isAuthEnabled = true := rfl
  obtain ⟨ctx, hctx, huser⟩ := exists_passes testSha256_injective henabled holds_testConfig
    apiKeyOf_testHeaders husable
  have hpasses : (authorize testEntrance.sha256 testEntrance.parseUuid testEntrance.features
      testConfig testArrival.headers ⟨0, 0⟩).1 = .ok (some ctx) := hctx ⟨0, 0⟩
  unfold Entrance.enter
  rw [hpasses]
  exact ⟨ctx, _, huser, rfl, rfl, rfl, rfl⟩

/-- All keys are revoked. -/
def revoking : List (DoorAction MessageTypeRX) :=
  [.control (.next (some (.ok (.update (.keys []))))), .control (.write (.update (.keys [])))]

/-- The write of the request. -/
def testWrite : Write :=
  ⟨testConsumer.key, setEx GcraConfig.default (emissionInterval GcraConfig.default) 0 0⟩

/-- A request comes and the keys are revoked; then the request is read and written at the limiter,
and comes again. -/
structure RevokedRun (ctx : AuthContext)
    (tr tr' : List (DoorAction MessageTypeRX × DoorState testEntrance.app)) : Prop where
  userId : ctx.userId = testUserId
  first : tr.map Prod.fst = .arrive testArrival :: revoking
  second : tr'.map Prod.fst = [.redis (.get ⟨none, some ctx, Timestamp.ofMs 0⟩),
    .redis (.setEx testWrite), .arrive testArrival]
  run : (frontDoor testEntrance testState).Run (frontDoor testEntrance testState).init tr
  run' : (frontDoor testEntrance testState).Run
    (System.finalState (frontDoor testEntrance testState).init tr) tr'

theorem exists_revokedRun : ∃ ctx tr tr', RevokedRun ctx tr tr' := by
  obtain ⟨ctx, w, huser, henter, hctx, hahead, hnow⟩ := exists_enter_test
  have hzero : (Timestamp.ofMs 0).ms = 0 := Timestamp.ofMs_ms (le_refl _) (by decide)
  obtain ⟨o, hafter⟩ : ∃ o, afterGet testLayer.config.perApiKey none w.now.ms =
      .setEx testWrite.entry o := by
    rw [hnow, hzero]
    exact ⟨_, afterGet_eq_setEx_iff.mpr
      ⟨by decide +kernel, by decide +kernel, by decide +kernel, rfl, rfl⟩⟩
  have hkey : getRedisRlKey w.authContext testLayer.routerId = .ok testConsumer.key := by
    have hkey := getRedisRlKey_eq ctx none
    rw [huser] at hkey
    rw [hctx]
    exact hkey
  have hwaiting : testEntrance.enter testConfig testArrival ⟨0, 0⟩ ++ [] = [] ++ w :: [] := by
    rw [henter]
    rfl
  -- the request writes, as it finds no entry
  have hwriting : ∀ s : DoorState testEntrance.app, s.writing = [] → s.entries = (fun _ => none) →
      (s.read ([] ++ []) w testConsumer.key (afterGet testLayer.config.perApiKey
        (get (s.entries testConsumer.key) w.now.ms) w.now.ms)).writing =
      [] ++ ⟨testWrite, if o.isAdmitted then [w.pass] else []⟩ :: [] := by
    intro s hwriting hentries
    rw [hentries, show get ((fun _ => none) testConsumer.key) w.now.ms = none from rfl, hafter]
    exact congrArg _ hwriting
  refine ⟨ctx, _, _, huser, ?_, ?_,
    .cons (.arrive _ testArrival) <|
    .cons (.control _ (.next (some (.ok (.update (.keys []))))) _ (.next _ _ rfl)) <|
    .cons (.control _ (.write (.update (.keys []))) _ (.write _ _ rfl)) <|
    .nil _,
    .cons (.get _ [] [] w testLayer [] _ hwaiting hahead hkey) <|
    .cons (.setEx _ [] [] _ (hwriting _ rfl rfl)) <|
    .cons (.arrive _ testArrival) <|
    .nil _⟩
  · rfl
  · rw [← hctx, ← hnow]
    rfl

/-- The time of the request, wherever it is seen. -/
theorem times_test {ctx : AuthContext} (huser : ctx.userId = testUserId)
    {tr : List (DoorAction MessageTypeRX × DoorState testEntrance.app)}
    (hmessages : (tr.map Prod.fst).filterMap DoorAction.message? =
      [.get ⟨none, some ctx, Timestamp.ofMs 0⟩, .setEx testWrite]) :
    testConsumer.times (messagesIn tr) = [0] := by
  have hconsumer : (LimitedRequest.mk none (some ctx) (Timestamp.ofMs 0)).consumer? =
      some testConsumer := consumer?_eq_some_iff.mpr ⟨rfl, congrArg some huser⟩
  have hsees : testConsumer.sees (.get ⟨none, some ctx, Timestamp.ofMs 0⟩) =
      some (Timestamp.ofMs 0) := if_pos hconsumer
  have hnone : testConsumer.sees (.setEx testWrite) = none := rfl
  rw [times_messagesIn, hmessages, List.filterMap_cons_some hsees, List.filterMap_cons_none hnone]
  exact congrArg (fun ms => [ms]) (Timestamp.ofMs_ms (le_refl _) (by decide))

/-- It is read while no write is on its way. -/
theorem serial_test {c : Consumer} {s : SharedState} (hwrites : s.writes = [])
    {tr : List (SharedMessage × SharedState)} {r : LimitedRequest} {w : Write}
    (hmessages : tr.map Prod.fst = [.get r, .setEx w]) : System.AllSteps c.Serial s tr := by
  obtain ⟨⟨m, s₁⟩, tr, rfl, -, hrest⟩ := List.map_eq_cons_iff.mp hmessages
  obtain ⟨⟨m', s₂⟩, tr, rfl, rfl, hnil⟩ := List.map_eq_cons_iff.mp hrest
  obtain rfl := List.map_eq_nil_iff.mp hnil
  refine ⟨fun _ w hw => ?_, nofun, trivial⟩
  rw [hwrites] at hw
  exact absurd hw List.not_mem_nil

/-! ### What a user pays for -/

section Charges

variable {Message : Type} {e : Entrance Message} {c : Consumer} {state : ControlPlaneState}

/-- No key of a list is one of the user. -/
def Unlisted (e : Entrance Message) (userId : String) (keys : List ControlPlane.Key) : Prop :=
  ∀ key ∈ keys, e.parseUuid key.ownerId ≠ some userId

/-- As long as no key of the user is listed, nothing comes with one. -/
theorem presented_eq_zero {keys : List ControlPlane.Key} {organizationId : String}
    {as : List (DoorAction Message)} (hkeys : Unlisted e c.userId keys)
    (htaken : ∀ m ∈ DoorAction.takenIn as, ∀ keys ∈ m.keys?, Unlisted e c.userId keys) :
    e.presented c keys organizationId as = 0 := by
  induction as generalizing keys organizationId with
  | nil => rfl
  | cons a as ih =>
    unfold Entrance.presented
    have hbrings : e.brings c keys organizationId a = 0 := by
      cases a with
      | arrive req =>
        refine if_neg fun h => ?_
        -- the key that is found is in the list
        obtain ⟨apiKey, -, h⟩ := Option.bind_eq_some_iff.mp h.1
        obtain ⟨key, hfound, h⟩ := Option.bind_eq_some_iff.mp h
        obtain ⟨_, -, howner⟩ := Option.bind_eq_some_iff.mp h
        exact hkeys key (List.mem_of_find?_eq_some hfound) howner
      | control a => rfl
      | redis m => rfl
      | leave => rfl
    have hnext : Unlisted e c.userId
        (lastOf MessageTypeRX.keys? keys a.taken.toList) := by
      cases hmessage : a.taken with
      | none => exact hkeys
      | some m =>
        have hm : m ∈ DoorAction.takenIn (a :: as) :=
          List.mem_filterMap.mpr ⟨a, List.mem_cons_self, hmessage⟩
        rw [Option.toList_some, lastOf_cons]
        cases hbrought : m.keys? with
        | none => exact hkeys
        | some keys' => exact htaken m hm keys' hbrought
    dsimp only
    rw [hbrings, zero_add]
    apply ih hnext
    intro m hm
    obtain ⟨a', ha', hmessage⟩ := List.mem_filterMap.mp hm
    exact htaken m (List.mem_filterMap.mpr ⟨a', List.mem_cons_of_mem a ha', hmessage⟩)

/-- **Once a user is revoked**, only what was waiting is still seen at a limiter. After any run in
which the last list of keys that was taken in has none of the user, and as long as none is taken in
that has: the requests of the user that a limiter sees, and those that still wait for it, are among
those that were waiting. -/
theorem revoked_of_frontDoor {tr tr' : List (DoorAction Message × DoorState e.app)}
    (hrun : (frontDoor e state).Run (frontDoor e state).init tr)
    (hrun' : (frontDoor e state).Run (System.finalState (frontDoor e state).init tr) tr')
    (hrevoked : Unlisted e c.userId
      (lastOf MessageTypeRX.keys? state.config.keys (DoorAction.takenIn (tr.map Prod.fst))))
    (htaken : ∀ m ∈ DoorAction.takenIn (tr'.map Prod.fst), ∀ keys ∈ m.keys?,
      Unlisted e c.userId keys) :
    let s := System.finalState (frontDoor e state).init tr
    (c.times (messagesIn tr') : Multiset ℤ) + c.waiting (System.finalState s tr').inside ≤
      c.waiting s.inside := by
  dsimp only
  have hle := times_add_waiting_le (c := c) hrun'
  have hlast : Unlisted e c.userId
      (System.finalState (frontDoor e state).init tr).client.state.config.keys := by
    rw [keys_finalState hrun]
    exact hrevoked
  rw [presented_eq_zero hlast htaken, add_zero] at hle
  exact hle

end Charges

/-- The keys are revoked while the request waits. It is still seen, and the one that comes next is
not. -/
theorem revoked_of_frontDoor_waiting : ∃ ctx tr tr', RevokedRun ctx tr tr' ∧
    (([0] : List ℤ) : Multiset ℤ) + testConsumer.waiting (System.finalState
        (System.finalState (frontDoor testEntrance testState).init tr) tr').inside ≤
      testConsumer.waiting
        (System.finalState (frontDoor testEntrance testState).init tr).inside := by
  obtain ⟨ctx, tr, tr', h⟩ := exists_revokedRun
  have hrevoked : Unlisted testEntrance testConsumer.userId (lastOf MessageTypeRX.keys?
      testState.config.keys (DoorAction.takenIn (tr.map Prod.fst))) := by
    rw [h.first]
    exact nofun
  have htaken : ∀ m ∈ DoorAction.takenIn (tr'.map Prod.fst), ∀ keys ∈ m.keys?,
      Unlisted testEntrance testConsumer.userId keys := by
    rw [h.second]
    exact nofun
  have htimes : testConsumer.times (messagesIn tr') = [0] := by
    apply times_test h.userId
    rw [h.second]
    rfl
  have hle := revoked_of_frontDoor h.run h.run' hrevoked htaken
  rw [htimes] at hle
  exact ⟨ctx, tr, tr', h, hle⟩

end AiGateway
