import AiGateway.Cache.Key
import AiGateway.Framework.Runs

/-!
# Histories of the cache

Many requests are at the cache at a time, of any number of users and through any number of
services that share a store. Each looks its buckets up one by one, in any order and with what
others store meanwhile, then calls the service behind the cache, and may store the response.
The store may lose an entry at any time, and may fail; a request may be given up.

The steps are those of `middleware/cache/service.rs` as `Cache/Service` has them, cut where a
request waits. An entry is kept together with the request it was stored for.

* `exists_run_serve`, `call_of_newCall`: a request that is alone is served as `call` has it;
* `exists_run_hit`: a request that is answered with what was stored for another.
-/

namespace AiGateway.Cache

open Transition

/-- What the policy of an entry looks at in a request. -/
structure Head where
  method : String
  /-- The scheme and the authority of the URI. -/
  origin : Option String
  parts : Parts

def Head.withParts (head : Head) (parts : Parts) : Head := { head with parts }

/-- **What the cache is built from.** -/
structure Library (Time Entry Cached Response : Type) where
  hash : List Write → UInt64
  /-- `CachePolicy::before_request`. -/
  beforeRequest : Entry → Head → Time → BeforeRequest
  /-- The response made of a fresh entry; `none` is an error. -/
  freshResponse : Entry → Head → UInt8 → Option Response
  /-- The policy lets the response be stored, and its status is a success. -/
  isStorable : CacheContext → Head → Response → Time → Bool
  /-- The URL and the body of what is stored; `none` is an error. -/
  httpResponse : Head → Response → Option Cached
  /-- What is stored of a response, with its policy. -/
  entry : CacheContext → Head → Cached → Response → Time → Entry
  /-- The response made of what `put` returns, for a bucket; `none` is an error. -/
  putResponse : Cached → UInt8 → Option Response

/-- **What happens outside** while a request takes a step. -/
structure Outside (Response : Type) where
  /-- `get` fails. -/
  getFails : String → Bool
  /-- The service behind the cache. -/
  inner : Parts → Option Bytes → Response
  /-- `put` fails. -/
  putFails : Bool
  /-- `put` has no effect. -/
  putLost : Bool

/-- A request that is looked up, with its context and its directive. -/
structure Call (User Time : Type) where
  user : User
  head : Head
  now : Time
  ctx : CacheContext
  body : Bytes

/-- An entry, and the request it was stored for. -/
structure Stored (User Time Entry Response : Type) where
  entry : Entry
  call : Call User Time
  bucket : UInt8
  /-- The request that its policy knows. -/
  parts : Parts
  response : Response

/-- How far a request has come. -/
inductive Phase
  | looking (waiting : List UInt8) (staleHits : List (UInt8 × String × Parts))
      (emptyBuckets : List UInt8)
  | calling (bucket : UInt8) (key : String) (parts : Parts)

structure Task (User Time : Type) where
  call : Call User Time
  phase : Phase

section Model

variable {User Time Entry Cached Response : Type} (lib : Library Time Entry Cached Response)

namespace Call

def buckets (call : Call User Time) : UInt8 := call.ctx.buckets.getD defaultBuckets

/-- What is hashed for a bucket. -/
def writes (call : Call User Time) (bucket : UInt8) : List Write :=
  keyWrites call.ctx.seed call.head.parts.pathAndQuery call.body bucket

def key (call : Call User Time) (bucket : UInt8) : String :=
  Cache.key lib.hash call.ctx.seed call.head.parts.pathAndQuery call.body bucket

end Call

/-- The beginning of `CacheService::call` and of `make_request`: the requests whose buckets are
looked up. -/
def newCall (config : CacheConfig) (user : User) (head : Head) (body : Option Bytes) (now : Time) :
    Option (Call User Time) :=
  match getCacheCtx head.parts.headers with
  | .error _ => none
  | .ok ctx =>
    let ctx := config.context.merge ctx
    if ctx.enabled ≠ some true then none
    else
      match insertDirective ctx head.parts with
      | .error _ => none
      | .ok parts => body.map fun body => ⟨user, head.withParts parts, now, ctx, body⟩

/-- The store, and the requests that are on their way. -/
structure State (User Time Entry Response : Type) where
  store : String → Option (Stored User Time Entry Response)
  tasks : ℕ → Option (Task User Time)

namespace State

variable (s : State User Time Entry Response)

def setTask (id : ℕ) (task : Option (Task User Time)) : State User Time Entry Response :=
  { s with tasks := Function.update s.tasks id task }

def setStore (key : String) (stored : Option (Stored User Time Entry Response)) :
    State User Time Entry Response :=
  { s with store := Function.update s.store key stored }

/-- `put`. -/
def put (key : String) (stored : Option (Stored User Time Entry Response)) :
    State User Time Entry Response :=
  match stored with
  | some stored => s.setStore key (some stored)
  | none => s

end State

namespace Library

/-- What a request rests on during a step. -/
def env (call : Call User Time) (store : String → Option (Stored User Time Entry Response))
    (outside : Outside Response) : Env Entry Cached Response where
  key := Cache.key lib.hash
  get key := if outside.getFails key then .error () else .ok ((store key).map Stored.entry)
  beforeRequest entry parts := lib.beforeRequest entry (call.head.withParts parts) call.now
  freshResponse entry parts := lib.freshResponse entry (call.head.withParts parts)
  inner := outside.inner
  isStorable ctx parts response :=
    lib.isStorable ctx (call.head.withParts parts) response call.now
  httpResponse parts response := lib.httpResponse (call.head.withParts parts) response
  put _ bucket cached := if outside.putFails then none else lib.putResponse cached bucket

/-- What is stored of a response to a request. -/
def saved (call : Call User Time) (bucket : UInt8) (parts : Parts) (outside : Outside Response) :
    Option (Stored User Time Entry Response) :=
  let head := call.head.withParts parts
  let response := outside.inner parts (some call.body)
  if lib.isStorable call.ctx head response call.now ∧ outside.putLost = false then
    (lib.httpResponse head response).map fun httpResp =>
      ⟨lib.entry call.ctx head httpResp response call.now, call, bucket, parts, response⟩
  else none

end Library

/-- What the loop over the answers makes of an answer that is not fresh. -/
def Phase.looked (waiting : List UInt8) (staleHits : List (UInt8 × String × Parts))
    (emptyBuckets : List UInt8) (bucket : UInt8) (key : String) :
    Except Unit (CacheCheckResult Response) → Option Phase
  -- the search ends there
  | .ok (.fresh _) => none
  | .ok (.stale request) =>
    some (looking (waiting.erase bucket) (staleHits ++ [(bucket, key, request)]) emptyBuckets)
  | .ok .miss => some (looking (waiting.erase bucket) staleHits (emptyBuckets ++ [bucket]))
  | .error _ => some (looking (waiting.erase bucket) staleHits emptyBuckets)

inductive Label (User Time Entry Response : Type)
  | begun (call : Call User Time)
  | looked (call : Call User Time) (bucket : UInt8)
  /-- A request is answered with what was stored. -/
  | hit (call : Call User Time) (stored : Stored User Time Entry Response) (response : Response)
  | called (call : Call User Time) (parts : Parts)
  | panicked (call : Call User Time)
  /-- It is answered by the service behind the cache, and the response may be stored. -/
  | answered (call : Call User Time) (outcome : Outcome Response)
      (saved : Option (Stored User Time Entry Response))
  | dropped
  | evicted

/-- **The steps of the cache.** The lookups of a request finish in any order, so that any of the
stale or of the empty buckets may be the first. -/
inductive CacheStep : State User Time Entry Response → Label User Time Entry Response →
    State User Time Entry Response → Prop
  | begun (s : State User Time Entry Response) (id : ℕ) (config : CacheConfig) (user : User)
      (head : Head) (body : Option Bytes) (now : Time) (call : Call User Time) :
      s.tasks id = none → newCall config user head body now = some call →
      CacheStep s (.begun call) (s.setTask id (some ⟨call, .looking (U8.range call.buckets) [] []⟩))
  | looked (s : State User Time Entry Response) (id : ℕ) (call : Call User Time)
      (waiting : List UInt8) (staleHits : List (UInt8 × String × Parts))
      (emptyBuckets : List UInt8) (bucket : UInt8) (outside : Outside Response) (phase : Phase) :
      s.tasks id = some ⟨call, .looking waiting staleHits emptyBuckets⟩ → bucket ∈ waiting →
      Phase.looked waiting staleHits emptyBuckets bucket (call.key lib bucket)
        (checkCache (lib.env call s.store outside) call.head.parts bucket (call.key lib bucket)) =
          some phase →
      CacheStep s (.looked call bucket) (s.setTask id (some ⟨call, phase⟩))
  | hit (s : State User Time Entry Response) (id : ℕ) (call : Call User Time)
      (waiting : List UInt8) (staleHits : List (UInt8 × String × Parts))
      (emptyBuckets : List UInt8) (bucket : UInt8) (outside : Outside Response)
      (stored : Stored User Time Entry Response) (response : Response) :
      s.tasks id = some ⟨call, .looking waiting staleHits emptyBuckets⟩ → bucket ∈ waiting →
      s.store (call.key lib bucket) = some stored →
      checkCache (lib.env call s.store outside) call.head.parts bucket (call.key lib bucket) =
        .ok (.fresh response) →
      CacheStep s (.hit call stored response) (s.setTask id none)
  | revalidated (s : State User Time Entry Response) (id : ℕ) (call : Call User Time)
      (staleHits : List (UInt8 × String × Parts)) (emptyBuckets : List UInt8) (bucket : UInt8)
      (key : String) (parts : Parts) :
      s.tasks id = some ⟨call, .looking [] staleHits emptyBuckets⟩ →
      (bucket, key, parts) ∈ staleHits →
      CacheStep s (.called call parts) (s.setTask id (some ⟨call, .calling bucket key parts⟩))
  | missed (s : State User Time Entry Response) (id : ℕ) (call : Call User Time)
      (emptyBuckets order : List UInt8) (chance : Chance) (bucket : UInt8) :
      s.tasks id = some ⟨call, .looking [] [] emptyBuckets⟩ → order.Perm emptyBuckets →
      (pickBucket chance call.buckets order).2 = some bucket →
      CacheStep s (.called call call.head.parts)
        (s.setTask id (some ⟨call, .calling bucket (call.key lib bucket) call.head.parts⟩))
  | panicked (s : State User Time Entry Response) (id : ℕ) (call : Call User Time)
      (emptyBuckets order : List UInt8) (chance : Chance) :
      s.tasks id = some ⟨call, .looking [] [] emptyBuckets⟩ → order.Perm emptyBuckets →
      (pickBucket chance call.buckets order).2 = none →
      CacheStep s (.panicked call) (s.setTask id none)
  -- the store may have changed since the lookups
  | answered (s : State User Time Entry Response) (id : ℕ) (call : Call User Time)
      (bucket : UInt8) (key : String) (parts : Parts) (outside : Outside Response) :
      s.tasks id = some ⟨call, .calling bucket key parts⟩ →
      CacheStep s
        (.answered call
          (requestAndStore (lib.env call s.store outside) call.ctx key parts call.body bucket).2
          (lib.saved call bucket parts outside))
        ((s.put key (lib.saved call bucket parts outside)).setTask id none)
  | dropped (s : State User Time Entry Response) (id : ℕ) : CacheStep s .dropped (s.setTask id none)
  | evicted (s : State User Time Entry Response) (key : String) :
      CacheStep s .evicted (s.setStore key none)

/-- **The cache** with its store, empty at first. -/
def cache : System (State User Time Entry Response) (Label User Time Entry Response) where
  init := ⟨fun _ => none, fun _ => none⟩
  step := CacheStep lib

/-- The request is one of the history. -/
def BegunIn (tr : List (Label User Time Entry Response × State User Time Entry Response))
    (call : Call User Time) : Prop :=
  ∃ s, (.begun call, s) ∈ tr

/-- The response was stored in the history. -/
def SavedIn (tr : List (Label User Time Entry Response × State User Time Entry Response))
    (stored : Stored User Time Entry Response) : Prop :=
  ∃ call outcome s, (.answered call outcome (some stored), s) ∈ tr

variable {lib} {s s' : State User Time Entry Response} {call : Call User Time}
  {tr : List (Label User Time Entry Response × State User Time Entry Response)}

/-! ### Requests alone with the cache -/

/-- How a label ends a request. -/
def Label.outcome? : Label User Time Entry Response → Option (Outcome Response)
  | hit _ _ response => some (.response response)
  | panicked _ => some .panicked
  | answered _ outcome _ => some outcome
  | begun _ => none
  | looked _ _ => none
  | called _ _ => none
  | dropped => none
  | evicted => none

theorem State.tasks_setTask (s : State User Time Entry Response) (id : ℕ)
    (task : Option (Task User Time)) : (s.setTask id task).tasks id = task :=
  Function.update_self _ _ _

theorem State.setTask_setTask (s : State User Time Entry Response) (id : ℕ)
    (task task' : Option (Task User Time)) :
    (s.setTask id task).setTask id task' = s.setTask id task' := by
  unfold State.setTask
  rw [Function.update_idem]

/-- A fresh answer comes from an entry of the store. -/
theorem exists_stored_of_checkCache {store : String → Option (Stored User Time Entry Response)}
    {outside : Outside Response} {bucket : UInt8} {key : String} {response : Response}
    (h : checkCache (lib.env call store outside) call.head.parts bucket key =
      .ok (.fresh response)) : ∃ stored, store key = some stored := by
  cases hstore : store key with
  | some stored => exact ⟨stored, rfl⟩
  | none =>
    have hget : (lib.env call store outside).get key = .error () ∨
        (lib.env call store outside).get key = .ok none := by
      unfold Library.env
      dsimp only
      rw [hstore]
      split
      · exact Or.inl rfl
      · exact Or.inr rfl
    unfold checkCache at h
    -- no entry was found, or the lookup failed
    rcases hget with hget | hget <;> rw [hget] at h <;> cases h

/-- An answer ends the loop, or the loop goes on as the request does. -/
theorem drain_cons_cases {outside : Outside Response} {waiting : List UInt8}
    {staleHits : List (UInt8 × String × Parts)} {emptyBuckets : List UInt8} {bucket : UInt8}
    (store : String → Option (Stored User Time Entry Response)) (buckets : List UInt8) :
    (∃ response, checkCache (lib.env call store outside) call.head.parts bucket
        (call.key lib bucket) = .ok (.fresh response) ∧
      drain (lib.env call store outside) call.head.parts (call.key lib) staleHits emptyBuckets
        (bucket :: buckets) = .fresh response) ∨
    ∃ staleHits' emptyBuckets',
      Phase.looked waiting staleHits emptyBuckets bucket (call.key lib bucket)
        (checkCache (lib.env call store outside) call.head.parts bucket (call.key lib bucket)) =
          some (.looking (waiting.erase bucket) staleHits' emptyBuckets') ∧
      drain (lib.env call store outside) call.head.parts (call.key lib) staleHits emptyBuckets
        (bucket :: buckets) =
          drain (lib.env call store outside) call.head.parts (call.key lib) staleHits'
            emptyBuckets' buckets := by
  -- only a fresh answer ends the loop; a failed lookup is skipped
  cases hcheck : checkCache (lib.env call store outside) call.head.parts bucket
      (call.key lib bucket) with
  | error e => exact Or.inr ⟨_, _, rfl, by rw [drain, hcheck]⟩
  | ok answer =>
    cases answer with
    | fresh response => exact Or.inl ⟨response, rfl, by rw [drain, hcheck]⟩
    | stale request => exact Or.inr ⟨_, _, rfl, by rw [drain, hcheck]⟩
    | miss => exact Or.inr ⟨_, _, rfl, by rw [drain, hcheck]⟩

/-- **The lookups without a fresh answer**, one after the other. -/
theorem exists_run_rest (outside : Outside Response) {id : ℕ} {buckets waiting : List UInt8}
    {staleHits staleHits' : List (UInt8 × String × Parts)} {emptyBuckets emptyBuckets' : List UInt8}
    (hperm : buckets.Perm waiting)
    (htask : s.tasks id = some ⟨call, .looking waiting staleHits emptyBuckets⟩)
    (h : drain (lib.env call s.store outside) call.head.parts (call.key lib) staleHits emptyBuckets
      buckets = .rest staleHits' emptyBuckets') :
    ∃ tr, (cache lib).Run s tr ∧ (∀ p ∈ tr, ∃ bucket, p.1 = .looked call bucket) ∧
      System.finalState s tr =
        s.setTask id (some ⟨call, .looking [] staleHits' emptyBuckets'⟩) := by
  induction buckets generalizing s waiting staleHits emptyBuckets with
  | nil =>
    cases h
    obtain rfl := List.nil_perm.mp hperm
    refine ⟨[], .nil s, fun p hp => absurd hp List.not_mem_nil, ?_⟩
    unfold State.setTask
    rw [System.finalState_nil, ← htask, Function.update_eq_self]
  | cons bucket buckets ih =>
    obtain ⟨hmem, hperm'⟩ := List.cons_perm_iff_perm_erase.mp hperm
    -- the first bucket is looked up, and then the others
    obtain ⟨response, -, hdrain⟩ | ⟨staleHits₁, emptyBuckets₁, hlooked, hdrain⟩ :=
      @drain_cons_cases _ _ _ _ _ lib call outside waiting staleHits emptyBuckets bucket s.store
        buckets
    · rw [hdrain] at h
      cases h
    · rw [hdrain] at h
      obtain ⟨tr, hrun, hquiet, hfinal⟩ := ih hperm' (State.tasks_setTask s id _) h
      refine ⟨_ :: tr, .cons (.looked s id call waiting staleHits emptyBuckets bucket outside _
        htask hmem hlooked) hrun, ?_, ?_⟩
      · exact List.forall_mem_cons.mpr ⟨⟨bucket, rfl⟩, hquiet⟩
      · rw [System.finalState_cons, hfinal, State.setTask_setTask]

/-- **The lookups with a fresh answer**, up to this one. -/
theorem exists_run_fresh (outside : Outside Response) {id : ℕ} {buckets waiting : List UInt8}
    {staleHits : List (UInt8 × String × Parts)} {emptyBuckets : List UInt8} {response : Response}
    (hperm : buckets.Perm waiting)
    (htask : s.tasks id = some ⟨call, .looking waiting staleHits emptyBuckets⟩)
    (h : drain (lib.env call s.store outside) call.head.parts (call.key lib) staleHits emptyBuckets
      buckets = .fresh response) :
    ∃ tr stored s', (cache lib).Run s (tr ++ [(.hit call stored response, s')]) ∧
      ∀ p ∈ tr, ∃ bucket, p.1 = .looked call bucket := by
  -- by induction on the buckets in the order of their answers
  induction buckets generalizing s waiting staleHits emptyBuckets with
  | nil => cases h
  | cons bucket buckets ih =>
    obtain ⟨hmem, hperm'⟩ := List.cons_perm_iff_perm_erase.mp hperm
    obtain ⟨response', hcheck, hdrain⟩ | ⟨staleHits₁, emptyBuckets₁, hlooked, hdrain⟩ :=
      @drain_cons_cases _ _ _ _ _ lib call outside waiting staleHits emptyBuckets bucket s.store
        buckets
    -- this bucket has no fresh answer, so it is one of the others
    · rw [hdrain] at h
      cases h
      obtain ⟨stored, hstored⟩ := exists_stored_of_checkCache hcheck
      exact ⟨[], stored, _, .cons (.hit s id call waiting staleHits emptyBuckets bucket outside
        stored response htask hmem hstored hcheck) (.nil _),
        fun p hp => absurd hp List.not_mem_nil⟩
    · rw [hdrain] at h
      obtain ⟨tr, stored, s', hrun, hquiet⟩ := ih hperm' (State.tasks_setTask s id _) h
      refine ⟨_ :: tr, stored, s', .cons (.looked s id call waiting staleHits emptyBuckets bucket
        outside _ htask hmem hlooked) hrun, ?_⟩
      exact List.forall_mem_cons.mpr ⟨⟨bucket, rfl⟩, hquiet⟩

theorem outcome?_of_looked {l : Label User Time Entry Response}
    (h : ∃ bucket, l = .looked call bucket) : l.outcome? = none := by
  obtain ⟨bucket, rfl⟩ := h
  rfl

/-- A request whose buckets have been looked up calls the service behind and is answered. -/
theorem run_of_called {id : ℕ} {phase : Phase} {bucket : UInt8} {key : String} {parts : Parts}
    (outside : Outside Response)
    (hcalled : CacheStep lib (s.setTask id (some ⟨call, phase⟩)) (.called call parts)
      ((s.setTask id (some ⟨call, phase⟩)).setTask id (some ⟨call, .calling bucket key parts⟩))) :
    ∃ s₁ s', (cache lib).Run (s.setTask id (some ⟨call, phase⟩))
      [(.called call parts, s₁), (.answered call
        (requestAndStore (lib.env call s.store outside) call.ctx key parts call.body bucket).2
        (lib.saved call bucket parts outside), s')] ∧
      s' = (s.put key (lib.saved call bucket parts outside)).setTask id none := by
  rw [State.setTask_setTask] at hcalled
  refine ⟨_, _, .cons hcalled (.cons (.answered _ id call bucket key parts outside
    (State.tasks_setTask s id _)) (.nil _)), ?_⟩
  unfold State.put
  cases lib.saved call bucket parts outside with
  | some stored => exact State.setTask_setTask (s.setStore key (some stored)) id _ none
  | none => exact State.setTask_setTask s id _ none

/-- The steps after the lookups end a request. -/
theorem exists_run_ended {s₀ s₁ s' : State User Time Entry Response} {parts : Parts}
    {l : Label User Time Entry Response} (hrun : (cache lib).Run s tr)
    (hquiet : ∀ p ∈ tr, ∃ bucket, p.1 = .looked call bucket)
    (hfinal : System.finalState s tr = s₀)
    (hended : (cache lib).Run s₀ [(.called call parts, s₁), (l, s')]) :
    ∃ tr', (cache lib).Run s (tr' ++ [(l, s')]) ∧ ∀ p ∈ tr', p.1.outcome? = none := by
  refine ⟨tr ++ [(.called call parts, s₁)], ?_, ?_⟩
  · rw [List.append_assoc]
    exact hrun.append (hfinal ▸ hended)
  · intro p hp
    rcases List.mem_append.mp hp with hp | hp
    · exact outcome?_of_looked (hquiet p hp)
    · rw [List.mem_singleton.mp hp]
      rfl

/-- **A request that is alone with the cache** is served as `serve` has it, for any order of the
buckets and of the answers. -/
theorem exists_run_serve (outside : Outside Response) (chance : Chance) {id : ℕ}
    (htask : s.tasks id = some ⟨call, .looking (U8.range call.buckets) [] []⟩) :
    ∃ tr l s', (cache lib).Run s (tr ++ [(l, s')]) ∧ (∀ p ∈ tr, p.1.outcome? = none) ∧
      l.outcome? = some (serve (lib.env call s.store outside) chance call.ctx call.head.parts
        call.body call.buckets).2 := by
  have hperm : (chance.finished (chance.shuffle (U8.range call.buckets))).Perm
      (U8.range call.buckets) := (chance.finished_perm _).trans (chance.shuffle_perm _)
  unfold serve
  dsimp only
  split
  · next response hdrain =>
    obtain ⟨tr, stored, s', hrun, hquiet⟩ := exists_run_fresh outside hperm htask hdrain
    exact ⟨tr, _, s', hrun, fun p hp => outcome?_of_looked (hquiet p hp), rfl⟩
  -- a stale hit: the first of them is revalidated
  · next bucket key parts staleHits emptyBuckets hdrain =>
    obtain ⟨tr, hrun, hquiet, hfinal⟩ := exists_run_rest outside hperm htask hdrain
    obtain ⟨s₁, s', hcalled, -⟩ := run_of_called outside (.revalidated _ id call _ emptyBuckets
      bucket key parts (State.tasks_setTask s id _) List.mem_cons_self)
    obtain ⟨tr', hrun', hquiet'⟩ := exists_run_ended hrun hquiet hfinal hcalled
    exact ⟨tr', _, s', hrun', hquiet', rfl⟩
  · next emptyBuckets hdrain =>
    obtain ⟨tr, hrun, hquiet, hfinal⟩ := exists_run_rest outside hperm htask hdrain
    cases hpick : (pickBucket chance call.buckets emptyBuckets).2 with
    | none =>
      have hpanicked : CacheStep lib (System.finalState s tr) (.panicked call)
          (s.setTask id none) := by
        rw [hfinal, ← State.setTask_setTask s id _ none]
        exact .panicked _ id call emptyBuckets _ chance (State.tasks_setTask s id _) (.refl _) hpick
      exact ⟨tr, _, _, hrun.append (.cons hpanicked (.nil _)),
        fun p hp => outcome?_of_looked (hquiet p hp), rfl⟩
    | some bucket =>
      obtain ⟨s₁, s', hcalled, -⟩ := run_of_called outside (.missed _ id call emptyBuckets _ chance
        bucket (State.tasks_setTask s id _) (.refl _) hpick)
      obtain ⟨tr', hrun', hquiet'⟩ := exists_run_ended hrun hquiet hfinal hcalled
      exact ⟨tr', _, s', hrun', hquiet', rfl⟩

/-- A request whose buckets are looked up is served by `serve`. -/
theorem call_of_newCall {config : CacheConfig} {user : User} {head : Head} {body : Option Bytes}
    {now : Time} (env : Env Entry Cached Response) (chance : Chance)
    (h : newCall config user head body now = some call) :
    Cache.call env chance config head.parts body =
      serve env chance call.ctx call.head.parts call.body call.buckets := by
  unfold newCall at h
  unfold Cache.call
  -- the call is refused before the buckets in the same cases in which `newCall` has none
  cases hctx : getCacheCtx head.parts.headers with
  | error e =>
    rw [hctx] at h
    cases h
  | ok ctx =>
    rw [hctx] at h
    unfold makeRequest
    dsimp only at h ⊢
    split at h
    · cases h
    · next henabled =>
      rw [if_neg henabled]
      cases hinsert : insertDirective (config.context.merge ctx) head.parts with
      | error e =>
        rw [hinsert] at h
        cases h
      | ok parts =>
        rw [hinsert] at h
        obtain ⟨bytes, rfl, rfl⟩ := Option.map_eq_some_iff.mp h
        rfl

/-! ### A request after another -/

/-- Where nothing is stored for a request, all buckets are empty. -/
theorem drain_of_empty {store : String → Option (Stored User Time Entry Response)}
    {outside : Outside Response} {buckets : List UInt8}
    (hempty : ∀ bucket ∈ buckets, store (call.key lib bucket) = none)
    (hget : ∀ key, outside.getFails key = false) :
    drain (lib.env call store outside) call.head.parts (call.key lib) [] [] buckets =
      .rest [] buckets := by
  refine drain_of_miss fun bucket hbucket => ?_
  have hnone : (lib.env call store outside).get (call.key lib bucket) = .ok none := by
    unfold Library.env
    dsimp only
    rw [hget, hempty bucket hbucket]
    rfl
  unfold checkCache
  rw [hnone]

/-- A request for which nothing is stored can store its response in any of its buckets. -/
theorem exists_run_saved {config : CacheConfig} {user : User} {head : Head} {body : Option Bytes}
    {now : Time} (hnew : newCall config user head body now = some call) {id : ℕ}
    (hnone : s.tasks id = none) (hempty : ∀ b < call.buckets, s.store (call.key lib b) = none)
    {bucket : UInt8} (hlt : bucket < call.buckets) {outside : Outside Response}
    (hget : ∀ key, outside.getFails key = false) {stored : Stored User Time Entry Response}
    (hsaved : lib.saved call bucket call.head.parts outside = some stored) :
    ∃ tr, (cache lib).Run s tr ∧ (∀ c, BegunIn tr c → c = call) ∧
      (∀ e, SavedIn tr e → e = stored) ∧ (System.finalState s tr).tasks id = none ∧
      (System.finalState s tr).store =
        Function.update s.store (call.key lib bucket) (some stored) ∧
      ∃ store s', (.answered call (requestAndStore (lib.env call store outside) call.ctx
        (call.key lib bucket) call.head.parts call.body bucket).2 (some stored), s') ∈ tr := by
  let s₁ : State User Time Entry Response :=
    s.setTask id (some ⟨call, .looking (U8.range call.buckets) [] []⟩)
  have htask : s₁.tasks id = some ⟨call, .looking (U8.range call.buckets) [] []⟩ :=
    State.tasks_setTask _ id _
  -- the bucket is looked up first
  let order : List UInt8 := bucket :: (U8.range call.buckets).erase bucket
  have hperm : order.Perm (U8.range call.buckets) :=
    (List.perm_cons_erase (U8.mem_range.mpr hlt)).symm
  have hmiss := @drain_of_empty _ _ _ _ _ lib call s₁.store outside order
    (fun b hb => hempty b (U8.mem_range.mp (hperm.mem_iff.mp hb))) hget
  obtain ⟨tr, hrun, hquiet, hfinal⟩ := exists_run_rest outside hperm htask hmiss
  obtain ⟨s₂, s₃, hcalled, hs₃⟩ := run_of_called outside (.missed (s₁.setTask id (some ⟨call,
    .looking [] [] order⟩)) id call order order noChance bucket (State.tasks_setTask s₁ id _)
    (.refl _) rfl)
  rw [hsaved] at hs₃ hcalled
  have hbegun : CacheStep lib s (.begun call) s₁ :=
    .begun _ id config user head body now call hnone hnew
  refine ⟨_, .cons hbegun (hrun.append (hfinal ▸ hcalled)), ?_, ?_, ?_, ?_, s₁.store, s₃, ?_⟩
  · rintro c ⟨s', hmem⟩
    rcases List.mem_cons.mp hmem with hmem | hmem
    · cases hmem
      rfl
    · rcases List.mem_append.mp hmem with hmem | hmem
      · obtain ⟨b, hb⟩ := hquiet _ hmem
        cases hb
      · simp at hmem
  · rintro e ⟨call', outcome, s', hmem⟩
    rcases List.mem_cons.mp hmem with hmem | hmem
    · cases hmem
    · rcases List.mem_append.mp hmem with hmem | hmem
      · obtain ⟨b, hb⟩ := hquiet _ hmem
        cases hb
      · rcases List.mem_cons.mp hmem with hmem | hmem
        · cases hmem
        · cases List.mem_singleton.mp hmem
          rfl
  · rw [System.finalState_cons, System.finalState_append]
    exact hs₃ ▸ State.tasks_setTask _ id none
  · rw [System.finalState_cons, System.finalState_append]
    change s₃.store = _
    rw [hs₃]
    rfl
  · exact List.mem_cons_of_mem _ (List.mem_append_right _ (List.mem_cons_of_mem _
      List.mem_cons_self))

/-- A request is answered with an entry that is fresh for it. -/
theorem run_of_fresh {config : CacheConfig} {user : User} {head : Head} {body : Option Bytes}
    {now : Time} (hnew : newCall config user head body now = some call) {id : ℕ}
    (hnone : s.tasks id = none) {bucket : UInt8} (hlt : bucket < call.buckets)
    {outside : Outside Response} (hget : ∀ key, outside.getFails key = false)
    {stored : Stored User Time Entry Response}
    (hstored : s.store (call.key lib bucket) = some stored) {response : Response}
    (hbefore : lib.beforeRequest stored.entry call.head call.now = .fresh)
    (hfresh : lib.freshResponse stored.entry call.head bucket = some response) :
    ∃ s₁ s₂, (cache lib).Run s [(.begun call, s₁), (.hit call stored response, s₂)] := by
  -- the lookup finds the entry, which the policy calls fresh
  have hcheck : checkCache (lib.env call s.store outside) call.head.parts bucket
      (call.key lib bucket) = .ok (.fresh response) := by
    have hsome : (lib.env call s.store outside).get (call.key lib bucket) =
        .ok (some stored.entry) := by
      unfold Library.env
      dsimp only
      rw [hget, hstored]
      rfl
    have hbefore' : (lib.env call s.store outside).beforeRequest stored.entry call.head.parts =
        .fresh := hbefore
    have hfresh' : (lib.env call s.store outside).freshResponse stored.entry call.head.parts
        bucket = some response := hfresh
    unfold checkCache
    rw [hsome]
    dsimp only
    rw [hbefore']
    dsimp only
    rw [hfresh']
  exact ⟨_, _, .cons (.begun s id config user head body now call hnone hnew)
    (.cons (.hit _ id call _ _ _ bucket outside stored response (State.tasks_setTask s id _)
      (U8.mem_range.mpr hlt) hstored hcheck) (.nil _))⟩

/-- **A request is answered with what was stored for another**, as soon as the two have a key in
common and the entry is fresh for it. -/
theorem exists_run_hit {config config' : CacheConfig} {user user' : User} {head head' : Head}
    {body body' : Option Bytes} {now now' : Time} {call' : Call User Time}
    (hnew : newCall config user head body now = some call)
    (hnew' : newCall config' user' head' body' now' = some call') {id : ℕ}
    (hnone : s.tasks id = none) (hempty : ∀ b < call.buckets, s.store (call.key lib b) = none)
    {bucket bucket' : UInt8} (hlt : bucket < call.buckets) (hlt' : bucket' < call'.buckets)
    (hkey : call.key lib bucket = call'.key lib bucket') {outside : Outside Response}
    (hget : ∀ key, outside.getFails key = false) {stored : Stored User Time Entry Response}
    (hsaved : lib.saved call bucket call.head.parts outside = some stored) {response : Response}
    (hbefore : lib.beforeRequest stored.entry call'.head call'.now = .fresh)
    (hfresh : lib.freshResponse stored.entry call'.head bucket' = some response) :
    ∃ tr, (cache lib).Run s tr ∧ (∃ s', (.hit call' stored response, s') ∈ tr) ∧
      (∀ c, BegunIn tr c → c = call ∨ c = call') ∧ ∀ e, SavedIn tr e → e = stored := by
  -- the first request is served alone, and what it stored is there when the second one looks
  obtain ⟨tr, hrun, hbegun, honly, hfree, hstored, -⟩ :=
    exists_run_saved hnew hnone hempty hlt hget hsaved
  have hfound : (System.finalState s tr).store (call'.key lib bucket') = some stored := by
    rw [hstored, hkey, Function.update_self]
  obtain ⟨s₁, s₂, hhit⟩ := run_of_fresh hnew' hfree hlt' hget hfound hbefore hfresh
  -- no other request has begun in either part, and only the first part stores
  refine ⟨_, hrun.append hhit, ⟨s₂, ?_⟩, ?_, ?_⟩
  · exact List.mem_append_right _ (List.mem_cons_of_mem _ List.mem_cons_self)
  · rintro c ⟨s', hmem⟩
    rcases List.mem_append.mp hmem with hmem | hmem
    · exact Or.inl (hbegun c ⟨s', hmem⟩)
    · refine Or.inr ?_
      rcases List.mem_cons.mp hmem with hmem | hmem
      · cases hmem
        rfl
      · cases List.mem_singleton.mp hmem
  · rintro e ⟨c, outcome, s', hmem⟩
    rcases List.mem_append.mp hmem with hmem | hmem
    · exact honly e ⟨c, outcome, s', hmem⟩
    · rcases List.mem_cons.mp hmem with hmem | hmem
      · cases hmem
      · cases List.mem_singleton.mp hmem

end Model

end AiGateway.Cache
