import AiGateway.Framework.Headers
import AiGateway.Monitor.Metrics
import AiGateway.Monitor.RetryAfter

/-!
# The response cache

`middleware/cache/service.rs`: a request whose caching is enabled is looked up in each of a
number of buckets, all at once, and a response that none of them has is stored in one. The
number comes from the configuration of the router or of the whole gateway, unless a header of
the request names another.

What the service does with buckets, and what it asks the service behind, is a list of
events. The store, its policy and the services behind the cache are parameters, as are the
order in which the buckets are tried, the order in which the answers come in and the random
number that picks a bucket.

* `drain_spec`: the buckets that are left once every answer is in;
* `bucketed_of_ne_zero`: the run of a request with at least one bucket;
* `bucketed_iff`: the requests whose buckets are well used.
-/

namespace AiGateway.Cache

open Http

/-! ### Contexts -/

/-- `CacheOptions`, of which only `shared` is not the default. -/
structure CacheOptions where
  shared : Bool

instance : Inhabited CacheOptions := ⟨⟨true⟩⟩

/-- `CacheConfig`. -/
structure CacheConfig where
  directive : Option String
  buckets : UInt8
  seed : Option String

structure CacheContext where
  enabled : Option Bool
  directive : Option String
  buckets : Option UInt8
  seed : Option String
  options : Option CacheOptions

/-- `MAX_BUCKET_SIZE`. -/
def maxBucketSize : UInt8 := 10

/-- `DEFAULT_BUCKETS`. -/
def defaultBuckets : UInt8 := 1

/-- The context of `CacheLayer::new`. -/
def CacheConfig.context (config : CacheConfig) : CacheContext where
  enabled := some true
  directive := config.directive
  buckets := some config.buckets
  seed := config.seed
  options := some ⟨false⟩

/-- `merge`: what `other` sets is kept. -/
def CacheContext.merge (self other : CacheContext) : CacheContext where
  enabled := some (other.enabled.getD (self.enabled.getD false))
  directive := other.directive.or self.directive
  buckets := other.buckets.or self.buckets
  seed := other.seed.or self.seed
  options := other.options.or self.options

inductive CacheError
  | invalidCacheConfig
  | invalidHeader
  | collectBodyError
  /-- An entry or a response that cannot be used. -/
  | response
  deriving DecidableEq

/-- A header, as text. -/
def headerText (headers : HeaderMap) (name : String) : Option (List Char) :=
  (headers.get name).bind fun value => headerToStr value.bytes

/-- `str::parse::<bool>`. -/
def parseBool (s : List Char) : Option Bool :=
  if s = "true".toList then some true
  else if s = "false".toList then some false
  else none

/-- `str::parse::<u8>`. -/
def parseU8 (s : List Char) : Option UInt8 :=
  (parseU64 s).bind fun n => if n.1 ≤ 255 then some (UInt8.ofNat n.1) else none

/-- What the headers of a request say of caching. -/
def headerEnabled (headers : HeaderMap) : Option Bool :=
  (headerText headers "helicone-cache-enabled").bind parseBool

/-- The number of buckets the headers ask for. -/
def headerBuckets (headers : HeaderMap) : Option UInt8 :=
  (headerText headers "helicone-cache-bucket-max-size").bind parseU8

/-- `get_cache_ctx`. -/
def getCacheCtx (headers : HeaderMap) : Except CacheError CacheContext :=
  if (headerBuckets headers).any fun b => maxBucketSize < b then .error .invalidCacheConfig
  else .ok {
    enabled := headerEnabled headers
    directive := (headerText headers "cache-control").map String.ofList
    buckets := headerBuckets headers
    seed := (headerText headers "helicone-cache-seed").map String.ofList
    options := none }

/-! ### What the service rests on -/

/-- The parts of a request that the cache depends on. -/
structure Parts where
  pathAndQuery : Option String
  headers : HeaderMap

/-- `http_cache_semantics::BeforeRequest`. -/
inductive BeforeRequest
  | fresh
  | stale (request : Parts) (isMatch : Bool)

/-- **What the service rests on**: the hash, the store with its policy, and the service
behind it. -/
structure Env (Entry Cached Response : Type) where
  /-- The key of a bucket, from the seed, the path, the body and the bucket. -/
  key : Option String → Option String → Bytes → UInt8 → String
  /-- `CacheManager::get`. -/
  get : String → Except Unit (Option Entry)
  /-- `CachePolicy::before_request`. -/
  beforeRequest : Entry → Parts → BeforeRequest
  /-- The response made of a fresh entry; `none` is an error. -/
  freshResponse : Entry → Parts → UInt8 → Option Response
  /-- The service behind the cache. -/
  inner : Parts → Option Bytes → Response
  /-- The policy lets the response be stored, and its status is a success. -/
  isStorable : CacheContext → Parts → Response → Bool
  /-- The URL and the body of what is stored; `none` is an error. -/
  httpResponse : Parts → Response → Option Cached
  /-- `CacheManager::put`, and the response made of what it returns, for a bucket. -/
  put : String → UInt8 → Cached → Option Response

/-- **What is left to chance**: two orders of the buckets, and a number. -/
structure Chance where
  /-- `shuffle`. -/
  shuffle : List UInt8 → List UInt8
  shuffle_perm : ∀ l, (shuffle l).Perm l
  /-- The order in which the lookups finish. -/
  finished : List UInt8 → List UInt8
  finished_perm : ∀ l, (finished l).Perm l
  /-- `rand::random`. -/
  random : UInt8

/-! ### The code -/

/-- What the service does with buckets, and with the service behind it. -/
inductive CacheEvent
  | range (buckets : UInt8)
  | remainder (divisor : UInt8)
  | lookup (bucket : UInt8) (key : String)
  | inner (parts : Parts) (body : Option Bytes)
  | store (bucket : UInt8) (key : String)

/-- How a call ends. -/
inductive Outcome (Response : Type)
  | response (r : Response)
  | error (e : CacheError)
  | panicked

inductive CacheCheckResult (Response : Type)
  | fresh (r : Response)
  | stale (request : Parts)
  | miss

/-- What is left of the answers that have come in. -/
inductive Drained (Response : Type)
  | fresh (r : Response)
  | rest (staleHits : List (UInt8 × String × Parts)) (emptyBuckets : List UInt8)

section Code

variable {Entry Cached Response : Type} (env : Env Entry Cached Response) (chance : Chance)

/-- `check_cache`. -/
def checkCache (parts : Parts) (bucket : UInt8) (key : String) :
    Except Unit (CacheCheckResult Response) :=
  match env.get key with
  | .error e => .error e
  | .ok none => .ok .miss
  | .ok (some entry) =>
    match env.beforeRequest entry parts with
    | .fresh =>
      match env.freshResponse entry parts bucket with
      | some r => .ok (.fresh r)
      | none => .error ()
    | .stale request isMatch => if isMatch then .ok (.stale request) else .ok .miss

/-- The loop over the answers. A fresh one ends it, and an error is only logged. -/
def drain (parts : Parts) (key : UInt8 → String) (staleHits : List (UInt8 × String × Parts))
    (emptyBuckets : List UInt8) : List UInt8 → Drained Response
  | [] => .rest staleHits emptyBuckets
  | bucket :: buckets =>
    match checkCache env parts bucket (key bucket) with
    | .ok (.fresh r) => .fresh r
    | .ok (.stale request) =>
      drain parts key (staleHits ++ [(bucket, key bucket, request)]) emptyBuckets buckets
    | .ok .miss => drain parts key staleHits (emptyBuckets ++ [bucket]) buckets
    | .error _ => drain parts key staleHits emptyBuckets buckets

/-- `handle_response_for_cache_miss`. -/
def handleResponseForCacheMiss (ctx : CacheContext) (key : String) (parts : Parts)
    (resp : Response) (bucket : UInt8) : List CacheEvent × Outcome Response :=
  if env.isStorable ctx parts resp then
    match env.httpResponse parts resp with
    | none => ([], .error .response)
    | some httpResp =>
      match env.put key bucket httpResp with
      | none => ([.store bucket key], .error .response)
      | some cached => ([.store bucket key], .response cached)
  else ([], .response resp)

/-- The request goes on to the service behind, and its response into a bucket. -/
def requestAndStore (ctx : CacheContext) (key : String) (parts : Parts) (body : Bytes)
    (bucket : UInt8) : List CacheEvent × Outcome Response :=
  let handled := handleResponseForCacheMiss env ctx key parts (env.inner parts (some body)) bucket
  (.inner parts (some body) :: handled.1, handled.2)

/-- The bucket of a complete miss; `none` is a panic. -/
def pickBucket (buckets : UInt8) : List UInt8 → List CacheEvent × Option UInt8
  | bucket :: _ => ([], some bucket)
  | [] => ([.remainder buckets], U8.rem chance.random buckets)

/-- The part of `make_request` that deals with buckets. -/
def serve (ctx : CacheContext) (parts : Parts) (body : Bytes) (buckets : UInt8) :
    List CacheEvent × Outcome Response :=
  let key := env.key ctx.seed parts.pathAndQuery body
  let bucketIndices := chance.shuffle (U8.range buckets)
  let lookups := bucketIndices.map fun bucket => CacheEvent.lookup bucket (key bucket)
  let probed := CacheEvent.range buckets :: lookups
  match drain env parts key [] [] (chance.finished bucketIndices) with
  | .fresh r => (probed, .response r)
  -- of several stale hits, only the first is revalidated
  | .rest ((bucket, key, staleParts) :: _) _ =>
    let stored := requestAndStore env ctx key staleParts body bucket
    (probed ++ stored.1, stored.2)
  | .rest [] emptyBuckets =>
    let picked := pickBucket chance buckets emptyBuckets
    match picked.2 with
    | none => (probed ++ picked.1, .panicked)
    | some bucket =>
      let stored := requestAndStore env ctx (key bucket) parts body bucket
      (probed ++ picked.1 ++ stored.1, stored.2)

/-- The directive is put into a request that has none. -/
def insertDirective (ctx : CacheContext) (parts : Parts) : Except CacheError Parts :=
  match ctx.directive with
  | none => .ok parts
  | some directive =>
    if parts.headers.get "cache-control" = none then
      match HeaderValue.fromStr directive with
      | some value => .ok { parts with headers := parts.headers.insert "cache-control" value }
      | none => .error .invalidHeader
    else .ok parts

/-- `make_request`; a body that cannot be read is `none`. -/
def makeRequest (ctx : CacheContext) (parts : Parts) (body : Option Bytes) :
    List CacheEvent × Outcome Response :=
  if ctx.enabled ≠ some true then ([.inner parts body], .response (env.inner parts body))
  else
    match insertDirective ctx parts with
    | .error e => ([], .error e)
    | .ok parts =>
      match body with
      | none => ([], .error .collectBodyError)
      | some body => serve env chance ctx parts body (ctx.buckets.getD defaultBuckets)

/-- `CacheService::call`. -/
def call (config : CacheConfig) (parts : Parts) (body : Option Bytes) :
    List CacheEvent × Outcome Response :=
  match getCacheCtx parts.headers with
  | .error e => ([], .error e)
  | .ok ctx => makeRequest env chance (config.context.merge ctx) parts body

/-! ### Well used buckets -/

/-- The buckets that are looked up, in order. -/
def probes (events : List CacheEvent) : List UInt8 :=
  events.filterMap fun
    | .lookup bucket _ => some bucket
    | _ => none

/-- **The buckets of a run are well used.** Nothing is divided or counted by zero, the buckets
looked up are among the first `n`, none comes twice, and a response is stored in one of them. -/
structure Bucketed (n : UInt8) (run : List CacheEvent × Outcome Response) : Prop where
  range : ∀ m, .range m ∈ run.1 → m ≠ 0
  remainder : ∀ m, .remainder m ∈ run.1 → m ≠ 0
  probed : ∀ bucket ∈ probes run.1, bucket < n
  nodup : (probes run.1).Nodup
  stored : ∀ bucket key, .store bucket key ∈ run.1 → bucket < n
  total : run.2 ≠ .panicked

theorem bucketed_nil (n : UInt8) {outcome : Outcome Response} (h : outcome ≠ .panicked) :
    Bucketed n ([], outcome) where
  range m hm := by cases hm
  remainder m hm := by cases hm
  probed b hb := by cases hb
  nodup := List.nodup_nil
  stored b key hb := by cases hb
  total := h

/-! ### The lookups -/

/-- The events of the lookups. -/
def probedEvents (n : UInt8) (key : UInt8 → String) : List CacheEvent :=
  .range n :: (chance.shuffle (U8.range n)).map fun bucket => .lookup bucket (key bucket)

theorem probes_probedEvents (n : UInt8) (key : UInt8 → String) :
    probes (probedEvents chance n key) = chance.shuffle (U8.range n) := by
  show (List.map _ _).filterMap _ = _
  rw [List.filterMap_map]
  exact List.filterMap_some

/-- The lookups, followed by what may follow them. -/
theorem bucketed_probedEvents {n : UInt8} (hn : n ≠ 0) (key : UInt8 → String)
    {events : List CacheEvent} {outcome : Outcome Response}
    (hevents : ∀ e ∈ events, (e = .remainder n ∨ ∃ parts body, e = .inner parts body) ∨
      ∃ bucket key, e = .store bucket key ∧ bucket < n)
    (houtcome : outcome ≠ .panicked) :
    Bucketed n (probedEvents chance n key ++ events, outcome) := by
  have hprobes : probes (probedEvents chance n key ++ events) = chance.shuffle (U8.range n) := by
    have hnone : probes events = [] := by
      refine List.filterMap_eq_nil_iff.mpr fun e he => ?_
      rcases hevents e he with (rfl | ⟨parts, body, rfl⟩) | ⟨bucket, key, rfl, -⟩ <;> rfl
    unfold probes at hnone ⊢
    rw [List.filterMap_append, hnone, List.append_nil]
    exact probes_probedEvents chance n key
  -- besides lookups there is one range
  have hfirst : ∀ e ∈ probedEvents chance n key,
      e = .range n ∨ ∃ bucket key, e = .lookup bucket key := by
    intro e he
    rcases List.mem_cons.mp he with rfl | he
    · exact Or.inl rfl
    · obtain ⟨bucket, -, rfl⟩ := List.mem_map.mp he
      exact Or.inr ⟨bucket, _, rfl⟩
  have hmem : ∀ e ∈ probedEvents chance n key ++ events,
      (e = .range n ∨ ∃ bucket key, e = .lookup bucket key) ∨
        (e = .remainder n ∨ ∃ parts body, e = .inner parts body) ∨
          ∃ bucket key, e = .store bucket key ∧ bucket < n := by
    intro e he
    exact (List.mem_append.mp he).imp (hfirst e) (hevents e)
  refine ⟨?_, ?_, ?_, ?_, ?_, houtcome⟩
  · intro m hm
    rcases hmem _ hm with (h | ⟨_, _, h⟩) | (h | ⟨_, _, h⟩) | ⟨_, _, h, -⟩ <;> cases h
    exact hn
  · intro m hm
    rcases hmem _ hm with (h | ⟨_, _, h⟩) | (h | ⟨_, _, h⟩) | ⟨_, _, h, -⟩ <;> cases h
    exact hn
  · intro bucket hb
    rw [hprobes] at hb
    exact U8.mem_range.mp ((chance.shuffle_perm _).mem_iff.mp hb)
  · rw [hprobes]
    exact (chance.shuffle_perm _).nodup_iff.mpr (U8.nodup_range n)
  · intro bucket key' hb
    rcases hmem _ hb with (h | ⟨_, _, h⟩) | (h | ⟨_, _, h⟩) | ⟨_, _, h, hlt⟩ <;> cases h
    exact hlt

/-! ### The answers -/

/-- **What the answers leave.** Every bucket that is left was among those looked up. -/
theorem drain_spec (parts : Parts) (key : UInt8 → String) {n : UInt8}
    {staleHits : List (UInt8 × String × Parts)} {emptyBuckets buckets : List UInt8}
    (hstale : ∀ hit ∈ staleHits, hit.1 < n) (hempty : ∀ bucket ∈ emptyBuckets, bucket < n)
    (hbuckets : ∀ bucket ∈ buckets, bucket < n)
    {staleHits' : List (UInt8 × String × Parts)} {emptyBuckets' : List UInt8}
    (h : drain env parts key staleHits emptyBuckets buckets = .rest staleHits' emptyBuckets') :
    (∀ hit ∈ staleHits', hit.1 < n) ∧ ∀ bucket ∈ emptyBuckets', bucket < n := by
  induction buckets generalizing staleHits emptyBuckets with
  | nil =>
    cases h
    exact ⟨hstale, hempty⟩
  | cons bucket buckets ih =>
    obtain ⟨hbucket, hrest⟩ := List.forall_mem_cons.mp hbuckets
    unfold drain at h
    split at h
    -- a fresh hit ends the loop, which is not what `h` says
    · cases h
    -- a stale one is added to the hits
    · refine ih ?_ hempty hrest h
      intro hit hhit
      rcases List.mem_append.mp hhit with hhit | hhit
      · exact hstale hit hhit
      · rw [List.mem_singleton.mp hhit]
        exact hbucket
    -- a missed bucket is added to the empty ones
    · refine ih hstale ?_ hrest h
      intro b hb
      rcases List.mem_append.mp hb with hb | hb
      · exact hempty b hb
      · rw [List.mem_singleton.mp hb]
        exact hbucket
    -- a lookup that failed adds nothing
    · exact ih hstale hempty hrest h

/-- Where nothing is stored, every bucket is empty. -/
theorem drain_of_miss {env : Env Entry Cached Response} {parts : Parts} {key : UInt8 → String}
    {staleHits : List (UInt8 × String × Parts)} {emptyBuckets buckets : List UInt8}
    (h : ∀ bucket ∈ buckets, checkCache env parts bucket (key bucket) = .ok .miss) :
    drain env parts key staleHits emptyBuckets buckets =
      .rest staleHits (emptyBuckets ++ buckets) := by
  induction buckets generalizing emptyBuckets with
  | nil => rw [List.append_nil, drain]
  | cons bucket buckets ih =>
    obtain ⟨hfirst, hrest⟩ := List.forall_mem_cons.mp h
    rw [drain, hfirst]
    dsimp only
    rw [ih hrest, List.append_assoc, List.singleton_append]

/-! ### Storing -/

/-- The service behind is asked, and its response stored in the bucket it is meant for, if at
all. -/
theorem requestAndStore_spec (ctx : CacheContext) (key : String) (parts : Parts) (body : Bytes)
    (bucket : UInt8) :
    (∀ e ∈ (requestAndStore env ctx key parts body bucket).1,
        e = .inner parts (some body) ∨ e = .store bucket key) ∧
      (requestAndStore env ctx key parts body bucket).2 ≠ .panicked := by
  have hhandled : ∀ resp,
      (∀ e ∈ (handleResponseForCacheMiss env ctx key parts resp bucket).1, e = .store bucket key) ∧
        (handleResponseForCacheMiss env ctx key parts resp bucket).2 ≠ .panicked := by
    intro resp
    unfold handleResponseForCacheMiss
    split
    · split
      · exact ⟨(fun e he => by cases he), (fun h => by cases h)⟩
      · split
        · exact ⟨(fun e he => List.mem_singleton.mp he), (fun h => by cases h)⟩
        · exact ⟨(fun e he => List.mem_singleton.mp he), (fun h => by cases h)⟩
    · exact ⟨(fun e he => by cases he), (fun h => by cases h)⟩
  obtain ⟨hstored, htotal⟩ := hhandled (env.inner parts (some body))
  exact ⟨fun e he => (List.mem_cons.mp he).imp_right (hstored e), htotal⟩

/-- A response that may not be stored is passed on. -/
theorem requestAndStore_of_not_storable {ctx : CacheContext} {parts : Parts} {body : Bytes}
    (h : env.isStorable ctx parts (env.inner parts (some body)) = false) (key : String)
    (bucket : UInt8) :
    requestAndStore env ctx key parts body bucket =
      ([.inner parts (some body)], .response (env.inner parts (some body))) := by
  unfold requestAndStore handleResponseForCacheMiss
  rw [h, if_neg Bool.false_ne_true]

/-- One that is stored is made of what `put` returns. -/
theorem requestAndStore_of_put {ctx : CacheContext} {key : String} {parts : Parts} {body : Bytes}
    {bucket : UInt8} {httpResp : Cached} {cached : Response}
    (h : env.isStorable ctx parts (env.inner parts (some body)) = true)
    (hhttp : env.httpResponse parts (env.inner parts (some body)) = some httpResp)
    (hput : env.put key bucket httpResp = some cached) :
    requestAndStore env ctx key parts body bucket =
      ([.inner parts (some body), .store bucket key], .response cached) := by
  unfold requestAndStore handleResponseForCacheMiss
  rw [h, if_pos rfl, hhttp]
  dsimp only
  rw [hput]

/-- **One that should be stored and cannot be is lost.** -/
theorem requestAndStore_of_put_eq_none {ctx : CacheContext} {key : String} {parts : Parts}
    {body : Bytes} {bucket : UInt8}
    (h : env.isStorable ctx parts (env.inner parts (some body)) = true)
    (hput : (env.httpResponse parts (env.inner parts (some body))).bind (env.put key bucket) =
      none) :
    (requestAndStore env ctx key parts body bucket).2 = .error .response := by
  unfold requestAndStore handleResponseForCacheMiss
  rw [h, if_pos rfl]
  cases hhttp : env.httpResponse parts (env.inner parts (some body)) with
  | none => rfl
  | some httpResp =>
    rw [hhttp, Option.bind_some] at hput
    dsimp only
    rw [hput]

/-- A bucket can be picked if there is one. -/
theorem pickBucket_spec {n : UInt8} (hn : n ≠ 0) {emptyBuckets : List UInt8}
    (hempty : ∀ bucket ∈ emptyBuckets, bucket < n) :
    (∀ e ∈ (pickBucket chance n emptyBuckets).1, e = .remainder n) ∧
      ∃ bucket, (pickBucket chance n emptyBuckets).2 = some bucket ∧ bucket < n := by
  cases emptyBuckets with
  | nil =>
    have hrem : U8.rem chance.random n = some (chance.random % n) := if_neg hn
    exact ⟨(fun e he => List.mem_singleton.mp he), _, hrem, U8.lt_of_rem hrem⟩
  | cons bucket buckets =>
    exact ⟨(fun e he => by cases he), bucket, rfl, hempty bucket List.mem_cons_self⟩

/-! ### What goes on to the service behind -/

/-- The request that `serve` sends to the service behind, with the bucket and the key its response
is for; none where the cache answers by itself. -/
def forwarded (ctx : CacheContext) (parts : Parts) (body : Bytes) (buckets : UInt8) :
    Option (UInt8 × String × Parts) :=
  let key := env.key ctx.seed parts.pathAndQuery body
  match drain env parts key [] [] (chance.finished (chance.shuffle (U8.range buckets))) with
  | .fresh _ => none
  | .rest ((bucket, key, staleParts) :: _) _ => some (bucket, key, staleParts)
  | .rest [] emptyBuckets =>
    (pickBucket chance buckets emptyBuckets).2.map fun bucket => (bucket, key bucket, parts)

/-- The client is answered with what comes of the request that is sent. -/
theorem serve_of_forwarded {ctx : CacheContext} {parts parts' : Parts} {body : Bytes}
    {buckets bucket : UInt8} {key : String}
    (h : forwarded env chance ctx parts body buckets = some (bucket, key, parts')) :
    (serve env chance ctx parts body buckets).2 =
      (requestAndStore env ctx key parts' body bucket).2 := by
  unfold forwarded at h
  unfold serve
  dsimp only at h ⊢
  split at h
  · cases h
  · cases h
    rfl
  · next emptyBuckets hdrain =>
    obtain ⟨picked, hpick, heq⟩ := Option.map_eq_some_iff.mp h
    cases heq
    rw [hpick]

/-- The request finds an entry that it revalidates, the first of those that are stale for it. -/
def Revalidates (ctx : CacheContext) (parts : Parts) (body : Bytes) (buckets : UInt8)
    (hit : UInt8 × String × Parts) : Prop :=
  ∃ staleHits emptyBuckets, drain env parts (env.key ctx.seed parts.pathAndQuery body) [] []
    (chance.finished (chance.shuffle (U8.range buckets))) = .rest (hit :: staleHits) emptyBuckets

/-- The revalidation is what is sent. -/
theorem forwarded_of_revalidates {ctx : CacheContext} {parts : Parts} {body : Bytes}
    {buckets : UInt8} {hit : UInt8 × String × Parts}
    (h : Revalidates env chance ctx parts body buckets hit) :
    forwarded env chance ctx parts body buckets = some hit := by
  obtain ⟨staleHits, emptyBuckets, hdrain⟩ := h
  unfold forwarded
  dsimp only
  rw [hdrain]

/-! ### Requests -/

/-- **With at least one bucket** everything goes well. -/
theorem bucketed_of_ne_zero {n : UInt8} (hn : n ≠ 0) (ctx : CacheContext) (parts : Parts)
    (body : Bytes) : Bucketed n (serve env chance ctx parts body n) := by
  -- whatever the order of the buckets and of the answers, they are those below `n`
  have hfinished : ∀ bucket ∈ chance.finished (chance.shuffle (U8.range n)), bucket < n := by
    intro bucket hb
    have hshuffled := (chance.finished_perm _).mem_iff.mp hb
    exact U8.mem_range.mp ((chance.shuffle_perm _).mem_iff.mp hshuffled)
  unfold serve
  dsimp only
  split
  · -- a fresh answer
    next r hdrain =>
    have houtcome : Outcome.response r ≠ .panicked := fun h => by cases h
    rw [← List.append_nil (_ :: _)]
    exact bucketed_probedEvents chance hn _ (fun e he => absurd he List.not_mem_nil) houtcome
  · -- a stale one
    next bucket key staleParts hits emptyBuckets hdrain =>
    obtain ⟨hstale, -⟩ := drain_spec env parts _ (fun hit hhit => absurd hhit List.not_mem_nil)
      (fun bucket hb => absurd hb List.not_mem_nil) hfinished hdrain
    obtain ⟨hstored, htotal⟩ := requestAndStore_spec env ctx key staleParts body bucket
    exact bucketed_probedEvents chance hn _ (fun e he => (hstored e he).imp
      (fun h => Or.inr ⟨staleParts, some body, h⟩)
      fun h => ⟨bucket, key, h, hstale _ List.mem_cons_self⟩) htotal
  · -- none
    next emptyBuckets hdrain =>
    obtain ⟨-, hempty⟩ := drain_spec env parts _ (fun hit hhit => absurd hhit List.not_mem_nil)
      (fun bucket hb => absurd hb List.not_mem_nil) hfinished hdrain
    obtain ⟨hevents, bucket, hpicked, hlt⟩ := pickBucket_spec chance hn hempty
    rw [hpicked]
    dsimp only
    obtain ⟨hstored, htotal⟩ := requestAndStore_spec env ctx
      (env.key ctx.seed parts.pathAndQuery body bucket) parts body bucket
    rw [List.append_assoc]
    refine bucketed_probedEvents chance hn _ (fun e he => ?_) htotal
    rcases List.mem_append.mp he with he | he
    · exact Or.inl (Or.inl (hevents e he))
    · exact (hstored e he).imp (fun h => Or.inr ⟨parts, some body, h⟩) fun h => ⟨bucket, _, h, hlt⟩

/-- Without buckets a range is counted by zero. -/
theorem not_bucketed_zero (n : UInt8) (ctx : CacheContext) (parts : Parts) (body : Bytes) :
    ¬Bucketed n (serve env chance ctx parts body 0) := by
  intro h
  refine h.range 0 ?_ rfl
  unfold serve
  dsimp only
  split
  · exact List.mem_cons_self
  · exact List.mem_append_left _ List.mem_cons_self
  · split
    · exact List.mem_append_left _ List.mem_cons_self
    · exact List.mem_append_left _ (List.mem_append_left _ List.mem_cons_self)

/-- The number of buckets of a request: what its headers ask for, or what is configured. -/
def effectiveBuckets (config : CacheConfig) (headers : HeaderMap) : UInt8 :=
  (headerBuckets headers).getD config.buckets

/-- A configured directive that no header can hold, for a request without one. -/
def InvalidDirective (config : CacheConfig) (headers : HeaderMap) : Prop :=
  headers.get "cache-control" = none ∧
    ∃ directive, config.directive = some directive ∧ HeaderValue.fromStr directive = none

/-- A request with too many buckets is refused, and none that has none. -/
theorem effectiveBuckets_ne_zero_of_refused {config : CacheConfig} {headers : HeaderMap}
    (h : (headerBuckets headers).any fun b => maxBucketSize < b) :
    effectiveBuckets config headers ≠ 0 := by
  unfold effectiveBuckets
  cases hbuckets : headerBuckets headers with
  | none =>
    rw [hbuckets] at h
    cases h
  | some b =>
    rw [hbuckets] at h
    have hlt : maxBucketSize < b := of_decide_eq_true h
    rintro rfl
    exact absurd hlt (by decide)

/-- What the headers decide of the context of a request. -/
theorem merge_spec {config : CacheConfig} {headers : HeaderMap} {ctx : CacheContext}
    (hctx : getCacheCtx headers = .ok ctx) :
    (config.context.merge ctx).enabled = some ((headerEnabled headers).getD true) ∧
      (config.context.merge ctx).buckets.getD defaultBuckets = effectiveBuckets config headers := by
  unfold getCacheCtx at hctx
  split at hctx
  · cases hctx
  cases hctx
  refine ⟨rfl, ?_⟩
  show ((headerBuckets headers).or (some config.buckets)).getD _ = (headerBuckets headers).getD _
  cases headerBuckets headers with
  | none => rfl
  | some b => rfl

/-- The directive is put in unless it is invalid. -/
theorem insertDirective_eq_ok_iff {config : CacheConfig} {parts : Parts} {ctx : CacheContext}
    (hctx : getCacheCtx parts.headers = .ok ctx) :
    (∃ parts', insertDirective (config.context.merge ctx) parts = .ok parts') ↔
      ¬InvalidDirective config parts.headers := by
  unfold getCacheCtx at hctx
  split at hctx
  · cases hctx
  cases hctx
  unfold insertDirective InvalidDirective
  by_cases hget : parts.headers.get "cache-control" = none
  · -- the directive is the configured one
    have hnone : headerText parts.headers "cache-control" = none := by
      unfold headerText
      rw [hget]
      rfl
    have hdirective : ((headerText parts.headers "cache-control").map String.ofList).or
        config.context.directive = config.directive := by
      rw [hnone]
      rfl
    unfold CacheContext.merge
    simp only [hdirective, hget, if_true, true_and]
    cases config.directive with
    | none => simp
    | some directive =>
      cases hvalue : HeaderValue.fromStr directive with
      | none => simp [hvalue]
      | some value => simp [hvalue]
  -- the directive is the request's own, so it is a valid header already
  · simp only [hget, if_false, false_and, not_false_iff, iff_true]
    split
    · exact ⟨_, rfl⟩
    · exact ⟨_, rfl⟩

/-- **What becomes of a request** whose caching is not turned off. It is refused before its
buckets are counted, and then has some or could not be cached; or it is served. -/
theorem call_cases {config : CacheConfig} {parts : Parts} {body : Option Bytes}
    (henabled : headerEnabled parts.headers ≠ some false) :
    (∃ e, call env chance config parts body = ([], .error e) ∧
      (effectiveBuckets config parts.headers = 0 →
        InvalidDirective config parts.headers ∨ body = none)) ∨
    (¬InvalidDirective config parts.headers ∧ ∃ ctx parts' body', body = some body' ∧
      call env chance config parts body =
        serve env chance ctx parts' body' (effectiveBuckets config parts.headers)) := by
  unfold call
  cases hctx : getCacheCtx parts.headers with
  | error e =>
    -- only the number of buckets is refused here, and it is not zero
    have hrefused : (headerBuckets parts.headers).any fun b => maxBucketSize < b := by
      unfold getCacheCtx at hctx
      split at hctx
      · assumption
      · cases hctx
    exact Or.inl ⟨e, rfl, fun h => absurd h (effectiveBuckets_ne_zero_of_refused hrefused)⟩
  | ok ctx =>
    obtain ⟨hmerged, hbuckets⟩ := @merge_spec config _ _ hctx
    have htrue : (headerEnabled parts.headers).getD true = true := by
      cases h : headerEnabled parts.headers with
      | none => rfl
      | some b =>
        cases b with
        | true => rfl
        | false => exact absurd h henabled
    unfold makeRequest
    dsimp only
    rw [hmerged, htrue, if_neg (not_not_intro rfl), hbuckets]
    -- the directive is put in before the body is collected
    cases hinsert : insertDirective (config.context.merge ctx) parts with
    | error e =>
      have hinvalid : InvalidDirective config parts.headers := by
        by_contra hvalid
        obtain ⟨parts', hparts⟩ := (insertDirective_eq_ok_iff hctx).mpr hvalid
        rw [hparts] at hinsert
        cases hinsert
      exact Or.inl ⟨e, rfl, fun _ => Or.inl hinvalid⟩
    | ok parts' =>
      cases body with
      | none => exact Or.inl ⟨_, rfl, fun _ => Or.inr rfl⟩
      | some body =>
        exact Or.inr ⟨(insertDirective_eq_ok_iff hctx).mp ⟨parts', hinsert⟩, _, _, _, rfl, rfl⟩

/-- **The requests whose buckets are well used.** They are those with at least one bucket, and
those that are refused or passed on before the buckets are counted. -/
theorem bucketed_iff (config : CacheConfig) (parts : Parts) (body : Option Bytes) :
    (headerEnabled parts.headers ≠ some false →
        Bucketed (effectiveBuckets config parts.headers) (call env chance config parts body)) ↔
      (effectiveBuckets config parts.headers = 0 →
        headerEnabled parts.headers = some false ∨ InvalidDirective config parts.headers ∨
          body = none) := by
  by_cases hdisabled : headerEnabled parts.headers = some false
  · exact iff_of_true (fun h => absurd hdisabled h) (fun _ => Or.inl hdisabled)
  obtain ⟨e, hcall, hrefused⟩ | ⟨hvalid, ctx, parts', body, rfl, hcall⟩ :=
    @call_cases _ _ _ env chance config parts body hdisabled
  · rw [hcall]
    exact iff_of_true (fun _ => bucketed_nil _ (fun h => by cases h)) (fun h => Or.inr (hrefused h))
  rw [hcall]
  -- now it is the number of buckets that decides
  by_cases hzero : effectiveBuckets config parts.headers = 0
  · rw [hzero]
    refine iff_of_false (fun h => not_bucketed_zero env chance 0 _ _ _ (h hdisabled)) ?_
    intro h
    rcases h rfl with h | h | h
    · exact hdisabled h
    · exact hvalid h
    · cases h
  · exact iff_of_true (fun _ => bucketed_of_ne_zero env chance hzero _ _ _)
      (fun h => absurd h hzero)

end Code

/-- A store without entries, in front of a service whose responses are not kept. -/
def emptyStore : Env Unit Unit Unit where
  key _ _ _ _ := ""
  get _ := .ok none
  beforeRequest _ _ := .fresh
  freshResponse _ _ _ := none
  inner _ _ := ()
  isStorable _ _ _ := false
  httpResponse _ _ := none
  put _ _ _ := none

/-- Everything stays in order. -/
def noChance : Chance where
  shuffle := id
  shuffle_perm := List.Perm.refl
  finished := id
  finished_perm := List.Perm.refl
  random := 0

/-- A request that asks for this many buckets. -/
def askFor (digits : List UInt8) (h : digits.all valueByte = true) : Parts where
  pathAndQuery := none
  headers := [("helicone-cache-bucket-max-size", ⟨digits, h⟩)]

/-- **A request can ask for no buckets.** The remainder by zero panics, as it does when none
are configured. -/
theorem bucketed_fails :
    (¬ ∀ (config : CacheConfig) (parts : Parts) (body : Option Bytes),
        config.buckets ≠ 0 → headerEnabled parts.headers ≠ some false →
        Bucketed (effectiveBuckets config parts.headers)
          (call emptyStore noChance config parts body)) ∧
      ¬ ∀ (config : CacheConfig) (parts : Parts) (body : Option Bytes),
        headerBuckets parts.headers = none → headerEnabled parts.headers ≠ some false →
        Bucketed (effectiveBuckets config parts.headers)
          (call emptyStore noChance config parts body) := by
  constructor
  · intro h
    have hrun := h ⟨none, 1, none⟩ (askFor [48] (by decide)) (some []) (by decide) (by decide)
    exact hrun.total rfl
  · intro h
    have hrun := h ⟨none, 0, none⟩ ⟨none, []⟩ (some []) rfl (by decide)
    exact hrun.total rfl

end AiGateway.Cache
