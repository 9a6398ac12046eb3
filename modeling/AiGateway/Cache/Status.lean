import AiGateway.Cache.Probing
import AiGateway.Cache.Transparent

/-!
# What a response says of the caches

The gateway can have a cache for everything and another one for each of its routers, so a
request meets up to two caches, one behind the other, that share a store. Each of them says in
two headers what it has done. `HeaderMap::extend` appends, and nothing removes what is there: a
hit says so twice, once in `check_cache` and once in `make_request`, and what a cache stores and
answers with keeps what the cache behind it has said.

The caches on the way of a request are a list, from the outside in. What each of them meets (what
its lookups find, the order they come back in, the time) is its own, so that other requests can
be served in between.

* `callCases_call`: what one cache makes of a request;
* `sayings_through`: what a response says after so many caches have stored it;
* `status_headers_iff`: in every history, the headers are unambiguous exactly if the response
  does not come from a cache, and one cache has stored it at most.
-/

namespace AiGateway.Cache

open Http Transition

/-! ### Caches on the way of a request -/

/-- The headers that tell what a cache has done. -/
def cacheNames : List String := [cacheHitHeader, cacheBucketIdx]

/-- **A cache on the way of a request**, and what it meets there. -/
structure CacheLayer (Time Policy : Type) where
  config : CacheConfig
  method : String
  origin : Option String
  now : Time
  chance : Chance
  /-- What the lookups find. -/
  get : String → Except Unit (Option (HttpResponse × Policy))
  putFails : Bool
  /-- What the layers behind it do to a request, and to the response. -/
  request : Parts → Parts
  response : Message → Message
  /-- They leave the headers of caches alone. -/
  values_response : ∀ m, ∀ name ∈ cacheNames,
    (response m).headers.values name = m.headers.values name

/-- What becomes of an error or of a panic: a response of `ErrorHandlerLayer` or of
`CatchPanicLayer`, which say nothing of caches. -/
structure Failures where
  response : Option CacheError → Message
  values_response : ∀ e, ∀ name ∈ cacheNames, (response e).headers.values name = []

/-- Where a response was made. -/
inductive Source
  | upstream
  | cache
  | failure
  deriving DecidableEq

/-- **The way of a response**: its source, what it was there, and the caches that it has passed
since: how many of them are enabled for the request, and how many have stored it. -/
structure Way where
  source : Source
  made : Message
  passed : ℕ
  stored : ℕ

structure Served where
  response : Message
  way : Way

section Code

variable {Time Policy : Type} (hash : List Write → UInt64) (sem : Semantics Time Policy)

/-- What a cache rests on, in front of a service. -/
def CacheLayer.env (layer : CacheLayer Time Policy) (inner : Parts → Option Bytes → Message) :
    Env (HttpResponse × Policy) HttpResponse Message where
  key := Cache.key hash
  get := layer.get
  beforeRequest entry parts :=
    (httpLibrary hash sem).beforeRequest entry ⟨layer.method, layer.origin, parts⟩ layer.now
  freshResponse entry parts :=
    (httpLibrary hash sem).freshResponse entry ⟨layer.method, layer.origin, parts⟩
  inner := inner
  isStorable ctx parts response :=
    (httpLibrary hash sem).isStorable ctx ⟨layer.method, layer.origin, parts⟩ response layer.now
  httpResponse parts response :=
    (httpLibrary hash sem).httpResponse ⟨layer.method, layer.origin, parts⟩ response
  put _ bucket cached :=
    if layer.putFails then none else (httpLibrary hash sem).putResponse cached bucket

/-- The response of a cache in front of a service, and the way it has taken: without a call of the
service, it was in the cache. -/
def CacheLayer.serve (failures : Failures) (layer : CacheLayer Time Policy)
    (inner : Parts → Option Bytes → Served) (parts : Parts) (body : Option Bytes) : Served :=
  let behind := fun parts body => inner (layer.request parts) body
  let called := call (layer.env hash sem fun parts body =>
    layer.response (behind parts body).response) layer.chance layer.config parts body
  match called.2, innerCalls called.1 with
  -- nothing behind was called
  | .response r, [] => ⟨r, ⟨.cache, r, 0, 0⟩⟩
  | .response r, (parts', body') :: _ =>
    -- the call behind is the one the response comes from
    let way := (behind parts' body').way
    ⟨r, { way with
      passed := way.passed + if (probes called.1).isEmpty then 0 else 1
      stored := way.stored + (stores called.1).length }⟩
  | .error e, _ => ⟨failures.response (some e), ⟨.failure, failures.response (some e), 0, 0⟩⟩
  | .panicked, _ => ⟨failures.response none, ⟨.failure, failures.response none, 0, 0⟩⟩

/-- **A request on its way through caches**, the outermost first. -/
def serveThrough (failures : Failures) (upstream : Parts → Option Bytes → Message) :
    List (CacheLayer Time Policy) → Parts → Option Bytes → Served
  | [], parts, body => ⟨upstream parts body, ⟨.upstream, upstream parts body, 0, 0⟩⟩
  | layer :: layers, parts, body =>
    layer.serve hash sem failures (serveThrough failures upstream layers) parts body

/-! ### One cache -/

/-- An entry has the texts of some headers. -/
def HasTexts (entry : HttpResponse × Policy) : Prop :=
  ∃ headers, entry.1.headers = headerMapToHashMap headers

/-- **What a cache makes of a request.** -/
inductive CallCases (inner : Parts → Option Bytes → Message) :
    List CacheEvent × Outcome Message → Prop
  /-- The response of the service behind. -/
  | passed {events : List CacheEvent} {parts : Parts} {body : Option Bytes} :
      innerCalls events = [(parts, body)] → stores events = [] →
      CallCases inner (events, .response (inner parts body))
  /-- That response, as it is stored. -/
  | stored {events : List CacheEvent} {parts : Parts} {body : Option Bytes} {bucket : UInt8}
      {key : String} {r : Message} :
      innerCalls events = [(parts, body)] → stores events = [(bucket, key)] →
      r.headers = (kept (inner parts body).headers).extend
        (cacheHeaders cacheMissHeaderValue bucket) →
      CallCases inner (events, .response r)
  /-- A response from the store. -/
  | hit {events : List CacheEvent} {headers : HeaderMap} {bucket : UInt8} {r : Message} :
      innerCalls events = [] →
      r.headers = (kept headers).extend
        (cacheHeaders cacheHitHeaderValue bucket ++ cacheHeaders cacheHitHeaderValue bucket) →
      CallCases inner (events, .response r)
  | error {events : List CacheEvent} (e : CacheError) : CallCases inner (events, .error e)
  | panicked {events : List CacheEvent} : CallCases inner (events, .panicked)

variable {hash sem} {layer : CacheLayer Time Policy} {inner : Parts → Option Bytes → Message}

/-- Events that neither call nor store can be put in front. -/
theorem CallCases.append {events events' : List CacheEvent} {outcome : Outcome Message}
    (hcalls : innerCalls events = []) (hstores : stores events = [])
    (h : CallCases inner (events', outcome)) : CallCases inner (events ++ events', outcome) := by
  have hcalls' : innerCalls (events ++ events') = innerCalls events' := by
    rw [innerCalls_append, hcalls, List.nil_append]
  have hstores' : stores (events ++ events') = stores events' := by
    rw [stores_append, hstores, List.nil_append]
  cases h with
  | passed hcall hstore => exact .passed (hcalls'.trans hcall) (hstores'.trans hstore)
  | stored hcall hstore hr => exact .stored (hcalls'.trans hcall) (hstores'.trans hstore) hr
  | hit hcall hr => exact .hit (hcalls'.trans hcall) hr
  | error e => exact .error e
  | panicked => exact .panicked

/-- A request that goes on: its response is passed on, stored, or lost. -/
theorem callCases_requestAndStore (ctx : CacheContext) (key : String) (parts : Parts) (body : Bytes)
    (bucket : UInt8) :
    CallCases inner (requestAndStore (layer.env hash sem inner) ctx key parts body bucket) := by
  unfold requestAndStore
  dsimp only
  unfold handleResponseForCacheMiss
  split
  · cases hhttp : (layer.env hash sem inner).httpResponse parts
        ((layer.env hash sem inner).inner parts (some body)) with
    | none => exact .error _
    | some cached =>
      dsimp only
      cases hput : (layer.env hash sem inner).put key bucket cached with
      | none => exact .error _
      | some r =>
        refine @CallCases.stored _ _ parts (some body) _ _ _ rfl rfl ?_
        -- what is put has the texts of the headers, and is built into the response
        change (if sem.hasUrl _ then Option.map _ (inner parts (some body)).body else none) = _
          at hhttp
        change (if layer.putFails then none else buildResponse cached cached.status
          (cacheHeaders cacheMissHeaderValue bucket)) = some r at hput
        split at hhttp
        · obtain ⟨bytes, -, rfl⟩ := Option.map_eq_some_iff.mp hhttp
          split at hput
          · cases hput
          · rw [buildResponse_stored] at hput
            cases hput
            rfl
        · cases hhttp
  · exact .passed rfl rfl

/-- A fresh answer is built from the texts of an entry. -/
theorem headers_of_fresh (hreads : ∀ key entry, layer.get key = .ok (some entry) → HasTexts entry)
    {parts : Parts} {bucket : UInt8} {key : String} {r : Message}
    (h : checkCache (layer.env hash sem inner) parts bucket key = .ok (.fresh r)) :
    ∃ headers, r.headers = (kept headers).extend
      (cacheHeaders cacheHitHeaderValue bucket ++ cacheHeaders cacheHitHeaderValue bucket) := by
  unfold checkCache at h
  split at h
  · cases h
  · cases h
  · next entry hget =>
    -- the entry has texts, so it comes back with the headers that were kept
    obtain ⟨headers, hheaders⟩ := hreads key entry hget
    split at h
    · split at h
      · next r' hfresh =>
        cases h
        change (if _ then Option.map _ (buildResponse entry.1 _ _) else none) = _ at hfresh
        split at hfresh
        · have hentry : entry.1 = ⟨entry.1.body, headerMapToHashMap headers, entry.1.status⟩ := by
            rw [← hheaders]
          rw [hentry, buildResponse_stored] at hfresh
          cases hfresh
          exact ⟨headers, List.append_assoc _ _ _⟩
        · cases hfresh
      · cases h
    · split at h <;> cases h

/-- A request whose buckets are looked up. -/
theorem callCases_serve (hreads : ∀ key entry, layer.get key = .ok (some entry) → HasTexts entry)
    (ctx : CacheContext) (parts : Parts) (body : Bytes) (n : UInt8) :
    CallCases inner
      (serve (layer.env hash sem inner) layer.chance ctx parts body n) := by
  obtain ⟨hcalls, hstores⟩ := probed_spec layer.chance (n := n)
    ((layer.env hash sem inner).key ctx.seed parts.pathAndQuery body)
  unfold probedEvents at hcalls hstores
  unfold serve
  dsimp only
  split
  · next r hdrain =>
    obtain ⟨bucket, -, hcheck⟩ := exists_of_drain_eq_fresh hdrain
    obtain ⟨headers, hheaders⟩ := headers_of_fresh hreads hcheck
    exact .hit hcalls hheaders
  -- a stale entry is asked about, and without one the service is called
  · exact (callCases_requestAndStore _ _ _ _ _).append hcalls hstores
  · next emptyBuckets hdrain =>
    split
    · exact .panicked
    · -- picking a bucket calls nothing
      have hpicked : innerCalls (pickBucket layer.chance n emptyBuckets).1 = [] ∧
          stores (pickBucket layer.chance n emptyBuckets).1 = [] := by
        unfold pickBucket
        split <;> exact ⟨rfl, rfl⟩
      refine (callCases_requestAndStore _ _ _ _ _).append ?_ ?_
      · rw [innerCalls_append, hcalls, hpicked.1, List.nil_append]
      · rw [stores_append, hstores, hpicked.2, List.nil_append]

/-- **What one cache makes of a request**, if the entries it finds were stored by a cache. -/
theorem callCases_call (hreads : ∀ key entry, layer.get key = .ok (some entry) → HasTexts entry)
    (parts : Parts) (body : Option Bytes) :
    CallCases inner
      (call (layer.env hash sem inner) layer.chance layer.config parts body) := by
  unfold call
  cases getCacheCtx parts.headers with
  | error e => exact .error e
  | ok ctx =>
    show CallCases inner (makeRequest _ _ (layer.config.context.merge ctx) parts body)
    unfold makeRequest
    split
    · exact .passed rfl rfl
    · cases insertDirective (layer.config.context.merge ctx) parts with
      | error e => exact .error e
      | ok parts =>
        cases body with
        | none => exact .error _
        | some body => exact callCases_serve hreads _ parts body _

/-! ### What is said -/

/-- The first value of a name is text, so that it is kept. -/
def SaysText (headers : HeaderMap) (name : String) : Prop :=
  ∃ value, headers.get name = some value ∧ isText value

/-- There is more than one value, and the first is text. -/
def SaysTwice (headers : HeaderMap) (name : String) : Prop :=
  2 ≤ (headers.values name).length ∧ SaysText headers name

/-- What is said of the caches is text. -/
theorem isText_of_mem_cacheHeaders {value v : HeaderValue} (hvalue : isText value) {bucket : UInt8}
    {name : String} (hv : v ∈ (cacheHeaders value bucket).values name) : isText v := by
  have hbucket : ∀ n : Fin 256, isText (bucketHeaderValue (UInt8.ofNat n)) = true := by
    decide +kernel
  have hbucket' := hbucket ⟨bucket.toNat, bucket.toNat_lt⟩
  rw [UInt8.ofNat_toNat] at hbucket'
  rw [values_cacheHeaders] at hv
  split at hv
  · rw [List.mem_singleton.mp hv]
    exact hvalue
  · split at hv
    · rw [List.mem_singleton.mp hv]
      exact hbucket'
    · cases hv

/-- A cache says one thing under each of its two names. -/
theorem exists_values_cacheHeaders {value : HeaderValue} (hvalue : isText value) (bucket : UInt8)
    {name : String} (hname : name ∈ cacheNames) :
    ∃ v, (cacheHeaders value bucket).values name = [v] ∧ isText v := by
  have hone : ∃ v, (cacheHeaders value bucket).values name = [v] := by
    rw [values_cacheHeaders]
    rcases List.mem_cons.mp hname with rfl | hname
    · exact ⟨value, if_pos rfl⟩
    · obtain rfl := List.mem_singleton.mp hname
      exact ⟨bucketHeaderValue bucket, rfl⟩
  obtain ⟨v, hv⟩ := hone
  exact ⟨v, hv, isText_of_mem_cacheHeaders hvalue (hv ▸ List.mem_singleton.mpr rfl)⟩

/-- What is kept of a name is text. -/
theorem isText_of_mem_kept {headers : HeaderMap} {name : String} {v : HeaderValue}
    (h : v ∈ (kept headers).values name) : isText v := by
  rw [values_kept, Option.mem_toList] at h
  exact (Option.filter_eq_some_iff.mp h).2

/-- What is kept depends on the values. -/
theorem values_kept_congr {headers headers' : HeaderMap} {name : String}
    (h : headers.values name = headers'.values name) :
    (kept headers).values name = (kept headers').values name := by
  rw [values_kept, values_kept, HeaderMap.get, HeaderMap.get, h]

/-- **What has been said is said again**: a response that is stored keeps the first text. -/
theorem saysTwice_of_kept {headers headers' : HeaderMap} {name : String} (h : SaysText headers name)
    {value : HeaderValue} (hvalue : isText value) {bucket : UInt8} (hname : name ∈ cacheNames)
    (hheaders : headers'.values name =
      (kept headers).values name ++ (cacheHeaders value bucket).values name) :
    SaysTwice headers' name := by
  obtain ⟨first, hget, hfirst⟩ := h
  obtain ⟨v, hv, -⟩ := exists_values_cacheHeaders hvalue bucket hname
  rw [values_kept, hget, Option.filter_some_pos hfirst, hv] at hheaders
  refine ⟨?_, first, ?_, hfirst⟩
  · rw [hheaders]
    exact Nat.le_refl 2
  · rw [HeaderMap.get, hheaders]
    rfl

/-- What is kept is text, so with texts behind it there is one in front. -/
theorem saysText_of_append {headers headers' : HeaderMap} {name : String} {said : List HeaderValue}
    (hne : said ≠ []) (htexts : ∀ v ∈ said, isText v)
    (hheaders : headers'.values name = (kept headers).values name ++ said) :
    SaysText headers' name := by
  have hall : ∀ v ∈ headers'.values name, isText v := by
    intro v hv
    rw [hheaders] at hv
    rcases List.mem_append.mp hv with hv | hv
    · exact isText_of_mem_kept hv
    · exact htexts v hv
  have hvalues : headers'.values name ≠ [] := by
    rw [hheaders]
    exact List.append_ne_nil_of_right_ne_nil _ hne
  obtain ⟨first, rest, hcons⟩ := List.exists_cons_of_ne_nil hvalues
  refine ⟨first, ?_, hall first (hcons ▸ List.mem_cons_self)⟩
  rw [HeaderMap.get, hcons]
  rfl

/-- A cache that has said something has said text. -/
theorem saysText_of_kept {headers headers' : HeaderMap} {name : String} {value : HeaderValue}
    (hvalue : isText value) {bucket : UInt8} (hname : name ∈ cacheNames)
    (hheaders : headers'.values name =
      (kept headers).values name ++ (cacheHeaders value bucket).values name) :
    SaysText headers' name := by
  obtain ⟨v, hv, htext⟩ := exists_values_cacheHeaders hvalue bucket hname
  rw [hv] at hheaders
  exact saysText_of_append (List.cons_ne_nil v []) (List.forall_mem_singleton.mpr htext) hheaders

/-- **What a response says** after it has passed through caches. -/
structure Sayings (s : Served) : Prop where
  cache : s.way.source = .cache → ∀ name ∈ cacheNames, SaysTwice s.response.headers name
  passedOn : s.way.source ≠ .cache → s.way.stored = 0 → ∀ name ∈ cacheNames,
    s.response.headers.values name = s.way.made.headers.values name
  built : s.way.source ≠ .cache → s.way.stored = 1 → ∃ bucket, ∀ name ∈ cacheNames,
    s.response.headers.values name = (kept s.way.made.headers).values name ++
      (cacheHeaders cacheMissHeaderValue bucket).values name
  again : s.way.source ≠ .cache → 2 ≤ s.way.stored → ∀ name ∈ cacheNames,
    SaysTwice s.response.headers name

/-- What a response says depends on the values of the two names. -/
theorem saysTwice_congr {headers headers' : HeaderMap} {name : String}
    (h : headers'.values name = headers.values name) (htwice : SaysTwice headers name) :
    SaysTwice headers' name := by
  unfold SaysTwice SaysText HeaderMap.get at htwice ⊢
  rwa [h]

/-- A response that a cache passes on says what it said. -/
theorem Sayings.passed {s : Served} (h : Sayings s) {response : Message} (passed : ℕ)
    (hvalues : ∀ name ∈ cacheNames,
      response.headers.values name = s.response.headers.values name) :
    Sayings ⟨response, { s.way with passed }⟩ where
  cache hsource name hname := saysTwice_congr (hvalues name hname) (h.cache hsource name hname)
  passedOn hsource hstored name hname :=
    (hvalues name hname).trans (h.passedOn hsource hstored name hname)
  built hsource hstored := by
    obtain ⟨bucket, hbuilt⟩ := h.built hsource hstored
    exact ⟨bucket, fun name hname => (hvalues name hname).trans (hbuilt name hname)⟩
  again hsource hstored name hname :=
    saysTwice_congr (hvalues name hname) (h.again hsource hstored name hname)

/-- **A response that a cache stores** says what it said, and that it was a miss. -/
theorem Sayings.stored {s : Served} (h : Sayings s) {response : Message} {bucket : UInt8}
    (passed : ℕ)
    (hvalues : ∀ name ∈ cacheNames, response.headers.values name =
      (kept s.response.headers).values name ++
        (cacheHeaders cacheMissHeaderValue bucket).values name) :
    Sayings ⟨response, { s.way with passed, stored := s.way.stored + 1 }⟩ := by
  have hmiss : isText cacheMissHeaderValue = true := by decide
  have htwice : ∀ name ∈ cacheNames, SaysText s.response.headers name →
      SaysTwice response.headers name :=
    fun name hname htext => saysTwice_of_kept htext hmiss hname (hvalues name hname)
  constructor
  · intro hsource name hname
    exact htwice name hname (h.cache hsource name hname).2
  · exact fun _ hstored => absurd hstored (Nat.succ_ne_zero _)
  · intro hsource hstored
    refine ⟨bucket, fun name hname => ?_⟩
    rw [hvalues name hname, values_kept_congr
      (h.passedOn hsource (Nat.succ.inj hstored) name hname)]
  · intro hsource hstored name hname
    refine htwice name hname ?_
    -- another cache has stored it before
    by_cases hone : s.way.stored = 1
    · obtain ⟨bucket', hbuilt⟩ := h.built hsource hone
      exact saysText_of_kept hmiss hname (hbuilt name hname)
    · have hmore : 2 ≤ s.way.stored + 1 := hstored
      exact (h.again hsource (by omega) name hname).2

/-- A response that is where it was made. -/
theorem sayings_made {response : Message} {source : Source} (hsource : source ≠ .cache) :
    Sayings ⟨response, ⟨source, response, 0, 0⟩⟩ where
  cache h := absurd h hsource
  passedOn _ _ _ _ := rfl
  built _ h := absurd h Nat.zero_ne_one
  again _ h := absurd h (Nat.not_succ_le_zero 1)

/-- **A hit is said twice.** -/
theorem sayings_hit {response : Message} {headers : HeaderMap} {bucket : UInt8}
    (hr : response.headers = (kept headers).extend
      (cacheHeaders cacheHitHeaderValue bucket ++ cacheHeaders cacheHitHeaderValue bucket)) :
    Sayings ⟨response, ⟨.cache, response, 0, 0⟩⟩ where
  cache _ name hname := by
    have hhit : isText cacheHitHeaderValue = true := by decide
    have hvalues : response.headers.values name =
        (kept headers).values name ++ ((cacheHeaders cacheHitHeaderValue bucket).values name ++
          (cacheHeaders cacheHitHeaderValue bucket).values name) := by
      rw [hr, HeaderMap.values_extend, HeaderMap.values_append]
    obtain ⟨v, hv, htext⟩ := exists_values_cacheHeaders hhit bucket hname
    rw [hv] at hvalues
    refine ⟨?_, saysText_of_append (List.cons_ne_nil v [v]) ?_ hvalues⟩
    · rw [hvalues, List.length_append]
      exact Nat.le_add_left 2 _
    · intro v' hv'
      obtain rfl : v' = v := by simpa using hv'
      exact htext
  passedOn h := absurd rfl h
  built h := absurd rfl h
  again h := absurd rfl h

/-- **One cache more.** -/
theorem sayings_serve (failures : Failures)
    (hreads : ∀ key entry, layer.get key = .ok (some entry) → HasTexts entry)
    {inner : Parts → Option Bytes → Served} (hinner : ∀ parts body, Sayings (inner parts body))
    (parts : Parts) (body : Option Bytes) :
    Sayings (layer.serve hash sem failures inner parts body) := by
  unfold CacheLayer.serve
  dsimp only
  generalize hcalled : call (layer.env hash sem fun parts body =>
    layer.response (inner (layer.request parts) body).response) layer.chance layer.config parts
      body = called
  -- what is said depends on how the request was answered only
  have hcases : CallCases (fun parts body =>
      layer.response (inner (layer.request parts) body).response) called := by
    rw [← hcalled]
    exact callCases_call hreads parts body
  cases hcases with
  | @passed events parts' body' hcall hstore =>
    dsimp only
    rw [hcall, hstore]
    exact (hinner _ body').passed _ (layer.values_response _)
  | @stored events parts' body' bucket key r hcall hstore hr =>
    dsimp only
    rw [hcall, hstore]
    have hvalues : ∀ name ∈ cacheNames, r.headers.values name =
        (kept (inner (layer.request parts') body').response.headers).values name ++
          (cacheHeaders cacheMissHeaderValue bucket).values name := by
      intro name hname
      rw [hr, HeaderMap.values_extend, values_kept_congr (layer.values_response _ name hname)]
    exact (hinner _ body').stored _ hvalues
  | hit hcall hr =>
    dsimp only
    rw [hcall]
    exact sayings_hit hr
  | error e => exact sayings_made (by decide)
  | panicked => exact sayings_made (by decide)

/-- **What a response says after all caches.** -/
theorem sayings_through (failures : Failures) (upstream : Parts → Option Bytes → Message)
    {layers : List (CacheLayer Time Policy)}
    (hreads : ∀ layer ∈ layers, ∀ key entry, layer.get key = .ok (some entry) → HasTexts entry)
    (parts : Parts) (body : Option Bytes) :
    Sayings (serveThrough hash sem failures upstream layers parts body) := by
  induction layers generalizing parts body with
  | nil => exact sayings_made (by decide)
  | cons layer layers ih =>
    obtain ⟨hfirst, hrest⟩ := List.forall_mem_cons.mp hreads
    exact sayings_serve failures hfirst (ih hrest) parts body

/-! ### Histories -/

/-- **Unambiguous headers.** Each of the two has one value at most; a response of the outermost
cache that is enabled is a hit, and one that comes from upstream and is stored is a miss. -/
structure Unambiguous (s : Served) : Prop where
  one : ∀ name ∈ cacheNames, (s.response.headers.values name).length ≤ 1
  hit : s.way.source = .cache → s.way.passed = 0 →
    s.response.headers.values cacheHitHeader = [cacheHitHeaderValue]
  miss : s.way.source = .upstream → 0 < s.way.stored →
    s.response.headers.values cacheHitHeader = [cacheMissHeaderValue]

/-- **A way on which one thing is said at most.** The response does not come from a cache, and one
stores it at most; where it was made, little is said: one thing if no cache stores it, and
no text in front if one does. -/
structure SaidOnce (way : Way) : Prop where
  source : way.source ≠ .cache
  stored : way.stored ≤ 1
  passedOn : way.stored = 0 → ∀ name ∈ cacheNames, (way.made.headers.values name).length ≤ 1
  built : way.stored = 1 → ∀ name ∈ cacheNames, ¬ SaysText way.made.headers name

/-- Nothing is kept of a name exactly if its first value is not text. -/
theorem values_kept_eq_nil_iff {headers : HeaderMap} {name : String} :
    (kept headers).values name = [] ↔ ¬ SaysText headers name := by
  rw [values_kept, Option.toList_eq_nil_iff, Option.filter_eq_none_iff]
  unfold SaysText
  push Not
  rfl

theorem mem_cacheNames_hit : cacheHitHeader ∈ cacheNames := List.mem_cons_self

section Response

variable {s : Served}

/-- What is said twice is ambiguous. -/
theorem SaysTwice.not_unambiguous {name : String} (hname : name ∈ cacheNames)
    (h : SaysTwice s.response.headers name) : ¬ Unambiguous s := by
  intro hunambiguous
  exact absurd (h.1.trans (hunambiguous.one name hname)) (by decide)

/-- A response that no cache has stored says what it said where it was made. -/
theorem Sayings.unambiguous_iff_of_passedOn (h : Sayings s) (hsource : s.way.source ≠ .cache)
    (hzero : s.way.stored = 0) : Unambiguous s ↔ SaidOnce s.way := by
  have hvalues := h.passedOn hsource hzero
  constructor
  · intro hunambiguous
    refine ⟨hsource, Nat.le_succ_of_le (Nat.le_of_eq hzero), fun _ name hname => ?_, fun hone => ?_⟩
    · rw [← hvalues name hname]
      exact hunambiguous.one name hname
    · rw [hzero] at hone
      cases hone
  · intro hsaid
    refine ⟨fun name hname => ?_, fun hcache => absurd hcache hsource, fun _ hpos => ?_⟩
    · rw [hvalues name hname]
      exact hsaid.passedOn hzero name hname
    · rw [hzero] at hpos
      cases hpos

/-- A response that one cache has stored says what is kept, and that it was a miss. -/
theorem Sayings.unambiguous_iff_of_built (h : Sayings s) (hsource : s.way.source ≠ .cache)
    (hone : s.way.stored = 1) : Unambiguous s ↔ SaidOnce s.way := by
  obtain ⟨bucket, hbuilt⟩ := h.built hsource hone
  have hmiss : isText cacheMissHeaderValue = true := by decide
  -- the cache appends one value to what the response had
  have hlength : ∀ name ∈ cacheNames, (s.response.headers.values name).length =
      ((kept s.way.made.headers).values name).length + 1 := by
    intro name hname
    obtain ⟨v, hv, -⟩ := exists_values_cacheHeaders hmiss bucket hname
    rw [hbuilt name hname, hv, List.length_append, List.length_singleton]
  constructor
  · intro hunambiguous
    refine ⟨hsource, Nat.le_of_eq hone, fun hzero => ?_, fun _ name hname => ?_⟩
    · rw [hone] at hzero
      cases hzero
    · -- the miss is the one value, and nothing is kept in front of it
      rw [← values_kept_eq_nil_iff, ← List.length_eq_zero_iff]
      have hle := hunambiguous.one name hname
      rw [hlength name hname] at hle
      omega
  · intro hsaid
    have hnil : ∀ name ∈ cacheNames, (kept s.way.made.headers).values name = [] :=
      fun name hname => values_kept_eq_nil_iff.mpr (hsaid.built hone name hname)
    refine ⟨fun name hname => ?_, fun hcache => absurd hcache hsource, fun _ _ => ?_⟩
    · rw [hlength name hname, hnil name hname]
      exact Nat.le_refl 1
    · rw [hbuilt _ mem_cacheNames_hit, hnil _ mem_cacheNames_hit, List.nil_append,
        values_cacheHeaders, if_pos rfl]

/-- **One response.** -/
theorem Sayings.unambiguous_iff (h : Sayings s) : Unambiguous s ↔ SaidOnce s.way := by
  by_cases hsource : s.way.source = .cache
  · -- a hit is said twice
    refine iff_of_false ((h.cache hsource _ mem_cacheNames_hit).not_unambiguous
      mem_cacheNames_hit) ?_
    exact fun hsaid => hsaid.source hsource
  by_cases hmore : 2 ≤ s.way.stored
  · -- and so are two misses
    refine iff_of_false ((h.again hsource hmore _ mem_cacheNames_hit).not_unambiguous
      mem_cacheNames_hit) ?_
    exact fun hsaid => absurd (hmore.trans hsaid.stored) (by decide)
  by_cases hone : s.way.stored = 1
  · exact h.unambiguous_iff_of_built hsource hone
  · exact h.unambiguous_iff_of_passedOn hsource (by omega)

end Response

/-- What has been stored so far. A lookup may find any of it, as long as it is in the store. -/
abbrev Entries (Policy : Type) := Set (String × HttpResponse × Policy)

/-- The lookups of a cache find what has been stored, or nothing, or fail. -/
def CacheLayer.Reads (layer : CacheLayer Time Policy) (entries : Entries Policy) : Prop :=
  ∀ key entry, layer.get key = .ok (some entry) → (key, entry) ∈ entries

inductive StatusLabel
  | served (s : Served)
  | stored

variable (hash sem) in
/-- **What happens at the caches.** Requests are served, through any caches and to any upstream, and
what the caches make of responses is stored. The caches of a request may have other stores
come in between, so that the steps of requests need not be told apart. -/
inductive StatusStep (failures : Failures) : Entries Policy → StatusLabel → Entries Policy → Prop
  | served (entries : Entries Policy) (layers : List (CacheLayer Time Policy))
      (upstream : Parts → Option Bytes → Message) (parts : Parts) (body : Option Bytes) :
      (∀ layer ∈ layers, layer.Reads entries) →
      StatusStep failures entries
        (.served (serveThrough hash sem failures upstream layers parts body)) entries
  | stored (entries : Entries Policy) (layer : CacheLayer Time Policy)
      (inner : Parts → Option Bytes → Message) (parts : Parts) (response : Message)
      (cached : HttpResponse) (key : String) (policy : Policy) :
      (layer.env hash sem inner).httpResponse parts response = some cached →
      StatusStep failures entries .stored (insert (key, cached, policy) entries)

variable (hash sem) in
/-- The caches of a gateway, which have stored nothing at first. -/
def caches (failures : Failures) : System (Entries Policy) StatusLabel where
  init := ∅
  step := StatusStep hash sem failures

/-- What is stored has the texts of headers. -/
theorem hasTexts_step {failures : Failures} {entries entries' : Entries Policy} {l : StatusLabel}
    (h : ∀ e ∈ entries, HasTexts e.2) (hstep : StatusStep hash sem failures entries l entries') :
    ∀ e ∈ entries', HasTexts e.2 := by
  cases hstep with
  | served layers upstream parts body hreads => exact h
  | stored layer inner parts response cached key policy hcached =>
    intro e he
    rcases Set.mem_insert_iff.mp he with rfl | he
    · change (if sem.hasUrl _ then Option.map _ response.body else none) = _ at hcached
      split at hcached
      · obtain ⟨bytes, -, rfl⟩ := Option.map_eq_some_iff.mp hcached
        exact ⟨response.headers, rfl⟩
      · cases hcached
    · exact h e he

end Code

/-- **Status headers.** In every history of the caches, each response that reaches a client has
unambiguous headers exactly if on its way one thing is said at most. -/
theorem status_headers_iff {Time Policy : Type} (hash : List Write → UInt64)
    (sem : Semantics Time Policy) (failures : Failures)
    (tr : List (StatusLabel × Entries Policy))
    (hrun : (caches hash sem failures).Run (caches hash sem failures).init tr) (s : Served)
    (hserved : ∃ entries, (.served s, entries) ∈ tr) : Unambiguous s ↔ SaidOnce s.way := by
  obtain ⟨entries, hmem⟩ := hserved
  -- the invariant of the run is that all entries have texts
  have hlabel : ∀ (entries : Entries Policy) (l : StatusLabel) (entries' : Entries Policy),
      (∀ e ∈ entries, HasTexts e.2) → StatusStep hash sem failures entries l entries' →
      ∀ s, l = .served s → (Unambiguous s ↔ SaidOnce s.way) := by
    rintro entries l entries' htexts hstep s rfl
    generalize hl : StatusLabel.served s = l at hstep
    cases hstep with
    | served layers upstream parts body hreads =>
      obtain rfl := StatusLabel.served.inj hl
      refine (sayings_through failures upstream (fun layer hlayer key entry hget => ?_)
        parts body).unambiguous_iff
      exact htexts _ (hreads layer hlayer key entry hget)
    | stored => cases hl
  have hstep : ∀ (entries : Entries Policy) (l : StatusLabel) (entries' : Entries Policy),
      (∀ e ∈ entries, HasTexts e.2) → (caches hash sem failures).step entries l entries' → True →
      ∀ e ∈ entries', HasTexts e.2 := fun _ _ _ htexts hstep _ => hasTexts_step htexts hstep
  have hinit : ∀ e ∈ (caches hash sem failures).init, HasTexts e.2 :=
    fun e he => absurd he (Set.notMem_empty e)
  exact hrun.forall_label hstep hlabel hinit (fun _ _ => trivial) _ hmem s rfl

/-! ### A gateway with two caches -/

/-- A cache whose lookups find this. -/
def cacheOf (entry : Option (HttpResponse × Unit)) : CacheLayer Unit Unit where
  config := oneBucket
  method := "POST"
  origin := none
  now := ()
  chance := noChance
  get _ := .ok entry
  putFails := false
  request := id
  response := id
  values_response _ _ _ := rfl

/-- Failures have no headers. -/
def plainFailures : Failures where
  response _ := ⟨500, [], some []⟩
  values_response _ _ _ := rfl

/-- A response without headers. -/
def plainAnswer : Message := ⟨200, [], some []⟩

/-- A request through caches, with a response that may be stored. -/
def servePlain (layers : List (CacheLayer Unit Unit)) : Served :=
  serveThrough sumBytes keepAll plainFailures (fun _ _ => plainAnswer) layers chatHead.parts
    (some [])

/-- What a miss says, with one cache. -/
theorem status_headers_iff_miss :
    Unambiguous (servePlain [cacheOf none]) ∧
      (servePlain [cacheOf none]).response.headers.values cacheHitHeader =
        [cacheMissHeaderValue] := by
  have hreads : ∀ layer ∈ [cacheOf none], layer.Reads ∅ := by
    intro layer hlayer key entry hget
    obtain rfl := List.mem_singleton.mp hlayer
    cases hget
  have hsaid : SaidOnce (servePlain [cacheOf none]).way :=
    ⟨by decide, by decide, fun h => absurd h (by decide), fun _ name _ => by
      rintro ⟨value, hget, -⟩
      cases hget⟩
  have hrun : (caches sumBytes keepAll plainFailures).Run ∅
      [(.served (servePlain [cacheOf none]), ∅)] :=
    .cons (.served ∅ [cacheOf none] _ _ _ hreads) (.nil _)
  have hunambiguous := (status_headers_iff sumBytes keepAll plainFailures _ hrun _
    ⟨∅, List.mem_singleton.mpr rfl⟩).mpr hsaid
  exact ⟨hunambiguous, hunambiguous.miss rfl (by decide)⟩

/-- **Two caches say two things, and a hit is said twice.** -/
theorem status_headers_fails :
    (servePlain [cacheOf none, cacheOf none]).response.headers.values cacheHitHeader =
        [cacheMissHeaderValue, cacheMissHeaderValue] ∧
    (servePlain [cacheOf (some (⟨[], [], 200⟩, ()))]).response.headers.values cacheHitHeader =
        [cacheHitHeaderValue, cacheHitHeaderValue] ∧
    ¬ ∀ (tr : List (StatusLabel × Entries Unit)),
      (caches sumBytes keepAll plainFailures).Run
        (caches sumBytes keepAll plainFailures).init tr →
      ∀ s, (∃ entries, (.served s, entries) ∈ tr) → Unambiguous s := by
  have htwo : (servePlain [cacheOf none, cacheOf none]).response.headers.values cacheHitHeader =
      [cacheMissHeaderValue, cacheMissHeaderValue] := by
    decide +kernel
  refine ⟨htwo, by decide +kernel, fun h => ?_⟩
  have hreads : ∀ layer ∈ [cacheOf none, cacheOf none], layer.Reads ∅ := by
    intro layer hlayer key entry hget
    obtain rfl : layer = cacheOf none := by simpa using hlayer
    cases hget
  have hunambiguous := h [(.served (servePlain [cacheOf none, cacheOf none]), ∅)]
    (.cons (.served ∅ [cacheOf none, cacheOf none] _ _ _ hreads) (.nil _)) _
    ⟨∅, List.mem_singleton.mpr rfl⟩
  have hle := hunambiguous.one cacheHitHeader mem_cacheNames_hit
  rw [htwo] at hle
  exact absurd hle (by decide)

end AiGateway.Cache
