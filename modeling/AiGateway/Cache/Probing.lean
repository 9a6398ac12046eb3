import AiGateway.Cache.Service

/-!
# The buckets a request is looked up in

The lookups of `make_request` are in flight together and come back in any order; what they leave is
sorted into stale hits and empty buckets, and what is done with it depends on what is in front.

* `drain_eq_rest`: what the answers leave, in the order they come in;
* `requestAndStore_events`: the service behind is asked once, and its response stored if it may be;
* `probing`: a fresh bucket is never wasted, nor a stale one where no bucket is fresh.
-/

namespace AiGateway.Cache

/-- The calls of the service behind. -/
def innerCalls (events : List CacheEvent) : List (Parts × Option Bytes) :=
  events.filterMap fun
    | .inner parts body => some (parts, body)
    | _ => none

/-- The buckets something is stored in, with their keys. -/
def stores (events : List CacheEvent) : List (UInt8 × String) :=
  events.filterMap fun
    | .store bucket key => some (bucket, key)
    | _ => none

section Events

variable (events events' : List CacheEvent)

@[simp] theorem innerCalls_append :
    innerCalls (events ++ events') = innerCalls events ++ innerCalls events' :=
  List.filterMap_append

@[simp] theorem stores_append : stores (events ++ events') = stores events ++ stores events' :=
  List.filterMap_append

end Events

section Code

variable {Entry Cached Response : Type} (env : Env Entry Cached Response) (chance : Chance)

/-- A request whose caching is enabled, and whose directive and body can be had, is looked up. -/
theorem makeRequest_eq {ctx : CacheContext} {parts parts' : Parts}
    (henabled : ctx.enabled = some true) (hdirective : insertDirective ctx parts = .ok parts')
    (body : Bytes) : makeRequest env chance ctx parts (some body) =
      serve env chance ctx parts' body (ctx.buckets.getD defaultBuckets) := by
  rw [makeRequest, if_neg (not_not.2 henabled), hdirective]

/-! ### What the answers leave -/

section Answers

variable (parts : Parts) (key : UInt8 → String)

/-- What a bucket puts in front of the stale hits. -/
def staleHit (bucket : UInt8) : Option (UInt8 × String × Parts) :=
  match checkCache env parts bucket (key bucket) with
  | .ok (.stale request) => some (bucket, key bucket, request)
  | _ => none

/-- Whether a bucket is empty. -/
def isMiss (bucket : UInt8) : Bool :=
  match checkCache env parts bucket (key bucket) with
  | .ok .miss => true
  | _ => false

variable {env parts key}

theorem staleHit_eq_some_iff {bucket : UInt8} {hit : UInt8 × String × Parts} :
    staleHit env parts key bucket = some hit ↔
      ∃ request, checkCache env parts bucket (key bucket) = .ok (.stale request) ∧
        hit = (bucket, key bucket, request) := by
  unfold staleHit
  split
  · next request hcheck =>
    rw [hcheck]
    refine ⟨fun h => ⟨request, rfl, (Option.some.inj h).symm⟩, ?_⟩
    rintro ⟨request', hrequest, rfl⟩
    cases hrequest
    rfl
  · next hcheck =>
    refine iff_of_false (by rintro ⟨⟩) ?_
    rintro ⟨request, hrequest, -⟩
    exact hcheck request hrequest

/-- A fresh answer that comes out was that of a bucket. -/
theorem exists_of_drain_eq_fresh {buckets : List UInt8}
    {staleHits : List (UInt8 × String × Parts)} {emptyBuckets : List UInt8} {r : Response}
    (h : drain env parts key staleHits emptyBuckets buckets = .fresh r) :
    ∃ bucket ∈ buckets, checkCache env parts bucket (key bucket) = .ok (.fresh r) := by
  induction buckets generalizing staleHits emptyBuckets with
  | nil => cases h
  | cons bucket buckets ih =>
    unfold drain at h
    split at h
    · next hcheck =>
      cases h
      exact ⟨bucket, List.mem_cons_self, hcheck⟩
    all_goals
      obtain ⟨bucket', hbucket', hcheck⟩ := ih h
      exact ⟨bucket', List.mem_cons_of_mem _ hbucket', hcheck⟩

/-- **Without a fresh answer** the stale ones and the empty buckets are left, as they came in. -/
theorem drain_eq_rest {buckets : List UInt8} (staleHits : List (UInt8 × String × Parts))
    (emptyBuckets : List UInt8) (hfresh : ∀ bucket ∈ buckets, ∀ r,
      checkCache env parts bucket (key bucket) ≠ .ok (.fresh r)) :
    drain env parts key staleHits emptyBuckets buckets =
      .rest (staleHits ++ buckets.filterMap (staleHit env parts key))
        (emptyBuckets ++ buckets.filter (isMiss env parts key)) := by
  -- what has come in so far grows from answer to answer
  induction buckets generalizing staleHits emptyBuckets with
  | nil => rw [drain, List.filterMap_nil, List.filter_nil, List.append_nil, List.append_nil]
  | cons bucket buckets ih =>
    obtain ⟨hfirst, hrest⟩ := List.forall_mem_cons.1 hfresh
    rw [drain, List.filterMap_cons, List.filter_cons, staleHit, isMiss]
    cases hcheck : checkCache env parts bucket (key bucket) with
    -- a lookup that failed is neither a hit nor a miss
    | error e => exact ih _ _ hrest
    | ok result =>
      cases result with
      | fresh r => exact absurd hcheck (hfirst r)
      | stale request =>
        have h := ih (staleHits ++ [(bucket, key bucket, request)]) emptyBuckets hrest
        rw [List.append_assoc] at h
        exact h
      | miss =>
        have h := ih staleHits (emptyBuckets ++ [bucket]) hrest
        rw [List.append_assoc] at h
        exact h

/-- A fresh answer that comes in comes out, unless another one did before. -/
theorem exists_drain_eq_fresh {buckets : List UInt8} {bucket : UInt8} (hbucket : bucket ∈ buckets)
    {r : Response} (hcheck : checkCache env parts bucket (key bucket) = .ok (.fresh r))
    (staleHits : List (UInt8 × String × Parts)) (emptyBuckets : List UInt8) :
    ∃ r', drain env parts key staleHits emptyBuckets buckets = .fresh r' := by
  induction buckets generalizing staleHits emptyBuckets with
  | nil => cases hbucket
  | cons first buckets ih =>
    obtain rfl | hbucket := List.mem_cons.1 hbucket
    · rw [drain, hcheck]
      exact ⟨r, rfl⟩
    · unfold drain
      split
      · exact ⟨_, rfl⟩
      all_goals exact ih hbucket _ _

end Answers

/-! ### Probing -/

/-- What is to be stored of the response to a request, if it may be stored: it, in this bucket. -/
def storesOf (ctx : CacheContext) (parts : Parts) (body : Bytes) (bucket : UInt8) (key : String) :
    List (UInt8 × String) :=
  if env.isStorable ctx parts (env.inner parts (some body)) = true ∧
      (env.httpResponse parts (env.inner parts (some body))).isSome = true then [(bucket, key)]
  else []

/-- The service behind is called once, and its response stored in the bucket if it may be. -/
theorem requestAndStore_events (ctx : CacheContext) (key : String) (parts : Parts) (body : Bytes)
    (bucket : UInt8) :
    innerCalls (requestAndStore env ctx key parts body bucket).1 = [(parts, some body)] ∧
      stores (requestAndStore env ctx key parts body bucket).1 =
        storesOf env ctx parts body bucket key := by
  unfold requestAndStore handleResponseForCacheMiss storesOf
  by_cases hstorable : env.isStorable ctx parts (env.inner parts (some body)) = true
  · simp only [hstorable, true_and]
    cases env.httpResponse parts (env.inner parts (some body)) with
    | none => exact ⟨rfl, rfl⟩
    | some httpResp =>
      -- the bucket is written to, whether the write succeeds or not
      dsimp only
      cases env.put key bucket httpResp with
      | none => exact ⟨rfl, rfl⟩
      | some cached => exact ⟨rfl, rfl⟩
  · simp only [hstorable]
    exact ⟨rfl, rfl⟩

section Serve

variable {ctx : CacheContext} {parts : Parts} {body : Bytes} {n : UInt8}

/-- The lookups call nothing and store nothing. -/
theorem probed_spec (key : UInt8 → String) :
    innerCalls (probedEvents chance n key) = [] ∧ stores (probedEvents chance n key) = [] := by
  have hlookup : ∀ e ∈ probedEvents chance n key,
      e = .range n ∨ ∃ bucket, e = .lookup bucket (key bucket) := by
    intro e he
    rcases List.mem_cons.1 he with rfl | he
    · exact Or.inl rfl
    · obtain ⟨bucket, -, rfl⟩ := List.mem_map.1 he
      exact Or.inr ⟨bucket, rfl⟩
  constructor
  · refine List.filterMap_eq_nil_iff.2 fun e he => ?_
    rcases hlookup e he with rfl | ⟨bucket, rfl⟩ <;> rfl
  · refine List.filterMap_eq_nil_iff.2 fun e he => ?_
    rcases hlookup e he with rfl | ⟨bucket, rfl⟩ <;> rfl

/-- The lookups, and then a request to the service behind. -/
theorem probed_append_spec (key : UInt8 → String) (key' : String) (parts' : Parts)
    (bucket : UInt8) :
    innerCalls (probedEvents chance n key ++
        (requestAndStore env ctx key' parts' body bucket).1) = [(parts', some body)] ∧
      stores (probedEvents chance n key ++
        (requestAndStore env ctx key' parts' body bucket).1) =
          storesOf env ctx parts' body bucket key' := by
  obtain ⟨hcalls, hstores⟩ := probed_spec chance (n := n) key
  obtain ⟨hcalled, hstored⟩ := requestAndStore_events env ctx key' parts' body bucket
  rw [innerCalls_append, stores_append, hcalls, hstores, hcalled, hstored]
  exact ⟨rfl, rfl⟩

theorem mem_finished {bucket : UInt8} :
    bucket ∈ chance.finished (chance.shuffle (U8.range n)) ↔ bucket < n := by
  rw [(chance.finished_perm _).mem_iff, (chance.shuffle_perm _).mem_iff, U8.mem_range]

/-- With a fresh bucket, a fresh one answers. -/
theorem serve_of_fresh {bucket : UInt8} (hbucket : bucket < n) {r : Response}
    (hcheck : checkCache env parts bucket (env.key ctx.seed parts.pathAndQuery body bucket) =
      .ok (.fresh r)) :
    innerCalls (serve env chance ctx parts body n).1 = [] ∧
      ∃ bucket' < n, ∃ r', checkCache env parts bucket'
          (env.key ctx.seed parts.pathAndQuery body bucket') = .ok (.fresh r') ∧
        (serve env chance ctx parts body n).2 = .response r' := by
  obtain ⟨r', hdrain⟩ := exists_drain_eq_fresh ((mem_finished chance).2 hbucket) hcheck [] []
  obtain ⟨bucket', hbucket', hcheck'⟩ := exists_of_drain_eq_fresh hdrain
  -- the search ends with that answer, before anything is called
  unfold serve
  dsimp only
  rw [hdrain]
  exact ⟨(probed_spec chance _).1, bucket', (mem_finished chance).1 hbucket', r', hcheck', rfl⟩

/-- Without one, a stale one is revalidated, if there is one. -/
theorem serve_of_stale
    (hfresh : ∀ bucket < n, ∀ r, checkCache env parts bucket
      (env.key ctx.seed parts.pathAndQuery body bucket) ≠ .ok (.fresh r))
    {bucket : UInt8} (hbucket : bucket < n) {request : Parts}
    (hcheck : checkCache env parts bucket (env.key ctx.seed parts.pathAndQuery body bucket) =
      .ok (.stale request)) :
    ∃ bucket' < n, ∃ request', checkCache env parts bucket'
        (env.key ctx.seed parts.pathAndQuery body bucket') = .ok (.stale request') ∧
      innerCalls (serve env chance ctx parts body n).1 = [(request', some body)] ∧
      stores (serve env chance ctx parts body n).1 = storesOf env ctx request' body bucket'
        (env.key ctx.seed parts.pathAndQuery body bucket') := by
  have hdrain := drain_eq_rest [] [] fun b hb => hfresh b ((mem_finished chance).1 hb)
  have hmem : (bucket, env.key ctx.seed parts.pathAndQuery body bucket, request) ∈
      (chance.finished (chance.shuffle (U8.range n))).filterMap
        (staleHit env parts (env.key ctx.seed parts.pathAndQuery body)) :=
    List.mem_filterMap.2 ⟨bucket, (mem_finished chance).2 hbucket,
      staleHit_eq_some_iff.2 ⟨request, hcheck, rfl⟩⟩
  -- there may be others, and the first of them is revalidated
  obtain ⟨hit, hits, hhits⟩ := List.exists_cons_of_ne_nil (List.ne_nil_of_mem hmem)
  rw [List.nil_append, List.nil_append, hhits] at hdrain
  have hfirst : hit ∈ hit :: hits := List.mem_cons_self
  rw [← hhits] at hfirst
  obtain ⟨bucket', hbucket', hstale⟩ := List.mem_filterMap.1 hfirst
  obtain ⟨request', hcheck', rfl⟩ := staleHit_eq_some_iff.1 hstale
  unfold serve
  dsimp only
  rw [hdrain]
  exact ⟨bucket', (mem_finished chance).1 hbucket', request', hcheck',
    probed_append_spec env chance _ _ request' bucket'⟩

/-- With neither, the request goes to the service behind, for an empty bucket. -/
theorem serve_of_miss (hn : n ≠ 0)
    (hmiss : ∀ bucket < n, checkCache env parts bucket
      (env.key ctx.seed parts.pathAndQuery body bucket) = .ok .miss) :
    ∃ bucket < n, innerCalls (serve env chance ctx parts body n).1 = [(parts, some body)] ∧
      stores (serve env chance ctx parts body n).1 = storesOf env ctx parts body bucket
        (env.key ctx.seed parts.pathAndQuery body bucket) := by
  have hdrain := @drain_of_miss _ _ _ env parts (env.key ctx.seed parts.pathAndQuery body) [] []
    (chance.finished (chance.shuffle (U8.range n))) fun b hb =>
      hmiss b ((mem_finished chance).1 hb)
  have hzero : (0 : UInt8) < n := UInt8.pos_iff_ne_zero.2 hn
  -- all buckets are empty, and the first that came in is picked
  obtain ⟨bucket, buckets, hbuckets⟩ :=
    List.exists_cons_of_ne_nil (List.ne_nil_of_mem ((mem_finished chance).2 hzero))
  rw [List.nil_append, hbuckets] at hdrain
  have hbucket : bucket < n := by
    rw [← mem_finished chance, hbuckets]
    exact List.mem_cons_self
  unfold serve
  dsimp only
  rw [hbuckets, hdrain]
  dsimp only [pickBucket]
  rw [List.append_nil]
  exact ⟨bucket, hbucket, probed_append_spec env chance _ _ parts bucket⟩

end Serve

/-- The answer of a bucket. -/
def lookup (ctx : CacheContext) (parts : Parts) (body : Bytes) (bucket : UInt8) :
    Except Unit (CacheCheckResult Response) :=
  checkCache env parts bucket (env.key ctx.seed parts.pathAndQuery body bucket)

/-- **No bucket is wasted.** Whatever the buckets hold, and in whatever order they are shuffled and
answer: a fresh one answers the request if there is one; otherwise a stale one is revalidated if
there is one; otherwise an empty one is filled. The response of the service behind is stored in that
bucket if it may be stored, and otherwise in none. -/
theorem probing {ctx : CacheContext} {parts parts' : Parts} (henabled : ctx.enabled = some true)
    (hdirective : insertDirective ctx parts = .ok parts') (body : Bytes)
    (hn : ctx.buckets.getD defaultBuckets ≠ 0)
    (hok : ∀ bucket < ctx.buckets.getD defaultBuckets, ∀ e,
      lookup env ctx parts' body bucket ≠ .error e) :
    ((∃ bucket < ctx.buckets.getD defaultBuckets, ∃ r,
        lookup env ctx parts' body bucket = .ok (.fresh r)) →
      innerCalls (makeRequest env chance ctx parts (some body)).1 = [] ∧
        ∃ bucket < ctx.buckets.getD defaultBuckets, ∃ r,
          lookup env ctx parts' body bucket = .ok (.fresh r) ∧
          (makeRequest env chance ctx parts (some body)).2 = .response r) ∧
    ((∀ bucket < ctx.buckets.getD defaultBuckets, ∀ r,
        lookup env ctx parts' body bucket ≠ .ok (.fresh r)) →
      (∃ bucket < ctx.buckets.getD defaultBuckets, ∃ request,
        lookup env ctx parts' body bucket = .ok (.stale request)) →
      ∃ bucket < ctx.buckets.getD defaultBuckets, ∃ request,
        lookup env ctx parts' body bucket = .ok (.stale request) ∧
        innerCalls (makeRequest env chance ctx parts (some body)).1 =
          [(request, some body)] ∧
        stores (makeRequest env chance ctx parts (some body)).1 =
          storesOf env ctx request body bucket
            (env.key ctx.seed parts'.pathAndQuery body bucket)) ∧
    ((∀ bucket < ctx.buckets.getD defaultBuckets, (∀ r,
        lookup env ctx parts' body bucket ≠ .ok (.fresh r)) ∧
        ∀ request, lookup env ctx parts' body bucket ≠ .ok (.stale request)) →
      ∃ bucket < ctx.buckets.getD defaultBuckets,
        lookup env ctx parts' body bucket = .ok .miss ∧
        innerCalls (makeRequest env chance ctx parts (some body)).1 =
          [(parts', some body)] ∧
        stores (makeRequest env chance ctx parts (some body)).1 =
          storesOf env ctx parts' body bucket
            (env.key ctx.seed parts'.pathAndQuery body bucket)) := by
  rw [makeRequest_eq env chance henabled hdirective body]
  refine ⟨?_, ?_, ?_⟩
  · rintro ⟨bucket, hbucket, r, hcheck⟩
    exact serve_of_fresh env chance hbucket hcheck
  · rintro hfresh ⟨bucket, hbucket, request, hcheck⟩
    exact serve_of_stale env chance hfresh hbucket hcheck
  · intro hnone
    -- no lookup fails, so every bucket misses
    have hmiss : ∀ bucket < ctx.buckets.getD defaultBuckets,
        lookup env ctx parts' body bucket = .ok .miss := by
      intro bucket hbucket
      obtain ⟨hfresh, hstale⟩ := hnone bucket hbucket
      cases hcheck : lookup env ctx parts' body bucket with
      | error e => exact absurd hcheck (hok bucket hbucket e)
      | ok result =>
        cases result with
        | fresh r => exact absurd hcheck (hfresh r)
        | stale request => exact absurd hcheck (hstale request)
        | miss => rfl
    obtain ⟨bucket, hbucket, hspec⟩ := serve_of_miss env chance hn hmiss
    exact ⟨bucket, hbucket, hmiss bucket hbucket, hspec⟩

end Code

/-- A store whose second bucket has an entry that is stale. -/
def staleSecond : Env Unit Unit Unit where
  key _ _ _ bucket := if bucket = 1 then "second" else "other"
  get key := .ok (if key = "second" then some () else none)
  beforeRequest _ parts := .stale parts true
  freshResponse _ _ _ := none
  inner _ _ := ()
  isStorable _ _ _ := true
  httpResponse _ _ := some ()
  put _ _ _ := some ()

/-- The last bucket answers first. -/
def reversed : Chance where
  shuffle := id
  shuffle_perm := List.Perm.refl
  finished := List.reverse
  finished_perm := List.reverse_perm
  random := 0

/-- A context with three buckets. -/
def threeBuckets : CacheContext := ⟨some true, none, some 3, none, none⟩

/-- The second bucket is revalidated, and stored in. -/
theorem probing_staleSecond :
    innerCalls (makeRequest staleSecond reversed threeBuckets ⟨none, []⟩ (some [])).1 =
        [(⟨none, []⟩, some [])] ∧
      stores (makeRequest staleSecond reversed threeBuckets ⟨none, []⟩ (some [])).1 =
        [(1, "second")] := by
  have hlookup : ∀ bucket, lookup staleSecond threeBuckets ⟨none, []⟩ [] bucket =
      if bucket = 1 then .ok (.stale ⟨none, []⟩) else .ok .miss := by
    intro bucket
    by_cases h : bucket = 1
    · rw [if_pos h, h]
      rfl
    · rw [if_neg h]
      simp [lookup, checkCache, staleSecond, h]
  have henabled : threeBuckets.enabled = some true := rfl
  have hdirective : insertDirective threeBuckets ⟨none, []⟩ = .ok ⟨none, []⟩ := rfl
  have hok : ∀ bucket < (3 : UInt8), ∀ e,
      lookup staleSecond threeBuckets ⟨none, []⟩ [] bucket ≠ .error e := by
    intro bucket _ e
    rw [hlookup]
    split
    · rintro ⟨⟩
    · rintro ⟨⟩
  have hfresh : ∀ bucket < (3 : UInt8), ∀ r,
      lookup staleSecond threeBuckets ⟨none, []⟩ [] bucket ≠ .ok (.fresh r) := by
    intro bucket _ r
    rw [hlookup]
    split
    · rintro ⟨⟩
    · rintro ⟨⟩
  obtain ⟨bucket, -, request, hcheck, hcalls, hstores⟩ :=
    (probing staleSecond reversed henabled hdirective [] (by decide) hok).2.1 hfresh
      ⟨1, by decide, ⟨none, []⟩, rfl⟩
  -- only the second bucket is stale
  rw [hlookup] at hcheck
  split at hcheck
  · next hone =>
    subst hone
    cases hcheck
    exact ⟨hcalls, hstores.trans (by decide)⟩
  · cases hcheck

end AiGateway.Cache
