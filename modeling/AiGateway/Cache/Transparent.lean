import AiGateway.Cache.Message

/-!
# What a client sees of the cache

Whether a response is the same with the cache as without it.

* `headers_carried_iff`: in every history, the responses made of what is stored carry the headers
  of the upstream response exactly when those are plain: one value to a name, and that a text;
* `failures_hidden_iff`: whatever fails while buckets are looked up, a request gets the answer of
  the service behind, unless that is to be stored and cannot be;
* `revalidation_invisible_iff`: a request that revalidates an entry gets the answer to that, so a
  304 is for it to deal with.
-/

namespace AiGateway.Cache

open Http Transition

variable {User Time Policy : Type} {hash : List Write → UInt64} {sem : Semantics Time Policy}

/-! ### The response to a request that misses -/

/-- The cache may store the response to what it sends for a request. -/
def Storable (hash : List Write → UInt64) (sem : Semantics Time Policy) (call : Call User Time)
    (parts : Parts) (response : Message) : Prop :=
  (httpLibrary hash sem).isStorable call.ctx (call.head.withParts parts) response call.now = true

/-- What is needed to store a response besides: the URL can be parsed, the body can be read, and
the backend takes it. -/
def CanStore (sem : Semantics Time Policy) (call : Call User Time) (parts : Parts)
    (response : Message) (outside : Outside Message) : Prop :=
  sem.hasUrl (call.head.withParts parts) = true ∧ response.body.isSome ∧ outside.putFails = false

variable {call : Call User Time} {parts : Parts} {outside : Outside Message} {answer : Message}
  {store : String → Option (Stored User Time (HttpResponse × Policy) Message)}

/-- A response that may not be stored is passed on. -/
theorem passed_of_not_storable (hanswer : outside.inner parts (some call.body) = answer)
    (h : ¬Storable hash sem call parts answer) (key : String) (bucket : UInt8) :
    (requestAndStore ((httpLibrary hash sem).env call store outside) call.ctx key parts call.body
      bucket).2 = .response answer := by
  subst hanswer
  have hnot : ((httpLibrary hash sem).env call store outside).isStorable call.ctx parts
      (((httpLibrary hash sem).env call store outside).inner parts (some call.body)) = false :=
    Bool.eq_false_iff.mpr h
  rw [requestAndStore_of_not_storable _ hnot]
  rfl

/-- A response that is stored is built from what is stored. -/
theorem built_of_storable (hanswer : outside.inner parts (some call.body) = answer)
    (h : Storable hash sem call parts answer) (hstore : CanStore sem call parts answer outside)
    (key : String) (bucket : UInt8) :
    (requestAndStore ((httpLibrary hash sem).env call store outside) call.ctx key parts call.body
      bucket).2 = .response ⟨answer.status,
        (kept answer.headers).extend (cacheHeaders cacheMissHeaderValue bucket), answer.body⟩ := by
  subst hanswer
  obtain ⟨hurl, hsome, hput⟩ := hstore
  obtain ⟨body, hbody⟩ := Option.isSome_iff_exists.mp hsome
  -- the answer in the form it is stored in
  have hhttp : ((httpLibrary hash sem).env call store outside).httpResponse parts
      (outside.inner parts (some call.body)) = some ⟨body,
        headerMapToHashMap (outside.inner parts (some call.body)).headers,
        (outside.inner parts (some call.body)).status⟩ := by
    change (if sem.hasUrl (call.head.withParts parts) then _ else _) = _
    rw [if_pos hurl, hbody]
    rfl
  -- and the response that is built from this
  have hbuilt : ((httpLibrary hash sem).env call store outside).put key bucket ⟨body,
      headerMapToHashMap (outside.inner parts (some call.body)).headers,
      (outside.inner parts (some call.body)).status⟩ = some
        ⟨(outside.inner parts (some call.body)).status,
          (kept (outside.inner parts (some call.body)).headers).extend
            (cacheHeaders cacheMissHeaderValue bucket), some body⟩ := by
    change (if outside.putFails then none else _) = _
    rw [hput, if_neg Bool.false_ne_true]
    exact buildResponse_stored _ _ _ _ _
  have hstorable : ((httpLibrary hash sem).env call store outside).isStorable call.ctx parts
      (((httpLibrary hash sem).env call store outside).inner parts (some call.body)) = true := h
  rw [requestAndStore_of_put _ hstorable hhttp hbuilt, hbody]

/-- **A response that cannot be stored is lost.** -/
theorem lost_of_storable (hanswer : outside.inner parts (some call.body) = answer)
    (h : Storable hash sem call parts answer) (hstore : ¬CanStore sem call parts answer outside)
    (key : String) (bucket : UInt8) :
    (requestAndStore ((httpLibrary hash sem).env call store outside) call.ctx key parts call.body
      bucket).2 = .error .response := by
  subst hanswer
  refine requestAndStore_of_put_eq_none _ h ?_
  cases hput : outside.putFails with
  | true =>
    rw [Option.bind_eq_none_iff]
    intro cached _
    change (if outside.putFails then none else _) = none
    rw [hput, if_pos rfl]
  | false =>
    -- there is nothing to put
    have hnone : ((httpLibrary hash sem).env call store outside).httpResponse parts
        (outside.inner parts (some call.body)) = none := by
      change (if sem.hasUrl (call.head.withParts parts) then
        Option.map _ (outside.inner parts (some call.body)).body else none) = none
      by_cases hurl : sem.hasUrl (call.head.withParts parts) = true
      · cases hbody : (outside.inner parts (some call.body)).body with
        | none =>
          rw [if_pos hurl]
          rfl
        | some body => exact absurd ⟨hurl, by rw [hbody]; rfl, hput⟩ hstore
      · rw [if_neg hurl]
    exact Option.bind_eq_none_iff.mpr fun cached hcached => absurd (hnone.symm.trans hcached)
      (Option.some_ne_none cached).symm

/-! ### Headers -/

/-- **Plain headers.** A name has one value at most, and that is text. -/
def Plain (headers : HeaderMap) : Prop :=
  ∀ name, ∀ value ∈ headers.values name, headers.values name = [value] ∧ isText value

/-- The response has all header values of the upstream response, in order for each name, followed
by what the cache adds under its own two names. -/
def Carries (upstream response : Message) : Prop :=
  ∃ added : HeaderMap, (∀ entry ∈ added, entry.1 = cacheHitHeader ∨ entry.1 = cacheBucketIdx) ∧
    added.values cacheHitHeader ≠ [] ∧ added.values cacheBucketIdx ≠ [] ∧
    ∀ name, response.headers.values name = upstream.headers.values name ++ added.values name

/-- Headers that are plain are kept. -/
theorem Plain.values_kept {headers : HeaderMap} (h : Plain headers) (name : String) :
    (kept headers).values name = headers.values name := by
  rw [Cache.values_kept]
  unfold HeaderMap.get
  cases hvalues : headers.values name with
  | nil => rfl
  | cons value values =>
    have hmem : value ∈ headers.values name := by
      rw [hvalues]
      exact List.mem_cons_self
    obtain ⟨hone, htext⟩ := h name value hmem
    rw [hvalues] at hone
    rw [hone, List.head?_cons, Option.filter_some_pos htext]
    rfl

/-- The headers of the cache have its two names only. -/
theorem name_of_mem_cacheHeaders {value : HeaderValue} {bucket : UInt8}
    {entry : String × HeaderValue} (h : entry ∈ cacheHeaders value bucket) :
    entry.1 = cacheHitHeader ∨ entry.1 = cacheBucketIdx := by
  rcases List.mem_cons.mp h with rfl | h
  · exact Or.inl rfl
  · rw [List.mem_singleton.mp h]
    exact Or.inr rfl

/-- A response to which the cache has added its headers carries plain headers. -/
theorem carries_of_plain {upstream response : Message} {added : HeaderMap}
    (hplain : Plain upstream.headers)
    (hresponse : response.headers = (kept upstream.headers).extend added)
    (hnames : ∀ entry ∈ added, entry.1 = cacheHitHeader ∨ entry.1 = cacheBucketIdx)
    (hhit : added.values cacheHitHeader ≠ []) (hbucket : added.values cacheBucketIdx ≠ []) :
    Carries upstream response := by
  refine ⟨added, hnames, hhit, hbucket, fun name => ?_⟩
  rw [hresponse, HeaderMap.values_extend, hplain.values_kept]

/-- Under a name of its own the cache adds one value, under the others none. -/
theorem values_cacheHeaders (value : HeaderValue) (bucket : UInt8) (name : String) :
    (cacheHeaders value bucket).values name =
      if name = cacheHitHeader then [value]
      else if name = cacheBucketIdx then [bucketHeaderValue bucket] else [] := by
  have hne : cacheHitHeader ≠ cacheBucketIdx := by decide
  unfold cacheHeaders
  rw [HeaderMap.values_cons, HeaderMap.values_cons, HeaderMap.values_nil]
  by_cases hhit : name = cacheHitHeader
  · subst hhit
    simp [hne.symm]
  · by_cases hbucket : name = cacheBucketIdx
    · subst hbucket
      simp [hne, hne.symm]
    · simp [hhit, hbucket, Ne.symm hhit, Ne.symm hbucket]

/-- Whatever the cache adds once, it adds no second value to a name. -/
theorem length_values_cacheHeaders (value : HeaderValue) (bucket : UInt8) (name : String) :
    ((cacheHeaders value bucket).values name).length ≤ 1 := by
  rw [values_cacheHeaders]
  split
  · exact Nat.le_refl 1
  · split
    · exact Nat.le_refl 1
    · exact Nat.zero_le 1

/-- At most one value of a name is kept. -/
theorem length_values_kept (headers : HeaderMap) (name : String) :
    ((kept headers).values name).length ≤ 1 := by
  rw [values_kept]
  cases (headers.get name).filter isText with
  | none => exact Nat.zero_le 1
  | some value => exact Nat.le_refl 1

/-- If all values of a name are kept, there is one at most, and it is text. -/
theorem plain_of_values_kept {headers : HeaderMap} {name : String} {value : HeaderValue}
    (hvalue : value ∈ headers.values name)
    (hstart : headers.values name <+: (kept headers).values name) :
    headers.values name = [value] ∧ isText value := by
  have hpos : 0 < (headers.values name).length := List.length_pos_of_mem hvalue
  have hone := length_values_kept headers name
  have heq := hstart.eq_of_length_le (by omega)
  rw [values_kept] at heq
  cases hfilter : (headers.get name).filter isText with
  | none =>
    rw [hfilter] at heq
    rw [heq] at hvalue
    exact absurd hvalue List.not_mem_nil
  | some first =>
    rw [hfilter] at heq
    rw [heq] at hvalue ⊢
    obtain rfl := List.mem_singleton.mp hvalue
    exact ⟨rfl, (Option.filter_eq_some_iff.mp hfilter).2⟩

/-- **A response with one set of the cache's headers** carries plain headers only. -/
theorem plain_of_carries {upstream response : Message} {value : HeaderValue} {bucket : UInt8}
    (hresponse : response.headers = (kept upstream.headers).extend (cacheHeaders value bucket))
    (h : Carries upstream response) : Plain upstream.headers := by
  obtain ⟨added, -, hhit, hbucket, hvalues⟩ := h
  intro name v hv
  have heq := hvalues name
  rw [hresponse, HeaderMap.values_extend] at heq
  -- to no name does the cache add more than the response has on top
  have hadded : ((cacheHeaders value bucket).values name).length ≤ (added.values name).length := by
    have hone := length_values_cacheHeaders value bucket name
    by_cases hname : name = cacheHitHeader ∨ name = cacheBucketIdx
    · have hpos : 0 < (added.values name).length := by
        rcases hname with rfl | rfl
        · exact List.length_pos_iff.mpr hhit
        · exact List.length_pos_iff.mpr hbucket
      omega
    · rw [values_cacheHeaders, if_neg fun h => hname (Or.inl h), if_neg fun h => hname (Or.inr h)]
      exact Nat.zero_le _
  -- so the values of the upstream response are among those that were kept
  have hlength := congrArg List.length heq
  rw [List.length_append, List.length_append] at hlength
  have hstart : upstream.headers.values name <+:
      (kept upstream.headers).values name ++ (cacheHeaders value bucket).values name := by
    rw [heq]
    exact List.prefix_append _ _
  refine plain_of_values_kept hv ?_
  exact List.prefix_of_prefix_length_le hstart (List.prefix_append _ _) (by omega)

/-! ### Histories -/

variable {s s' : State User Time (HttpResponse × Policy) Message}
  {stored : Stored User Time (HttpResponse × Policy) Message}

/-- The entry holds what is stored of the headers. -/
def HoldsHeaders (stored : Stored User Time (HttpResponse × Policy) Message) : Prop :=
  stored.entry.1.headers = headerMapToHashMap stored.response.headers

/-- What is saved of a response. -/
theorem saved_spec {bucket : UInt8}
    (h : (httpLibrary hash sem).saved call bucket parts outside = some stored) :
    HoldsHeaders stored ∧ stored.response = outside.inner parts (some call.body) ∧
      Storable hash sem call parts stored.response := by
  unfold Library.saved at h
  dsimp only at h
  split at h
  · next hstorable =>
    obtain ⟨cached, hcached, rfl⟩ := Option.map_eq_some_iff.mp h
    refine ⟨?_, rfl, hstorable.1⟩
    change (if sem.hasUrl (call.head.withParts parts) then _ else none) = some cached at hcached
    split at hcached
    · obtain ⟨body, -, rfl⟩ := Option.map_eq_some_iff.mp hcached
      rfl
    · cases hcached
  · cases h

/-- A response that is stored, and what the client gets of it. -/
theorem stored_of_answered {outcome : Outcome Message}
    (hstep : CacheStep (httpLibrary hash sem) s (.answered call outcome (some stored)) s') :
    HoldsHeaders stored ∧ ∀ r, outcome = .response r → ∃ bucket,
      r.headers = (kept stored.response.headers).extend
        (cacheHeaders cacheMissHeaderValue bucket) := by
  generalize hl : Label.answered call outcome (some stored) = l at hstep
  cases hstep with
  | answered id call' bucket key parts outside htask =>
    obtain ⟨-, rfl, hsaved⟩ := Label.answered.inj hl
    obtain ⟨hholds, hresponse, hstorable⟩ := saved_spec hsaved.symm
    refine ⟨hholds, fun r hr => ⟨bucket, ?_⟩⟩
    by_cases hstore : CanStore sem call' parts stored.response outside
    · rw [built_of_storable hresponse.symm hstorable hstore] at hr
      rw [← Outcome.response.inj hr]
    · rw [lost_of_storable hresponse.symm hstorable hstore] at hr
      cases hr
  | _ => cases hl

/-- What a client gets of an entry that is fresh. -/
theorem headers_of_hit {response : Message}
    (hstep : CacheStep (httpLibrary hash sem) s (.hit call stored response) s')
    (hholds : HoldsHeaders stored) :
    ∃ bucket, response.headers = (kept stored.response.headers).extend
      (cacheHeaders cacheHitHeaderValue bucket ++ cacheHeaders cacheHitHeaderValue bucket) := by
  generalize hl : Label.hit call stored response = l at hstep
  cases hstep with
  | hit id call' waiting staleHits emptyBuckets bucket outside stored' response' htask hmem hstored
      hcheck =>
    obtain ⟨-, rfl, rfl⟩ := Label.hit.inj hl
    -- the response is built from the entry, which holds the headers as texts
    have hfresh := (fresh_of_checkCache hstored hcheck).2
    refine ⟨bucket, ?_⟩
    change (if _ then Option.map _ (buildResponse stored.entry.1 _ _) else none) = _ at hfresh
    split at hfresh
    · have hentry : stored.entry.1 = ⟨stored.entry.1.body,
          headerMapToHashMap stored.response.headers, stored.entry.1.status⟩ := by
        rw [← show stored.entry.1.headers = _ from hholds]
      rw [hentry, buildResponse_stored] at hfresh
      obtain rfl := Option.some.inj hfresh
      exact List.append_assoc _ _ _
    · cases hfresh
  | _ => cases hl

/-- **Headers are carried where they are plain.** Take any response that is stored in a history:
the response to the request that stores it and all those to later requests that hit it carry its
headers if and only if each name has one value, and that is text. -/
theorem headers_carried_iff (hash : List Write → UInt64) (sem : Semantics Time Policy)
    (tr : List (Label User Time (HttpResponse × Policy) Message ×
      State User Time (HttpResponse × Policy) Message))
    (hrun : (cache (httpLibrary hash sem)).Run (cache (httpLibrary hash sem)).init tr)
    (call : Call User Time) (stored : Stored User Time (HttpResponse × Policy) Message)
    (response : Message)
    (hstored : ∃ s, (.answered call (.response response) (some stored), s) ∈ tr) :
    (Carries stored.response response ∧
        ∀ call' response', (∃ s, (.hit call' stored response', s) ∈ tr) →
          Carries stored.response response') ↔
      Plain stored.response.headers := by
  obtain ⟨s, hmem⟩ := hstored
  -- what is stored is read off the step that stored it
  have hlabel : ∀ (s : State User Time (HttpResponse × Policy) Message)
      (l : Label User Time (HttpResponse × Policy) Message)
      (s' : State User Time (HttpResponse × Policy) Message),
      s.WellFormed (httpLibrary hash sem) (BegunIn tr) (SavedIn tr) →
      CacheStep (httpLibrary hash sem) s l s' →
      l = .answered call (.response response) (some stored) →
      HoldsHeaders stored ∧ ∃ bucket, response.headers =
        (kept stored.response.headers).extend (cacheHeaders cacheMissHeaderValue bucket) := by
    rintro s l s' - hstep rfl
    obtain ⟨hholds, hresponse⟩ := stored_of_answered hstep
    exact ⟨hholds, hresponse response rfl⟩
  obtain ⟨hholds, bucket, hmiss⟩ := forall_label_of_run hrun hlabel _ hmem rfl
  constructor
  · rintro ⟨hcarries, -⟩
    exact plain_of_carries hmiss hcarries
  · intro hplain
    refine ⟨carries_of_plain hplain hmiss (fun entry => name_of_mem_cacheHeaders) ?_ ?_, ?_⟩
    · exact List.cons_ne_nil _ _
    · exact List.cons_ne_nil _ _
    -- every hit is built from the same entry
    rintro call' response' ⟨s', hmem'⟩
    have hhit : ∀ (s : State User Time (HttpResponse × Policy) Message)
        (l : Label User Time (HttpResponse × Policy) Message)
        (s' : State User Time (HttpResponse × Policy) Message),
        s.WellFormed (httpLibrary hash sem) (BegunIn tr) (SavedIn tr) →
        CacheStep (httpLibrary hash sem) s l s' → l = .hit call' stored response' →
        ∃ bucket, response'.headers = (kept stored.response.headers).extend
          (cacheHeaders cacheHitHeaderValue bucket ++ cacheHeaders cacheHitHeaderValue bucket) := by
      rintro s l s' - hstep rfl
      exact headers_of_hit hstep hholds
    obtain ⟨bucket', hheaders⟩ := forall_label_of_run hrun hhit _ hmem' rfl
    refine carries_of_plain hplain hheaders (fun entry hentry => ?_) ?_ ?_
    · rcases List.mem_append.mp hentry with hentry | hentry
      · exact name_of_mem_cacheHeaders hentry
      · exact name_of_mem_cacheHeaders hentry
    · exact List.cons_ne_nil _ _
    · exact List.cons_ne_nil _ _

/-- Everything is stored, and what is stored stays fresh. -/
def keepAll : Semantics Unit Unit where
  newOptions _ _ _ _ := ()
  isStorable _ := true
  beforeRequest _ _ _ := .fresh
  freshStatus _ := 200
  hasUrl _ := true
  hasExtensions _ := true

/-- A service that always answers the same. -/
def answering (answer : Message) (putFails : Bool) : Outside Message :=
  ⟨fun _ => false, fun _ _ => answer, putFails, false⟩

/-- An answer with values of the header `link`. -/
def linked (links : List HeaderValue) : Message :=
  ⟨200, links.map fun value => ("link", value), some []⟩

/-- A chat whose answer is stored. -/
def linkedChat (links : List HeaderValue) : Stored String Unit (HttpResponse × Unit) Message :=
  ⟨(⟨[], headerMapToHashMap (linked links).headers, 200⟩, ()), chat "user-a" [], 0,
    chatHead.parts, linked links⟩

/-- A history in which the answer to a chat is stored. -/
theorem exists_run_linked (links : List HeaderValue) :
    ∃ tr, (cache (httpLibrary sumBytes keepAll)).Run
      (cache (httpLibrary sumBytes keepAll)).init tr ∧
      ∃ s, (.answered (chat "user-a" []) (.response ⟨200,
        (kept (linked links).headers).extend (cacheHeaders cacheMissHeaderValue 0), some []⟩)
        (some (linkedChat links)), s) ∈ tr := by
  have hsaved : (httpLibrary sumBytes keepAll).saved (chat "user-a" []) 0 chatHead.parts
      (answering (linked links) false) = some (linkedChat links) := rfl
  obtain ⟨tr, hrun, -, -, -, -, store, s, hmem⟩ := @exists_run_saved _ _ _ _ _ _
    (cache (httpLibrary sumBytes keepAll)).init _ _ _ _ _ _ (newCall_chat "user-a" []) 0 rfl
    (fun _ _ => rfl) _ (chat_lt "user-a" []) _ (fun _ => rfl) _ hsaved
  rw [@built_of_storable _ _ _ sumBytes keepAll _ _ _ (linked links) _ rfl rfl
    ⟨rfl, rfl, rfl⟩] at hmem
  exact ⟨tr, hrun, s, hmem⟩

/-- An answer with one link carries it. -/
theorem headers_carried_iff_link :
    ∃ response, Carries (linked [cacheHitHeaderValue]) response := by
  obtain ⟨tr, hrun, hmem⟩ := exists_run_linked [cacheHitHeaderValue]
  have hplain : Plain (linked [cacheHitHeaderValue]).headers := by
    intro name value hvalue
    by_cases hname : "link" = name
    · subst hname
      obtain rfl := List.mem_singleton.mp hvalue
      exact ⟨rfl, rfl⟩
    · rw [show (linked [cacheHitHeaderValue]).headers = [("link", cacheHitHeaderValue)] from rfl,
        HeaderMap.values_cons, if_neg hname] at hvalue
      cases hvalue
  exact ⟨_, ((headers_carried_iff sumBytes keepAll tr hrun _ _ _ hmem).mpr hplain).1⟩

/-- **Of two links the second is lost.** -/
theorem headers_carried_fails :
    ¬ ∀ (sem : Semantics Unit Unit) (tr : List (Label String Unit (HttpResponse × Unit) Message ×
        State String Unit (HttpResponse × Unit) Message)),
      (cache (httpLibrary sumBytes sem)).Run (cache (httpLibrary sumBytes sem)).init tr →
      ∀ call stored response,
        (∃ s, (.answered call (.response response) (some stored), s) ∈ tr) →
        Carries stored.response response ∧
          ∀ call' response', (∃ s, (.hit call' stored response', s) ∈ tr) →
            Carries stored.response response' := by
  intro h
  obtain ⟨tr, hrun, hmem⟩ := exists_run_linked [cacheHitHeaderValue, cacheMissHeaderValue]
  have hplain := plain_of_carries rfl (h keepAll tr hrun _ _ _ hmem).1
  obtain ⟨hone, -⟩ := hplain "link" cacheHitHeaderValue (by decide)
  exact absurd hone (by decide)

/-! ### Failures of the backend -/

/-- The client gets the status and the body of the answer. -/
def Passed (answer : Message) (outcome : Outcome Message) : Prop :=
  ∃ r, outcome = .response r ∧ r.status = answer.status ∧ r.body = answer.body

/-- **Where failures are hidden.** Whichever lookups fail, a request that goes on to the service
behind gets its answer if and only if that is not stored, or can be. -/
theorem failures_hidden_iff (hash : List Write → UInt64) (sem : Semantics Time Policy)
    (config : CacheConfig) (user : User) (head : Head) (body : Option Bytes) (now : Time)
    (call : Call User Time) (hnew : newCall config user head body now = some call)
    (store : String → Option (Stored User Time (HttpResponse × Policy) Message))
    (outside : Outside Message) (chance : Chance) (bucket : UInt8) (key : String) (parts : Parts)
    (hforwarded : forwarded ((httpLibrary hash sem).env call store outside) chance call.ctx
      call.head.parts call.body call.buckets = some (bucket, key, parts)) :
    Passed (outside.inner parts (some call.body)) (Cache.call
        ((httpLibrary hash sem).env call store outside) chance config head.parts body).2 ↔
      (Storable hash sem call parts (outside.inner parts (some call.body)) →
        CanStore sem call parts (outside.inner parts (some call.body)) outside) := by
  rw [call_of_newCall _ _ hnew, serve_of_forwarded _ _ hforwarded]
  -- an answer that is not stored is passed on, and one that is stored is built again
  by_cases hstorable : Storable hash sem call parts (outside.inner parts (some call.body))
  · by_cases hstore : CanStore sem call parts (outside.inner parts (some call.body)) outside
    · rw [built_of_storable rfl hstorable hstore]
      exact iff_of_true ⟨_, rfl, rfl, rfl⟩ fun _ => hstore
    · rw [lost_of_storable rfl hstorable hstore]
      refine iff_of_false ?_ fun h => hstore (h hstorable)
      rintro ⟨r, hr, -⟩
      cases hr
  · rw [passed_of_not_storable rfl hstorable]
    exact iff_of_true ⟨_, rfl, rfl, rfl⟩ fun h => absurd h hstorable

/-- A lookup that fails is not noticed. -/
theorem failures_hidden_iff_lookup :
    Passed (linked []) (Cache.call ((httpLibrary sumBytes keepAll).env (chat "user-a" [])
      (fun _ => none) ⟨fun _ => true, fun _ _ => linked [], false, false⟩) noChance oneBucket
      chatHead.parts (some [])).2 :=
  (failures_hidden_iff sumBytes keepAll oneBucket "user-a" chatHead (some []) () _
    (newCall_chat "user-a" []) (fun _ => none) ⟨fun _ => true, fun _ _ => linked [], false, false⟩
    noChance 0 _ _ rfl).mpr fun _ => ⟨rfl, rfl, rfl⟩

/-- **A store that fails is.** The answer of the service behind is lost. -/
theorem failures_hidden_fails :
    ¬ ∀ (config : CacheConfig) (user : String) (head : Head) (body : Option Bytes)
        (call : Call String Unit), newCall config user head body () = some call →
      ∀ (store : String → Option (Stored String Unit (HttpResponse × Unit) Message))
        (outside : Outside Message) (chance : Chance) (bucket : UInt8) (key : String)
        (parts : Parts),
        forwarded ((httpLibrary sumBytes keepAll).env call store outside) chance call.ctx
          call.head.parts call.body call.buckets = some (bucket, key, parts) →
        Passed (outside.inner parts (some call.body))
          (Cache.call ((httpLibrary sumBytes keepAll).env call store outside) chance config
            head.parts body).2 := by
  intro h
  obtain ⟨r, hr, -⟩ := h oneBucket "user-a" chatHead (some []) _ (newCall_chat "user-a" [])
    (fun _ => none) (answering (linked []) true) noChance 0 _ _ rfl
  have hstorable : Storable sumBytes keepAll (chat "user-a" []) chatHead.parts (linked []) := rfl
  rw [call_of_newCall _ _ (newCall_chat "user-a" []), serve_of_forwarded _ _ rfl] at hr
  rw [lost_of_storable rfl hstorable fun hstore => Bool.noConfusion hstore.2.2] at hr
  cases hr

/-! ### Revalidation -/

/-- **A revalidation the client does not see.** It gets no 304; where the upstream answers with
one, it gets the status and the body of the entry, which stays in the store. -/
structure Invisible (answer : Message) (outcome : Outcome Message)
    (before after : Option (Stored User Time (HttpResponse × Policy) Message)) : Prop where
  not_modified : ∀ r, outcome = .response r → r.status ≠ 304
  revalidated : answer.status = 304 → ∃ r stored stored', outcome = .response r ∧
    before = some stored ∧ r.status = stored.entry.1.status ∧
    r.body = some stored.entry.1.body ∧ after = some stored' ∧ stored'.entry.1 = stored.entry.1

/-- **When a revalidation is invisible.** A request that finds an entry stale gets what the
upstream answers to the revalidation, so this must not be a 304. -/
theorem revalidation_invisible_iff (hash : List Write → UInt64) (sem : Semantics Time Policy)
    (config : CacheConfig) (user : User) (head : Head) (body : Option Bytes) (now : Time)
    (call : Call User Time) (hnew : newCall config user head body now = some call)
    (store : String → Option (Stored User Time (HttpResponse × Policy) Message))
    (outside : Outside Message) (chance : Chance) (bucket : UInt8) (key : String) (parts : Parts)
    (hstale : Revalidates ((httpLibrary hash sem).env call store outside) chance call.ctx
      call.head.parts call.body call.buckets (bucket, key, parts)) :
    Invisible (outside.inner parts (some call.body))
        (Cache.call ((httpLibrary hash sem).env call store outside) chance config head.parts body).2
        (store key) (((httpLibrary hash sem).saved call bucket parts outside).or (store key)) ↔
      (outside.inner parts (some call.body)).status ≠ 304 := by
  rw [call_of_newCall _ _ hnew, serve_of_forwarded _ _ (forwarded_of_revalidates _ _ hstale)]
  by_cases hstorable : Storable hash sem call parts (outside.inner parts (some call.body))
  · -- what is stored was a success
    have hstatus : (outside.inner parts (some call.body)).status ≠ 304 := by
      intro h
      have hsuccess := (Bool.and_eq_true_iff.mp hstorable).2
      rw [h] at hsuccess
      cases hsuccess
    refine iff_of_true ⟨fun r hr => ?_, fun h => absurd h hstatus⟩ hstatus
    -- it is handed back if it can be kept, and lost otherwise
    by_cases hstore : CanStore sem call parts (outside.inner parts (some call.body)) outside
    · rw [built_of_storable rfl hstorable hstore] at hr
      rw [← Outcome.response.inj hr]
      exact hstatus
    · rw [lost_of_storable rfl hstorable hstore] at hr
      cases hr
  -- nothing is stored, and the answer itself is handed back
  · rw [passed_of_not_storable rfl hstorable]
    constructor
    · intro h
      exact h.not_modified _ rfl
    · intro hstatus
      refine ⟨fun r hr => ?_, fun h => absurd h hstatus⟩
      rw [← Outcome.response.inj hr]
      exact hstatus

/-- Everything is stored, and what is stored is stale at once. -/
def staleAtOnce : Semantics Unit Unit where
  newOptions _ _ _ _ := ()
  isStorable _ := true
  beforeRequest _ head _ := .stale
    { head.parts with
      headers := head.parts.headers.insert "if-none-match" cacheHitHeaderValue } true
  freshStatus _ := 200
  hasUrl _ := true
  hasExtensions _ := true

/-- An upstream that has something new. -/
theorem revalidation_invisible_iff_new :
    ∃ after, Invisible (linked [])
      (Cache.call ((httpLibrary sumBytes staleAtOnce).env (chat "user-a" [])
        (fun _ => some (linkedChat [])) (answering (linked []) false)) noChance oneBucket
        chatHead.parts (some [])).2 (some (linkedChat [])) after :=
  ⟨_, (revalidation_invisible_iff sumBytes staleAtOnce oneBucket "user-a" chatHead (some []) ()
    _ (newCall_chat "user-a" []) (fun _ => some (linkedChat [])) (answering (linked []) false)
    noChance 0 _ _ ⟨_, _, rfl⟩).mpr (by decide)⟩

/-- **An upstream that has nothing new.** The client, which asked for no revalidation, gets the
304. -/
theorem revalidation_invisible_fails :
    ¬ ∀ (config : CacheConfig) (user : String) (head : Head) (body : Option Bytes)
        (call : Call String Unit), newCall config user head body () = some call →
      head.parts.headers.contains "if-none-match" = false →
      head.parts.headers.contains "if-modified-since" = false →
      ∀ (store : String → Option (Stored String Unit (HttpResponse × Unit) Message))
        (outside : Outside Message) (chance : Chance) (bucket : UInt8) (key : String)
        (parts : Parts),
        Revalidates ((httpLibrary sumBytes staleAtOnce).env call store outside) chance call.ctx
          call.head.parts call.body call.buckets (bucket, key, parts) →
        Invisible (outside.inner parts (some call.body))
          (Cache.call ((httpLibrary sumBytes staleAtOnce).env call store outside) chance config
            head.parts body).2 (store key)
          (((httpLibrary sumBytes staleAtOnce).saved call bucket parts outside).or
            (store key)) := by
  intro h
  have hinvisible := h oneBucket "user-a" chatHead (some []) _ (newCall_chat "user-a" []) rfl rfl
    (fun _ => some (linkedChat [])) (answering ⟨304, [], some []⟩ false) noChance 0 _ _
    ⟨_, _, rfl⟩
  -- a 304 is not stored, so it is passed on
  refine hinvisible.not_modified ⟨304, [], some []⟩ ?_ rfl
  have hnot : ∀ parts, ¬Storable sumBytes staleAtOnce (chat "user-a" []) parts
      ⟨304, [], some []⟩ := fun _ => Bool.false_ne_true
  rw [call_of_newCall _ _ (newCall_chat "user-a" []), serve_of_forwarded _ _ rfl]
  exact passed_of_not_storable rfl (hnot _) _ _

end AiGateway.Cache
