import AiGateway.Cache.Hits
import AiGateway.Framework.Bytes

/-!
# The responses of the cache

What `middleware/cache/service.rs` stores of a response and what it makes of it again. The headers
of a response are stored as a map from names to texts: of a name that has several values, the
iterator names the first only, so `header_map_to_hash_map` drops the others; and a value that is
not text is dropped as well. Both the response to the request that stores it and the later hits are
built from this map.

The policy is that of `http_cache_semantics`, a parameter.

* `buildResponse_stored`: what is stored can always be built into a response;
* `values_kept`: what is left of the values of a name.
-/

namespace AiGateway.Cache

open Http Transition

/-! ### The code -/

/-- A response. Its body is read to the end by whoever needs it whole, and that may fail. -/
structure Message where
  status : ℕ
  headers : HeaderMap
  body : Option Bytes

/-- `StatusCode::is_success`. -/
def isSuccess (status : ℕ) : Bool := 200 ≤ status && status < 300

/-- `http_cache::HttpResponse`, up to the URL and the version, which nothing reads. The map of
headers is the list of its entries. -/
structure HttpResponse where
  body : Bytes
  headers : List (String × List Char)
  status : ℕ

/-- `header_map_to_hash_map`. -/
def headerMapToHashMap (headers : HeaderMap) : List (String × List Char) :=
  headers.intoIter.filterMap fun entry =>
    entry.1.bind fun name => (headerToStr entry.2.bytes).map fun text => (name, text)

/-- The loop of `build_response` over the stored headers. -/
def buildHeaders (headers : List (String × List Char)) (builder : Option HeaderMap) :
    Option HeaderMap :=
  headers.foldl (fun builder entry => builder.bind fun map =>
    (HeaderValue.fromStr (String.ofList entry.2)).map fun value => map ++ [(entry.1, value)])
    builder

/-- `build_response`. -/
def buildResponse (cached : HttpResponse) (status : ℕ) (extraHeaders : HeaderMap) :
    Option Message :=
  (buildHeaders cached.headers (some [])).map fun headers =>
    ⟨status, headers.extend extraHeaders, some cached.body⟩

/-- `CACHE_HIT_HEADER`. -/
def cacheHitHeader : String := "helicone-cache"

/-- `CACHE_BUCKET_IDX`. -/
def cacheBucketIdx : String := "helicone-cache-bucket-idx"

/-- `CACHE_HIT_HEADER_VALUE`. -/
def cacheHitHeaderValue : HeaderValue := ⟨[72, 73, 84], by decide⟩

/-- `CACHE_MISS_HEADER_VALUE`. -/
def cacheMissHeaderValue : HeaderValue := ⟨[77, 73, 83, 83], by decide⟩

/-- `bucket_header_value`. -/
def bucketHeaderValue (bucket : UInt8) : HeaderValue :=
  (HeaderValue.fromStr bucket.toNat.repr).getD ⟨[48], by decide⟩

/-- The headers that tell a hit from a miss. -/
def cacheHeaders (value : HeaderValue) (bucket : UInt8) : HeaderMap :=
  [(cacheHitHeader, value), (cacheBucketIdx, bucketHeaderValue bucket)]

/-- **What the cache is given**: the policy, and what it asks of a request. -/
structure Semantics (Time Policy : Type) where
  /-- `CachePolicy::new_options`, of the response as `CacheableResponse::new` has it. -/
  newOptions : CacheContext → Head → Message → Time → Policy
  /-- `CachePolicy::is_storable`. -/
  isStorable : Policy → Bool
  /-- `CachePolicy::before_request`. -/
  beforeRequest : Policy → Head → Time → BeforeRequest
  /-- The status that comes with `BeforeRequest::Fresh`. -/
  freshStatus : Policy → ℕ
  /-- `get_url`: what is made of the URI can be parsed. -/
  hasUrl : Head → Bool
  /-- The extensions that `check_cache` needs for a hit are there. -/
  hasExtensions : Head → Bool

/-- **The cache of the gateway.** -/
def httpLibrary {Time Policy : Type} (hash : List Write → UInt64) (sem : Semantics Time Policy) :
    Library Time (HttpResponse × Policy) HttpResponse Message where
  hash := hash
  beforeRequest entry head now := sem.beforeRequest entry.2 head now
  freshResponse entry head bucket :=
    -- the headers are added by `check_cache`, and once more by `make_request`
    let response := buildResponse entry.1 (sem.freshStatus entry.2)
      (cacheHeaders cacheHitHeaderValue bucket)
    if sem.hasExtensions head ∧ sem.hasUrl head then
      response.map fun response =>
        { response with
          headers := response.headers.extend (cacheHeaders cacheHitHeaderValue bucket) }
    else none
  isStorable ctx head response now :=
    sem.isStorable (sem.newOptions ctx head response now) && isSuccess response.status
  httpResponse head response :=
    if sem.hasUrl head then
      response.body.map fun body => ⟨body, headerMapToHashMap response.headers, response.status⟩
    else none
  entry ctx head cached response now := (cached, sem.newOptions ctx head response now)
  putResponse cached bucket :=
    buildResponse cached cached.status (cacheHeaders cacheMissHeaderValue bucket)

/-! ### Text in headers -/

/-- The value is text. -/
def isText (value : HeaderValue) : Bool := (headerToStr value.bytes).isSome

/-- **A text read from a header makes the same header again.** -/
theorem fromStr_of_headerToStr {value : HeaderValue} {text : List Char}
    (h : headerToStr value.bytes = some text) :
    HeaderValue.fromStr (String.ofList text) = some value := by
  unfold headerToStr at h
  split at h
  · next hall =>
    obtain rfl := Option.some.inj h
    -- what can be read as a text is visible ASCII, tabs included
    have hascii : ∀ b ∈ value.bytes, b < 128 := by
      intro b hb
      have hvisible := List.all_eq_true.mp hall b hb
      simp only [Bool.or_eq_true, decide_eq_true_eq] at hvisible
      rcases hvisible with ⟨-, hlt⟩ | rfl
      · exact UInt8.lt_trans hlt (by decide)
      · decide
    have hbytes : (String.ofList (value.bytes.map fun b => Char.ofNat b.toNat)).toUTF8.toList =
        value.bytes := by
      rw [Text.toUTF8_toList]
      exact Text.utf8Encode_ascii hascii
    unfold HeaderValue.fromStr
    simp only [hbytes]
    exact dif_pos value.valid
  · cases h

/-- Different texts make different headers. -/
theorem fromStr_inj {s t : String} {value : HeaderValue} (hs : HeaderValue.fromStr s = some value)
    (ht : HeaderValue.fromStr t = some value) : s = t := by
  have hbytes : ∀ {u : String}, HeaderValue.fromStr u = some value →
      u.toUTF8.toList = value.bytes := by
    intro u hu
    unfold HeaderValue.fromStr at hu
    split at hu
    · cases hu
      rfl
    · cases hu
  have heq := (hbytes hs).trans (hbytes ht).symm
  rw [Text.byteArray_toList, Text.byteArray_toList, Array.toList_inj, ← ByteArray.ext_iff,
    String.toUTF8_eq_toByteArray, String.toUTF8_eq_toByteArray, String.toByteArray_inj] at heq
  exact heq

/-! ### What is stored of the headers -/

/-- The headers that are stored: the first value of each name, if that is text. -/
def kept (headers : HeaderMap) : HeaderMap :=
  headers.names.filterMap fun name =>
    ((headers.get name).filter isText).map fun value => (name, value)

/-- What is left of the values of a name. -/
theorem values_kept (headers : HeaderMap) (name : String) :
    (kept headers).values name = ((headers.get name).filter isText).toList := by
  unfold kept
  rw [HeaderMap.values_filterMap_names headers.nodup_names fun n => (headers.get n).filter isText]
  split
  · rfl
  · next hname =>
    -- a name without values has no first one
    have hnone : headers.get name = none := by
      unfold HeaderMap.get
      rw [not_not.mp (mt HeaderMap.mem_names.mpr hname), List.head?_nil]
    rw [hnone]
    rfl

/-- The map holds the texts of the headers that are kept. -/
theorem headerMapToHashMap_eq (headers : HeaderMap) :
    headerMapToHashMap headers =
      (kept headers).filterMap fun entry =>
        (headerToStr entry.2.bytes).map fun text => (entry.1, text) := by
  unfold headerMapToHashMap kept HeaderMap.intoIter
  rw [List.filterMap_flatMap, List.filterMap_filterMap, List.filterMap_eq_flatMap_toList]
  refine List.flatMap_congr fun name _ => ?_
  unfold HeaderMap.get
  cases headers.values name with
  | nil => rfl
  | cons value values =>
    -- of the other values, the iterator does not say the name
    have hrest : (values.map fun value => ((none : Option String), value)).filterMap (fun entry =>
        entry.1.bind fun name =>
          (headerToStr entry.2.bytes).map fun text => (name, text)) = [] := by
      rw [List.filterMap_map, List.filterMap_eq_nil_iff]
      exact fun _ _ => rfl
    unfold HeaderMap.yielded
    rw [List.filterMap_cons, hrest, List.head?_cons]
    cases htext : headerToStr value.bytes with
    | none => simp [isText, htext]
    | some text => simp [isText, htext, Option.filter]

/-- The headers are built from their texts. -/
theorem buildHeaders_texts {headers : HeaderMap} (htext : ∀ entry ∈ headers, isText entry.2)
    (map : HeaderMap) :
    buildHeaders (headers.filterMap fun entry =>
      (headerToStr entry.2.bytes).map fun text => (entry.1, text)) (some map) =
        some (map ++ headers) := by
  induction headers generalizing map with
  | nil => rw [List.append_nil]; rfl
  | cons entry headers ih =>
    obtain ⟨hentry, hheaders⟩ := List.forall_mem_cons.mp htext
    obtain ⟨text, htext⟩ := Option.isSome_iff_exists.mp hentry
    have hvalue := fromStr_of_headerToStr htext
    have hrest := ih hheaders (map ++ [entry])
    unfold buildHeaders at hrest ⊢
    rw [List.filterMap_cons, htext]
    dsimp only [Option.map_some]
    rw [List.foldl_cons, Option.bind_some, hvalue, Option.map_some, hrest, List.append_assoc,
      List.singleton_append]

/-- **What is stored can be built into a response**, with the headers that are kept. -/
theorem buildResponse_stored (body : Bytes) (headers : HeaderMap) (status status' : ℕ)
    (extraHeaders : HeaderMap) :
    buildResponse ⟨body, headerMapToHashMap headers, status⟩ status' extraHeaders =
      some ⟨status', (kept headers).extend extraHeaders, some body⟩ := by
  have htext : ∀ entry ∈ kept headers, isText entry.2 := by
    intro entry hentry
    obtain ⟨name, -, hname⟩ := List.mem_filterMap.mp hentry
    obtain ⟨value, hvalue, rfl⟩ := Option.map_eq_some_iff.mp hname
    exact (Option.filter_eq_some_iff.mp hvalue).2
  unfold buildResponse
  rw [headerMapToHashMap_eq, buildHeaders_texts htext, List.nil_append]
  rfl

end AiGateway.Cache
