import AiGateway.Framework.Headers
import AiGateway.Monitor.RetryAfter
import AiGateway.RateLimit.Redis

/-!
# Admitted requests at the two rate limiters

What `middleware/rate_limit` makes of the result of the service behind a limiter, once a request
has been admitted: `make_request` of `redis_service.rs` on the one hand, and `ResponseFuture::poll`
of `service.rs`, around the layer of the `tower_governor` crate, on the other.

* `ratelimitRemaining_iff`: when the header arithmetic of the Redis limiter gets through;
* `incrementRetryAfterHeader_keeps_iff`: when the in-memory limiter leaves `retry-after` alone;
* `interchangeable_iff`: the results for which the two limiters do the same, and nothing but add
  headers of their own.
-/

namespace AiGateway.RateLimit

open Http

/-! ### The code -/

/-- A response, from the service behind a limiter. -/
structure Response where
  status : ℕ
  headers : HeaderMap
  body : List UInt8

/-- `ApiError`, of which the limiters make three themselves. -/
structure ApiErrors (E : Type) where
  /-- `InternalError::Internal`. -/
  internal : E
  /-- `InternalError::RedisError`. -/
  redisError : E
  /-- `TooManyRequestsError`, with the limit, what remains and the time to wait. -/
  tooManyRequests : ℕ → ℕ → ℕ → E

variable {E : Type}

/-- `make_request` of the Redis limiter, once its `GET` has returned; `none` is a panic. -/
def redisRespond (errors : ApiErrors E) (gcra : GcraConfig) (existingTat : Option ℤ) (nowMs : ℤ)
    (inner : Except E Response) : Option (Except E Response) :=
  match (afterGet gcra existingTat nowMs).outcome with
  | .panicked _ => none
  | .tooManyRequests limit remaining retryAfter =>
    some (.error (errors.tooManyRequests limit remaining retryAfter))
  | .redisError => some (.error errors.redisError)
  | .admitted limit remaining =>
    match inner with
    | .ok res =>
      some (.ok { res with
        headers := (res.headers.insert "x-ratelimit-limit" (.ofNat limit)).insert
          "x-ratelimit-remaining" (.ofNat remaining) })
    -- whatever the error was
    | .error _ => some (.error errors.internal)

/-- A number of seconds in the header `retry-after`. -/
def retryAfterSeconds (headers : HeaderMap) : Option U64 :=
  ((headers.get "retry-after").bind fun value => headerToStr value.bytes).bind parseU64

/-- `increment_retry_after_header`. The addition is that of the release profile, which wraps. -/
def incrementRetryAfterHeader (headers : HeaderMap) : HeaderMap :=
  match retryAfterSeconds headers with
  | some seconds =>
    let newRetryAfter := (seconds.1 + 1) % (u64Max + 1)
    (headers.insert "retry-after" (.ofNat newRetryAfter)).insert "x-ratelimit-after"
      (.ofNat newRetryAfter)
  | none => headers

/-- The headers of the limiters. -/
def isRateLimitHeader (name : String) : Bool := "x-ratelimit-".toList.isPrefixOf name.toList

/-- **What is known of the layer of `tower_governor`**: it sets headers of its own on a response. -/
structure Governor where
  setHeaders : HeaderMap → HeaderMap
  keeps : ∀ headers name, isRateLimitHeader name = false →
    (setHeaders headers).values name = headers.values name

/-- `ResponseFuture::poll` of an in-memory limiter, for a request that the governor lets pass. -/
def pollInMemory (governor : Governor) : Except E Response → Except E Response
  | .ok res =>
    .ok { res with headers := incrementRetryAfterHeader (governor.setHeaders res.headers) }
  | .error e => .error e

/-! ### The result of the service behind -/

/-- The result is that of the service behind, up to the headers of the limiters. -/
inductive SameResult : Except E Response → Except E Response → Prop
  | error (e : E) : SameResult (.error e) (.error e)
  | ok (res res' : Response) : res'.status = res.status → res'.body = res.body →
      (∀ name, isRateLimitHeader name = false →
        res'.headers.values name = res.headers.values name) →
      SameResult (.ok res) (.ok res')

/-- **The limiters are interchangeable** for an admitted request and the result of the service
behind. -/
structure Interchangeable (errors : ApiErrors E) (gcra : GcraConfig) (existingTat : Option ℤ)
    (nowMs : ℤ) (governor : Governor) (inner : Except E Response) : Prop where
  redis : ∃ result, redisRespond errors gcra existingTat nowMs inner = some result ∧
    SameResult inner result
  inMemory : SameResult inner (pollInMemory governor inner)
  no_overflow : ∀ res seconds, inner = .ok res →
    retryAfterSeconds (governor.setHeaders res.headers) = some seconds → seconds.1 + 1 ≤ u64Max

/-! ### The header arithmetic of the Redis limiter -/

/-- The time up to the TAT, plus the interval but for a millisecond. -/
def roundedTime (gcra : GcraConfig) (tat nowMs : ℤ) : ℤ :=
  I64.saturatingAdd (I64.saturatingSub tat nowMs) (emissionInterval gcra - 1)

/-- The tokens can be counted: the TAT is not three intervals old, and not too far ahead. -/
def Countable (gcra : GcraConfig) (tat nowMs : ℤ) : Prop :=
  0 < emissionInterval gcra ∧ -(2 * emissionInterval gcra) < roundedTime gcra tat nowMs ∧
    roundedTime gcra tat nowMs < u32Max * emissionInterval gcra

/-- The quotient that rounds towards zero, between its bounds. -/
theorem tdiv_bounds {x i m : ℤ} (hi : 0 < i) (hm : 0 < m) :
    (-1 ≤ x.tdiv i ∧ x.tdiv i < m) ↔ -(2 * i) < x ∧ x < m * i := by
  have hmi : 0 < m * i := Int.mul_pos hm hi
  -- `tdiv` is the quotient of the absolute values, so the sign of `x` matters
  rcases le_or_gt 0 x with hx | hx
  · have hq : 0 ≤ x / i := Int.ediv_nonneg hx hi.le
    rw [Int.tdiv_eq_ediv_of_nonneg hx, Int.ediv_lt_iff_lt_mul hi]
    constructor
    · rintro ⟨-, h⟩
      exact ⟨by omega, h⟩
    · rintro ⟨-, h⟩
      exact ⟨by omega, h⟩
  · -- below zero it is the quotient of the opposite
    have hq : 0 ≤ -x / i := Int.ediv_nonneg (by omega) hi.le
    have hlt : -x / i < 2 ↔ -x < 2 * i := Int.ediv_lt_iff_lt_mul hi
    rw [show x.tdiv i = -(-x / i) by
      rw [← Int.tdiv_eq_ediv_of_nonneg (by omega), Int.neg_tdiv, neg_neg]]
    constructor
    · rintro ⟨h, -⟩
      have hbound := hlt.mp (by omega)
      exact ⟨by omega, by omega⟩
    · rintro ⟨h, -⟩
      have hbound := hlt.mpr (by omega)
      exact ⟨by omega, by omega⟩

/-- A number is a `u32` before it is clamped if it is one after. -/
theorem u32TryFrom_clamp (x : ℤ) : u32TryFrom (I64.clamp x) = u32TryFrom x := by
  unfold u32TryFrom I64.clamp I64.min I64.max u32Max
  split
  · rw [if_neg (by omega), if_neg (by omega)]
  · split
    · rw [if_neg (by omega), if_neg (by omega)]
    · rfl

theorem u32TryFrom_isSome {x : ℤ} : (∃ n, u32TryFrom x = some n) ↔ 0 ≤ x ∧ x ≤ u32Max := by
  unfold u32TryFrom
  split
  · next h => exact iff_of_true ⟨_, rfl⟩ h
  · next h => exact iff_of_false (fun ⟨n, hn⟩ => by cases hn) h

/-- The quotient of an `i64` is one. -/
theorem tdiv_fits {x i : ℤ} (hx : I64.Fits x) (hi : 0 < i) : I64.Fits (x.tdiv i) := by
  unfold I64.Fits I64.min I64.max at hx ⊢
  have hone : ∀ y : ℤ, 0 ≤ y → 0 ≤ y / i ∧ y / i ≤ y := fun y hy =>
    ⟨Int.ediv_nonneg hy hi.le, Int.ediv_le_self _ hy⟩
  rcases le_or_gt 0 x with h | h
  · have hq := hone x h
    rw [Int.tdiv_eq_ediv_of_nonneg h]
    omega
  · have hq := hone (-x) (by omega)
    rw [show x.tdiv i = -(-x / i) by
      rw [← Int.tdiv_eq_ediv_of_nonneg (by omega), Int.neg_tdiv, neg_neg]]
    omega

/-- **When the header arithmetic gets through.** -/
theorem ratelimitRemaining_iff {gcra : GcraConfig} {tat nowMs : ℤ}
    (hmax : emissionInterval gcra ≤ I64.max) :
    (∃ remaining, ratelimitRemaining gcra (emissionInterval gcra) tat nowMs = .ok remaining) ↔
      Countable gcra tat nowMs := by
  have hnonneg := emissionInterval_nonneg gcra
  have hsub : I64.sub (emissionInterval gcra) 1 = emissionInterval gcra - 1 :=
    I64.wrap_of_fits ⟨by unfold I64.min; omega, by omega⟩
  unfold ratelimitRemaining Countable
  dsimp only
  rw [hsub]
  rcases hnonneg.eq_or_lt with hzero | hpos
  · -- the interval is zero, and the division panics
    rw [← hzero, I64.saturatingDiv_zero]
    exact iff_of_false (fun ⟨n, hn⟩ => by cases hn) fun h => absurd h.1 (lt_irrefl 0)
  · have hfits : I64.Fits (roundedTime gcra tat nowMs) := I64.clamp_fits _
    have hquot := tdiv_fits hfits hpos
    have hbounds := @tdiv_bounds (roundedTime gcra tat nowMs) (emissionInterval gcra) u32Max hpos
      (by decide)
    have hround : I64.saturatingAdd (I64.saturatingSub tat nowMs) (emissionInterval gcra - 1) =
        roundedTime gcra tat nowMs := rfl
    rw [hround, I64.saturatingDiv_of_ne hpos.ne', I64.clamp_of_fits hquot]
    unfold I64.saturatingAdd
    dsimp only
    rw [u32TryFrom_clamp, ← hbounds]
    have hsome := @u32TryFrom_isSome ((roundedTime gcra tat nowMs).tdiv (emissionInterval gcra) + 1)
    -- what is left is that the number of tokens is a `u32`
    cases htokens : u32TryFrom
        ((roundedTime gcra tat nowMs).tdiv (emissionInterval gcra) + 1) with
    | none =>
      rw [htokens] at hsome
      refine iff_of_false (fun ⟨n, hn⟩ => by cases hn) ?_
      rintro ⟨-, hlow, hhigh⟩
      obtain ⟨n, hn⟩ := hsome.mpr ⟨by omega, by omega⟩
      cases hn
    | some tokens =>
      obtain ⟨hlow, hhigh⟩ := hsome.mp ⟨tokens, htokens⟩
      exact iff_of_true ⟨_, rfl⟩ ⟨hpos, by omega, by omega⟩

/-! ### The header of the in-memory limiter -/

/-- A number in a header is text. -/
theorem headerToStr_ofNat (n : ℕ) : headerToStr (HeaderValue.ofNat n).bytes =
    some (Nat.toDigits 10 n) := by
  have hdigit : ∀ c ∈ Nat.toDigits 10 n, 48 ≤ c.toNat ∧ c.toNat < 58 := by
    intro c hc
    have h := Nat.isDigit_of_mem_toDigits (b := 10) (by decide) (by decide) hc
    unfold Char.isDigit at h
    obtain ⟨hge, hle⟩ := Bool.and_eq_true_iff.mp h
    have hge' : 48 ≤ c.toNat := of_decide_eq_true hge
    have hle' : c.toNat ≤ 57 := of_decide_eq_true hle
    exact ⟨hge', by omega⟩
  -- the digits are visible characters
  have hvisible : ∀ n < 58, 48 ≤ n → (decide (32 ≤ UInt8.ofNat n ∧ UInt8.ofNat n < 127) ||
      decide (UInt8.ofNat n = 9)) = true := by decide
  unfold headerToStr HeaderValue.ofNat
  rw [if_pos]
  · rw [List.map_map]
    refine congrArg some ?_
    conv_rhs => rw [← List.map_id (Nat.toDigits 10 n)]
    refine List.map_congr_left fun c hc => ?_
    obtain ⟨-, hlt⟩ := hdigit c hc
    change Char.ofNat (UInt8.ofNat c.toNat).toNat = c
    rw [UInt8.toNat_ofNat_of_lt' (hlt.trans (by decide)), Char.ofNat_toNat]
  · rw [List.all_eq_true]
    intro b hb
    obtain ⟨c, hc, rfl⟩ := List.mem_map.mp hb
    obtain ⟨hge, hlt⟩ := hdigit c hc
    exact hvisible c.toNat hlt hge

/-- A number of seconds and one more, modulo `2 ^ 64`, are not the same. -/
theorem succ_mod_ne (n : U64) : (n.1 + 1) % (u64Max + 1) ≠ n.1 := by
  have hle := n.2
  unfold u64Max at hle ⊢
  omega

/-- What the header says depends on its values. -/
theorem retryAfterSeconds_congr {headers headers' : HeaderMap}
    (h : headers'.values "retry-after" = headers.values "retry-after") :
    retryAfterSeconds headers' = retryAfterSeconds headers := by
  unfold retryAfterSeconds HeaderMap.get
  rw [h]

/-- A number that is inserted is read again. -/
theorem retryAfterSeconds_of_values {headers : HeaderMap} {n : U64}
    (h : headers.values "retry-after" = [HeaderValue.ofNat n.1]) :
    retryAfterSeconds headers = some n := by
  unfold retryAfterSeconds HeaderMap.get
  rw [h, List.head?_cons, Option.bind_some, headerToStr_ofNat, Option.bind_some,
    parseU64_toDigits]

/-- **When `retry-after` is left alone.** It must not be a number of seconds. -/
theorem incrementRetryAfterHeader_keeps_iff (headers : HeaderMap) :
    (∀ name, isRateLimitHeader name = false →
        (incrementRetryAfterHeader headers).values name = headers.values name) ↔
      retryAfterSeconds headers = none := by
  constructor
  · intro h
    by_contra hsome
    obtain ⟨seconds, hseconds⟩ := Option.ne_none_iff_exists'.mp hsome
    have hkeeps := h "retry-after" (by decide)
    have hvalues : (incrementRetryAfterHeader headers).values "retry-after" =
        [HeaderValue.ofNat ((seconds.1 + 1) % (u64Max + 1))] := by
      unfold incrementRetryAfterHeader
      rw [hseconds]
      dsimp only
      rw [HeaderMap.values_insert, if_neg (by decide), HeaderMap.values_insert, if_pos rfl]
    -- so the header has been one more than it was
    have hle : (seconds.1 + 1) % (u64Max + 1) ≤ u64Max :=
      Nat.le_of_lt_succ (Nat.mod_lt _ (Nat.succ_pos _))
    rw [hvalues] at hkeeps
    have hread := retryAfterSeconds_of_values (n := ⟨_, hle⟩) hkeeps.symm
    rw [hseconds] at hread
    exact succ_mod_ne seconds (congrArg Subtype.val (Option.some.inj hread)).symm
  · intro hnone name _
    unfold incrementRetryAfterHeader
    rw [hnone]

/-! ### Interchangeable limiters -/

/-- How a request that is admitted goes on. -/
theorem outcome_of_setEx {gcra : GcraConfig} {existingTat : Option ℤ} {nowMs : ℤ}
    {entry : Entry} {outcome : Outcome}
    (h : afterGet gcra existingTat nowMs = .setEx entry outcome) :
    (∃ remaining, ratelimitRemaining gcra (emissionInterval gcra) (existingTat.getD nowMs) nowMs =
        .ok remaining ∧ outcome = .admitted gcra.capacity remaining) ∨
      (∃ panic, ratelimitRemaining gcra (emissionInterval gcra) (existingTat.getD nowMs) nowMs =
        .error panic ∧ outcome = .panicked panic) := by
  obtain ⟨-, -, -, -, rfl⟩ := afterGet_eq_setEx_iff.mp h
  cases ratelimitRemaining gcra (emissionInterval gcra) (existingTat.getD nowMs) nowMs with
  | ok remaining => exact Or.inl ⟨remaining, rfl, rfl⟩
  | error panic => exact Or.inr ⟨panic, rfl, rfl⟩

variable {errors : ApiErrors E} {gcra : GcraConfig} {existingTat : Option ℤ} {nowMs : ℤ}
  {entry : Entry} {outcome : Outcome}

/-- The Redis limiter returns the result of the service behind. -/
theorem redis_same_iff (h : afterGet gcra existingTat nowMs = .setEx entry outcome)
    (inner : Except E Response) :
    (∃ result, redisRespond errors gcra existingTat nowMs inner = some result ∧
        SameResult inner result) ↔
      Countable gcra (existingTat.getD nowMs) nowMs ∧
        ∀ e, inner = .error e → e = errors.internal := by
  have hcount := @ratelimitRemaining_iff gcra (existingTat.getD nowMs) nowMs
    (afterGet_eq_setEx_iff.mp h).1
  have hrespond : (afterGet gcra existingTat nowMs).outcome = outcome := by
    rw [h]
    rfl
  unfold redisRespond
  rw [hrespond]
  obtain ⟨remaining, hremaining, rfl⟩ | ⟨panic, hpanic, rfl⟩ := outcome_of_setEx h
  · have hcountable := hcount.mp ⟨remaining, hremaining⟩
    cases inner with
    | ok res =>
      refine iff_of_true ⟨_, rfl, .ok _ _ rfl rfl fun name hname => ?_⟩
        ⟨hcountable, fun e he => by cases he⟩
      -- the two headers that are inserted are the limiter's
      rw [HeaderMap.values_insert, HeaderMap.values_insert, if_neg, if_neg]
      · rintro rfl
        exact absurd hname (by decide)
      · rintro rfl
        exact absurd hname (by decide)
    | error e =>
      constructor
      · rintro ⟨result, hresult, hsame⟩
        obtain rfl := Option.some.inj hresult
        cases hsame
        exact ⟨hcountable, fun e he => (Except.error.inj he).symm⟩
      · rintro ⟨-, he⟩
        obtain rfl := he e rfl
        exact ⟨_, rfl, .error _⟩
  · refine iff_of_false (fun ⟨result, hresult, _⟩ => by cases hresult) ?_
    rintro ⟨hcountable, -⟩
    obtain ⟨remaining, hremaining⟩ := hcount.mpr hcountable
    rw [hpanic] at hremaining
    cases hremaining

/-- The in-memory limiter returns the result of the service behind. -/
theorem inMemory_same_iff (governor : Governor) (inner : Except E Response) :
    SameResult inner (pollInMemory governor inner) ↔
      ∀ res, inner = .ok res → retryAfterSeconds res.headers = none := by
  cases inner with
  | error e => exact iff_of_true (.error e) fun res hres => by cases hres
  | ok res =>
    -- the governor leaves the header of the service alone
    have hgovernor : retryAfterSeconds (governor.setHeaders res.headers) =
        retryAfterSeconds res.headers :=
      retryAfterSeconds_congr (governor.keeps _ _ (by decide))
    have hkeeps := incrementRetryAfterHeader_keeps_iff (governor.setHeaders res.headers)
    rw [hgovernor] at hkeeps
    constructor
    · intro hsame res' hres'
      obtain rfl := Except.ok.inj hres'
      cases hsame with
      | ok _ _ _ _ hvalues =>
        refine hkeeps.mp fun name hname => ?_
        rw [governor.keeps _ _ hname]
        exact hvalues name hname
    · intro hnone
      refine .ok _ _ rfl rfl fun name hname => ?_
      rw [← governor.keeps res.headers name hname]
      exact hkeeps.mpr (hnone res rfl) name hname

/-- **When the limiters are interchangeable.** For a request that the Redis limiter admits: the
tokens can be counted, the service behind fails with an internal error at most, and its response
has no number of seconds in `retry-after`. -/
theorem interchangeable_iff (errors : ApiErrors E) (gcra : GcraConfig) (existingTat : Option ℤ)
    (nowMs : ℤ) (entry : Entry) (outcome : Outcome)
    (hadmitted : afterGet gcra existingTat nowMs = .setEx entry outcome) (governor : Governor)
    (inner : Except E Response) :
    Interchangeable errors gcra existingTat nowMs governor inner ↔
      Countable gcra (existingTat.getD nowMs) nowMs ∧
        (∀ e, inner = .error e → e = errors.internal) ∧
        ∀ res, inner = .ok res → retryAfterSeconds res.headers = none := by
  constructor
  · intro h
    obtain ⟨hcountable, herror⟩ := (redis_same_iff hadmitted inner).mp h.redis
    exact ⟨hcountable, herror, (inMemory_same_iff governor inner).mp h.inMemory⟩
  · rintro ⟨hcountable, herror, hnone⟩
    refine ⟨(redis_same_iff hadmitted inner).mpr ⟨hcountable, herror⟩,
      (inMemory_same_iff governor inner).mpr hnone, ?_⟩
    rintro res seconds hres hseconds
    rw [retryAfterSeconds_congr (governor.keeps _ _ (by decide)), hnone res hres] at hseconds
    cases hseconds

/-- Errors by their names. -/
def namedErrors : ApiErrors String where
  internal := "Internal"
  redisError := "RedisError"
  tooManyRequests _ _ _ := "TooManyRequests"

/-- A governor that says how many requests are left. -/
def countingGovernor : Governor where
  setHeaders headers := (headers.insert "x-ratelimit-limit" (.ofNat 500)).insert
    "x-ratelimit-remaining" (.ofNat 499)
  keeps headers name hname := by
    -- the two headers that are inserted are the governor's
    rw [HeaderMap.values_insert, HeaderMap.values_insert, if_neg, if_neg]
    · rintro rfl
      exact absurd hname (by decide)
    · rintro rfl
      exact absurd hname (by decide)

/-- The first request of a key is admitted. -/
theorem exists_setEx_default :
    ∃ entry outcome, afterGet .default none 0 = .setEx entry outcome :=
  ⟨_, _, afterGet_eq_setEx_iff.mpr
    ⟨by decide +kernel, by decide +kernel, by decide +kernel, rfl, rfl⟩⟩

/-- The answer of a provider that says how long it took. -/
def timedResponse : Response :=
  ⟨200, [("openai-processing-ms", .ofNat 320), ("content-length", .ofNat 2)], [123, 125]⟩

/-- A response to the first request of a key. -/
theorem interchangeable_iff_first :
    Interchangeable namedErrors .default none 0 countingGovernor (.ok timedResponse) := by
  obtain ⟨entry, outcome, hadmitted⟩ := exists_setEx_default
  have hcountable : Countable .default ((none : Option ℤ).getD 0) 0 := by
    unfold Countable
    decide +kernel
  refine (interchangeable_iff namedErrors .default none 0 entry outcome hadmitted countingGovernor
    (.ok timedResponse)).mpr ⟨hcountable, (fun e he => by cases he), fun res hres => ?_⟩
  cases hres
  rfl

/-- **The limiters differ** where the service behind denies a request itself: by an error, that one
of the limiters makes an internal one, and by a response whose `retry-after` the other counts up. -/
theorem interchangeable_fails :
    (¬ ∀ e : String, Interchangeable namedErrors .default none 0 countingGovernor (.error e)) ∧
      ¬ ∀ res : Response,
        Interchangeable namedErrors .default none 0 countingGovernor (.ok res) := by
  obtain ⟨entry, outcome, hadmitted⟩ := exists_setEx_default
  constructor
  · intro h
    obtain ⟨-, herror⟩ := (redis_same_iff hadmitted _).mp (h "InvalidRequest").redis
    exact absurd (herror _ rfl) (by decide)
  · intro h
    have hvalues : HeaderMap.values [("retry-after", HeaderValue.ofNat 7)] "retry-after" =
        [HeaderValue.ofNat 7] := by
      rw [HeaderMap.values_cons, if_pos rfl, HeaderMap.values_nil]
    have hnone := (inMemory_same_iff countingGovernor _).mp
      (h ⟨429, [("retry-after", .ofNat 7)], []⟩).inMemory _ rfl
    rw [@retryAfterSeconds_of_values _ ⟨7, by decide⟩ hvalues] at hnone
    cases hnone

end AiGateway.RateLimit
