import AiGateway.Config.RateLimit
import AiGateway.Framework.Gcra
import AiGateway.Framework.Runs
import Mathlib.Tactic.Linarith

/-!
# The Redis rate limiter

`middleware/rate_limit/redis_service.rs`: one key of the Redis rate limiter, as
a function of the stored entry and of the request's timestamp.

`makeRequest` follows the source in its order: the emission interval in whole
milliseconds, the theoretical arrival time (TAT) read from Redis, the admission
test, the write of the new TAT with its expiry, and only then the arithmetic of
the `x-ratelimit-remaining` header. Arithmetic on `i64` is that of the release
profile, which wraps; `expect` on a conversion and a zero divisor are panics.

Redis refuses a time to live whose milliseconds, counted from the time of the
write, do not fit `i64`, and `makeRequest` returns that error before it computes
anything else. So the writes that are executed leave room for a full burst
(`SetExAccepts.room`), and none of their TATs wraps around.

As long as a full burst fits `i64` (`BurstFits`), the admission test is that of
the generic cell rate algorithm:

* `afterGet_of_conforms`, `afterGet_of_refused` and `afterGet_of_not` say what a
  request does, in terms of `Gcra.Conforms` and of what Redis accepts;
* `ratelimitRemaining_eq` and `ratelimitRemaining_of_stale` say what the header
  arithmetic computes: the rest of the burst while the TAT is recent, and one
  too many or a panic once it is two emission intervals old.
-/

namespace AiGateway

open Transition

/-! ### Timestamps -/

/-- The last instant of a `DateTime<Utc>`, in milliseconds since the epoch. -/
def maxTimestamp : ℤ := 8210266876799999

/-- The arrival time of a request, in milliseconds. It is taken by `Utc::now`,
which panics on a clock before the epoch. -/
structure Timestamp where
  ms : ℤ
  nonneg : 0 ≤ ms
  le_max : ms ≤ maxTimestamp

theorem Timestamp.fits (now : Timestamp) : I64.Fits now.ms := by
  have hnow := now.nonneg
  have hmax := now.le_max
  unfold maxTimestamp at hmax
  exact ⟨by unfold I64.min; omega, by unfold I64.max; omega⟩

/-- The timestamp of a number of milliseconds. -/
def Timestamp.ofMs (ms : ℤ) : Timestamp where
  ms := max 0 (min ms maxTimestamp)
  nonneg := le_max_left _ _
  le_max := max_le (by decide) (min_le_right _ _)

theorem Timestamp.ofMs_ms {ms : ℤ} (h0 : 0 ≤ ms) (h : ms ≤ maxTimestamp) :
    (Timestamp.ofMs ms).ms = ms := by
  unfold Timestamp.ofMs
  dsimp only
  rw [min_eq_left h, max_eq_right h0]

/-! ### The store -/

/-- What Redis holds for a key: the TAT, an `i64`, and the last instant it is kept. -/
structure Entry where
  tat : ℤ
  fits : I64.Fits tat
  expiresAt : ℤ
  deriving DecidableEq

/-- `GET`: an entry is gone once its time to live has passed. -/
def get (store : Option Entry) (nowMs : ℤ) : Option ℤ :=
  match store with
  | some e => if nowMs ≤ e.expiresAt then some e.tat else none
  | none => none

/-! ### `make_request` -/

/-- The panics of `make_request`. -/
inductive Panic
  /-- `expect("value too large")` on the emission interval. -/
  | intervalTooLarge
  /-- Division by a zero emission interval. -/
  | divideByZero
  /-- `expect("value too large")` on the number of tokens used. -/
  | tokensUsed
  /-- `expect("value too large")` on the time to wait. -/
  | retryAfter
  deriving DecidableEq, Repr

/-- What the limiter does with a request. An admitted request goes on to the
inner service, and its response carries the two numbers as headers. -/
inductive Outcome
  | admitted (limit remaining : ℕ)
  | tooManyRequests (limit remaining retryAfter : ℕ)
  /-- `InternalError::RedisError`: the `SETEX` has been refused. -/
  | redisError
  | panicked (panic : Panic)
  deriving DecidableEq, Repr

/-- The request was handed to the inner service. -/
def Outcome.isAdmitted : Outcome → Bool
  | .admitted _ _ => true
  | _ => false

/-- The refill time of one token in whole milliseconds. -/
def emissionInterval (gcra : GcraConfig) : ℤ := (gcra.perCellDuration.asMillis : ℤ)

/-- `interval_per_token_ms`, converted to `i64`. -/
def intervalPerTokenMs (gcra : GcraConfig) : Except Panic ℤ :=
  if emissionInterval gcra ≤ I64.max then .ok (emissionInterval gcra)
  else .error .intervalTooLarge

/-- The time to live of a write, in seconds. The sum is that of the release profile, which
wraps. -/
def ttlSecs (gcra : GcraConfig) : ℕ := (gcra.refillFrequency.asSecs + 1) % (u64Max + 1)

/-- Redis accepts a `SETEX` at `nowMs`: the time to live is not zero, and neither its
milliseconds nor the instant it ends at leave `i64`. Any other one is answered with
`invalid expire time`, and nothing is written. -/
def SetExAccepts (gcra : GcraConfig) (nowMs : ℤ) : Prop :=
  0 < ttlSecs gcra ∧ (ttlSecs gcra : ℤ) ≤ I64.max / 1000 ∧
    nowMs + ttlSecs gcra * 1000 ≤ I64.max

instance (gcra : GcraConfig) (nowMs : ℤ) : Decidable (SetExAccepts gcra nowMs) :=
  inferInstanceAs (Decidable (_ ∧ _ ∧ _))

/-- `tat`: the TAT found in Redis, or else the time of the request. -/
def tatAt (store : Option Entry) (nowMs : ℤ) : ℤ := (get store nowMs).getD nowMs

/-- `new_tat`. -/
def newTat (interval tat nowMs : ℤ) : ℤ :=
  if tat < nowMs then I64.add nowMs interval else I64.add tat interval

/-- `earliest_allowed_time`. -/
def earliestAllowedTime (gcra : GcraConfig) (interval tat nowMs : ℤ) : ℤ :=
  I64.sub (newTat interval tat nowMs) (I64.mul interval gcra.capacity)

theorem newTat_fits (interval tat nowMs : ℤ) : I64.Fits (newTat interval tat nowMs) := by
  unfold newTat I64.add
  split <;> exact I64.wrap_fits _

/-- `SETEX` of the new TAT at `nowMs`, as far as Redis accepts it. -/
def setEx (gcra : GcraConfig) (interval tat nowMs : ℤ) : Entry where
  tat := newTat interval tat nowMs
  fits := newTat_fits interval tat nowMs
  expiresAt := nowMs + ttlSecs gcra * 1000

/-- The header arithmetic of an admitted request. -/
def ratelimitRemaining (gcra : GcraConfig) (interval tat nowMs : ℤ) : Except Panic ℕ :=
  let timeUntilTat := I64.saturatingSub tat nowMs
  match I64.saturatingDiv (I64.saturatingAdd timeUntilTat (I64.sub interval 1)) interval with
  | none => .error .divideByZero
  | some q =>
    match u32TryFrom (I64.saturatingAdd q 1) with
    | none => .error .tokensUsed
    | some tokensUsed => .ok (gcra.capacity - tokensUsed)

/-- The advice of a denied request; a second is added against rounding. -/
def retryAfterSecs (earliestAllowedTime nowMs : ℤ) : Except Panic ℕ :=
  let difference := I64.sub earliestAllowedTime nowMs
  if 0 ≤ difference then .ok (difference.toNat / 1000 + 1) else .error .retryAfter

/-- What a request does once its `GET` has returned: respond and leave the key as
it is, or write the new TAT and then respond. -/
inductive AfterGet
  | respond (outcome : Outcome)
  | setEx (entry : Entry) (outcome : Outcome)

/-- How the request ends. -/
def AfterGet.outcome : AfterGet → Outcome
  | respond o => o
  | setEx _ o => o

/-- The entry the request leaves, when nobody else writes. -/
def AfterGet.store (store : Option Entry) : AfterGet → Option Entry
  | respond _ => store
  | setEx e _ => some e

/-- `make_request`, from the answer of its `GET` on. -/
def afterGet (gcra : GcraConfig) (existingTat : Option ℤ) (nowMs : ℤ) : AfterGet :=
  match intervalPerTokenMs gcra with
  | .error p => .respond (.panicked p)
  | .ok interval =>
    let tat := existingTat.getD nowMs
    let earliest := earliestAllowedTime gcra interval tat nowMs
    if earliest ≤ nowMs then
      if SetExAccepts gcra nowMs then
        -- the header arithmetic follows the write, and may still panic
        .setEx (setEx gcra interval tat nowMs)
          (match ratelimitRemaining gcra interval tat nowMs with
          | .ok remaining => .admitted gcra.capacity remaining
          | .error p => .panicked p)
      else
        -- the `SETEX` is sent and refused, and its error is returned
        .respond .redisError
    else
      .respond
        (match retryAfterSecs earliest nowMs with
        | .ok secs => .tooManyRequests gcra.capacity 0 secs
        | .error p => .panicked p)

/-- `make_request` for one key, from the stored entry to the entry it leaves. -/
def makeRequest (gcra : GcraConfig) (store : Option Entry) (nowMs : ℤ) :
    Option Entry × Outcome :=
  let rest := afterGet gcra (get store nowMs) nowMs
  (rest.store store, rest.outcome)

/-- The limiter admits a request at `nowMs`. -/
def admits (gcra : GcraConfig) (store : Option Entry) (nowMs : ℤ) : Bool :=
  (makeRequest gcra store nowMs).2.isAdmitted

/-- The entry a request leaves behind. -/
def storeAfter (gcra : GcraConfig) (store : Option Entry) (nowMs : ℤ) : Option Entry :=
  (makeRequest gcra store nowMs).1

/-! ### The limiter as a transition system -/

/-- The state of one key: its entry, and the time of the last request. -/
structure LimiterState where
  store : Option Entry
  clock : ℤ

/-- Requests of one key, each handled before the next, at nondecreasing times,
starting from no stored TAT. -/
def limiter (gcra : GcraConfig) : System LimiterState Timestamp where
  init := ⟨none, 0⟩
  step s now s' := s.clock ≤ now.ms ∧ s' = ⟨storeAfter gcra s.store now.ms, now.ms⟩

/-- The run of the requests at the given times. -/
def runOf (gcra : GcraConfig) (s : LimiterState) : List Timestamp → List (Timestamp × LimiterState)
  | [] => []
  | now :: ts =>
    let s' : LimiterState := ⟨storeAfter gcra s.store now.ms, now.ms⟩
    (now, s') :: runOf gcra s' ts

theorem runOf_run (gcra : GcraConfig) (s : LimiterState) (ts : List Timestamp)
    (hsorted : (s.clock :: ts.map Timestamp.ms).IsChain (· ≤ ·)) :
    (limiter gcra).Run s (runOf gcra s ts) := by
  induction ts generalizing s with
  | nil => exact System.Run.nil s
  | cons now ts ih =>
    rw [List.map_cons, List.isChain_cons_cons] at hsorted
    exact System.Run.cons ⟨hsorted.1, rfl⟩ (ih _ hsorted.2)

/-! ### The cell rate algorithm behind it -/

/-- The limiter of the generic cell rate algorithm this one is meant to be. -/
def cellRate (gcra : GcraConfig) : Gcra.Params ℤ := ⟨emissionInterval gcra, gcra.capacity⟩

/-- The refill time of the whole quota, in the milliseconds the code counts, fits `i64`. -/
def BurstFits (gcra : GcraConfig) : Prop := gcra.capacity * emissionInterval gcra ≤ I64.max

variable {gcra : GcraConfig}

theorem emissionInterval_nonneg (gcra : GcraConfig) : 0 ≤ emissionInterval gcra :=
  Int.natCast_nonneg _

/-- The emission interval is the exact refill time of a token, in nanoseconds
and rounded down there, truncated to milliseconds. -/
theorem emissionInterval_eq (gcra : GcraConfig) :
    emissionInterval gcra = ((gcra.refillFrequency.nanos / gcra.capacity / 1000000 : ℕ) : ℤ) := by
  unfold emissionInterval
  rw [Duration.asMillis_eq, gcra.perCellDuration_nanos]

/-- The truncated intervals of a burst never exceed the refill period. -/
theorem capacity_mul_interval_le (gcra : GcraConfig) :
    gcra.capacity * emissionInterval gcra ≤ gcra.refillFrequency.asMillis := by
  -- both are quotients of the same nanoseconds, one of them rounded twice
  rw [emissionInterval_eq, Duration.asMillis_eq, Nat.div_div_eq_div_mul, mul_comm gcra.capacity,
    ← Nat.div_div_eq_div_mul]
  exact_mod_cast Nat.mul_div_le _ _

/-- A refill period whose milliseconds fit `i64` is enough for a burst to fit. -/
theorem burstFits_of_refill (h : (gcra.refillFrequency.asMillis : ℤ) ≤ I64.max) :
    BurstFits gcra := (capacity_mul_interval_le gcra).trans h

theorem interval_le_burst (gcra : GcraConfig) :
    emissionInterval gcra ≤ gcra.capacity * emissionInterval gcra := by
  have hcap : (1 : ℤ) ≤ gcra.capacity := by exact_mod_cast gcra.capacity_pos
  nlinarith [emissionInterval_nonneg gcra]

/-! ### What Redis accepts -/

/-- An entry that is accepted outlives the refill period. -/
theorem SetExAccepts.refill_lt_ttl {nowMs : ℤ} (ha : SetExAccepts gcra nowMs) :
    (gcra.refillFrequency.asMillis : ℤ) < ttlSecs gcra * 1000 := by
  have hlt := gcra.refillFrequency.asMillis_lt_ttl
  have hsecs : gcra.refillFrequency.asSecs ≤ u64Max := gcra.refillFrequency.secs_le
  obtain ⟨hpos, -, -⟩ := ha
  -- a time to live that wraps is zero, and is not accepted
  unfold ttlSecs at hpos ⊢
  unfold u64Max at hsecs hpos ⊢
  omega

/-- The TATs of a burst that starts at an accepted write all fit `i64`. -/
theorem SetExAccepts.room {nowMs : ℤ} (ha : SetExAccepts gcra nowMs) :
    nowMs + gcra.capacity * emissionInterval gcra ≤ I64.max := by
  have hlt := ha.refill_lt_ttl
  have hle := capacity_mul_interval_le gcra
  obtain ⟨-, -, hend⟩ := ha
  omega

theorem SetExAccepts.burstFits {now : Timestamp} (ha : SetExAccepts gcra now.ms) :
    BurstFits gcra := by
  have hroom := ha.room
  have hnow := now.nonneg
  unfold BurstFits
  omega

/-- What is accepted now has been accepted before. -/
theorem SetExAccepts.mono {nowMs nowMs' : ℤ} (ha : SetExAccepts gcra nowMs') (h : nowMs ≤ nowMs') :
    SetExAccepts gcra nowMs := by
  obtain ⟨hpos, hsecs, hend⟩ := ha
  exact ⟨hpos, hsecs, by omega⟩

/-- A refill period without a whole millisecond for every token is accepted at any time. -/
theorem setExAccepts_of_interval (hi : emissionInterval gcra = 0) (now : Timestamp) :
    SetExAccepts gcra now.ms := by
  have hmax := now.le_max
  have hcap := gcra.capacity_le
  -- the refill period is shorter than as many milliseconds as there are tokens
  have hsecs : gcra.refillFrequency.asSecs ≤ 4294968 := by
    rw [emissionInterval_eq, Nat.cast_eq_zero, Nat.div_div_eq_div_mul,
      Nat.div_eq_zero_iff_lt (Nat.mul_pos gcra.capacity_pos (by decide))] at hi
    rw [Duration.asSecs_eq]
    unfold u32Max at hcap
    omega
  unfold SetExAccepts ttlSecs
  rw [Nat.mod_eq_of_lt (by unfold u64Max; omega)]
  unfold maxTimestamp at hmax
  unfold I64.max
  omega

/-! ### Admission -/

theorem BurstFits.interval_le (h : BurstFits gcra) : emissionInterval gcra ≤ I64.max :=
  (interval_le_burst gcra).trans h

theorem BurstFits.intervalPerTokenMs (h : BurstFits gcra) :
    intervalPerTokenMs gcra = .ok (emissionInterval gcra) := if_pos h.interval_le

theorem conforms_iff {tat nowMs : ℤ} :
    Gcra.Conforms (cellRate gcra) tat nowMs ↔
      max tat nowMs + emissionInterval gcra ≤ nowMs + gcra.capacity * emissionInterval gcra := by
  unfold Gcra.Conforms Gcra.newTat cellRate
  rw [nsmul_eq_mul, sub_le_iff_le_add]

theorem tatAt_fits (store : Option Entry) (now : Timestamp) :
    I64.Fits (tatAt store now.ms) := by
  unfold tatAt
  cases store with
  | none => exact now.fits
  | some e =>
    -- an expired entry counts as none
    change I64.Fits ((if now.ms ≤ e.expiresAt then some e.tat else none).getD now.ms)
    by_cases he : now.ms ≤ e.expiresAt
    · rw [if_pos he]; exact e.fits
    · rw [if_neg he]; exact now.fits

theorem max_tat_le {tat : ℤ} (htat : I64.Fits tat) (now : Timestamp) :
    max tat now.ms ≤ I64.max := max_le htat.2 now.fits.2

/-- The new TAT is the one of the cell rate algorithm, up to one wrap. -/
theorem newTat_eq (interval tat nowMs : ℤ) :
    newTat interval tat nowMs = I64.wrap (max tat nowMs + interval) := by
  unfold newTat I64.add
  -- the code branches where the algorithm takes the maximum
  by_cases h : tat < nowMs
  · rw [if_pos h, max_eq_right h.le]
  · rw [if_neg h, max_eq_left (not_lt.mp h)]

/-- The admission test depends on the later of the TAT and the time. -/
theorem earliestAllowedTime_of_le {interval tat nowMs : ℤ} (h : tat ≤ nowMs) :
    earliestAllowedTime gcra interval tat nowMs =
      earliestAllowedTime gcra interval nowMs nowMs := by
  unfold earliestAllowedTime
  rw [newTat_eq, newTat_eq, max_eq_right h, max_self]

theorem earliestAllowedTime_of_ge {interval tat nowMs nowMs' : ℤ} (h : nowMs ≤ tat)
    (h' : nowMs' ≤ tat) :
    earliestAllowedTime gcra interval tat nowMs = earliestAllowedTime gcra interval tat nowMs' := by
  unfold earliestAllowedTime
  rw [newTat_eq, newTat_eq, max_eq_left h, max_eq_left h']

/-- The admission test sees through the wrap of the new TAT. -/
theorem earliestAllowedTime_eq (h : BurstFits gcra) (now : Timestamp) {tat : ℤ}
    (htat : I64.Fits tat) :
    earliestAllowedTime gcra (emissionInterval gcra) tat now.ms
      = max tat now.ms + emissionInterval gcra - gcra.capacity * emissionInterval gcra := by
  have hi := emissionInterval_nonneg gcra
  have hb := interval_le_burst gcra
  have hmin := now.nonneg
  unfold BurstFits at h
  unfold earliestAllowedTime I64.sub I64.mul
  rw [newTat_eq, mul_comm (emissionInterval gcra)]
  rw [I64.wrap_of_fits (x := gcra.capacity * emissionInterval gcra)
    ⟨by unfold I64.min; omega, h⟩, I64.wrap_wrap_sub]
  -- the difference is at least minus a burst, and at most the TAT
  refine I64.wrap_of_fits ⟨?_, ?_⟩
  · have hge : now.ms ≤ max tat now.ms := le_max_right _ _
    unfold I64.min
    unfold I64.max at h
    omega
  · have htop := max_tat_le htat now
    omega

theorem admission_iff (h : BurstFits gcra) (now : Timestamp) {tat : ℤ} (htat : I64.Fits tat) :
    earliestAllowedTime gcra (emissionInterval gcra) tat now.ms ≤ now.ms ↔
      Gcra.Conforms (cellRate gcra) tat now.ms := by
  rw [earliestAllowedTime_eq h now htat, conforms_iff, sub_le_iff_le_add]

/-- Where the new TAT is written, it is the one of the cell rate algorithm. -/
theorem newTat_of_conforms {now : Timestamp} (ha : SetExAccepts gcra now.ms) {tat : ℤ}
    (hc : Gcra.Conforms (cellRate gcra) tat now.ms) :
    newTat (emissionInterval gcra) tat now.ms = max tat now.ms + emissionInterval gcra := by
  have hroom := ha.room
  have hcon := conforms_iff.mp hc
  have hi := emissionInterval_nonneg gcra
  have hnow := now.nonneg
  have hge : now.ms ≤ max tat now.ms := le_max_right _ _
  rw [newTat_eq]
  exact I64.wrap_of_fits ⟨by unfold I64.min; omega, by omega⟩

/-- **A conforming request** that Redis lets write. It writes its new TAT, and is
admitted unless the header arithmetic panics. -/
theorem afterGet_of_conforms {now : Timestamp} (ha : SetExAccepts gcra now.ms)
    (store : Option Entry) (hc : Gcra.Conforms (cellRate gcra) (tatAt store now.ms) now.ms) :
    afterGet gcra (get store now.ms) now.ms =
      .setEx (setEx gcra (emissionInterval gcra) (tatAt store now.ms) now.ms)
        (match ratelimitRemaining gcra (emissionInterval gcra) (tatAt store now.ms) now.ms with
        | .ok remaining => .admitted gcra.capacity remaining
        | .error p => .panicked p) := by
  -- the interval is read without a panic, and the admission test succeeds
  unfold afterGet
  rw [ha.burstFits.intervalPerTokenMs]
  exact (if_pos ((admission_iff ha.burstFits now (tatAt_fits store now)).mpr hc)).trans (if_pos ha)

theorem makeRequest_of_conforms {now : Timestamp} (ha : SetExAccepts gcra now.ms)
    (store : Option Entry) (hc : Gcra.Conforms (cellRate gcra) (tatAt store now.ms) now.ms) :
    makeRequest gcra store now.ms =
      (some (setEx gcra (emissionInterval gcra) (tatAt store now.ms) now.ms),
        match ratelimitRemaining gcra (emissionInterval gcra) (tatAt store now.ms) now.ms with
        | .ok remaining => .admitted gcra.capacity remaining
        | .error p => .panicked p) := by
  unfold makeRequest
  rw [afterGet_of_conforms ha store hc]
  rfl

/-- **A conforming request** that Redis does not let write is answered with the error. -/
theorem makeRequest_of_refused (h : BurstFits gcra) (store : Option Entry) (now : Timestamp)
    (ha : ¬ SetExAccepts gcra now.ms)
    (hc : Gcra.Conforms (cellRate gcra) (tatAt store now.ms) now.ms) :
    makeRequest gcra store now.ms = (store, .redisError) := by
  have hrest : afterGet gcra (get store now.ms) now.ms = .respond .redisError := by
    unfold afterGet
    rw [h.intervalPerTokenMs]
    exact (if_pos ((admission_iff h now (tatAt_fits store now)).mpr hc)).trans (if_neg ha)
  unfold makeRequest
  rw [hrest]
  rfl

/-- **What `make_request` does**, by its tests: the interval fits, the request is not early, and
Redis accepts the write. -/
theorem afterGet_cases (gcra : GcraConfig) (existingTat : Option ℤ) (nowMs : ℤ) :
    (I64.max < emissionInterval gcra ∧
      afterGet gcra existingTat nowMs = .respond (.panicked .intervalTooLarge)) ∨
    (emissionInterval gcra ≤ I64.max ∧
      earliestAllowedTime gcra (emissionInterval gcra) (existingTat.getD nowMs) nowMs ≤ nowMs ∧
      SetExAccepts gcra nowMs ∧ afterGet gcra existingTat nowMs =
        .setEx (setEx gcra (emissionInterval gcra) (existingTat.getD nowMs) nowMs)
          (match ratelimitRemaining gcra (emissionInterval gcra) (existingTat.getD nowMs) nowMs with
          | .ok remaining => .admitted gcra.capacity remaining
          | .error p => .panicked p)) ∨
    (emissionInterval gcra ≤ I64.max ∧
      earliestAllowedTime gcra (emissionInterval gcra) (existingTat.getD nowMs) nowMs ≤ nowMs ∧
      ¬ SetExAccepts gcra nowMs ∧ afterGet gcra existingTat nowMs = .respond .redisError) ∨
    (emissionInterval gcra ≤ I64.max ∧
      ¬ earliestAllowedTime gcra (emissionInterval gcra) (existingTat.getD nowMs) nowMs ≤ nowMs ∧
      afterGet gcra existingTat nowMs = .respond
        (match retryAfterSecs (earliestAllowedTime gcra (emissionInterval gcra)
            (existingTat.getD nowMs) nowMs) nowMs with
        | .ok secs => .tooManyRequests gcra.capacity 0 secs
        | .error p => .panicked p)) := by
  unfold afterGet intervalPerTokenMs
  -- the tests in the order of the code
  by_cases hmax : emissionInterval gcra ≤ I64.max
  · rw [if_pos hmax]
    dsimp only
    by_cases htest : earliestAllowedTime gcra (emissionInterval gcra) (existingTat.getD nowMs)
        nowMs ≤ nowMs
    · rw [if_pos htest]
      by_cases ha : SetExAccepts gcra nowMs
      · exact Or.inr (Or.inl ⟨hmax, htest, ha, if_pos ha⟩)
      · exact Or.inr (Or.inr (Or.inl ⟨hmax, htest, ha, if_neg ha⟩))
    · rw [if_neg htest]
      exact Or.inr (Or.inr (Or.inr ⟨hmax, htest, rfl⟩))
  · rw [if_neg hmax]
    exact Or.inl ⟨not_le.mp hmax, rfl⟩

/-- **A request that writes** has passed all tests. -/
theorem afterGet_eq_setEx_iff {existingTat : Option ℤ} {nowMs : ℤ} {e : Entry} {o : Outcome} :
    afterGet gcra existingTat nowMs = .setEx e o ↔
      emissionInterval gcra ≤ I64.max ∧
      earliestAllowedTime gcra (emissionInterval gcra) (existingTat.getD nowMs) nowMs ≤ nowMs ∧
      SetExAccepts gcra nowMs ∧
      setEx gcra (emissionInterval gcra) (existingTat.getD nowMs) nowMs = e ∧
      (match ratelimitRemaining gcra (emissionInterval gcra) (existingTat.getD nowMs) nowMs with
        | .ok remaining => .admitted gcra.capacity remaining
        | .error p => .panicked p) = o := by
  rcases afterGet_cases gcra existingTat nowMs with ⟨hmax, hafter⟩ | ⟨hmax, htest, ha, hafter⟩ |
    ⟨-, -, ha, hafter⟩ | ⟨-, htest, hafter⟩ <;> rw [hafter]
  · exact iff_of_false AfterGet.noConfusion fun h => absurd h.1 (not_le.mpr hmax)
  · rw [AfterGet.setEx.injEq]
    exact ⟨fun h => ⟨hmax, htest, ha, h⟩, fun h => h.2.2.2⟩
  · exact iff_of_false AfterGet.noConfusion fun h => ha h.2.2.1
  · exact iff_of_false AfterGet.noConfusion fun h => htest h.2.1

/-- A request that writes nothing is not admitted. -/
theorem isAdmitted_of_respond {existingTat : Option ℤ} {nowMs : ℤ} {o : Outcome}
    (h : afterGet gcra existingTat nowMs = .respond o) : o.isAdmitted = false := by
  rcases afterGet_cases gcra existingTat nowMs with ⟨-, hafter⟩ | ⟨-, -, -, hafter⟩ |
    ⟨-, -, -, hafter⟩ | ⟨-, -, hafter⟩ <;> obtain h := hafter.symm.trans h
  · cases h
    rfl
  · cases h
  · cases h
    rfl
  · obtain rfl := AfterGet.respond.inj h
    cases retryAfterSecs (earliestAllowedTime gcra (emissionInterval gcra)
      (existingTat.getD nowMs) nowMs) nowMs <;> rfl

/-- **Whatever a request finds**, it writes nothing where Redis does not accept the write. -/
theorem afterGet_of_refused {nowMs : ℤ} (ha : ¬ SetExAccepts gcra nowMs)
    (existingTat : Option ℤ) : ∃ o, afterGet gcra existingTat nowMs = .respond o := by
  rcases afterGet_cases gcra existingTat nowMs with ⟨-, hafter⟩ | ⟨-, -, ha', -⟩ |
    ⟨-, -, -, hafter⟩ | ⟨-, -, hafter⟩
  · exact ⟨_, hafter⟩
  · exact absurd ha' ha
  · exact ⟨_, hafter⟩
  · exact ⟨_, hafter⟩

/-- **Any other request.** It is denied, without a panic, and writes nothing. -/
theorem afterGet_of_not (h : BurstFits gcra) (store : Option Entry) (now : Timestamp)
    (hc : ¬ Gcra.Conforms (cellRate gcra) (tatAt store now.ms) now.ms) :
    ∃ secs, afterGet gcra (get store now.ms) now.ms =
      .respond (.tooManyRequests gcra.capacity 0 secs) := by
  have hfit := tatAt_fits store now
  have hearly := earliestAllowedTime_eq h now hfit
  have hadm := (not_congr (admission_iff h now hfit)).mpr hc
  -- a denied request is early, so its time to wait is not negative
  have hdiff : 0 ≤ I64.sub (earliestAllowedTime gcra (emissionInterval gcra)
      (tatAt store now.ms) now.ms) now.ms := by
    have hb := interval_le_burst gcra
    have hmin := now.nonneg
    have htop := max_tat_le hfit now
    unfold I64.sub
    rw [I64.wrap_of_fits ⟨by unfold I64.min; omega, by omega⟩]
    omega
  obtain ⟨secs, hwait⟩ : ∃ secs, retryAfterSecs (earliestAllowedTime gcra
      (emissionInterval gcra) (tatAt store now.ms) now.ms) now.ms = .ok secs :=
    ⟨_, if_pos hdiff⟩
  -- the interval is read without a panic, and the admission test fails
  refine ⟨secs, ?_⟩
  unfold afterGet
  rw [h.intervalPerTokenMs]
  refine (if_neg hadm).trans ?_
  change AfterGet.respond (match retryAfterSecs (earliestAllowedTime gcra (emissionInterval gcra)
      (tatAt store now.ms) now.ms) now.ms with
    | .ok secs => .tooManyRequests gcra.capacity 0 secs
    | .error p => .panicked p) = _
  rw [hwait]

theorem makeRequest_of_not (h : BurstFits gcra) (store : Option Entry) (now : Timestamp)
    (hc : ¬ Gcra.Conforms (cellRate gcra) (tatAt store now.ms) now.ms) :
    ∃ secs, makeRequest gcra store now.ms = (store, .tooManyRequests gcra.capacity 0 secs) := by
  obtain ⟨secs, hrest⟩ := afterGet_of_not h store now hc
  refine ⟨secs, ?_⟩
  unfold makeRequest
  rw [hrest]
  rfl

theorem storeAfter_of_conforms {now : Timestamp} (ha : SetExAccepts gcra now.ms)
    (store : Option Entry) (hc : Gcra.Conforms (cellRate gcra) (tatAt store now.ms) now.ms) :
    storeAfter gcra store now.ms
      = some (setEx gcra (emissionInterval gcra) (tatAt store now.ms) now.ms) := by
  unfold storeAfter
  rw [makeRequest_of_conforms ha store hc]

theorem storeAfter_of_refused {nowMs : ℤ} (ha : ¬ SetExAccepts gcra nowMs)
    (store : Option Entry) : storeAfter gcra store nowMs = store := by
  obtain ⟨o, hrest⟩ := afterGet_of_refused ha (get store nowMs)
  unfold storeAfter makeRequest
  rw [hrest]
  rfl

theorem storeAfter_of_not (h : BurstFits gcra) (store : Option Entry) (now : Timestamp)
    (hc : ¬ Gcra.Conforms (cellRate gcra) (tatAt store now.ms) now.ms) :
    storeAfter gcra store now.ms = store := by
  obtain ⟨secs, hreq⟩ := makeRequest_of_not h store now hc
  unfold storeAfter
  rw [hreq]

/-- **What a request leaves**: the entry it has found, or that of its own write. -/
theorem storeAfter_cases (gcra : GcraConfig) (store : Option Entry) (now : Timestamp) :
    storeAfter gcra store now.ms = store ∨
      SetExAccepts gcra now.ms ∧ Gcra.Conforms (cellRate gcra) (tatAt store now.ms) now.ms ∧
        storeAfter gcra store now.ms
          = some (setEx gcra (emissionInterval gcra) (tatAt store now.ms) now.ms) := by
  by_cases ha : SetExAccepts gcra now.ms
  · by_cases hc : Gcra.Conforms (cellRate gcra) (tatAt store now.ms) now.ms
    · exact Or.inr ⟨ha, hc, storeAfter_of_conforms ha store hc⟩
    · exact Or.inl (storeAfter_of_not ha.burstFits store now hc)
  · exact Or.inl (storeAfter_of_refused ha store)

/-- Only requests that Redis lets write are admitted. -/
theorem accepts_of_admits {store : Option Entry} {nowMs : ℤ}
    (hadm : admits gcra store nowMs = true) : SetExAccepts gcra nowMs := by
  by_contra ha
  obtain ⟨o, hrest⟩ := afterGet_of_refused ha (get store nowMs)
  unfold admits makeRequest at hadm
  rw [hrest] at hadm
  exact absurd hadm (Bool.eq_false_iff.mp (isAdmitted_of_respond hrest))

/-- Only conforming requests are admitted. -/
theorem conforms_of_admits {store : Option Entry} {now : Timestamp}
    (hadm : admits gcra store now.ms = true) :
    Gcra.Conforms (cellRate gcra) (tatAt store now.ms) now.ms := by
  by_contra hc
  obtain ⟨secs, hreq⟩ := makeRequest_of_not (accepts_of_admits hadm).burstFits store now hc
  unfold admits at hadm
  rw [hreq] at hadm
  cases hadm

/-! ### The header arithmetic -/

/-- The number of requests the cell rate algorithm admits at one instant. -/
def burstLeft (gcra : GcraConfig) (tat nowMs : ℤ) : ℕ :=
  ((nowMs + gcra.capacity * emissionInterval gcra - max tat nowMs) / emissionInterval gcra).toNat

/-- Rounding up by adding `i - 1`. -/
private theorem add_pred_ediv {i : ℤ} (hi : 0 < i) (d : ℤ) : (d + (i - 1)) / i = -(-d / i) := by
  -- write `-d` as a multiple of `i` and a remainder
  have hdiv := Int.mul_ediv_add_emod (-d) i
  have hnn := Int.emod_nonneg (-d) hi.ne'
  have hlt := Int.emod_lt_of_pos (-d) hi
  rw [show d + (i - 1) = (i - 1 - -d % i) + -(-d / i) * i by linarith,
    Int.add_mul_ediv_right _ _ hi.ne', Int.ediv_eq_zero_of_lt (by omega) (by omega), zero_add]

/-- A burst that starts from a TAT in the past is a full one. -/
theorem burstLeft_of_le (hi : 0 < emissionInterval gcra) {tat nowMs : ℤ} (h : tat ≤ nowMs) :
    burstLeft gcra tat nowMs = gcra.capacity := by
  unfold burstLeft
  rw [max_eq_right h, add_sub_cancel_left, Int.mul_ediv_cancel _ hi.ne', Int.toNat_natCast]

/-- A burst that starts from a TAT ahead of the clock lacks the intervals up to
the TAT, rounded up. -/
theorem burstLeft_of_ge (hi : 0 < emissionInterval gcra) {tat nowMs : ℤ} (h : nowMs ≤ tat) :
    (burstLeft gcra tat nowMs : ℤ) = max 0
      (gcra.capacity - (tat - nowMs + (emissionInterval gcra - 1)) / emissionInterval gcra) := by
  unfold burstLeft
  rw [max_eq_left h, add_pred_ediv hi, Int.toNat_eq_max, max_comm,
    show nowMs + gcra.capacity * emissionInterval gcra - tat
      = -(tat - nowMs) + gcra.capacity * emissionInterval gcra by ring,
    Int.add_mul_ediv_right _ _ hi.ne']
  congr 1
  ring

/-- A truncated quotient in the open unit interval around zero is zero. -/
private theorem tdiv_eq_zero {x i : ℤ} (h : -i < x) (h' : x < i) : x.tdiv i = 0 := by
  rcases le_or_gt 0 x with hx | hx
  · exact Int.tdiv_eq_zero_of_lt hx h'
  · rw [← neg_neg x, Int.neg_tdiv, Int.tdiv_eq_zero_of_lt (by omega) (by omega), neg_zero]

/-- The header, once the quotient of the time until the TAT by the interval is known:
nothing before the conversion of the tokens saturates or wraps. -/
theorem ratelimitRemaining_of_quotient {i tat nowMs q : ℤ} (hi : 0 < i) (hmax : i ≤ I64.max)
    (hdiff : I64.Fits (I64.saturatingSub tat nowMs + (i - 1)))
    (hquot : (I64.saturatingSub tat nowMs + (i - 1)).tdiv i = q) (hlow : I64.min ≤ q)
    (htop : q < I64.max) :
    ratelimitRemaining gcra i tat nowMs =
      match u32TryFrom (q + 1) with
      | none => .error .tokensUsed
      | some tokensUsed => .ok (gcra.capacity - tokensUsed) := by
  -- one step of the header arithmetic after the other
  have hsub : I64.sub i 1 = i - 1 := I64.wrap_of_fits ⟨by unfold I64.min; omega, by omega⟩
  have hadd : I64.saturatingAdd (I64.saturatingSub tat nowMs) (i - 1)
      = I64.saturatingSub tat nowMs + (i - 1) := I64.clamp_of_fits hdiff
  have hsucc : I64.saturatingAdd q 1 = q + 1 := I64.clamp_of_fits ⟨by omega, by omega⟩
  unfold ratelimitRemaining
  dsimp only
  rw [hsub, hadd, I64.saturatingDiv_of_ne hi.ne', hquot, I64.clamp_of_fits ⟨hlow, htop.le⟩]
  dsimp only
  rw [hsucc]

/-- The header of a request whose TAT lies a little in the past, as the
saturating difference sees it: one token is used. -/
theorem ratelimitRemaining_of_past {i tat nowMs : ℤ} (hi : 0 < i) (hmax : i ≤ I64.max)
    (hneg : I64.saturatingSub tat nowMs ≤ 0) (hlo : -i < I64.saturatingSub tat nowMs + (i - 1)) :
    ratelimitRemaining gcra i tat nowMs = .ok (gcra.capacity - 1) := by
  have hdiff : I64.Fits (I64.saturatingSub tat nowMs + (i - 1)) := by
    unfold I64.max at hmax
    exact ⟨by unfold I64.min; omega, by unfold I64.max; omega⟩
  rw [ratelimitRemaining_of_quotient hi hmax hdiff (tdiv_eq_zero hlo (by omega)) (by decide)
    (by decide)]
  rfl

/-- **The header arithmetic.** While the TAT is less than two intervals old, an
admitted request reports what is left of the burst after it. -/
theorem ratelimitRemaining_eq (h : BurstFits gcra) (hi : 0 < emissionInterval gcra)
    (now : Timestamp) {tat : ℤ} (htat : I64.Fits tat)
    (hc : Gcra.Conforms (cellRate gcra) tat now.ms)
    (hage : now.ms - tat ≤ 2 * emissionInterval gcra - 2) :
    ratelimitRemaining gcra (emissionInterval gcra) tat now.ms
      = .ok (burstLeft gcra tat now.ms - 1) := by
  have hmin := now.nonneg
  rcases le_total tat now.ms with hle | hge
  · -- the TAT lies in the past, and the burst is a full one
    have hmax := now.fits.2
    unfold I64.max at hmax
    have hlow : tat - now.ms ≤ I64.saturatingSub tat now.ms :=
      I64.le_clamp (by unfold I64.max; omega)
    have hneg : I64.saturatingSub tat now.ms ≤ 0 :=
      I64.clamp_le (by unfold I64.min; omega) (by omega)
    rw [burstLeft_of_le hi hle]
    exact ratelimitRemaining_of_past hi h.interval_le hneg (by omega)
  · -- the TAT lies ahead, by a number of intervals that leaves room for this one
    have htop := htat.2
    have hcon := conforms_iff.mp hc
    rw [max_eq_left hge] at hcon
    have hsat : I64.saturatingSub tat now.ms = tat - now.ms :=
      I64.clamp_of_fits ⟨by unfold I64.min; omega, by omega⟩
    have hdiff : I64.Fits (I64.saturatingSub tat now.ms + (emissionInterval gcra - 1)) := by
      unfold BurstFits at h
      rw [hsat]
      exact ⟨by unfold I64.min; omega, by omega⟩
    -- nothing is negative, so the division rounds down
    have hquot : (I64.saturatingSub tat now.ms + (emissionInterval gcra - 1)).tdiv
        (emissionInterval gcra)
        = (tat - now.ms + (emissionInterval gcra - 1)) / emissionInterval gcra := by
      rw [hsat, Int.tdiv_eq_ediv_of_nonneg (by omega)]
    have hq0 : 0 ≤ (tat - now.ms + (emissionInterval gcra - 1)) / emissionInterval gcra :=
      Int.ediv_nonneg (by omega) hi.le
    -- the request conforms, so the burst has a token for it
    have hq1 : (tat - now.ms + (emissionInterval gcra - 1)) / emissionInterval gcra + 1
        ≤ gcra.capacity := by
      rw [Int.add_one_le_iff, Int.ediv_lt_iff_lt_mul hi]
      omega
    have hleft := burstLeft_of_ge hi hge
    rw [max_eq_right (by omega)] at hleft
    have hcap := gcra.capacity_le
    unfold u32Max at hcap
    rw [ratelimitRemaining_of_quotient hi h.interval_le hdiff hquot
      (by unfold I64.min; omega) (by unfold I64.max; omega),
      u32TryFrom_of_nonneg (by omega) (by unfold u32Max; omega)]
    refine congrArg Except.ok ?_
    omega

/-- **The header arithmetic on a stale TAT.** From two intervals on it counts no
token at all, and from three on it panics. -/
theorem ratelimitRemaining_of_stale (h : BurstFits gcra) (hi : 0 < emissionInterval gcra)
    (now : Timestamp) {tat : ℤ} (htat : 0 ≤ tat)
    (hage : 2 * emissionInterval gcra - 2 < now.ms - tat) :
    ratelimitRemaining gcra (emissionInterval gcra) tat now.ms = .ok gcra.capacity ∨
      ratelimitRemaining gcra (emissionInterval gcra) tat now.ms = .error .tokensUsed := by
  have hmax := now.fits.2
  unfold I64.max at hmax
  have hsat : I64.saturatingSub tat now.ms = tat - now.ms :=
    I64.clamp_of_fits ⟨by unfold I64.min; omega, by unfold I64.max; omega⟩
  have hdiff : I64.Fits (I64.saturatingSub tat now.ms + (emissionInterval gcra - 1)) := by
    rw [hsat]
    exact ⟨by unfold I64.min; omega, by unfold I64.max; omega⟩
  -- the quotient rounds towards zero, from a dividend of at most minus one interval
  have hquot : (I64.saturatingSub tat now.ms + (emissionInterval gcra - 1)).tdiv
      (emissionInterval gcra)
      = -((now.ms - tat - (emissionInterval gcra - 1)) / emissionInterval gcra) := by
    rw [hsat, show tat - now.ms + (emissionInterval gcra - 1)
      = -(now.ms - tat - (emissionInterval gcra - 1)) by ring, Int.neg_tdiv,
      Int.tdiv_eq_ediv_of_nonneg (by omega)]
  have hone : 1 ≤ (now.ms - tat - (emissionInterval gcra - 1)) / emissionInterval gcra := by
    rw [Int.le_ediv_iff_mul_le hi]
    omega
  have hle : (now.ms - tat - (emissionInterval gcra - 1)) / emissionInterval gcra
      ≤ now.ms - tat - (emissionInterval gcra - 1) := Int.ediv_le_self _ (by omega)
  rw [ratelimitRemaining_of_quotient hi h.interval_le hdiff hquot
    (by unfold I64.min; omega) (by unfold I64.max; omega)]
  generalize (now.ms - tat - (emissionInterval gcra - 1)) / emissionInterval gcra = q at *
  -- minus one interval leaves no token used, anything below it a negative number
  rcases eq_or_ne q 1 with rfl | hq
  · exact Or.inl rfl
  · rw [u32TryFrom_of_neg (by omega)]
    exact Or.inr rfl

end AiGateway
