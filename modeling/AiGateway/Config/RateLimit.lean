import AiGateway.Framework.RustStd

/-!
# Rate limit configuration

`config/rate_limit.rs`: the per-key quota `GcraConfig`, its defaults, and the
in-memory limiter `limiterConfig` builds from it. The capacity is a
`NonZeroU32`, so both of its bounds are fields.
-/

namespace AiGateway

/-- The quota of one API key. -/
structure GcraConfig where
  /-- The duration it takes to refill the entire rate limit quota. -/
  refillFrequency : Duration
  /-- The rate limit quota capacity. -/
  capacity : ℕ
  capacity_pos : 0 < capacity
  capacity_le : capacity ≤ u32Max

structure LimitsConfig where
  perApiKey : GcraConfig

def defaultCapacity : ℕ := 500

def defaultRefillFrequency : Duration := Duration.fromSecs 1 Duration.one_le_u64Max

/-- `GcraConfig::default`. -/
def GcraConfig.default : GcraConfig where
  refillFrequency := defaultRefillFrequency
  capacity := defaultCapacity
  capacity_pos := by decide
  capacity_le := by decide

/-- The refill time of a single token: the refill period divided by the
capacity, to the nanosecond, with the default period when the division fails. -/
def GcraConfig.perCellDuration (gcra : GcraConfig) : Duration :=
  (gcra.refillFrequency.checkedDiv gcra.capacity).getD defaultRefillFrequency

/-- The parameters handed to the in-memory limiter's builder. -/
structure RateLimiterConfig where
  period : Duration
  burstSize : ℕ

/-- `limiter_config`. The builder refuses a zero period and a zero burst. -/
def limiterConfig (limits : Option LimitsConfig) : Option RateLimiterConfig :=
  match limits with
  | none => none
  | some limits =>
    let gcra := limits.perApiKey
    let perCellDuration := gcra.perCellDuration
    if perCellDuration.nanos = 0 ∨ gcra.capacity = 0 then none
    else some ⟨perCellDuration, gcra.capacity⟩

/-- The capacity is not zero, so the division never falls back to the default. -/
theorem GcraConfig.perCellDuration_nanos (gcra : GcraConfig) :
    gcra.perCellDuration.nanos = gcra.refillFrequency.nanos / gcra.capacity := by
  obtain ⟨e, he, hn⟩ := gcra.refillFrequency.checkedDiv_of_pos gcra.capacity_pos
  unfold GcraConfig.perCellDuration
  rw [he, Option.getD_some, hn]

end AiGateway
