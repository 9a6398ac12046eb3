import AiGateway.Config.Sections
import AiGateway.Monitor.Metrics
import AiGateway.Monitor.RollingCounter
import Mathlib.Tactic.FieldSimp
import Mathlib.Tactic.Ring

/-!
# The health of a provider

`ProviderMonitorInner::check_health` of `discover/monitor/health/provider.rs`, and the registry of
`discover/monitor/metrics.rs` it reads: a rolling counter of requests and one of upstream errors for
every endpoint. The registry is made once, with the counters' own default window; the
window and the buckets of the configuration are not handed to it.

`agrees_iff`: the verdict is the configured one, whatever the history, only if the configured window
is that default or no number of errors reaches the ratio, and if a provider without
requests is never looked at.
-/

namespace AiGateway

namespace Sections.MonitorConfig

def errorRatio (config : MonitorConfig) : ErrorRatio :=
  match config.health with
  | .errorRatio fields => fields

/-- `error_threshold`. A decimal always has an `f64`, here itself. -/
def errorThreshold (config : MonitorConfig) : ℚ := config.errorRatio.ratio

def gracePeriod (config : MonitorConfig) : GracePeriod := config.errorRatio.gracePeriod

end Sections.MonitorConfig

namespace Health

open Sections (MonitorConfig)

/-! ### The registry -/

/-- A rolling counter with the timing it was made with. -/
structure Counter where
  timing : Timing
  rolling : RollingCounter timing

namespace Counter

def new (τ : Timing) : Counter := ⟨τ, RollingCounter.new τ⟩

def incr (c : Counter) (now : ℚ) : Counter := ⟨c.timing, c.rolling.incr now⟩

def total (c : Counter) (now : ℚ) : ℕ := c.rolling.total now

theorem foldl_incr (τ : Timing) (times : List ℚ) :
    times.foldl incr (new τ) = ⟨τ, RollingCounter.after τ times⟩ := by
  induction times using List.reverseRecOn with
  | nil => rfl
  | append_singleton times now ih =>
    rw [List.foldl_append, ih, RollingCounter.after, RollingCounter.after, List.foldl_append]
    rfl

end Counter

/-- An instant for the counter of requests, and one for the counter of errors. -/
structure Instants where
  request : ℚ
  error : ℚ

/-- `as_secs_f64`. -/
def seconds (window : Duration) : ℚ := window.nanos / 1000000000

/-- What `RollingCounter::new` is given. -/
def timing (window : Duration) (buckets : ℕ) (h : 0 < buckets) (start : ℚ) : Timing where
  window := seconds window
  window_nonneg := div_nonneg (Nat.cast_nonneg _) (by norm_num)
  buckets := buckets
  buckets_pos := h
  start := start

namespace EndpointMetrics

def new (window : Duration) (buckets : ℕ) (h : 0 < buckets) (start : Instants) :
    EndpointMetrics Counter where
  requestCount := Counter.new (timing window buckets h start.request)
  remoteInternalErrorCount := Counter.new (timing window buckets h start.error)

/-- The window of `RollingCounter::default`. -/
def defaultWindow : Duration := Duration.fromSecs 60 (Nat.le_of_ble_eq_true rfl)

/-- It has ten buckets. -/
theorem buckets_pos : 0 < 10 := Nat.le_of_ble_eq_true rfl

/-- `Default`, which is `RollingCounter::default` twice. -/
def default (start : Instants) : EndpointMetrics Counter := new defaultWindow 10 buckets_pos start

end EndpointMetrics

/-- An increment of one of the counters of an endpoint. -/
inductive Increment
  | request (e : ApiEndpoint) (now : ℚ)
  | remoteInternalError (e : ApiEndpoint) (now : ℚ)

namespace EndpointMetricsRegistry

/-- `Default`, which `AppState` is made with. -/
def default (start : ApiEndpoint → Instants) : EndpointMetricsRegistry Counter := fun e =>
  EndpointMetrics.default (start e)

/-- What an increment does to the registry. -/
def count (registry : EndpointMetricsRegistry Counter) :
    Increment → EndpointMetricsRegistry Counter
  | .request e now => registry.modify e fun m => m.incrReqCount fun c => c.incr now
  | .remoteInternalError e now =>
    registry.modify e fun m => m.incrRemoteInternalErrorCount fun c => c.incr now

end EndpointMetricsRegistry

/-! ### The check -/

/-- `f64::from(errors) / f64::from(requests) > threshold`. -/
def exceeds (errors requests : ℕ) (threshold : ℚ) : Bool :=
  -- a quotient by zero is infinite, or not a number
  if requests = 0 then decide (errors ≠ 0) else decide (threshold < errors / requests)

/-- The body of the loop of `check_health`. -/
def checkEndpoint (registry : EndpointMetricsRegistry Counter) (config : MonitorConfig)
    (now : ApiEndpoint → Instants) (allHealthy : Bool) (endpoint : ApiEndpoint) :
    Except MetricsNotConfigured Bool := do
  let endpointMetrics ← registry.healthMetrics endpoint
  let requests := endpointMetrics.requestCount.total (now endpoint).request
  if requests < config.gracePeriod.minRequests then
    return allHealthy
  let errors := endpointMetrics.remoteInternalErrorCount.total (now endpoint).error
  return if exceeds errors requests config.errorThreshold then false else allHealthy

/-- `check_health`. The clock is read for every counter. -/
def checkHealth (registry : EndpointMetricsRegistry Counter) (config : MonitorConfig)
    (now : ApiEndpoint → Instants) (provider : InferenceProvider) :
    Except MetricsNotConfigured Bool :=
  provider.endpoints.foldlM (checkEndpoint registry config now) true

/-- Whether an endpoint with metrics fails the check. -/
def fails (config : MonitorConfig) (now : Instants) (m : EndpointMetrics Counter) : Bool :=
  decide (config.gracePeriod.minRequests ≤ m.requestCount.total now.request) &&
    exceeds (m.remoteInternalErrorCount.total now.error) (m.requestCount.total now.request)
      config.errorThreshold

theorem checkEndpoint_eq (registry : EndpointMetricsRegistry Counter) (config : MonitorConfig)
    (now : ApiEndpoint → Instants) (e : ApiEndpoint) (allHealthy : Bool) :
    checkEndpoint registry config now allHealthy e =
      .ok (allHealthy && !fails config (now e) (registry e)) := by
  rw [checkEndpoint, registry.healthMetrics_eq]
  generalize registry e = m
  change (if m.requestCount.total (now e).request < config.gracePeriod.minRequests then
    .ok allHealthy else _ : Except _ Bool) = _
  by_cases hgrace : m.requestCount.total (now e).request < config.gracePeriod.minRequests
  · rw [if_pos hgrace, fails, decide_eq_false (Nat.not_le.2 hgrace), Bool.false_and,
      Bool.not_false, Bool.and_true]
  · rw [if_neg hgrace, fails, decide_eq_true (Nat.not_lt.1 hgrace), Bool.true_and]
    cases exceeds (m.remoteInternalErrorCount.total (now e).error)
      (m.requestCount.total (now e).request) config.errorThreshold
    · rw [Bool.not_false, Bool.and_true]
      rfl
    · rw [Bool.not_true, Bool.and_false]
      rfl

/-- The check of a provider asks each of its endpoints. -/
theorem checkHealth_eq (registry : EndpointMetricsRegistry Counter) (config : MonitorConfig)
    (now : ApiEndpoint → Instants) (provider : InferenceProvider) :
    checkHealth registry config now provider =
      .ok (provider.endpoints.all fun e => !fails config (now e) (registry e)) := by
  suffices haux : ∀ (l : List ApiEndpoint) (b : Bool),
      l.foldlM (checkEndpoint registry config now) b =
        .ok (b && l.all fun e => !fails config (now e) (registry e)) by
    rw [checkHealth, haux, Bool.true_and]
  intro l
  induction l with
  | nil =>
    intro b
    rw [List.foldlM_nil, List.all_nil, Bool.and_true]
    rfl
  | cons e l ih =>
    intro b
    rw [List.foldlM_cons, checkEndpoint_eq, List.all_cons, ← Bool.and_assoc]
    exact ih _

/-! ### Histories -/

/-- The instants at which the requests of an endpoint are counted. -/
def requestTimes (history : List Increment) (e : ApiEndpoint) : List ℚ :=
  history.filterMap fun
    | .request e' now => if e' = e then some now else none
    | .remoteInternalError _ _ => none

/-- The instants at which its errors are. -/
def errorTimes (history : List Increment) (e : ApiEndpoint) : List ℚ :=
  history.filterMap fun
    | .request _ _ => none
    | .remoteInternalError e' now => if e' = e then some now else none

/-- The counters of an endpoint with a given window after a history. -/
def metricsAfter (window : Duration) (buckets : ℕ) (h : 0 < buckets)
    (start : ApiEndpoint → Instants) (history : List Increment) (e : ApiEndpoint) :
    EndpointMetrics Counter where
  requestCount := (requestTimes history e).foldl Counter.incr
    (Counter.new (timing window buckets h (start e).request))
  remoteInternalErrorCount := (errorTimes history e).foldl Counter.incr
    (Counter.new (timing window buckets h (start e).error))

/-- The registry after a history has the counters of every endpoint after it. -/
theorem foldl_count (start : ApiEndpoint → Instants) (history : List Increment) :
    history.foldl EndpointMetricsRegistry.count (EndpointMetricsRegistry.default start) =
      metricsAfter EndpointMetrics.defaultWindow 10 (Nat.le_of_ble_eq_true rfl) start
        history := by
  -- by induction on the history, of which the last increment is counted last
  induction history using List.reverseRecOn with
  | nil => rfl
  | append_singleton history i ih =>
    rw [List.foldl_append, List.foldl_cons, List.foldl_nil, ih]
    funext e
    cases i with
    | request e' now =>
      rw [EndpointMetricsRegistry.count]
      by_cases he : e' = e
      · subst he
        rw [EndpointMetricsRegistry.modify_self]
        simp [metricsAfter, requestTimes, errorTimes, EndpointMetrics.incrReqCount]
      · rw [EndpointMetricsRegistry.modify_of_ne (Ne.symm he)]
        simp [metricsAfter, requestTimes, errorTimes, he]
    | remoteInternalError e' now =>
      rw [EndpointMetricsRegistry.count]
      by_cases he : e' = e
      · subst he
        rw [EndpointMetricsRegistry.modify_self]
        simp [metricsAfter, requestTimes, errorTimes, EndpointMetrics.incrRemoteInternalErrorCount]
      · rw [EndpointMetricsRegistry.modify_of_ne (Ne.symm he)]
        simp [metricsAfter, requestTimes, errorTimes, he]

/-- The clock goes forward: a counter is made, counts, and is read. -/
def InOrder (start : ApiEndpoint → Instants) (history : List Increment)
    (now : ApiEndpoint → Instants) : Prop :=
  ∀ e, ((start e).request :: requestTimes history e ++ [(now e).request]).Pairwise (· ≤ ·) ∧
    ((start e).error :: errorTimes history e ++ [(now e).error]).Pairwise (· ≤ ·)

/-! ### Totals -/

/-- The lap of an instant, which does not depend on the number of buckets. -/
theorem lap_timing (window : Duration) (buckets : ℕ) (h : 0 < buckets) (start now : ℚ) :
    (timing window buckets h start).lap now =
      quotientAsU64 (max (now - start) 0) (seconds window) := by
  have hne : (buckets : ℚ) ≠ 0 := Nat.cast_ne_zero.2 h.ne'
  have hwindow : (timing window buckets h start).bucketDuration * buckets = seconds window :=
    div_mul_cancel₀ (seconds window) hne
  rw [Timing.lap, ← hwindow]
  rfl

/-- What a counter with a window counts, if nothing is lost to the arithmetic. -/
def lapCount (window start : ℚ) (times : List ℚ) (now : ℚ) : ℕ :=
  times.countP fun s =>
    quotientAsU64 (max (s - start) 0) window = quotientAsU64 (max (now - start) 0) window

theorem total_foldl_incr {window : Duration} {buckets : ℕ} (h : 0 < buckets) {start now : ℚ}
    {times : List ℚ} (horder : (start :: times ++ [now]).Pairwise (· ≤ ·)) :
    (times.foldl Counter.incr (Counter.new (timing window buckets h start))).total now =
      lapCount (seconds window) start times now % 2 ^ 32 := by
  rw [Counter.foldl_incr]
  change (RollingCounter.after _ times).total now = _
  rw [RollingCounter.total_after (List.Pairwise.of_cons horder), RollingCounter.sameLap, lapCount]
  simp only [lap_timing]

/-- The requests of an endpoint that counters with a window have. -/
def requests (window : Duration) (buckets : ℕ) (h : 0 < buckets) (start : ApiEndpoint → Instants)
    (history : List Increment) (now : ApiEndpoint → Instants) (e : ApiEndpoint) : ℕ :=
  (metricsAfter window buckets h start history e).requestCount.total (now e).request

/-- The errors that they have. -/
def errors (window : Duration) (buckets : ℕ) (h : 0 < buckets) (start : ApiEndpoint → Instants)
    (history : List Increment) (now : ApiEndpoint → Instants) (e : ApiEndpoint) : ℕ :=
  (metricsAfter window buckets h start history e).remoteInternalErrorCount.total (now e).error

section Totals

variable {start now : ApiEndpoint → Instants} {history : List Increment}

theorem requests_eq (horder : InOrder start history now) (window : Duration) {buckets : ℕ}
    (h : 0 < buckets) (e : ApiEndpoint) : requests window buckets h start history now e =
      lapCount (seconds window) (start e).request (requestTimes history e) (now e).request %
        2 ^ 32 :=
  total_foldl_incr h (horder e).1

theorem errors_eq (horder : InOrder start history now) (window : Duration) {buckets : ℕ}
    (h : 0 < buckets) (e : ApiEndpoint) : errors window buckets h start history now e =
      lapCount (seconds window) (start e).error (errorTimes history e) (now e).error % 2 ^ 32 :=
  total_foldl_incr h (horder e).2

end Totals

/-! ### The configured verdict -/

/-- What the configuration says: an endpoint of the provider has, in counters with the configured
window and buckets, enough requests, and too many errors for them. -/
def Unhealthy (config : MonitorConfig) (h : 0 < config.errorRatio.buckets)
    (start : ApiEndpoint → Instants) (history : List Increment) (now : ApiEndpoint → Instants)
    (provider : InferenceProvider) : Prop :=
  ∃ e ∈ provider.endpoints,
    config.gracePeriod.minRequests ≤
      requests config.errorRatio.window config.errorRatio.buckets h start history now e ∧
    0 < requests config.errorRatio.window config.errorRatio.buckets h start history now e ∧
    config.errorThreshold <
      (errors config.errorRatio.window config.errorRatio.buckets h start history now e : ℚ) /
        requests config.errorRatio.window config.errorRatio.buckets h start history now e

/-- The check of the registry as it stands after a history. -/
def verdict (config : MonitorConfig) (start : ApiEndpoint → Instants) (history : List Increment)
    (now : ApiEndpoint → Instants) (provider : InferenceProvider) :
    Except MetricsNotConfigured Bool :=
  checkHealth (history.foldl EndpointMetricsRegistry.count (EndpointMetricsRegistry.default start))
    config now provider

/-- The verdict is the configured one, after every history of every provider. -/
def Agrees (config : MonitorConfig) (h : 0 < config.errorRatio.buckets) : Prop :=
  ∀ start history now, InOrder start history now → ∀ provider,
    verdict config start history now provider = .ok false ↔
      Unhealthy config h start history now provider

/-- What the check says of a history. -/
theorem verdict_eq_false_iff (config : MonitorConfig) (start : ApiEndpoint → Instants)
    (history : List Increment) (now : ApiEndpoint → Instants) (provider : InferenceProvider) :
    verdict config start history now provider = .ok false ↔
      ∃ e ∈ provider.endpoints, fails config (now e) (metricsAfter EndpointMetrics.defaultWindow 10
        (Nat.le_of_ble_eq_true rfl) start history e) = true := by
  rw [verdict, checkHealth_eq, foldl_count, Except.ok.injEq, List.all_eq_false]
  simp only [Bool.not_eq_true', Bool.not_eq_false]

/-! ### When the configured window reaches the counters -/

theorem seconds_defaultWindow : seconds EndpointMetrics.defaultWindow = 60 := by
  decide +kernel

/-- With some requests, the quotient is a number. -/
theorem exceeds_iff {errors requests : ℕ} {threshold : ℚ} (h : 0 < requests) :
    exceeds errors requests threshold = true ↔ threshold < errors / requests := by
  rw [exceeds, if_neg h.ne', decide_eq_true_iff]

/-- A check that asks for some requests divides by them. -/
theorem fails_iff {config : MonitorConfig} (hpos : 0 < config.gracePeriod.minRequests)
    (now : Instants) (m : EndpointMetrics Counter) :
    fails config now m = true ↔
      config.gracePeriod.minRequests ≤ m.requestCount.total now.request ∧
      0 < m.requestCount.total now.request ∧
      config.errorThreshold <
        (m.remoteInternalErrorCount.total now.error : ℚ) / m.requestCount.total now.request := by
  rw [fails, Bool.and_eq_true, decide_eq_true_iff]
  refine and_congr_right fun hmin => ?_
  have hrequests : 0 < m.requestCount.total now.request := Nat.lt_of_lt_of_le hpos hmin
  rw [exceeds_iff hrequests, and_iff_right hrequests]

/-- Counters of the same window count the same, so the verdict is the configured one. -/
theorem agrees_of_window {config : MonitorConfig} (h : 0 < config.errorRatio.buckets)
    (hpos : 0 < config.gracePeriod.minRequests)
    (hwindow : seconds config.errorRatio.window = 60) : Agrees config h := by
  intro start history now horder provider
  rw [verdict_eq_false_iff, Unhealthy]
  refine exists_congr fun e => and_congr_right fun _ => ?_
  rw [fails_iff hpos, requests_eq horder config.errorRatio.window h,
    errors_eq horder config.errorRatio.window h, hwindow, ← seconds_defaultWindow,
    ← requests_eq horder EndpointMetrics.defaultWindow EndpointMetrics.buckets_pos,
    ← errors_eq horder EndpointMetrics.defaultWindow EndpointMetrics.buckets_pos]
  rfl

/-- No number of errors that a counter holds reaches a high ratio. -/
theorem not_lt_ratio {threshold : ℚ} {min requests errors : ℕ} (hpos : 0 < min)
    (hratio : (u32Max : ℚ) ≤ threshold * min) (hmin : min ≤ requests) (herrors : errors ≤ u32Max) :
    ¬ threshold < (errors : ℚ) / requests := by
  have hpos' : (0 : ℚ) < min := Nat.cast_pos.2 hpos
  have hmin' : (min : ℚ) ≤ requests := Nat.cast_le.2 hmin
  have hthreshold : 0 ≤ threshold :=
    nonneg_of_mul_nonneg_left ((Nat.cast_nonneg u32Max).trans hratio) hpos'
  rw [not_lt, div_le_iff₀ (hpos'.trans_le hmin')]
  calc (errors : ℚ)
      ≤ u32Max := Nat.cast_le.2 herrors
    _ ≤ threshold * min := hratio
    _ ≤ threshold * requests := mul_le_mul_of_nonneg_left hmin' hthreshold

theorem agrees_of_ratio {config : MonitorConfig} (h : 0 < config.errorRatio.buckets)
    (hpos : 0 < config.gracePeriod.minRequests)
    (hratio : (u32Max : ℚ) ≤ config.errorThreshold * config.gracePeriod.minRequests) :
    Agrees config h := by
  have hbound : ∀ n : ℕ, n % 2 ^ 32 ≤ u32Max := by
    intro n
    exact Nat.le_of_lt_succ (Nat.mod_lt n (by norm_num))
  intro start history now horder provider
  rw [verdict_eq_false_iff, Unhealthy]
  refine exists_congr fun e => and_congr_right fun _ => ?_
  rw [fails_iff hpos]
  refine iff_of_false ?_ ?_
  · rintro ⟨hmin, -, hexceeds⟩
    refine not_lt_ratio hpos hratio hmin ?_ hexceeds
    have herrors := errors_eq horder EndpointMetrics.defaultWindow
      EndpointMetrics.buckets_pos e
    exact herrors.trans_le (hbound _)
  · rintro ⟨hmin, -, hexceeds⟩
    refine not_lt_ratio hpos hratio hmin ?_ hexceeds
    exact (errors_eq horder config.errorRatio.window h e).trans_le (hbound _)

/-! ### Histories that tell the windows apart -/

/-- The same instant everywhere. -/
def everywhere (now : ℚ) : ApiEndpoint → Instants := fun _ => ⟨now, now⟩

/-- Requests and errors of one endpoint, all when the counters are made. -/
def burst (requests errors : ℕ) : List Increment :=
  List.replicate requests (.request .openAI 0) ++
    List.replicate errors (.remoteInternalError .openAI 0)

theorem requestTimes_burst (requests errors : ℕ) (e : ApiEndpoint) :
    requestTimes (burst requests errors) e =
      List.replicate (if .openAI = e then requests else 0) 0 := by
  by_cases he : ApiEndpoint.openAI = e
  · simp [requestTimes, burst, List.filterMap_append, he]
  · simp [requestTimes, burst, List.filterMap_append, he]

theorem errorTimes_burst (requests errors : ℕ) (e : ApiEndpoint) :
    errorTimes (burst requests errors) e =
      List.replicate (if .openAI = e then errors else 0) 0 := by
  by_cases he : ApiEndpoint.openAI = e
  · simp [errorTimes, burst, List.filterMap_append, he]
  · simp [errorTimes, burst, List.filterMap_append, he]

theorem inOrder_burst (requests errors : ℕ) {now : ℚ} (hnow : 0 ≤ now) :
    InOrder (everywhere 0) (burst requests errors) (everywhere now) := by
  have hsorted : ∀ n, ((0 : ℚ) :: List.replicate n 0 ++ [now]).Pairwise (· ≤ ·) := by
    intro n
    rw [← List.replicate_succ, List.pairwise_append]
    refine ⟨List.pairwise_replicate.2 (Or.inr le_rfl), List.pairwise_singleton _ _, ?_⟩
    intro s hs t ht
    rw [List.eq_of_mem_replicate hs, List.mem_singleton.1 ht]
    exact hnow
  intro e
  rw [requestTimes_burst, errorTimes_burst]
  exact ⟨hsorted _, hsorted _⟩

/-- The first lap lasts as long as the window. -/
theorem quotientAsU64_eq_zero_iff {x y : ℚ} (hx : 0 ≤ x) (hy : 0 ≤ y) :
    quotientAsU64 x y = 0 ↔ x = 0 ∨ x < y := by
  rw [quotientAsU64]
  by_cases hy0 : y = 0
  · rw [if_pos hy0, hy0, or_iff_left (not_lt.2 hx)]
    by_cases hx0 : x = 0
    · rw [if_pos hx0]
      exact iff_of_true rfl hx0
    · rw [if_neg hx0]
      exact iff_of_false (by decide) hx0
  · have hpos : 0 < y := lt_of_le_of_ne hy (Ne.symm hy0)
    rw [if_neg hy0, or_iff_right_of_imp fun hx0 => hx0 ▸ hpos]
    have hfloor : ⌊x / y⌋₊ = 0 ↔ x < y := by rw [Nat.floor_eq_zero, div_lt_one hpos]
    rw [← hfloor]
    have hmax : u64Max ≠ 0 := by decide
    omega

theorem lapCount_replicate {window now : ℚ} (hwindow : 0 ≤ window) (hnow : 0 ≤ now) (n : ℕ) :
    lapCount window 0 (List.replicate n 0) now = if now = 0 ∨ now < window then n else 0 := by
  have hzero : quotientAsU64 (max (0 - 0) 0) window = 0 := by
    rw [sub_zero, max_self]
    exact (quotientAsU64_eq_zero_iff le_rfl hwindow).2 (Or.inl rfl)
  rw [lapCount, List.countP_replicate, hzero, sub_zero, max_eq_left hnow]
  refine if_congr ?_ rfl rfl
  rw [decide_eq_true_iff, eq_comm, quotientAsU64_eq_zero_iff hnow hwindow]

section Burst

variable {n m : ℕ} {now : ℚ} (window : Duration) {buckets : ℕ} (h : 0 < buckets)

theorem seconds_nonneg : 0 ≤ seconds window :=
  div_nonneg (Nat.cast_nonneg _) (by norm_num)

theorem requests_burst (hn : n ≤ u32Max) (hnow : 0 ≤ now) :
    requests window buckets h (everywhere 0) (burst n m) (everywhere now) .openAI =
      if now = 0 ∨ now < seconds window then n else 0 := by
  rw [requests_eq (inOrder_burst n m hnow), requestTimes_burst, if_pos rfl]
  change lapCount _ 0 _ now % _ = _
  rw [lapCount_replicate (seconds_nonneg window) hnow]
  refine Nat.mod_eq_of_lt (lt_of_le_of_lt ?_ (Nat.lt_succ_of_le hn))
  split
  · exact le_rfl
  · exact Nat.zero_le n

theorem errors_burst (hm : m ≤ u32Max) (hnow : 0 ≤ now) :
    errors window buckets h (everywhere 0) (burst n m) (everywhere now) .openAI =
      if now = 0 ∨ now < seconds window then m else 0 := by
  rw [errors_eq (inOrder_burst n m hnow), errorTimes_burst, if_pos rfl]
  change lapCount _ 0 _ now % _ = _
  rw [lapCount_replicate (seconds_nonneg window) hnow]
  refine Nat.mod_eq_of_lt (lt_of_le_of_lt ?_ (Nat.lt_succ_of_le hm))
  split
  · exact le_rfl
  · exact Nat.zero_le m

end Burst

/-- What agreement says of a burst. -/
theorem Agrees.burst_iff {config : MonitorConfig} {h : 0 < config.errorRatio.buckets}
    (hagrees : Agrees config h) {n m : ℕ} (hn : n ≤ u32Max) (hm : m ≤ u32Max) {now : ℚ}
    (hnow : 0 ≤ now) :
    (config.gracePeriod.minRequests ≤ (if now = 0 ∨ now < 60 then n else 0) ∧
      exceeds (if now = 0 ∨ now < 60 then m else 0) (if now = 0 ∨ now < 60 then n else 0)
        config.errorThreshold = true) ↔
    ∃ r s : ℕ, r = (if now = 0 ∨ now < seconds config.errorRatio.window then n else 0) ∧
      s = (if now = 0 ∨ now < seconds config.errorRatio.window then m else 0) ∧
      config.gracePeriod.minRequests ≤ r ∧ 0 < r ∧ config.errorThreshold < (s : ℚ) / r := by
  have hiff := hagrees _ _ _ (inOrder_burst n m hnow) .openAI
  rw [verdict_eq_false_iff, Unhealthy, InferenceProvider.endpoints] at hiff
  simp only [List.mem_singleton, exists_eq_left, fails, Bool.and_eq_true, decide_eq_true_iff]
    at hiff
  -- the counters of the code have the window of a minute, whatever is configured
  have hten : 0 < 10 := EndpointMetrics.buckets_pos
  have hrequests := requests_burst EndpointMetrics.defaultWindow hten hn hnow (m := m)
  have herrors := errors_burst EndpointMetrics.defaultWindow hten hm hnow (n := n)
  rw [seconds_defaultWindow] at hrequests herrors
  rw [← hrequests, ← herrors]
  refine hiff.trans ?_
  rw [requests_burst config.errorRatio.window h hn hnow,
    errors_burst config.errorRatio.window h hm hnow]
  exact ⟨fun hs => ⟨_, _, rfl, rfl, hs⟩, fun ⟨r, s, hr, hs, hrs⟩ => hr ▸ hs ▸ hrs⟩

/-- **The configured verdict.** The verdict is the configured one after every history exactly if
a provider needs some requests to be judged, and the configured window is the one that the
counters are made with, or no number of errors reaches the ratio. -/
theorem agrees_iff (config : MonitorConfig) (h : 0 < config.errorRatio.buckets)
    (hmin : config.gracePeriod.minRequests ≤ u32Max) :
    Agrees config h ↔ 0 < config.gracePeriod.minRequests ∧
      (seconds config.errorRatio.window = 60 ∨
        (u32Max : ℚ) ≤ config.errorThreshold * config.gracePeriod.minRequests) := by
  refine ⟨fun hagrees => ?_, fun ⟨hpos, hor⟩ =>
    hor.elim (agrees_of_window h hpos) (agrees_of_ratio h hpos)⟩
  have hpos : 0 < config.gracePeriod.minRequests := by
    by_contra hzero
    -- one error, and no request to divide by
    have hiff := hagrees.burst_iff (Nat.zero_le u32Max) (Nat.le_of_ble_eq_true rfl : 1 ≤ u32Max)
      le_rfl
    rw [if_pos (Or.inl rfl), if_pos (Or.inl rfl)] at hiff
    obtain ⟨r, s, hr, -, -, hr0, -⟩ := hiff.1 ⟨Nat.not_lt.1 hzero, rfl⟩
    rw [hr, if_pos (Or.inl rfl)] at hr0
    exact Nat.lt_irrefl 0 hr0
  refine ⟨hpos, ?_⟩
  by_contra hor
  push Not at hor
  obtain ⟨hwindow, hratio⟩ := hor
  have hexceeds : config.errorThreshold <
      ((u32Max : ℕ) : ℚ) / (config.gracePeriod.minRequests : ℕ) :=
    (lt_div_iff₀ (Nat.cast_pos.2 hpos)).2 hratio
  -- read when one of the windows is over and the other is not
  have hseconds : 0 ≤ seconds config.errorRatio.window := seconds_nonneg _
  set now : ℚ := 30 + seconds config.errorRatio.window / 2 with hnow
  have hnow0 : now ≠ 0 := by rw [hnow]; positivity
  have hnonneg : 0 ≤ now := by rw [hnow]; positivity
  have hiff := hagrees.burst_iff hmin (le_refl u32Max) hnonneg
  simp only [hnow0, false_or] at hiff
  obtain hlt | hgt := lt_or_gt_of_ne hwindow
  · -- the counters still count what the configured window has left behind
    have hin : now < 60 := by rw [hnow]; linarith
    have hout : ¬ now < seconds config.errorRatio.window := by rw [hnow, not_lt]; linarith
    rw [if_pos hin, if_pos hin] at hiff
    obtain ⟨r, s, hr, -, -, hr0, -⟩ := hiff.1 ⟨le_rfl, (exceeds_iff hpos).2 hexceeds⟩
    rw [hr, if_neg hout] at hr0
    exact Nat.lt_irrefl 0 hr0
  · -- the counters have begun again within the configured window
    have hin : now < seconds config.errorRatio.window := by rw [hnow]; linarith
    have hout : ¬ now < 60 := by rw [hnow, not_lt]; linarith
    obtain ⟨hle, -⟩ :=
      hiff.2 ⟨_, _, (if_pos hin).symm, (if_pos hin).symm, le_rfl, hpos, hexceeds⟩
    rw [if_neg hout] at hle
    exact absurd hle (Nat.not_le.2 hpos)

theorem agrees_iff_default : Agrees MonitorConfig.default (Nat.le_of_ble_eq_true rfl) :=
  (agrees_iff MonitorConfig.default (Nat.le_of_ble_eq_true rfl) (Nat.le_of_ble_eq_true rfl)).2
    ⟨Nat.le_of_ble_eq_true rfl, Or.inl (by decide +kernel)⟩

/-- The default, but for a window of half a minute. -/
def halfMinute : MonitorConfig :=
  ⟨.errorRatio { Sections.ErrorRatio.default with
    window := Duration.fromSecs 30 (Nat.le_of_ble_eq_true rfl) }⟩

/-- **The configured window is not used.** Three errors of twenty requests make a provider unhealthy
45 seconds later, with a window of half a minute. -/
theorem agrees_fails : ¬ ∀ (config : MonitorConfig) (h : 0 < config.errorRatio.buckets),
    Agrees config h := by
  intro hall
  have hagrees : Agrees halfMinute (Nat.le_of_ble_eq_true rfl) := hall halfMinute _
  have hiff := hagrees.burst_iff (Nat.le_of_ble_eq_true rfl : 20 ≤ u32Max)
    (Nat.le_of_ble_eq_true rfl : 3 ≤ u32Max) (by norm_num : (0 : ℚ) ≤ 45)
  have hwindow : seconds halfMinute.errorRatio.window = 30 := by decide +kernel
  obtain ⟨r, s, hr, -, -, hr0, -⟩ := hiff.1 (by decide +kernel)
  rw [hr, hwindow, if_neg (by norm_num)] at hr0
  exact Nat.lt_irrefl 0 hr0

end Health

end AiGateway
