import AiGateway.RateLimit.Interchange
import AiGateway.RateLimit.Remaining

/-!
# The advice of the Redis rate limiter

A request that the Redis limiter denies is told how many seconds to wait. If no other request of its
key comes, a later one finds the same entry, or none once the entry has expired; the admission test
then succeeds, but the arithmetic of the header after it panics on a stored TAT of three emission
intervals ago.

* `admits_iff`: what makes the limiter admit a request;
* `of_denied`: what a denied request leaves and says;
* `denied_harmless_iff`: the later requests that are admitted.
-/

namespace AiGateway

open RateLimit Transition

variable {gcra : GcraConfig} {store : Option Entry}

/-! ### Admission -/

/-- **What makes the limiter admit a request**: the interval fits, the test succeeds, Redis accepts
the write, and the header arithmetic gets through. -/
theorem admits_iff (gcra : GcraConfig) (store : Option Entry) (nowMs : ℤ) :
    admits gcra store nowMs = true ↔
      emissionInterval gcra ≤ I64.max ∧
      earliestAllowedTime gcra (emissionInterval gcra) (tatAt store nowMs) nowMs ≤ nowMs ∧
      SetExAccepts gcra nowMs ∧ Countable gcra (tatAt store nowMs) nowMs := by
  have hadmits : admits gcra store nowMs =
      (afterGet gcra (get store nowMs) nowMs).outcome.isAdmitted := rfl
  rw [hadmits]
  constructor
  · intro hadm
    -- only an answer behind a write can be an admission, unless the header arithmetic panics
    cases hafter : afterGet gcra (get store nowMs) nowMs with
    | respond o =>
      rw [hafter] at hadm
      exact absurd hadm (Bool.eq_false_iff.mp (isAdmitted_of_respond hafter))
    | setEx e o =>
      obtain ⟨hmax, htest, ha, -, ho⟩ := afterGet_eq_setEx_iff.mp hafter
      refine ⟨hmax, htest, ha, (ratelimitRemaining_iff hmax).mp ?_⟩
      rw [hafter] at hadm
      obtain rfl := ho
      unfold tatAt
      cases hheader : ratelimitRemaining gcra (emissionInterval gcra)
          ((get store nowMs).getD nowMs) nowMs with
      | ok remaining => exact ⟨remaining, rfl⟩
      | error panic =>
        rw [AfterGet.outcome, hheader] at hadm
        cases hadm
  · rintro ⟨hmax, htest, ha, hcountable⟩
    obtain ⟨remaining, hheader⟩ := (ratelimitRemaining_iff hmax).mpr hcountable
    have hafter := afterGet_eq_setEx_iff.mpr ⟨hmax, htest, ha, rfl, rfl⟩
    unfold tatAt at hheader
    rw [hheader] at hafter
    rw [hafter]
    rfl

/-- **What a denied request leaves and says.** Nothing is written, and the time to wait ends after
the earliest time that is allowed. -/
theorem of_denied {nowMs : ℤ} (hnow : 0 ≤ nowMs) {limit remaining retryAfter : ℕ}
    (h : (makeRequest gcra store nowMs).2 = .tooManyRequests limit remaining retryAfter) :
    storeAfter gcra store nowMs = store ∧
      earliestAllowedTime gcra (emissionInterval gcra) (tatAt store nowMs) nowMs <
        nowMs + 1000 * retryAfter := by
  unfold storeAfter makeRequest at *
  unfold tatAt
  rcases afterGet_cases gcra (get store nowMs) nowMs with ⟨-, hafter⟩ | ⟨-, -, -, hafter⟩ |
    ⟨-, -, -, hafter⟩ | ⟨-, htest, hafter⟩ <;> rw [hafter] at h ⊢
  · cases h
  · -- a request that writes is not told to wait
    dsimp only [AfterGet.outcome] at h
    split at h <;> cases h
  · cases h
  -- the time to wait is cut to whole seconds and one is added, so nothing may have wrapped
  · refine ⟨rfl, ?_⟩
    have hfits : I64.Fits (earliestAllowedTime gcra (emissionInterval gcra)
        ((get store nowMs).getD nowMs) nowMs) := I64.wrap_fits _
    dsimp only [AfterGet.outcome] at h
    generalize earliestAllowedTime gcra (emissionInterval gcra)
      ((get store nowMs).getD nowMs) nowMs = earliest at htest h hfits ⊢
    have hdiff : I64.sub earliest nowMs = earliest - nowMs :=
      I64.wrap_of_fits ⟨by unfold I64.min; omega, by have := hfits.2; omega⟩
    have hsecs : retryAfterSecs earliest nowMs = .ok ((earliest - nowMs).toNat / 1000 + 1) := by
      unfold retryAfterSecs
      rw [hdiff]
      exact if_pos (by omega)
    rw [hsecs] at h
    obtain ⟨-, -, rfl⟩ := Outcome.tooManyRequests.inj h
    omega

/-! ### The later request -/

/-- The age of a TAT, by the arithmetic of the header. -/
theorem lt_roundedTime_iff {tat : ℤ} (now : Timestamp) (hi : 0 < emissionInterval gcra)
    (htat : 0 ≤ tat) (hfits : I64.Fits tat) :
    -(2 * emissionInterval gcra) < roundedTime gcra tat now.ms ↔
      now.ms - tat ≤ 3 * emissionInterval gcra - 2 := by
  have hnow := now.nonneg
  have hlast := now.fits.2
  have htop := hfits.2
  have hsub : I64.saturatingSub tat now.ms = tat - now.ms :=
    I64.clamp_of_fits ⟨by unfold I64.min; unfold I64.max at hlast; omega, by omega⟩
  unfold I64.max at hlast
  unfold roundedTime I64.saturatingAdd I64.clamp I64.min I64.max
  rw [hsub, if_neg (by omega)]
  split <;> omega

/-- A TAT that is at most a burst ahead, or has passed, is counted unless it is three intervals
old. -/
theorem countable_iff {tat : ℤ} {now : Timestamp} (hi : 0 < emissionInterval gcra) (htat : 0 ≤ tat)
    (hfits : I64.Fits tat) (hc : Gcra.Conforms (cellRate gcra) tat now.ms) :
    Countable gcra tat now.ms ↔ now.ms - tat ≤ 3 * emissionInterval gcra - 2 := by
  have hcon := conforms_iff.mp hc
  have hmany : gcra.capacity * emissionInterval gcra ≤ u32Max * emissionInterval gcra :=
    mul_le_mul_of_nonneg_right (by exact_mod_cast gcra.capacity_le) hi.le
  have hsub : I64.saturatingSub tat now.ms ≤ max tat now.ms - now.ms :=
    I64.clamp_le (by unfold I64.min; omega) (by omega)
  have hround : roundedTime gcra tat now.ms
      ≤ max tat now.ms - now.ms + (emissionInterval gcra - 1) :=
    I64.clamp_le (by unfold I64.min; omega) (by omega)
  rw [← lt_roundedTime_iff now hi htat hfits]
  exact ⟨fun h => h.2.1, fun h => ⟨hi, h, by omega⟩⟩

/-- **A later request that is admitted**: Redis accepts its write, and the TAT that is still stored,
if there is one, is not three intervals old. -/
structure AdmittedLater (gcra : GcraConfig) (store : Option Entry) (laterMs : ℤ) : Prop where
  accepts : SetExAccepts gcra laterMs
  recent : ∀ tat, get store laterMs = some tat → laterMs - tat ≤ 3 * emissionInterval gcra - 2

/-- A TAT that is there later is there before. -/
theorem get_of_later {nowMs laterMs : ℤ} (hle : nowMs ≤ laterMs) {tat : ℤ}
    (h : get store laterMs = some tat) : get store nowMs = some tat := by
  cases store with
  | none => cases h
  | some e =>
    change (if laterMs ≤ e.expiresAt then some e.tat else none) = some tat at h
    change (if nowMs ≤ e.expiresAt then some e.tat else none) = some tat
    split at h
    · next hlater => rwa [if_pos (le_trans hle hlater)]
    · cases h

/-- **The advice is right**: after the wait, the request passes the admission test. -/
theorem conforms_of_advised {now later : Timestamp} {limit remaining retryAfter : ℕ}
    (hburst : BurstFits gcra)
    (hdenied : (makeRequest gcra store now.ms).2 = .tooManyRequests limit remaining retryAfter)
    (hlater : now.ms + 1000 * retryAfter ≤ later.ms) :
    Gcra.Conforms (cellRate gcra) (tatAt store later.ms) later.ms := by
  have hle : now.ms ≤ later.ms := by omega
  -- a TAT that has passed, or is missing, is no reason to deny
  by_cases hpast : tatAt store later.ms ≤ later.ms
  · exact Gcra.conforms_of_le (emissionInterval_nonneg gcra) gcra.capacity_pos hpast
  -- any other one has been there before
  obtain ⟨-, hearly⟩ := of_denied now.nonneg hdenied
  rcases tatAt_cases store later.ms with ⟨e, -, hget, htat⟩ | ⟨-, htat⟩
  · have hbefore : tatAt store now.ms = e.tat := by
      unfold tatAt
      rw [get_of_later hle hget, Option.getD_some]
    rw [htat] at hpast ⊢
    have hahead : later.ms ≤ e.tat := by omega
    rw [hbefore, earliestAllowedTime_of_ge (hle.trans hahead) hahead] at hearly
    exact (admission_iff hburst later e.fits).mp (hearly.le.trans hlater)
  · exact absurd htat.le hpast

/-- **When a denial is harmless and its advice is right.** In every state a run reaches, a denied
request leaves the entry, and a request after the wait, or later, is admitted exactly when Redis
accepts its write and the TAT it finds has not become stale. -/
theorem denied_harmless_iff (gcra : GcraConfig) {tr : List (Timestamp × LimiterState)}
    (hrun : (limiter gcra).Run (limiter gcra).init tr) (now later : Timestamp)
    {limit remaining retryAfter : ℕ} (hi : 0 < emissionInterval gcra)
    (hdenied : (makeRequest gcra (System.finalState (limiter gcra).init tr).store now.ms).2 =
      .tooManyRequests limit remaining retryAfter)
    (hlater : now.ms + 1000 * retryAfter ≤ later.ms) :
    storeAfter gcra (System.finalState (limiter gcra).init tr).store now.ms =
        (System.finalState (limiter gcra).init tr).store ∧
      (admits gcra (System.finalState (limiter gcra).init tr).store later.ms = true ↔
        AdmittedLater gcra (System.finalState (limiter gcra).init tr).store later.ms) := by
  have hinv : StoreInv gcra (System.finalState (limiter gcra).init tr) :=
    (hrun.invariant (fun _ _ _ hs hstep => hs.step hstep) (storeInv_init gcra)).finalState
  generalize System.finalState (limiter gcra).init tr = s at hdenied hinv ⊢
  refine ⟨(of_denied now.nonneg hdenied).1, ?_⟩
  have htat := hinv.tatAt_nonneg later
  have hfits := tatAt_fits s.store later
  -- the age of the TAT, or of none
  have hrecent : later.ms - tatAt s.store later.ms ≤ 3 * emissionInterval gcra - 2 ↔
      ∀ tat, get s.store later.ms = some tat → later.ms - tat ≤ 3 * emissionInterval gcra - 2 := by
    rcases tatAt_cases s.store later.ms with ⟨e, -, hget, htat⟩ | ⟨hget, htat⟩ <;> rw [htat, hget]
    · exact ⟨fun h tat ht => Option.some.inj ht ▸ h, fun h => h e.tat rfl⟩
    · exact iff_of_true (by omega) fun tat ht => by cases ht
  rw [admits_iff]
  constructor
  · rintro ⟨-, -, ha, hcountable⟩
    have hc := conforms_of_advised ha.burstFits hdenied hlater
    exact ⟨ha, hrecent.mp ((countable_iff hi htat hfits hc).mp hcountable)⟩
  · rintro ⟨ha, hstored⟩
    have hc := conforms_of_advised ha.burstFits hdenied hlater
    exact ⟨ha.burstFits.interval_le, (admission_iff ha.burstFits later hfits).mpr hc, ha,
      (countable_iff hi htat hfits hc).mpr (hrecent.mpr hstored)⟩

/-! ### A quota of two requests -/

/-- Two requests in a time. -/
def twoPer (refillFrequency : Duration) : GcraConfig where
  refillFrequency := refillFrequency
  capacity := 2
  capacity_pos := by decide
  capacity_le := by decide

/-- Two requests in twenty milliseconds. -/
def twoPerTwentyMs : GcraConfig := twoPer ⟨0, 20000000, by decide, by decide⟩

/-- What two requests at once leave. -/
def afterTwo (gcra : GcraConfig) : List (Timestamp × LimiterState) :=
  runOf gcra (limiter gcra).init [.ofMs 0, .ofMs 0]

theorem run_afterTwo (gcra : GcraConfig) :
    (limiter gcra).Run (limiter gcra).init (afterTwo gcra) :=
  runOf_run _ _ _ (show [0, (Timestamp.ofMs 0).ms, (Timestamp.ofMs 0).ms].IsChain (· ≤ ·) by decide)

/-- Of two requests in a second, the third one at once is told to wait a second, and is admitted
then. -/
theorem denied_harmless_iff_second :
    admits (twoPer defaultRefillFrequency)
      (System.finalState (limiter (twoPer defaultRefillFrequency)).init
        (afterTwo (twoPer defaultRefillFrequency))).store 1000 = true := by
  have hdenied : (makeRequest (twoPer defaultRefillFrequency)
      (System.finalState (limiter (twoPer defaultRefillFrequency)).init
        (afterTwo (twoPer defaultRefillFrequency))).store 0).2 = .tooManyRequests 2 0 1 := by
    decide +kernel
  refine (denied_harmless_iff _ (run_afterTwo _) ⟨0, by decide, by decide⟩
    ⟨1000, by decide, by decide⟩ (by decide) hdenied (by decide)).2.mpr ⟨by decide, fun tat h => ?_⟩
  obtain rfl := Option.some.inj ((by decide +kernel : get _ _ = some 1000).symm.trans h)
  decide

/-- **Of two requests in twenty milliseconds**, the third one at once is told to wait a second. The
entry is still there then, with a TAT of long ago, and the limiter panics. -/
theorem denied_harmless_fails : ¬ ∀ (gcra : GcraConfig) (tr : List (Timestamp × LimiterState))
    (now later : Timestamp) (limit remaining retryAfter : ℕ), 0 < emissionInterval gcra →
    (limiter gcra).Run (limiter gcra).init tr →
    (System.finalState (limiter gcra).init tr).clock ≤ now.ms →
    (makeRequest gcra (System.finalState (limiter gcra).init tr).store now.ms).2 =
      .tooManyRequests limit remaining retryAfter →
    now.ms + 1000 * retryAfter ≤ later.ms →
    storeAfter gcra (System.finalState (limiter gcra).init tr).store now.ms =
        (System.finalState (limiter gcra).init tr).store ∧
      admits gcra (System.finalState (limiter gcra).init tr).store later.ms = true := by
  intro h
  have hlater := h twoPerTwentyMs (afterTwo twoPerTwentyMs) ⟨0, by decide, by decide⟩
    ⟨1000, by decide, by decide⟩ 2 0 1 (by decide) (run_afterTwo _) (by decide)
    (by decide +kernel) (by decide)
  exact absurd hlater.2 (by decide +kernel)

end AiGateway
