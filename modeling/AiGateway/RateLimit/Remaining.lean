import AiGateway.RateLimit.Redis

/-!
# The remaining count of the Redis rate limiter

When does the limiter answer without a panic, and when is its
`x-ratelimit-remaining` header the number of requests that would still be
admitted at that instant?

The header is computed from the TAT the request found, by a formula of its own;
what a burst really does is `furtherAdmitted`, the limiter run again and again at
one instant. Two things separate the two:

* an emission interval of zero milliseconds, which the header divides by;
* a TAT that is still stored two intervals after it passed: the difference to
  the clock is negative there and nothing clamps it at zero.

A request whose `SETEX` Redis refuses ends before the header is computed.
`StepSafe` excludes the two in the state before a request, and
`remaining_exact_iff` shows that nothing else has to be excluded: the requests of
a run are all answered correctly exactly when all of them are `StepSafe`.
-/

namespace AiGateway

open Transition

variable {gcra : GcraConfig}

/-! ### A burst at one instant -/

/-- How many of the next `n` requests, all at `nowMs`, are admitted. -/
def furtherAdmitted (gcra : GcraConfig) : ℕ → Option Entry → ℤ → ℕ
  | 0, _, _ => 0
  | n + 1, store, nowMs =>
    (if admits gcra store nowMs then 1 else 0)
      + furtherAdmitted gcra n (storeAfter gcra store nowMs) nowMs

/-- The limiter would admit exactly `r` further requests at `nowMs`, however
many are made. -/
def AdmitsExactly (gcra : GcraConfig) (store : Option Entry) (nowMs : ℤ) (r : ℕ) : Prop :=
  ∃ N, ∀ n, N ≤ n → furtherAdmitted gcra n store nowMs = r

/-- A write is found again at the same instant. -/
@[simp] theorem tatAt_setEx (gcra : GcraConfig) (interval tat nowMs : ℤ) :
    tatAt (some (setEx gcra interval tat nowMs)) nowMs = newTat interval tat nowMs := by
  have hlive : nowMs ≤ (setEx gcra interval tat nowMs).expiresAt := by
    change nowMs ≤ nowMs + ttlSecs gcra * 1000
    omega
  unfold tatAt get
  dsimp only
  rw [if_pos hlive]
  rfl

theorem conforms_iff_burstLeft_pos (hi : 0 < emissionInterval gcra) {tat nowMs : ℤ} :
    Gcra.Conforms (cellRate gcra) tat nowMs ↔ 0 < burstLeft gcra tat nowMs := by
  unfold burstLeft
  rw [conforms_iff, Int.lt_toNat, Nat.cast_zero, ← Int.add_one_le_iff, zero_add,
    Int.le_ediv_iff_mul_le hi]
  constructor <;> intro h <;> linarith

/-- There is never more left than a full burst. -/
theorem burstLeft_le_capacity (hi : 0 < emissionInterval gcra) (tat nowMs : ℤ) :
    burstLeft gcra tat nowMs ≤ gcra.capacity := by
  rcases le_total tat nowMs with hle | hle
  · exact (burstLeft_of_le hi hle).le
  · have hleft := burstLeft_of_ge hi hle
    have hused : 0 ≤ (tat - nowMs + (emissionInterval gcra - 1)) / emissionInterval gcra :=
      Int.ediv_nonneg (by omega) hi.le
    omega

/-- A conforming request takes one from what is left. -/
theorem burstLeft_succ (hi : 0 < emissionInterval gcra) {tat nowMs : ℤ}
    (hc : Gcra.Conforms (cellRate gcra) tat nowMs) :
    burstLeft gcra tat nowMs
      = burstLeft gcra (max tat nowMs + emissionInterval gcra) nowMs + 1 := by
  have hpos := (conforms_iff_burstLeft_pos hi).mp hc
  have hle : nowMs ≤ max tat nowMs + emissionInterval gcra :=
    (le_max_right tat nowMs).trans (by omega)
  unfold burstLeft at hpos ⊢
  -- the quotient of a burst that is one interval shorter
  rw [max_eq_left hle, show nowMs + gcra.capacity * emissionInterval gcra
      - (max tat nowMs + emissionInterval gcra)
    = nowMs + gcra.capacity * emissionInterval gcra - max tat nowMs
      + (-1) * emissionInterval gcra by ring, Int.add_mul_ediv_right _ _ hi.ne']
  omega

/-- A conforming request that finds a recent TAT, or none, is admitted. -/
theorem makeRequest_of_recent {now : Timestamp} (ha : SetExAccepts gcra now.ms)
    (hi : 0 < emissionInterval gcra) (store : Option Entry)
    (hc : Gcra.Conforms (cellRate gcra) (tatAt store now.ms) now.ms)
    (hage : now.ms - tatAt store now.ms ≤ 2 * emissionInterval gcra - 2) :
    makeRequest gcra store now.ms =
      (some (setEx gcra (emissionInterval gcra) (tatAt store now.ms) now.ms),
        .admitted gcra.capacity (burstLeft gcra (tatAt store now.ms) now.ms - 1)) := by
  rw [makeRequest_of_conforms ha store hc,
    ratelimitRemaining_eq ha.burstFits hi now (tatAt_fits store now) hc hage]

theorem admits_of_recent {now : Timestamp} (ha : SetExAccepts gcra now.ms)
    (hi : 0 < emissionInterval gcra) (store : Option Entry)
    (hc : Gcra.Conforms (cellRate gcra) (tatAt store now.ms) now.ms)
    (hage : now.ms - tatAt store now.ms ≤ 2 * emissionInterval gcra - 2) :
    admits gcra store now.ms = true := by
  unfold admits
  rw [makeRequest_of_recent ha hi store hc hage]
  rfl

/-- After a conforming request the TAT is the one of the cell rate algorithm. -/
theorem tatAt_storeAfter {now : Timestamp} (ha : SetExAccepts gcra now.ms) (store : Option Entry)
    (hc : Gcra.Conforms (cellRate gcra) (tatAt store now.ms) now.ms) :
    tatAt (storeAfter gcra store now.ms) now.ms
      = max (tatAt store now.ms) now.ms + emissionInterval gcra := by
  rw [storeAfter_of_conforms ha store hc, tatAt_setEx, newTat_of_conforms ha hc]

/-- **A burst.** As long as Redis accepts the writes, a burst admits what the cell rate
algorithm has left and denies the rest. -/
theorem furtherAdmitted_eq {now : Timestamp} (ha : SetExAccepts gcra now.ms)
    (hi : 0 < emissionInterval gcra) (n : ℕ) : ∀ store, now.ms ≤ tatAt store now.ms →
      furtherAdmitted gcra n store now.ms = min n (burstLeft gcra (tatAt store now.ms) now.ms) := by
  induction n with
  | zero => intro store _; exact (Nat.zero_min _).symm
  | succ n ih =>
    intro store hahead
    -- the first request is admitted as long as something is left of the burst
    by_cases hc : Gcra.Conforms (cellRate gcra) (tatAt store now.ms) now.ms
    · have hsucc := burstLeft_succ hi hc
      have hnew := tatAt_storeAfter ha store hc
      rw [max_eq_left hahead] at hsucc hnew
      have hadm := admits_of_recent ha hi store hc (by omega)
      have hrec := ih (storeAfter gcra store now.ms) (by omega)
      rw [furtherAdmitted, if_pos hadm, hrec, hnew, hsucc]
      omega
    -- nothing is left, so that this request and all after it are denied
    · have hzero : burstLeft gcra (tatAt store now.ms) now.ms = 0 := by
        rw [conforms_iff_burstLeft_pos hi] at hc
        omega
      rw [furtherAdmitted, if_neg fun hadm => hc (conforms_of_admits hadm),
        storeAfter_of_not ha.burstFits store now hc, ih store hahead, hzero, Nat.min_zero,
        Nat.min_zero]

/-! ### One request, and the runs of a limiter -/

/-- A request is answered without a panic; if it is admitted, its response
reports how many further requests of that instant would be. -/
def StepExact (gcra : GcraConfig) (s : LimiterState) (now : Timestamp) (s' : LimiterState) : Prop :=
  match (makeRequest gcra s.store now.ms).2 with
  | .admitted _ remaining =>
    AdmitsExactly gcra s'.store now.ms remaining ∧ remaining < gcra.capacity
  | .tooManyRequests _ _ _ => True
  | .redisError => True
  | .panicked _ => False

theorem StepExact.not_panicked {s s' : LimiterState} {now : Timestamp} {p : Panic}
    (h : StepExact gcra s now s') : (makeRequest gcra s.store now.ms).2 ≠ .panicked p := by
  intro hp
  unfold StepExact at h
  rw [hp] at h
  exact h

/-- What has to hold before a request for its answer to be exact. -/
structure StepSafe (gcra : GcraConfig) (s : LimiterState) (now : Timestamp)
    (_s' : LimiterState) : Prop where
  /-- A token takes at least a millisecond. -/
  interval_pos : 0 < emissionInterval gcra
  /-- If Redis accepts a write, a TAT that is still stored is less than two intervals old. -/
  recent : SetExAccepts gcra now.ms → ∀ tat, get s.store now.ms = some tat →
    now.ms - tat ≤ 2 * emissionInterval gcra - 2

/-- What the limiter keeps true of its store. -/
structure StoreInv (gcra : GcraConfig) (s : LimiterState) : Prop where
  nonneg : ∀ e, s.store = some e → 0 ≤ e.tat
  /-- The TAT is at most a burst ahead of the last request. -/
  le_burst : ∀ e, s.store = some e → e.tat ≤ s.clock + gcra.capacity * emissionInterval gcra

theorem storeInv_init (gcra : GcraConfig) : StoreInv gcra (limiter gcra).init where
  nonneg := by intro e he; cases he
  le_burst := by intro e he; cases he

/-- The TAT of a request is the stored one or its own time. -/
theorem tatAt_cases (store : Option Entry) (nowMs : ℤ) :
    (∃ e, store = some e ∧ get store nowMs = some e.tat ∧ tatAt store nowMs = e.tat) ∨
      (get store nowMs = none ∧ tatAt store nowMs = nowMs) := by
  cases store with
  | none => exact Or.inr ⟨rfl, rfl⟩
  | some e =>
    by_cases he : nowMs ≤ e.expiresAt
    · have hget : get (some e) nowMs = some e.tat := if_pos he
      exact Or.inl ⟨e, rfl, hget, by unfold tatAt; rw [hget]; rfl⟩
    · have hget : get (some e) nowMs = none := if_neg he
      exact Or.inr ⟨hget, by unfold tatAt; rw [hget]; rfl⟩

theorem StoreInv.tatAt_nonneg {s : LimiterState} (hs : StoreInv gcra s) (now : Timestamp) :
    0 ≤ tatAt s.store now.ms := by
  rcases tatAt_cases s.store now.ms with ⟨e, hstore, -, htat⟩ | ⟨-, htat⟩
  · rw [htat]; exact hs.nonneg e hstore
  · rw [htat]; exact now.nonneg

/-- **Every request keeps the invariant.** -/
theorem StoreInv.step {s s' : LimiterState} {now : Timestamp} (hs : StoreInv gcra s)
    (hstep : (limiter gcra).step s now s') : StoreInv gcra s' := by
  obtain ⟨hclock, rfl⟩ := hstep
  rcases storeAfter_cases gcra s.store now with hsame | ⟨ha, hc, hstore⟩
  -- nothing is written, and the clock only moves on
  · refine ⟨?_, ?_⟩ <;> intro e he <;> rw [hsame] at he
    · exact hs.nonneg e he
    · exact (hs.le_burst e he).trans (by dsimp only; omega)
  -- a TAT that is written lies within its burst
  · have hnew := newTat_of_conforms ha hc
    have hcon := conforms_iff.mp hc
    have hge : now.ms ≤ max (tatAt s.store now.ms) now.ms := le_max_right _ _
    have hi := emissionInterval_nonneg gcra
    have hnow := now.nonneg
    refine ⟨?_, ?_⟩ <;> intro e he <;> obtain rfl : _ = e := Option.some.inj (hstore.symm.trans he)
    · change 0 ≤ newTat _ _ _
      omega
    · change newTat _ _ _ ≤ now.ms + _
      omega

/-- A safe request is answered exactly. -/
theorem StepSafe.exact (h : BurstFits gcra) {s s' : LimiterState} {now : Timestamp}
    (hstep : (limiter gcra).step s now s') (hsafe : StepSafe gcra s now s') :
    StepExact gcra s now s' := by
  obtain ⟨-, rfl⟩ := hstep
  have hi := hsafe.interval_pos
  by_cases hc : Gcra.Conforms (cellRate gcra) (tatAt s.store now.ms) now.ms
  · by_cases ha : SetExAccepts gcra now.ms
    · have hage : now.ms - tatAt s.store now.ms ≤ 2 * emissionInterval gcra - 2 := by
        rcases tatAt_cases s.store now.ms with ⟨e, -, hget, htat⟩ | ⟨-, htat⟩
        · rw [htat]; exact hsafe.recent ha _ hget
        · rw [htat]; omega
      have hreq := makeRequest_of_recent ha hi s.store hc hage
      have hsucc := burstLeft_succ hi hc
      have hcap := burstLeft_le_capacity hi (tatAt s.store now.ms) now.ms
      have hnew := tatAt_storeAfter ha s.store hc
      have hge : now.ms ≤ max (tatAt s.store now.ms) now.ms := le_max_right _ _
      -- the rest of the burst is admitted, and nothing after it
      unfold StepExact
      rw [hreq]
      dsimp only
      rw [hsucc, Nat.add_sub_cancel]
      refine ⟨⟨burstLeft gcra (max (tatAt s.store now.ms) now.ms + emissionInterval gcra) now.ms,
        fun n hn => ?_⟩, by omega⟩
      rw [furtherAdmitted_eq ha hi n _ (by rw [hnew]; omega), hnew]
      exact min_eq_right hn
    · -- the error of the refused write is no panic
      unfold StepExact
      rw [makeRequest_of_refused h s.store now ha hc]
      trivial
  · obtain ⟨secs, hreq⟩ := makeRequest_of_not h s.store now hc
    unfold StepExact
    rw [hreq]
    trivial

/-! ### An exact answer needs a safe state -/

section Needed

variable {s : LimiterState} {now : Timestamp}

/-- Without an interval, every request conforms, and divides by zero. -/
theorem StepExact.interval_pos (hs : StoreInv gcra s) (hclock : s.clock ≤ now.ms)
    {s' : LimiterState} (hexact : StepExact gcra s now s') : 0 < emissionInterval gcra := by
  have hnn := emissionInterval_nonneg gcra
  by_contra hpos
  have hzero : emissionInterval gcra = 0 := by omega
  have hle : tatAt s.store now.ms ≤ now.ms := by
    rcases tatAt_cases s.store now.ms with ⟨e, hstore, -, htat⟩ | ⟨-, htat⟩
    · have hburst := hs.le_burst e hstore
      rw [hzero] at hburst
      omega
    · exact htat.le
  have hc : Gcra.Conforms (cellRate gcra) (tatAt s.store now.ms) now.ms :=
    Gcra.conforms_of_le hnn gcra.capacity_pos hle
  unfold StepExact at hexact
  rw [makeRequest_of_conforms (setExAccepts_of_interval hzero now) s.store hc, hzero] at hexact
  simp [ratelimitRemaining] at hexact

/-- A stale TAT makes the header count no token, or panic. -/
theorem StepExact.recent (ha : SetExAccepts gcra now.ms) (hs : StoreInv gcra s)
    (hpos : 0 < emissionInterval gcra) {s' : LimiterState} (hexact : StepExact gcra s now s')
    (hc : Gcra.Conforms (cellRate gcra) (tatAt s.store now.ms) now.ms) :
    now.ms - tatAt s.store now.ms ≤ 2 * emissionInterval gcra - 2 := by
  by_contra hold
  have hreq := makeRequest_of_conforms ha s.store hc
  unfold StepExact at hexact
  rw [hreq] at hexact
  rcases ratelimitRemaining_of_stale ha.burstFits hpos now (hs.tatAt_nonneg now)
    (not_le.mp hold) with hr | hr
  · rw [hr] at hexact
    exact absurd hexact.2 (lt_irrefl _)
  · rw [hr] at hexact
    exact hexact

/-- The other direction: an exact answer needs all of `StepSafe`. -/
theorem StepExact.safe {s' : LimiterState} (hs : StoreInv gcra s)
    (hstep : (limiter gcra).step s now s') (hexact : StepExact gcra s now s') :
    StepSafe gcra s now s' := by
  have hpos := StepExact.interval_pos hs hstep.1 hexact
  refine ⟨hpos, ?_⟩
  intro ha tat hget
  have htat : tatAt s.store now.ms = tat := by unfold tatAt; rw [hget]; rfl
  rw [← htat]
  by_cases hc : Gcra.Conforms (cellRate gcra) (tatAt s.store now.ms) now.ms
  · exact StepExact.recent ha hs hpos hexact hc
  · -- a denied request has a TAT ahead of it
    have hlt : now.ms < tatAt s.store now.ms := by
      by_contra hge
      exact hc (Gcra.conforms_of_le hpos.le gcra.capacity_pos (not_lt.mp hge))
    omega

end Needed

/-- **When the limiter is exact.** In a run, every request is answered without
a panic and with the true remainder exactly when every request is `StepSafe`. -/
theorem remaining_exact_iff (gcra : GcraConfig)
    (hfits : (gcra.refillFrequency.asMillis : ℤ) ≤ I64.max)
    {tr : List (Timestamp × LimiterState)} (hrun : (limiter gcra).Run (limiter gcra).init tr) :
    System.AllSteps (StepExact gcra) (limiter gcra).init tr ↔
      System.AllSteps (StepSafe gcra) (limiter gcra).init tr := by
  have h := burstFits_of_refill hfits
  have hiff : ∀ s now s', StoreInv gcra s → (limiter gcra).step s now s' →
      (StepExact gcra s now s' ↔ StepSafe gcra s now s') :=
    fun _ _ _ hs hstep => ⟨StepExact.safe hs hstep, StepSafe.exact h hstep⟩
  have hkeep : ∀ s now s', StoreInv gcra s → (limiter gcra).step s now s' →
      StepSafe gcra s now s' → StoreInv gcra s' :=
    fun _ _ _ hs hstep _ => hs.step hstep
  exact hrun.allSteps_iff hiff hkeep (storeInv_init gcra)

/-- Two requests of the default quota, ten milliseconds apart: five intervals
after the first one, its TAT is still stored. -/
theorem remaining_panics_default :
    ¬ ∀ gcra : GcraConfig, (gcra.refillFrequency.asMillis : ℤ) ≤ I64.max →
      ∀ tr, (limiter gcra).Run (limiter gcra).init tr →
        System.AllSteps (StepExact gcra) (limiter gcra).init tr := by
  intro h
  have hrun := h GcraConfig.default (by decide) _
    (runOf_run _ _ [⟨0, by decide, by decide⟩, ⟨10, by decide, by decide⟩] (by decide))
  obtain ⟨-, hsecond, -⟩ := hrun
  refine absurd ?_ (hsecond.not_panicked (p := .tokensUsed))
  decide +kernel

/-- Three requests of the default quota, of which the last two find the TAT of the one before:
all are answered exactly. -/
theorem remaining_exact_iff_default :
    System.AllSteps (StepExact GcraConfig.default) (limiter GcraConfig.default).init
      (runOf GcraConfig.default (limiter GcraConfig.default).init
        [⟨0, by decide, by decide⟩, ⟨0, by decide, by decide⟩, ⟨6, by decide, by decide⟩]) := by
  refine (remaining_exact_iff GcraConfig.default (by decide) (runOf_run _ _ _ (by decide))).mpr ?_
  refine ⟨⟨by decide, fun _ tat h => by cases h⟩, ⟨by decide, fun _ tat h => ?_⟩,
    ⟨by decide, fun _ tat h => ?_⟩, trivial⟩
  · obtain rfl := Option.some.inj ((by decide +kernel : get _ _ = some 2).symm.trans h)
    decide
  · obtain rfl := Option.some.inj ((by decide +kernel : get _ _ = some 4).symm.trans h)
    decide

end AiGateway
