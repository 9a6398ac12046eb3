import AiGateway.RateLimit.Redis

/-!
# The expiry of the limiter's keys

The Redis limiter lets an entry expire a second after its refill period. It is compared with one
whose entries stay, by a `SET` instead of the `SETEX`. Where both write, they write the same: an
entry that has expired held a TAT that has passed, which decides like none. But Redis refuses a time
to live that is zero or too long, and the limiter with the expiry then fails where the other admits.

* `write_expiring`: the limiter with the expiry is the one of `RateLimit/Redis`;
* `KeptUpToTat.step`: what is written is kept up to its TAT;
* `decisions_eq_iff`: the quotas for which the two limiters decide alike, in every run.
-/

namespace AiGateway

/-! ### The two limiters -/

/-- What a limiter asks of Redis. -/
structure Keys where
  /-- `GET`. -/
  get : Option Entry → ℤ → Option ℤ
  /-- The write of a new TAT is accepted. -/
  accepts : GcraConfig → ℤ → Bool

/-- `GET`, and `SETEX` with the time to live. -/
def expiring : Keys := ⟨AiGateway.get, fun gcra nowMs => SetExAccepts gcra nowMs⟩

/-- `GET`, and `SET`, which is always accepted. -/
def permanent : Keys := ⟨fun store _ => store.map Entry.tat, fun _ _ => true⟩

/-- What a request decides: its TAT, and whether it is admitted. -/
structure Decision where
  newTat : ℤ
  fits : I64.Fits newTat
  admitted : Bool

/-- The decision of `make_request`, from the answer of its `GET` on. -/
def Keys.decision (keys : Keys) (gcra : GcraConfig) (existingTat : Option ℤ) (nowMs : ℤ) :
    Except Panic Decision :=
  (intervalPerTokenMs gcra).map fun interval =>
    { newTat := newTat interval (existingTat.getD nowMs) nowMs
      fits := newTat_fits interval (existingTat.getD nowMs) nowMs
      admitted := earliestAllowedTime gcra interval (existingTat.getD nowMs) nowMs ≤ nowMs
        && keys.accepts gcra nowMs }

/-- The entry that a decision leaves. -/
def write (gcra : GcraConfig) (store : Option Entry) (nowMs : ℤ) : Except Panic Decision →
    Option Entry
  | .ok d => if d.admitted then some ⟨d.newTat, d.fits, nowMs + ttlSecs gcra * 1000⟩ else store
  | .error _ => store

/-- The decisions on a sequence of requests of one key, with what they write on the way. -/
def Keys.decisions (keys : Keys) (gcra : GcraConfig) :
    Option Entry → List Timestamp → List (Except Panic Decision)
  | _, [] => []
  | store, now :: ts =>
    let decided := keys.decision gcra (keys.get store now.ms) now.ms
    decided :: keys.decisions gcra (write gcra store now.ms decided) ts

variable {gcra : GcraConfig} {store : Option Entry}

/-- **The limiter with the expiry** leaves what `make_request` leaves. -/
theorem write_expiring (gcra : GcraConfig) (store : Option Entry) (nowMs : ℤ) :
    write gcra store nowMs (expiring.decision gcra (get store nowMs) nowMs) =
      storeAfter gcra store nowMs := by
  unfold storeAfter makeRequest Keys.decision intervalPerTokenMs
  rcases afterGet_cases gcra (get store nowMs) nowMs with ⟨hmax, hafter⟩ |
    ⟨hmax, htest, ha, hafter⟩ | ⟨hmax, htest, ha, hafter⟩ | ⟨hmax, htest, hafter⟩ <;> rw [hafter]
  · rw [if_neg (not_le.mpr hmax)]
    rfl
  · rw [if_pos hmax]
    exact if_pos (Bool.and_eq_true_iff.mpr ⟨decide_eq_true htest, decide_eq_true ha⟩)
  · rw [if_pos hmax]
    exact if_neg fun h => ha (of_decide_eq_true (Bool.and_eq_true_iff.mp h).2)
  · rw [if_pos hmax]
    exact if_neg fun h => htest (of_decide_eq_true (Bool.and_eq_true_iff.mp h).1)

/-! ### The simulation -/

/-- What the store keeps of the writes, in every run: an entry stays up to its TAT, and is there
only where a burst fits. -/
structure KeptUpToTat (gcra : GcraConfig) (store : Option Entry) : Prop where
  tat_le : ∀ e, store = some e → e.tat ≤ e.expiresAt
  burstFits : ∀ e, store = some e → BurstFits gcra

theorem keptUpToTat_none (gcra : GcraConfig) : KeptUpToTat gcra none where
  tat_le := by intro e he; cases he
  burstFits := by intro e he; cases he

/-- **What one request preserves.** The TAT that it writes is at most a refill period ahead of the
write. -/
theorem KeptUpToTat.step (hstore : KeptUpToTat gcra store) (now : Timestamp) :
    KeptUpToTat gcra (storeAfter gcra store now.ms) := by
  rcases storeAfter_cases gcra store now with hsame | ⟨ha, hc, hwritten⟩
  · rw [hsame]
    exact hstore
  · refine ⟨fun e he => ?_, fun e _ => ha.burstFits⟩
    obtain rfl := Option.some.inj (hwritten.symm.trans he)
    have hcon := conforms_iff.mp hc
    have hle := capacity_mul_interval_le gcra
    have hlt := ha.refill_lt_ttl
    change newTat _ _ _ ≤ now.ms + ttlSecs gcra * 1000
    rw [newTat_of_conforms ha hc]
    omega

/-- A request that finds no TAT passes the admission test, by the wrapping arithmetic of the code.
-/
structure FirstPasses (gcra : GcraConfig) (nowMs : ℤ) : Prop where
  interval_fits : emissionInterval gcra ≤ I64.max
  allowed : I64.wrap (nowMs + emissionInterval gcra
    - gcra.capacity * emissionInterval gcra) ≤ nowMs

/-- The admission test of a request that finds no TAT. -/
theorem earliestAllowedTime_absent (gcra : GcraConfig) (nowMs : ℤ) :
    earliestAllowedTime gcra (emissionInterval gcra) nowMs nowMs
      = I64.wrap (nowMs + emissionInterval gcra - gcra.capacity * emissionInterval gcra) := by
  unfold earliestAllowedTime I64.sub I64.mul
  rw [newTat_eq, max_self, mul_comm (emissionInterval gcra), I64.wrap_wrap_sub, I64.wrap_sub_wrap]

theorem firstPasses_of_burstFits (h : BurstFits gcra) (now : Timestamp) :
    FirstPasses gcra now.ms where
  interval_fits := h.interval_le
  allowed := by
    rw [← earliestAllowedTime_absent, admission_iff h now now.fits]
    exact Gcra.conforms_of_le (emissionInterval_nonneg gcra) gcra.capacity_pos (le_refl now.ms)

/-- Where Redis accepts the write, both limiters decide by the test alone. -/
theorem decision_of_accepts {nowMs : ℤ} (ha : SetExAccepts gcra nowMs) (existingTat : Option ℤ) :
    expiring.decision gcra existingTat nowMs = permanent.decision gcra existingTat nowMs := by
  have haccepts : expiring.accepts gcra nowMs = true := decide_eq_true ha
  unfold Keys.decision
  rw [haccepts]
  rfl

/-- Where a first request does not pass the test, both limiters turn it away. -/
theorem decision_of_not_firstPasses {nowMs : ℤ} (hf : ¬ FirstPasses gcra nowMs) :
    expiring.decision gcra none nowMs = permanent.decision gcra none nowMs := by
  unfold Keys.decision intervalPerTokenMs
  by_cases hmax : emissionInterval gcra ≤ I64.max
  · have htest : ¬ earliestAllowedTime gcra (emissionInterval gcra) nowMs nowMs ≤ nowMs := by
      rw [earliestAllowedTime_absent]
      exact fun h => hf ⟨hmax, h⟩
    rw [if_pos hmax]
    simp only [Except.map, Option.getD_none, decide_eq_false htest, Bool.false_and]
  · rw [if_neg hmax]
    rfl

/-- A TAT that has passed decides like none. -/
theorem decision_of_past {tat nowMs : ℤ} (h : tat ≤ nowMs) :
    permanent.decision gcra (some tat) nowMs = permanent.decision gcra none nowMs := by
  unfold Keys.decision
  simp only [Option.getD_some, Option.getD_none, newTat_eq, max_eq_right h, max_self,
    earliestAllowedTime_of_le h]

/-- **One request** is decided alike. -/
theorem decision_eq (hstore : KeptUpToTat gcra store) {now : Timestamp}
    (haccepts : FirstPasses gcra now.ms → SetExAccepts gcra now.ms) :
    expiring.decision gcra (expiring.get store now.ms) now.ms =
      permanent.decision gcra (permanent.get store now.ms) now.ms := by
  cases store with
  | none =>
    by_cases hf : FirstPasses gcra now.ms
    · exact decision_of_accepts (haccepts hf) none
    · exact decision_of_not_firstPasses hf
  | some e =>
    -- there is an entry, so a burst fits and a first request would pass
    have ha := haccepts (firstPasses_of_burstFits (hstore.burstFits e rfl) now)
    rw [decision_of_accepts ha]
    change permanent.decision gcra (if now.ms ≤ e.expiresAt then some e.tat else none) now.ms =
      permanent.decision gcra (some e.tat) now.ms
    split
    · rfl
    · next hexpired =>
      have hpast : e.tat ≤ now.ms := (hstore.tat_le e rfl).trans (not_le.mp hexpired).le
      exact (decision_of_past hpast).symm

/-- A run from any entry that is kept up to its TAT. -/
theorem decisions_eq (ts : List Timestamp)
    (haccepts : ∀ now ∈ ts, FirstPasses gcra now.ms → SetExAccepts gcra now.ms) :
    ∀ {store : Option Entry}, KeptUpToTat gcra store →
      expiring.decisions gcra store ts = permanent.decisions gcra store ts := by
  induction ts with
  | nil =>
    intro store _
    rfl
  | cons now ts ih =>
    intro store hstore
    obtain ⟨hnow, hrest⟩ := List.forall_mem_cons.mp haccepts
    have hdecided := decision_eq hstore hnow
    have hkept : KeptUpToTat gcra (write gcra store now.ms
        (expiring.decision gcra (expiring.get store now.ms) now.ms)) := by
      rw [show expiring.get store now.ms = get store now.ms from rfl, write_expiring]
      exact hstore.step now
    unfold Keys.decisions
    dsimp only
    rw [ih hrest hkept, hdecided]

/-- **When the expiry does not change what is decided.** Two limiters, with keys that expire and
with keys that do not, decide alike in a run at whose times Redis accepts the write of any first
request that passes the test; and in every run exactly when it always does. -/
theorem decisions_eq_iff (gcra : GcraConfig) :
    (∀ ts : List Timestamp,
      (∀ now ∈ ts, FirstPasses gcra now.ms → SetExAccepts gcra now.ms) →
      expiring.decisions gcra none ts = permanent.decisions gcra none ts) ∧
    ((∀ ts : List Timestamp, (ts.map Timestamp.ms).IsChain (· ≤ ·) →
        expiring.decisions gcra none ts = permanent.decisions gcra none ts) ↔
      ∀ now : Timestamp, FirstPasses gcra now.ms → SetExAccepts gcra now.ms) := by
  refine ⟨fun ts haccepts => decisions_eq ts haccepts (keptUpToTat_none gcra),
    fun hall now hf => ?_,
    fun haccepts ts _ => decisions_eq ts (fun now _ => haccepts now) (keptUpToTat_none gcra)⟩
  -- a single request shows the difference
  have hone := hall [now] (List.IsChain.singleton now.ms)
  have htest : earliestAllowedTime gcra (emissionInterval gcra) now.ms now.ms ≤ now.ms := by
    rw [earliestAllowedTime_absent]
    exact hf.allowed
  have hdecided : expiring.decision gcra none now.ms = permanent.decision gcra none now.ms :=
    (List.cons.inj hone).1
  unfold Keys.decision intervalPerTokenMs at hdecided
  rw [if_pos hf.interval_fits] at hdecided
  have hadmitted := congrArg Decision.admitted (Except.ok.inj hdecided)
  dsimp only at hadmitted
  rw [Option.getD_none, decide_eq_true htest, Bool.true_and, Bool.true_and] at hadmitted
  exact of_decide_eq_true hadmitted

/-- The default quota, and three requests, the last one long after the entry has expired. -/
theorem decisions_eq_iff_default :
    expiring.decisions GcraConfig.default none [.ofMs 0, .ofMs 1, .ofMs 60000] =
      permanent.decisions GcraConfig.default none [.ofMs 0, .ofMs 1, .ofMs 60000] := by
  have haccepts : SetExAccepts GcraConfig.default maxTimestamp := by decide
  exact (decisions_eq_iff GcraConfig.default).1 _ fun now _ _ => haccepts.mono now.le_max

/-! ### The longest refill period -/

/-- 2000 requests in `u64::MAX` seconds. -/
def longestRefill : GcraConfig where
  refillFrequency := Duration.fromSecs u64Max le_rfl
  capacity := 2000
  capacity_pos := by decide
  capacity_le := by decide

/-- **The time to live wraps to zero**, and Redis refuses it. The first request fails; with a key
that does not expire, it is admitted. -/
theorem decisions_fail : ¬ ∀ (gcra : GcraConfig) (ts : List Timestamp),
    (ts.map Timestamp.ms).IsChain (· ≤ ·) →
    expiring.decisions gcra none ts = permanent.decisions gcra none ts := by
  intro h
  have hadmitted := congrArg
    (fun ds => ds.map fun d : Except Panic Decision => d.toOption.map Decision.admitted)
    (h longestRefill [.ofMs 0] (by decide))
  exact absurd hadmitted (by decide +kernel)

end AiGateway
