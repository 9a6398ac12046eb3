import AiGateway.RateLimit.Remaining
import Mathlib.Algebra.Order.Floor.Semiring
import Mathlib.Algebra.Order.Floor.Ring
import Mathlib.Data.Rat.Floor
import Mathlib.Tactic.FieldSimp
import Mathlib.Tactic.Positivity

/-!
# The rate the Redis limiter enforces

A quota of `capacity` requests per `refillFrequency` is meant to admit, in any
window of length `W`, at most a full burst and the tokens that are refilled
meanwhile: `capacity + ⌈W * capacity / refillFrequency⌉` (`RateBound`).

The Redis limiter truncates the refill time of a token to whole milliseconds,
and with it refills faster than configured. How much faster a run can notice is
settled by the longest window there is, up to the last write that Redis accepts:
`RateSafe` compares the drift of `lastWrite / interval` truncated intervals with
one refill period.

* `rateBound_of_safe`: a `RateSafe` quota is enforced. The store tracks the TAT
  of the cell rate algorithm (`Tracks`), a forgotten entry being one whose TAT has
  passed, so the admitted requests are among those `Gcra.window_bound` counts.
* `rateSafe_of_bound`: no other quota is. A burst at time zero followed by one request
  every interval, up to the last write, is admitted as a whole (`AllAdmitted`).
-/

namespace AiGateway

open Transition

variable {gcra : GcraConfig}

/-! ### The bound -/

/-- The times of the requests of a run that are admitted. -/
def admittedTimes (gcra : GcraConfig) : LimiterState → List (Timestamp × LimiterState) → List ℤ
  | _, [] => []
  | s, (now, s') :: tr =>
    if admits gcra s.store now.ms then now.ms :: admittedTimes gcra s' tr
    else admittedTimes gcra s' tr

/-- The refill period in milliseconds, not truncated. -/
def refillMs (gcra : GcraConfig) : ℚ := gcra.refillFrequency.nanos / 1000000

/-- The number of the given times in the closed window from `a` to `b`, in milliseconds. -/
def countWithin (a b : ℚ) (ts : List ℤ) : ℕ := Gcra.countIn a b (ts.map Int.cast)

/-- In every run, every closed window admits at most a burst and what its
length refills. -/
def RateBound (gcra : GcraConfig) : Prop :=
  ∀ tr, (limiter gcra).Run (limiter gcra).init tr → ∀ a b : ℚ, a ≤ b →
    countWithin a b (admittedTimes gcra (limiter gcra).init tr)
      ≤ gcra.capacity + ⌈(b - a) * gcra.capacity / refillMs gcra⌉₊

/-- What is lost, in nanoseconds of every refill period, by counting a token in
whole milliseconds. -/
def drift (gcra : GcraConfig) : ℤ :=
  gcra.refillFrequency.nanos - gcra.capacity * emissionInterval gcra * 1000000

/-- The last timestamp at which Redis accepts a write. It is negative for a refill period of more
than 292 million years. -/
def lastWrite (gcra : GcraConfig) : ℤ := min maxTimestamp (I64.max - ttlSecs gcra * 1000)

/-- **The quotas that are enforced.** Either no request is admitted, as the emission
interval is zero and the header panics, or as the time to live is and Redis refuses it;
or the drift of all the intervals there is time for stays below one refill period. -/
def RateSafe (gcra : GcraConfig) : Prop :=
  emissionInterval gcra = 0 ∨ ttlSecs gcra = 0 ∨
    lastWrite gcra / emissionInterval gcra * drift gcra < gcra.refillFrequency.nanos

theorem drift_nonneg (gcra : GcraConfig) : 0 ≤ drift gcra := by
  have hle := capacity_mul_interval_le gcra
  rw [Duration.asMillis_eq] at hle
  unfold drift
  omega

theorem setExAccepts_iff (now : Timestamp) :
    SetExAccepts gcra now.ms ↔ ttlSecs gcra ≠ 0 ∧ now.ms ≤ lastWrite gcra := by
  have hnow := now.nonneg
  have hmax := now.le_max
  unfold SetExAccepts lastWrite
  unfold I64.max
  rw [le_min_iff]
  constructor
  · rintro ⟨hpos, -, hend⟩
    exact ⟨by omega, hmax, by omega⟩
  · rintro ⟨hpos, -, hend⟩
    exact ⟨by omega, by omega, by omega⟩

/-! ### The store tracks a TAT -/

/-- An entry outlives its TAT. -/
theorem SetExAccepts.burst_lt_ttl {nowMs : ℤ} (ha : SetExAccepts gcra nowMs) :
    gcra.capacity * emissionInterval gcra < ttlSecs gcra * 1000 :=
  (capacity_mul_interval_le gcra).trans_lt ha.refill_lt_ttl

/-- The store of `s` stands for the TAT `tat`: it holds it, for at least as long
as it lies ahead, or `tat` has passed. -/
structure Tracks (gcra : GcraConfig) (s : LimiterState) (tat : ℤ) : Prop where
  stored : (∃ e, s.store = some e ∧ e.tat = tat ∧ tat ≤ e.expiresAt) ∨
    (s.store = none ∧ tat ≤ s.clock)

theorem tracks_init (gcra : GcraConfig) : Tracks gcra (limiter gcra).init 0 :=
  ⟨Or.inr ⟨rfl, le_refl _⟩⟩

/-- A forgotten TAT makes no difference to a later request. -/
theorem Tracks.max_eq {s : LimiterState} {tat nowMs : ℤ} (ht : Tracks gcra s tat)
    (hclock : s.clock ≤ nowMs) : max (tatAt s.store nowMs) nowMs = max tat nowMs := by
  rcases ht.stored with ⟨e, hstore, rfl, hexp⟩ | ⟨hstore, hpast⟩
  · rw [hstore]
    -- the entry is read, or it is gone and its TAT with it
    rcases tatAt_cases (some e) nowMs with ⟨e', he', -, htat⟩ | ⟨hget, htat⟩
    · obtain rfl : e = e' := Option.some.inj he'
      rw [htat]
    · have hgone : ¬ nowMs ≤ e.expiresAt := by
        intro hlive
        rw [show get (some e) nowMs = some e.tat from if_pos hlive] at hget
        cases hget
      rw [htat, max_self, max_eq_right (by omega)]
  · rw [hstore, show tatAt none nowMs = nowMs from rfl, max_self,
      max_eq_right (hpast.trans hclock)]

theorem Tracks.conforms_iff {s : LimiterState} {tat nowMs : ℤ} (ht : Tracks gcra s tat)
    (hclock : s.clock ≤ nowMs) :
    Gcra.Conforms (cellRate gcra) (tatAt s.store nowMs) nowMs ↔
      Gcra.Conforms (cellRate gcra) tat nowMs := by
  rw [AiGateway.conforms_iff, AiGateway.conforms_iff, ht.max_eq hclock]

/-- A conforming request stores the TAT of the cell rate algorithm. -/
theorem exists_entry_of_conforms {now : Timestamp} (ha : SetExAccepts gcra now.ms)
    (store : Option Entry) (hc : Gcra.Conforms (cellRate gcra) (tatAt store now.ms) now.ms) :
    ∃ e, storeAfter gcra store now.ms = some e ∧
      e.tat = max (tatAt store now.ms) now.ms + emissionInterval gcra ∧
      e.expiresAt = now.ms + ttlSecs gcra * 1000 :=
  ⟨setEx gcra (emissionInterval gcra) (tatAt store now.ms) now.ms,
    storeAfter_of_conforms ha store hc, newTat_of_conforms ha hc, rfl⟩

/-- **The tracked TAT moves as the cell rate algorithm moves it**, while Redis accepts the
writes. -/
theorem Tracks.step {s s' : LimiterState} {now : Timestamp} {tat : ℤ}
    (ha : SetExAccepts gcra now.ms) (ht : Tracks gcra s tat)
    (hstep : (limiter gcra).step s now s') :
    Tracks gcra s' (Gcra.next (cellRate gcra) tat now.ms) := by
  obtain ⟨hclock, rfl⟩ := hstep
  have hiff := ht.conforms_iff hclock
  unfold Gcra.next
  by_cases hc : Gcra.Conforms (cellRate gcra) (tatAt s.store now.ms) now.ms
  -- an admitted request stores the TAT the algorithm moves to, until it has passed
  · rw [if_pos (hiff.mp hc)]
    obtain ⟨e, hstore, htat, hexp⟩ := exists_entry_of_conforms ha s.store hc
    have hnew : Gcra.newTat (cellRate gcra) tat now.ms = e.tat := by
      rw [htat, ht.max_eq hclock]
      rfl
    have hcon := AiGateway.conforms_iff.mp hc
    have hlive := ha.burst_lt_ttl
    exact ⟨Or.inl ⟨e, hstore, hnew.symm, by rw [hnew]; omega⟩⟩
  -- a denied request leaves both as they are
  · rw [if_neg (fun hc' => hc (hiff.mpr hc'))]
    refine ⟨?_⟩
    rw [storeAfter_of_not ha.burstFits s.store now hc]
    rcases ht.stored with hstored | ⟨hnone, hpast⟩
    · exact Or.inl hstored
    · exact Or.inr ⟨hnone, hpast.trans hclock⟩

/-- Once Redis does not accept writes any more, nothing is admitted. -/
theorem admittedTimes_of_refused {s : LimiterState} {tr : List (Timestamp × LimiterState)}
    (hrun : (limiter gcra).Run s tr) (ha : ¬ SetExAccepts gcra s.clock) :
    admittedTimes gcra s tr = [] := by
  induction hrun with
  | nil s => rfl
  | @cons s s' now tr hstep _ ih =>
    obtain ⟨hclock, rfl⟩ := hstep
    have hlater : ¬ SetExAccepts gcra now.ms := fun ha' => ha (ha'.mono hclock)
    rw [admittedTimes, if_neg fun hadm => hlater (accepts_of_admits hadm)]
    exact ih hlater

/-- **Simulation.** The requests a run admits are among those the cell rate
algorithm admits. -/
theorem admittedTimes_sublist {s : LimiterState} {tr : List (Timestamp × LimiterState)}
    (hrun : (limiter gcra).Run s tr) : ∀ tat, Tracks gcra s tat →
      (admittedTimes gcra s tr).Sublist
        (Gcra.admitted (cellRate gcra) tat (tr.map fun p => p.1.ms)) := by
  induction hrun with
  | nil s => intro tat _; exact List.Sublist.slnil
  | @cons s s' now tr hstep hrun ih =>
    intro tat ht
    rw [List.map_cons, admittedTimes]
    by_cases ha : SetExAccepts gcra now.ms
    · have hrest := ih _ (ht.step ha hstep)
      -- a conforming request may still panic in its header, and is not admitted then
      by_cases hc : Gcra.Conforms (cellRate gcra) tat now.ms
      · rw [Gcra.next, if_pos hc] at hrest
        rw [Gcra.admitted_cons_of_conforms hc]
        split
        · exact hrest.cons_cons _
        · exact hrest.cons _
      · rw [Gcra.next, if_neg hc] at hrest
        rw [Gcra.admitted_cons_of_not hc, if_neg]
        · exact hrest
        · intro hadm
          exact hc ((ht.conforms_iff hstep.1).mp (conforms_of_admits hadm))
    -- neither this request nor a later one is admitted
    · obtain ⟨-, rfl⟩ := hstep
      rw [if_neg fun hadm => ha (accepts_of_admits hadm), admittedTimes_of_refused hrun ha]
      exact List.nil_sublist _

/-! ### Enforced quotas -/

theorem mem_admittedTimes {s : LimiterState} {tr : List (Timestamp × LimiterState)} {t : ℤ}
    (h : t ∈ admittedTimes gcra s tr) : 0 ≤ t ∧ t ≤ lastWrite gcra := by
  induction tr generalizing s with
  | nil => cases h
  | cons p tr ih =>
    obtain ⟨now, s'⟩ := p
    rw [admittedTimes] at h
    split at h
    · next hadm =>
      rcases List.mem_cons.mp h with rfl | h
      · exact ⟨now.nonneg, ((setExAccepts_iff now).mp (accepts_of_admits hadm)).2⟩
      · exact ih h
    · exact ih h

/-- A window of milliseconds holds the timestamps between its rounded ends. -/
theorem countWithin_le (a b : ℚ) {last : ℤ} {ts : List ℤ} (hts : ∀ t ∈ ts, 0 ≤ t ∧ t ≤ last) :
    countWithin a b ts ≤ Gcra.countIn (max ⌈a⌉ 0) (min ⌊b⌋ last) ts := by
  unfold countWithin Gcra.countIn
  rw [List.countP_map]
  refine List.countP_mono_left ?_
  intro t ht hwin
  obtain ⟨h0, hm⟩ := hts t ht
  rw [Function.comp_apply, decide_eq_true_eq] at hwin
  rw [decide_eq_true_eq]
  exact ⟨max_le (Int.ceil_le.mpr hwin.1) h0, le_min (Int.le_floor.mpr hwin.2) hm⟩

/-- No more than `k` intervals are refilled in a window, `k` being bounded by the
intervals there is time for: this is where the drift is used. -/
private theorem le_ceil_of_drift (hF : 0 < gcra.refillFrequency.nanos)
    (hdrift : lastWrite gcra / emissionInterval gcra * drift gcra < gcra.refillFrequency.nanos)
    {k : ℕ} {w : ℚ} (hk : (k : ℤ) ≤ lastWrite gcra / emissionInterval gcra)
    (hw : (k * emissionInterval gcra : ℤ) ≤ w) :
    k ≤ ⌈w * gcra.capacity / refillMs gcra⌉₊ := by
  cases k with
  | zero => exact Nat.zero_le _
  | succ m =>
    -- the drift of all these intervals stays below one refill period
    have hle : ((m + 1 : ℕ) : ℤ) * drift gcra < gcra.refillFrequency.nanos :=
      lt_of_le_of_lt (mul_le_mul_of_nonneg_right hk (drift_nonneg gcra)) hdrift
    -- so the refill period loses less than one token over them
    have hlt : (m : ℤ) * gcra.refillFrequency.nanos
        < (m + 1) * (gcra.capacity * emissionInterval gcra * 1000000) := by
      unfold drift at hle
      push_cast at hle
      linarith
    have hltq : (m : ℚ) * gcra.refillFrequency.nanos
        < (m + 1) * (gcra.capacity * emissionInterval gcra * 1000000) := by exact_mod_cast hlt
    have hFq : (0 : ℚ) < gcra.refillFrequency.nanos := by exact_mod_cast hF
    have hcap : (0 : ℚ) ≤ gcra.capacity := Nat.cast_nonneg _
    refine Nat.lt_ceil.mpr ?_
    unfold refillMs
    rw [lt_div_iff₀ (by positivity)]
    push_cast at hw
    calc (m : ℚ) * (gcra.refillFrequency.nanos / 1000000)
        = m * gcra.refillFrequency.nanos / 1000000 := by ring
      _ < (m + 1) * (gcra.capacity * emissionInterval gcra * 1000000) / 1000000 := by
          gcongr
      _ = (m + 1) * emissionInterval gcra * gcra.capacity := by ring
      _ ≤ w * gcra.capacity := by gcongr

/-- Without an emission interval, every request that passes the test panics. -/
theorem not_admits_of_interval (hi : emissionInterval gcra = 0) (store : Option Entry)
    (now : Timestamp) : admits gcra store now.ms = false := by
  refine Bool.eq_false_iff.mpr fun hadm => ?_
  have hreq := makeRequest_of_conforms (accepts_of_admits hadm) store (conforms_of_admits hadm)
  unfold admits at hadm
  rw [hreq, hi] at hadm
  simp [ratelimitRemaining, Outcome.isAdmitted] at hadm

theorem admittedTimes_of_interval (hi : emissionInterval gcra = 0)
    (s : LimiterState) (tr : List (Timestamp × LimiterState)) : admittedTimes gcra s tr = [] := by
  induction tr generalizing s with
  | nil => rfl
  | cons p tr ih =>
    obtain ⟨now, s'⟩ := p
    rw [admittedTimes, not_admits_of_interval hi s.store now]
    exact ih s'

/-- The cell rate algorithm admits a burst, and an arrival for each of the intervals that
fit into the window. -/
theorem exists_intervals_of_countIn (hpos : 0 < emissionInterval gcra) (ts : List ℤ) {a b : ℤ}
    (hab : a ≤ b) :
    ∃ k : ℕ, Gcra.countIn a b (Gcra.admitted (cellRate gcra) 0 ts) ≤ gcra.capacity + k ∧
      (k * emissionInterval gcra : ℤ) ≤ b - a := by
  have hcount := Gcra.window_bound (p := cellRate gcra) hpos.le 0 ts hab
  generalize Gcra.countIn a b (Gcra.admitted (cellRate gcra) 0 ts) = n at hcount ⊢
  rw [nsmul_eq_mul, nsmul_eq_mul] at hcount
  change (n : ℤ) * emissionInterval gcra
    ≤ b - a + gcra.capacity * emissionInterval gcra at hcount
  rcases le_total n gcra.capacity with hle | hge
  · -- less than a burst needs no interval
    refine ⟨0, hle, ?_⟩
    rw [Nat.cast_zero, zero_mul]
    exact sub_nonneg.mpr hab
  · obtain ⟨k, rfl⟩ := Nat.exists_eq_add_of_le hge
    refine ⟨k, le_refl _, ?_⟩
    push_cast at hcount
    linarith

/-- No arrival lies in a window that ends before it begins. -/
theorem countIn_eq_zero_of_lt {a b : ℤ} (hab : ¬ a ≤ b) (ts : List ℤ) :
    Gcra.countIn a b ts = 0 := by
  refine List.countP_eq_zero.mpr ?_
  intro t _ ht
  rw [decide_eq_true_eq] at ht
  exact hab (ht.1.trans ht.2)

/-- **A safe quota is enforced.** -/
theorem rateBound_of_safe (hF : 0 < gcra.refillFrequency.nanos) (hsafe : RateSafe gcra) :
    RateBound gcra := by
  intro tr hrun a b hab
  rcases hsafe with hi | httl | hdrift
  · rw [admittedTimes_of_interval hi]
    exact Nat.zero_le _
  · rw [admittedTimes_of_refused hrun fun ha => absurd httl ha.1.ne']
    exact Nat.zero_le _
  rcases (emissionInterval_nonneg gcra).eq_or_lt with hzero | hpos
  · rw [admittedTimes_of_interval hzero.symm]
    exact Nat.zero_le _
  -- round the window to milliseconds, and count with the cell rate algorithm
  have hround := countWithin_le a b
    fun t (ht : t ∈ admittedTimes gcra (limiter gcra).init tr) => mem_admittedTimes ht
  have hsub := (admittedTimes_sublist hrun 0 (tracks_init gcra)).countP_le
    (p := fun t => decide (max ⌈a⌉ 0 ≤ t ∧ t ≤ min ⌊b⌋ (lastWrite gcra)))
  refine hround.trans (hsub.trans ?_)
  change Gcra.countIn (max ⌈a⌉ 0) (min ⌊b⌋ (lastWrite gcra)) _ ≤ _
  by_cases hwin : max ⌈a⌉ 0 ≤ min ⌊b⌋ (lastWrite gcra)
  · obtain ⟨k, hcount, hk⟩ := exists_intervals_of_countIn hpos (tr.map fun p => p.1.ms) hwin
    refine hcount.trans (Nat.add_le_add_left (le_ceil_of_drift hF hdrift ?_ ?_) _)
    · -- the writes leave room for no more intervals than the drift allows
      have hlast := min_le_right ⌊b⌋ (lastWrite gcra)
      have hfirst := le_max_right ⌈a⌉ (0 : ℤ)
      rw [Int.le_ediv_iff_mul_le hpos]
      omega
    · have hb : ((min ⌊b⌋ (lastWrite gcra) : ℤ) : ℚ) ≤ b :=
        (Int.cast_le.mpr (min_le_left _ _)).trans (Int.floor_le b)
      have ha : a ≤ ((max ⌈a⌉ 0 : ℤ) : ℚ) :=
        (Int.le_ceil a).trans (Int.cast_le.mpr (le_max_left _ _))
      have hkq : ((k * emissionInterval gcra : ℤ) : ℚ)
          ≤ ((min ⌊b⌋ (lastWrite gcra) - max ⌈a⌉ 0 : ℤ) : ℚ) := Int.cast_le.mpr hk
      rw [Int.cast_sub] at hkq
      linarith
  · -- between two timestamps there is nothing to count
    rw [countIn_eq_zero_of_lt hwin]
    exact Nat.zero_le _

/-! ### Quotas that are not enforced -/

/-- Every request of `ts` is admitted, one after the other, from `s`. -/
structure AllAdmitted (gcra : GcraConfig) (s : LimiterState) (ts : List Timestamp) : Prop where
  run : (limiter gcra).Run s (runOf gcra s ts)
  times : admittedTimes gcra s (runOf gcra s ts) = ts.map Timestamp.ms

theorem AllAdmitted.nil (s : LimiterState) : AllAdmitted gcra s [] :=
  ⟨System.Run.nil s, rfl⟩

theorem AllAdmitted.cons {s : LimiterState} {now : Timestamp} {ts : List Timestamp}
    (hclock : s.clock ≤ now.ms) (hadm : admits gcra s.store now.ms = true)
    (hrest : AllAdmitted gcra ⟨storeAfter gcra s.store now.ms, now.ms⟩ ts) :
    AllAdmitted gcra s (now :: ts) where
  run := System.Run.cons ⟨hclock, rfl⟩ hrest.run
  times := by
    rw [runOf, admittedTimes, if_pos hadm, hrest.times]
    rfl

/-- At `clock`, the TAT is `tat` and stays readable for a refill period. -/
structure Holds (gcra : GcraConfig) (s : LimiterState) (clock tat : ℤ) : Prop where
  clock_eq : s.clock = clock
  tat_eq : ∀ nowMs, clock ≤ nowMs → nowMs ≤ clock + gcra.capacity * emissionInterval gcra →
    tatAt s.store nowMs = tat

/-- A request whose TAT is ahead, by less than a full burst, is admitted. -/
theorem admits_of_ahead {now : Timestamp} (ha : SetExAccepts gcra now.ms)
    (hi : 0 < emissionInterval gcra) (store : Option Entry)
    (hahead : now.ms ≤ tatAt store now.ms)
    (hburst : tatAt store now.ms + emissionInterval gcra
      ≤ now.ms + gcra.capacity * emissionInterval gcra) :
    admits gcra store now.ms = true ∧
      Holds gcra ⟨storeAfter gcra store now.ms, now.ms⟩ now.ms
        (tatAt store now.ms + emissionInterval gcra) := by
  have hc : Gcra.Conforms (cellRate gcra) (tatAt store now.ms) now.ms := by
    rw [AiGateway.conforms_iff, max_eq_left hahead]
    exact hburst
  obtain ⟨e, hstore, htat, hexp⟩ := exists_entry_of_conforms ha store hc
  have hlive := ha.burst_lt_ttl
  refine ⟨admits_of_recent ha hi store hc (by omega), rfl, fun nowMs _ hle => ?_⟩
  change tatAt (storeAfter gcra store now.ms) nowMs = _
  have hget : get (some e) nowMs = some e.tat := if_pos (by omega)
  unfold tatAt
  rw [hstore, hget, Option.getD_some, htat]
  exact congrArg (· + _) (max_eq_left hahead)

/-- One request every interval: `n` of them, after the `j`-th interval. -/
def steady (interval : ℤ) : ℕ → ℕ → List Timestamp
  | 0, _ => []
  | n + 1, j => Timestamp.ofMs ((j + 1) * interval) :: steady interval n (j + 1)

/-- A burst at time zero, then one request every interval. -/
def burstThenSteady (gcra : GcraConfig) (n : ℕ) : List Timestamp :=
  List.replicate gcra.capacity (Timestamp.ofMs 0) ++ steady (emissionInterval gcra) n 0

@[simp] theorem length_steady (interval : ℤ) (n j : ℕ) : (steady interval n j).length = n := by
  induction n generalizing j with
  | zero => rfl
  | succ n ih => rw [steady, List.length_cons, ih]

theorem mem_steady {interval : ℤ} (hi : 0 < interval) {n j : ℕ}
    (hn : (j + n) * interval ≤ maxTimestamp) {t : Timestamp} (ht : t ∈ steady interval n j) :
    t.ms ≤ (j + n) * interval := by
  induction n generalizing j with
  | zero => cases ht
  | succ n ih =>
    push_cast at hn ⊢
    rcases List.mem_cons.mp ht with rfl | ht
    · rw [Timestamp.ofMs_ms (by positivity) (by nlinarith)]
      nlinarith
    · refine (ih (j := j + 1) (by push_cast; linarith) ht).trans (le_of_eq ?_)
      push_cast
      ring

theorem lastWrite_le (gcra : GcraConfig) : lastWrite gcra ≤ maxTimestamp := min_le_left _ _

/-- With the burst used up, one request every interval is admitted. -/
theorem allAdmitted_steady (httl : ttlSecs gcra ≠ 0) (hi : 0 < emissionInterval gcra) (n j : ℕ)
    (hn : (j + n) * emissionInterval gcra ≤ lastWrite gcra) {s : LimiterState}
    (hs : Holds gcra s (j * emissionInterval gcra)
      ((gcra.capacity + j) * emissionInterval gcra)) :
    AllAdmitted gcra s (steady (emissionInterval gcra) n j) := by
  induction n generalizing j s with
  | zero => exact AllAdmitted.nil s
  | succ n ih =>
    have hcap : (1 : ℤ) ≤ gcra.capacity := by exact_mod_cast gcra.capacity_pos
    push_cast at hn
    have hlast : (j + 1) * emissionInterval gcra ≤ lastWrite gcra := by nlinarith
    have hms : (Timestamp.ofMs ((j + 1) * emissionInterval gcra)).ms
        = (j + 1) * emissionInterval gcra :=
      Timestamp.ofMs_ms (by positivity) (hlast.trans (lastWrite_le gcra))
    have ha := (setExAccepts_iff _).mpr ⟨httl, hms.le.trans hlast⟩
    -- the TAT is a full burst ahead of the last request, and the clock has gained an interval
    have htat := hs.tat_eq ((j + 1) * emissionInterval gcra) (by nlinarith) (by nlinarith)
    rw [← hms] at htat
    obtain ⟨hadm, hholds⟩ := admits_of_ahead ha hi s.store
      (by rw [htat, hms]; nlinarith) (by rw [htat, hms]; linarith)
    refine AllAdmitted.cons (by rw [hs.clock_eq, hms]; nlinarith) hadm (ih (j + 1) ?_ ?_)
    · push_cast
      linarith
    · rw [htat, hms] at hholds
      rw [hms]
      push_cast
      convert hholds using 1
      ring

/-- From `m` intervals ahead, the rest of the burst at time zero is admitted,
and leaves the TAT a full burst ahead. -/
theorem allAdmitted_burst (ha : SetExAccepts gcra (Timestamp.ofMs 0).ms)
    (hi : 0 < emissionInterval gcra) {tail : List Timestamp}
    (htail : ∀ s, Holds gcra s 0 (gcra.capacity * emissionInterval gcra) →
      AllAdmitted gcra s tail) (r m : ℕ) (hrm : m + r = gcra.capacity) {s : LimiterState}
    (hs : Holds gcra s 0 (m * emissionInterval gcra)) :
    AllAdmitted gcra s (List.replicate r (Timestamp.ofMs 0) ++ tail) := by
  have hzero : (Timestamp.ofMs 0).ms = 0 := Timestamp.ofMs_ms (le_refl _) (by decide)
  induction r generalizing m s with
  | zero =>
    obtain rfl : m = gcra.capacity := by omega
    exact htail s hs
  | succ r ih =>
    have hnext : m + 1 ≤ gcra.capacity := by omega
    have hcap : ((m : ℤ) + 1) ≤ gcra.capacity := by exact_mod_cast hnext
    -- `m` of the burst have been admitted, and this is the next one
    have htat := hs.tat_eq 0 (le_refl _) (by positivity)
    rw [← hzero] at htat
    obtain ⟨hadm, hholds⟩ := admits_of_ahead ha hi s.store
      (by rw [htat, hzero]; positivity) (by rw [htat, hzero]; nlinarith)
    rw [List.replicate_succ, List.cons_append]
    refine AllAdmitted.cons (by rw [hs.clock_eq, hzero]) hadm (ih (m + 1) (by omega) ?_)
    rw [htat] at hholds
    rw [hzero] at hholds ⊢
    push_cast
    convert hholds using 1
    ring

/-- **A run that uses every refill.** A burst at time zero and one request every
interval are all admitted. -/
theorem allAdmitted_burstThenSteady (httl : ttlSecs gcra ≠ 0)
    (hi : 0 < emissionInterval gcra) (n : ℕ) (hn : n * emissionInterval gcra ≤ lastWrite gcra) :
    AllAdmitted gcra (limiter gcra).init (burstThenSteady gcra n) := by
  have hzero : (Timestamp.ofMs 0).ms = 0 := Timestamp.ofMs_ms (le_refl _) (by decide)
  have hinit : tatAt (limiter gcra).init.store (Timestamp.ofMs 0).ms = 0 := hzero
  have hle := interval_le_burst gcra
  have hlast : 0 ≤ lastWrite gcra := le_trans (by positivity) hn
  have ha := (setExAccepts_iff _).mpr ⟨httl, hzero.le.trans hlast⟩
  obtain ⟨hadm, hholds⟩ := admits_of_ahead ha hi (limiter gcra).init.store
    (by rw [hinit, hzero]) (by rw [hinit, hzero]; linarith)
  obtain ⟨r, hr⟩ := Nat.exists_eq_succ_of_ne_zero gcra.capacity_pos.ne'
  unfold burstThenSteady
  rw [hr, List.replicate_succ, List.cons_append]
  -- the first request finds no TAT, the rest of the burst does
  refine AllAdmitted.cons (by rw [hzero]; exact le_refl _) hadm ?_
  refine allAdmitted_burst ha hi ?_ r 1 (by omega) ?_
  · intro s hs
    refine allAdmitted_steady httl hi n 0 (by push_cast; linarith) ?_
    rw [Nat.cast_zero, zero_mul, add_zero]
    exact hs
  · rw [hinit] at hholds
    rw [hzero] at hholds ⊢
    rw [Nat.cast_one, one_mul]
    rw [zero_add] at hholds
    exact hholds

/-- The whole of a burst and `n` intervals lies in the window it spans. -/
theorem countWithin_burstThenSteady (hi : 0 < emissionInterval gcra) (n : ℕ)
    (hn : n * emissionInterval gcra ≤ maxTimestamp) :
    countWithin 0 ((n * emissionInterval gcra : ℤ) : ℚ)
      ((burstThenSteady gcra n).map Timestamp.ms) = gcra.capacity + n := by
  have hlen : ((burstThenSteady gcra n).map Timestamp.ms).length = gcra.capacity + n := by
    simp [burstThenSteady]
  unfold countWithin Gcra.countIn
  rw [List.countP_map, ← hlen, List.countP_eq_length]
  intro t ht
  obtain ⟨now, hnow, rfl⟩ := List.mem_map.mp ht
  rw [Function.comp_apply, decide_eq_true_eq]
  refine ⟨by exact_mod_cast now.nonneg, Int.cast_le.mpr ?_⟩
  -- every request lies between time zero and the last interval
  rcases List.mem_append.mp hnow with hburst | hsteady
  · rw [List.eq_of_mem_replicate hburst, Timestamp.ofMs_ms (le_refl _) (by decide)]
    positivity
  · have hle := mem_steady hi (j := 0) (by push_cast; linarith) hsteady
    push_cast at hle
    linarith

/-- The run that uses every refill there is time for stays within the bound only if the
drift does. -/
theorem drift_of_bound (hF : 0 < gcra.refillFrequency.nanos) (hi : 0 < emissionInterval gcra)
    (httl : ttlSecs gcra ≠ 0) (hbound : RateBound gcra) :
    lastWrite gcra / emissionInterval gcra * drift gcra < gcra.refillFrequency.nanos := by
  -- if no write is accepted, there is no time for an interval
  rcases lt_or_ge (lastWrite gcra) 0 with hneg | hlast
  · have hdiv := Int.ediv_neg_of_neg_of_pos hneg hi
    have hprod := mul_nonpos_of_nonpos_of_nonneg hdiv.le (drift_nonneg gcra)
    exact lt_of_le_of_lt hprod (by exact_mod_cast hF)
  obtain ⟨k, hk⟩ := Int.eq_ofNat_of_zero_le (Int.ediv_nonneg hlast hi.le)
  have hklast : k * emissionInterval gcra ≤ lastWrite gcra := by
    rw [← hk]
    exact Int.ediv_mul_le _ hi.ne'
  have hkmax := hklast.trans (lastWrite_le gcra)
  have hall := allAdmitted_burstThenSteady httl hi k hklast
  have hcount := hbound _ hall.run 0 ((k * emissionInterval gcra : ℤ) : ℚ) (by positivity)
  rw [hall.times, countWithin_burstThenSteady hi k hkmax, sub_zero] at hcount
  have hceil : k ≤ ⌈((k * emissionInterval gcra : ℤ) : ℚ) * gcra.capacity / refillMs gcra⌉₊ := by
    omega
  have hFq : (0 : ℚ) < gcra.refillFrequency.nanos := by exact_mod_cast hF
  rw [hk]
  cases k with
  | zero => simpa using hF
  | succ m =>
    -- the last token has been refilled, for all that the truncation takes away
    have hlt := Nat.lt_ceil.mp hceil
    unfold refillMs at hlt
    rw [lt_div_iff₀ (by positivity)] at hlt
    push_cast at hlt
    have hint : (m : ℤ) * gcra.refillFrequency.nanos
        < (m + 1) * emissionInterval gcra * gcra.capacity * 1000000 := by
      have hq : (m : ℚ) * gcra.refillFrequency.nanos
          < (m + 1) * emissionInterval gcra * gcra.capacity * 1000000 := by linarith
      exact_mod_cast hq
    unfold drift
    push_cast
    linarith

/-- **No other quota is enforced.** -/
theorem rateSafe_of_bound (hF : 0 < gcra.refillFrequency.nanos) (hbound : RateBound gcra) :
    RateSafe gcra := by
  rcases eq_or_lt_of_le (emissionInterval_nonneg gcra) with hzero | hi
  · exact Or.inl hzero.symm
  · by_cases httl : ttlSecs gcra = 0
    · exact Or.inr (Or.inl httl)
    · exact Or.inr (Or.inr (drift_of_bound hF hi httl hbound))

/-- **Which quotas the limiter enforces**: the safe ones. -/
theorem rateBound_iff (gcra : GcraConfig) (hF : 0 < gcra.refillFrequency.nanos) :
    RateBound gcra ↔ RateSafe gcra :=
  ⟨rateSafe_of_bound hF, rateBound_of_safe hF⟩

/-- The default quota, 500 requests a second and two milliseconds each, is enforced: whatever is
asked, no second admits more than a full burst and what refills meanwhile. -/
theorem rateBound_iff_default : ¬ ∃ tr,
    (limiter GcraConfig.default).Run (limiter GcraConfig.default).init tr ∧ ∃ a : ℚ,
      1000 < countWithin a (a + 1000)
        (admittedTimes GcraConfig.default (limiter GcraConfig.default).init tr) := by
  rintro ⟨tr, hrun, a, hmore⟩
  have hbound : RateBound GcraConfig.default :=
    (rateBound_iff GcraConfig.default (by decide)).mpr (Or.inr (Or.inr (by decide +kernel)))
  have hwindow := hbound tr hrun a (a + 1000) (by linarith)
  have hallowed : (a + 1000 - a) * (GcraConfig.default.capacity : ℚ) /
      refillMs GcraConfig.default = (500 : ℕ) := by
    rw [add_sub_cancel_left]
    decide +kernel
  rw [hallowed, Nat.ceil_natCast] at hwindow
  have hcapacity : GcraConfig.default.capacity = 500 := rfl
  omega

/-- 600 requests a second, whose 1.67 milliseconds a token count as one. -/
def sixHundredPerSecond : GcraConfig where
  refillFrequency := Duration.fromSecs 1 Duration.one_le_u64Max
  capacity := 600
  capacity_pos := by decide
  capacity_le := by decide

/-- 600 requests at once and then one every millisecond, for a second: all 1600
are admitted, where the quota allows 1200. -/
theorem rateBound_fails :
    ¬ ∀ gcra : GcraConfig, 0 < gcra.refillFrequency.nanos → RateBound gcra := by
  intro h
  have hone : emissionInterval sixHundredPerSecond = 1 := by decide
  have hall : AllAdmitted sixHundredPerSecond (limiter sixHundredPerSecond).init
      (burstThenSteady sixHundredPerSecond 1000) :=
    allAdmitted_burstThenSteady (by decide) (by decide) 1000 (by decide)
  have hspan : countWithin 0
      (((1000 : ℕ) * emissionInterval sixHundredPerSecond : ℤ) : ℚ)
      ((burstThenSteady sixHundredPerSecond 1000).map Timestamp.ms) = 600 + 1000 :=
    countWithin_burstThenSteady (by decide) 1000 (by decide)
  have hrefill : refillMs sixHundredPerSecond = 1000 := by
    norm_num [refillMs, sixHundredPerSecond, Duration.fromSecs, Duration.nanos]
  have hcount := h sixHundredPerSecond (by decide) _ hall.run 0
    (((1000 : ℕ) * emissionInterval sixHundredPerSecond : ℤ) : ℚ) (by rw [hone]; norm_num)
  rw [hall.times, hspan, hrefill, hone] at hcount
  norm_num [sixHundredPerSecond] at hcount

end AiGateway
