import AiGateway.Discover.Key
import AiGateway.Framework.ReadyCache
import AiGateway.Framework.Runs
import AiGateway.Monitor.Health
import Mathlib.Algebra.Group.Nat.Even
import Mathlib.Data.Finset.Insert

/-!
# What the health monitor has announced

`check_weighted_monitor` and `check_p2c_monitor` of `discover/monitor/health/provider.rs`, which are
two copies of one loop, statement by statement and with every way out of their own: a verdict that
cannot be had, a dispatcher that cannot be built, a channel whose receiver is gone. Left out is a
check that is dropped at an `await`, since that of another router has failed (`try_join_all`) or the
token is triggered: every health monitor ends with it, and its memory is not read again.

The monitor remembers the keys it holds to be unhealthy. It was to remember what it has announced:
`remembers_iff` says that it does exactly as long as no verdict that it records goes
unannounced; a failing dispatcher is one way for that to happen, since the key that recovers is
forgotten before its dispatcher is built. On a channel that is closed, two records of the same key
within a tick cancel out.
-/

namespace AiGateway.Announced

open Transition Tower

/-! ### The loop -/

inductive InitError
  | invalidWeight (provider : InferenceProvider)
  /-- Whatever `Dispatcher::new` returns. -/
  | dispatcher
  deriving DecidableEq

inductive RuntimeError
  | init (e : InitError)
  | metricsNotConfigured (e : MetricsNotConfigured)
  /-- `InternalError::Internal`, for a strategy the monitor is not for. -/
  | internal
  deriving DecidableEq

/-- What the check of one target meets. -/
structure Outcome where
  checkHealth : Except MetricsNotConfigured Bool
  dispatcherNew : Except InitError Unit
  /-- The channel still has its receiver. -/
  connected : Bool

/-- `ProviderMonitorInner`, and the changes it has sent. -/
structure Memory (K : Type) where
  unhealthyKeys : Finset K
  sent : List (Change K)
  /-- The channel has lost its receiver. -/
  closed : Bool
  /-- A check has returned an error, which ends the health monitor. -/
  stopped : Bool

variable {K : Type} [DecidableEq K]

/-- A change sent now is lost. -/
def Memory.Lost (m : Memory K) (o : Outcome) : Prop := m.closed = true ∨ o.connected = false

instance (m : Memory K) (o : Outcome) : Decidable (m.Lost o) := inferInstanceAs (Decidable (_ ∨ _))

/-- `tx.send(change)`, whose error is only logged. -/
def Memory.send (m : Memory K) (o : Outcome) (change : Change K) : Memory K :=
  if m.Lost o then { m with closed := true } else { m with sent := m.sent ++ [change] }

/-- The body of the loop. A target without a key is the error at its place. -/
def checkTarget (m : Memory K) (target : Except RuntimeError K) (o : Outcome) :
    Except RuntimeError Unit × Memory K :=
  match target with
  | .error e => (.error e, m)
  | .ok key =>
    match o.checkHealth with
    | .error e => (.error (.metricsNotConfigured e), m)
    | .ok isHealthy =>
      let wasUnhealthy := decide (key ∈ m.unhealthyKeys)
      if !isHealthy && !wasUnhealthy then
        let m := m.send o (.remove key)
        (.ok (), { m with unhealthyKeys := insert key m.unhealthyKeys })
      else if isHealthy && wasUnhealthy then
        -- forgotten before the dispatcher is built
        let m := { m with unhealthyKeys := m.unhealthyKeys.erase key }
        match o.dispatcherNew with
        | .error e => (.error (.init e), m)
        | .ok () => (.ok (), m.send o (.insert key))
      else (.ok (), m)

/-- The loop, from the `i`th target on: the first error leaves it. -/
def checkTargets (outcomes : ℕ → Outcome) :
    ℕ → List (Except RuntimeError K) → Memory K → Except RuntimeError Unit × Memory K
  | _, [], m => (.ok (), m)
  | i, target :: targets, m =>
    match checkTarget m target (outcomes i) with
    | (.ok (), m') => checkTargets outcomes (i + 1) targets m'
    | (.error e, m') => (.error e, m')

/-- A tick. -/
def tick (targets : List (Except RuntimeError K)) (m : Memory K) (outcomes : ℕ → Outcome) :
    Memory K :=
  match checkTargets outcomes 0 targets m with
  | (.ok (), m') => m'
  | (.error _, m') => { m' with stopped := true }

/-- The health monitor of a router, by what its ticks meet. -/
def healthMonitor (targets : List (Except RuntimeError K)) : System (Memory K) (ℕ → Outcome) where
  init := { unhealthyKeys := ∅, sent := [], closed := false, stopped := false }
  step m outcomes m' := m.stopped = false ∧ m' = tick targets m outcomes

/-- The targets of `check_weighted_monitor`. `to_f64` is the decimal library's. -/
def weightedTargets (rnd : ℚ → ℚ) (toF64 : ℚ → Option ℚ) (config : RouterConfig) :
    List (Except RuntimeError WeightedKey) :=
  config.loadBalance.entries.flatMap fun entry =>
    match entry.2 with
    | .weighted providers => providers.elems.map fun target =>
      match toF64 target.weight with
      | some weight => .ok ⟨target.provider, entry.1, Weight.ofF64 rnd weight⟩
      | none => .error (.init (.invalidWeight target.provider))
    | .latency _ => [.error .internal]

/-- The targets of `check_p2c_monitor`. -/
def p2cTargets (config : RouterConfig) : List (Except RuntimeError Key) :=
  config.loadBalance.entries.flatMap fun entry =>
    match entry.2 with
    | .latency providers => providers.elems.map fun provider => .ok ⟨provider, entry.1⟩
    | .weighted _ => [.error .internal]

/-! ### The property, and what breaks it -/

/-- The last change sent for a key. -/
def Memory.lastSent (m : Memory K) (key : K) : Option (Change K) :=
  m.sent.reverse.find? fun change => change.key = key

/-- A key is remembered as unhealthy if its removal is the last that was announced of it. -/
def Memory.Agrees (m : Memory K) (key : K) : Prop :=
  key ∈ m.unhealthyKeys ↔ m.lastSent key = some (.remove key)

/-- **The memory is what was announced.** -/
def Memory.Remembers (m : Memory K) : Prop := ∀ key, m.Agrees key

/-- The check of a target records a new verdict of the key without announcing it. -/
def Unannounced (m : Memory K) (target : Except RuntimeError K) (o : Outcome) (key : K) : Prop :=
  target = .ok key ∧
    ((o.checkHealth = .ok false ∧ key ∉ m.unhealthyKeys ∧ m.Lost o) ∨
      (o.checkHealth = .ok true ∧ key ∈ m.unhealthyKeys ∧
        (m.Lost o ∨ o.dispatcherNew.isOk = false)))

instance (m : Memory K) (target : Except RuntimeError K) (o : Outcome) (key : K) :
    Decidable (Unannounced m target o key) :=
  inferInstanceAs (Decidable (_ ∧ _))

/-- How often a loop does so. -/
def unannounced (outcomes : ℕ → Outcome) (key : K) :
    ℕ → List (Except RuntimeError K) → Memory K → ℕ
  | _, [], _ => 0
  | i, target :: targets, m =>
    (if Unannounced m target (outcomes i) key then 1 else 0) +
      match checkTarget m target (outcomes i) with
      | (.ok (), m') => unannounced outcomes key (i + 1) targets m'
      | (.error _, _) => 0

/-- The ticks of a run record no verdict unannounced, or the records of a key cancel out. -/
def Announces (targets : List (Except RuntimeError K)) (m : Memory K) (outcomes : ℕ → Outcome)
    (_ : Memory K) : Prop :=
  ∀ key, Even (unannounced outcomes key 0 targets m)

/-! ### One target -/

section Changes

variable {m m' : Memory K} {key k : K}

theorem lastSent_append {change : Change K} (hsent : m'.sent = m.sent ++ [change]) :
    m'.lastSent key = if change.key = key then some change else m.lastSent key := by
  rw [Memory.lastSent, hsent, List.reverse_append, List.reverse_singleton, List.singleton_append,
    List.find?_cons]
  by_cases h : change.key = key
  · rw [if_pos h, decide_eq_true h]
  · rw [if_neg h, decide_eq_false h]
    rfl

theorem lastSent_congr (hsent : m'.sent = m.sent) : m'.lastSent key = m.lastSent key := by
  rw [Memory.lastSent, hsent, Memory.lastSent]

end Changes

/-- **What the check of a target does.** Nothing; or it records a verdict and announces it; or it
records one without announcing it, and then it fails or the channel is closed. -/
inductive Checked (m : Memory K) (unannounced : K → Prop) :
    Except RuntimeError Unit → Memory K → Prop
  | nothing (result : Except RuntimeError Unit) : (∀ key, ¬ unannounced key) →
      Checked m unannounced result m
  | announced (change : Change K) (m' : Memory K) : m.closed = false → m'.closed = false →
      m'.sent = m.sent ++ [change] →
      (change.key ∈ m'.unhealthyKeys ↔ change = .remove change.key) →
      (∀ key, key ≠ change.key → (key ∈ m'.unhealthyKeys ↔ key ∈ m.unhealthyKeys)) →
      (∀ key, ¬ unannounced key) → Checked m unannounced (.ok ()) m'
  | recorded (key : K) (result : Except RuntimeError Unit) (m' : Memory K) :
      m'.sent = m.sent → (result = .ok () → m'.closed = true) →
      (key ∈ m'.unhealthyKeys ↔ key ∉ m.unhealthyKeys) →
      (∀ key', key' ≠ key → (key' ∈ m'.unhealthyKeys ↔ key' ∈ m.unhealthyKeys)) →
      (∀ key', unannounced key' ↔ key' = key) → Checked m unannounced result m'

omit [DecidableEq K] in
theorem unannounced_iff {m : Memory K} {o : Outcome} {isHealthy : Bool}
    (h : o.checkHealth = .ok isHealthy) (key key' : K) :
    Unannounced m (.ok key) o key' ↔ key' = key ∧
      ((isHealthy = false ∧ key ∉ m.unhealthyKeys ∧ m.Lost o) ∨
        (isHealthy = true ∧ key ∈ m.unhealthyKeys ∧
          (m.Lost o ∨ o.dispatcherNew.isOk = false))) := by
  rw [Unannounced, h, Except.ok.injEq, Except.ok.injEq, Except.ok.injEq, eq_comm (a := key)]
  refine and_congr_right fun hkey => ?_
  rw [hkey]

section Sends

omit [DecidableEq K]

variable {m : Memory K} {o : Outcome} {change : Change K}

theorem send_of_lost (h : m.Lost o) : m.send o change = { m with closed := true } := if_pos h

theorem send_of_not_lost (h : ¬ m.Lost o) :
    m.send o change = { m with sent := m.sent ++ [change] } := if_neg h

theorem send_unhealthyKeys : (m.send o change).unhealthyKeys = m.unhealthyKeys := by
  unfold Memory.send
  split
  · rfl
  · rfl

theorem closed_of_not_lost (h : ¬ m.Lost o) : m.closed = false :=
  Bool.eq_false_iff.2 fun hclosed => h (Or.inl hclosed)

end Sends

/-- A key becomes unhealthy: it is recorded whatever becomes of the change. -/
theorem checked_remove (m : Memory K) (o : Outcome) {key : K} (hkey : key ∉ m.unhealthyKeys)
    {P : K → Prop} (hP : ∀ key', P key' ↔ key' = key ∧ m.Lost o) :
    Checked m P (.ok ())
      { m.send o (.remove key) with unhealthyKeys := insert key m.unhealthyKeys } := by
  have hother : ∀ key', key' ≠ key →
      (key' ∈ insert key m.unhealthyKeys ↔ key' ∈ m.unhealthyKeys) := by
    intro key' hne
    rw [Finset.mem_insert, or_iff_right hne]
  have hself : key ∈ insert key m.unhealthyKeys := Finset.mem_insert_self _ _
  by_cases hlost : m.Lost o
  · rw [send_of_lost hlost]
    refine .recorded key _ _ rfl (fun _ => rfl) (iff_of_true hself hkey) hother fun key' => ?_
    rw [hP, and_iff_left hlost]
  · rw [send_of_not_lost hlost]
    have hclosed := closed_of_not_lost hlost
    exact .announced (.remove key) _ hclosed hclosed rfl (iff_of_true hself rfl) hother
      fun key' h => hlost ((hP key').1 h).2

/-- A key becomes healthy: it is forgotten, and announced if its dispatcher can be built. -/
theorem checked_insert (m : Memory K) (o : Outcome) {key : K} (hkey : key ∈ m.unhealthyKeys)
    {P : K → Prop} (hP : ∀ key', P key' ↔ key' = key ∧ (m.Lost o ∨ o.dispatcherNew.isOk = false)) :
    Checked m P
      (match o.dispatcherNew with
        | .error e => .error (.init e)
        | .ok () => .ok ())
      (match o.dispatcherNew with
        | .error _ => { m with unhealthyKeys := m.unhealthyKeys.erase key }
        | .ok () =>
          Memory.send { m with unhealthyKeys := m.unhealthyKeys.erase key } o (.insert key)) := by
  have hother : ∀ key', key' ≠ key →
      (key' ∈ m.unhealthyKeys.erase key ↔ key' ∈ m.unhealthyKeys) := by
    intro key' hne
    rw [Finset.mem_erase, and_iff_right hne]
  -- forgetting the key is what turns its record
  have hself : key ∉ m.unhealthyKeys.erase key := Finset.notMem_erase _ _
  have hflip : key ∈ m.unhealthyKeys.erase key ↔ key ∉ m.unhealthyKeys :=
    iff_of_false hself (not_not.2 hkey)
  cases hnew : o.dispatcherNew with
  -- it is forgotten all the same, and nothing is announced
  | error e =>
    refine .recorded key _ _ rfl (by rintro ⟨⟩) hflip hother fun key' => ?_
    rw [hP, hnew]
    exact and_iff_left (Or.inr rfl)
  | ok u =>
    -- the announcement may still be lost
    by_cases hlost : m.Lost o
    · have hlost' : Memory.Lost { m with unhealthyKeys := m.unhealthyKeys.erase key } o := hlost
      rw [send_of_lost hlost']
      refine .recorded key _ _ rfl (fun _ => rfl) hflip hother fun key' => ?_
      rw [hP, and_iff_left (Or.inl hlost)]
    · have hlost' : ¬ Memory.Lost { m with unhealthyKeys := m.unhealthyKeys.erase key } o := hlost
      rw [send_of_not_lost hlost']
      have hclosed := closed_of_not_lost hlost
      refine .announced (.insert key) _ hclosed hclosed rfl (iff_of_false hself ?_) hother ?_
      · rintro ⟨⟩
      · intro key' h
        rw [hP, hnew] at h
        exact h.2.elim hlost (by rintro ⟨⟩)

theorem checkTarget_checked (m : Memory K) (target : Except RuntimeError K) (o : Outcome) :
    Checked m (Unannounced m target o) (checkTarget m target o).1 (checkTarget m target o).2 := by
  cases target with
  | error e => exact .nothing _ (by rintro key ⟨⟨⟩, -⟩)
  | ok key =>
    unfold checkTarget
    cases hhealth : o.checkHealth with
    | error e =>
      refine .nothing _ fun key' hkey' => ?_
      obtain ⟨-, ⟨h, -⟩ | ⟨h, -⟩⟩ := hkey'
      · rw [hhealth] at h
        cases h
      · rw [hhealth] at h
        cases h
    | ok isHealthy =>
      have hiff := unannounced_iff (m := m) hhealth key
      cases isHealthy with
      | false =>
        -- a key that fails is removed unless it is recorded already
        by_cases hkey : key ∈ m.unhealthyKeys
        · simp only [hkey, decide_true, Bool.not_false, Bool.not_true, Bool.and_false,
            Bool.false_eq_true, if_false, Bool.false_and]
          exact .nothing _ fun key' h => by simp [hiff, hkey] at h
        · simp only [hkey, decide_false, Bool.not_false, Bool.and_self, if_true,
            send_unhealthyKeys]
          exact checked_remove m o hkey fun key' => by simp [hiff, hkey]
      | true =>
        -- a healthy one comes back if it was recorded
        by_cases hkey : key ∈ m.unhealthyKeys
        · simp only [hkey, decide_true, Bool.not_true, Bool.and_self, Bool.false_eq_true, if_false,
            if_true]
          have h := checked_insert m o hkey (P := Unannounced m (.ok key) o)
            fun key' => by simp [hiff, hkey]
          cases hnew : o.dispatcherNew with
          | error e =>
            rw [hnew] at h
            exact h
          | ok u =>
            rw [hnew] at h
            exact h
        · simp only [hkey, decide_false, Bool.not_true, Bool.false_and, Bool.and_false,
            Bool.false_eq_true, if_false]
          exact .nothing _ fun key' h => by simp [hiff, hkey] at h

/-- What the check of a target does to the agreement on each key, if the keys agree while the
channel is open. -/
theorem agrees_checkTarget {m : Memory K} (hopen : m.closed = false → m.Remembers)
    (target : Except RuntimeError K) (o : Outcome) (key : K) :
    (checkTarget m target o).2.Agrees key ↔ (m.Agrees key ↔ ¬ Unannounced m target o key) := by
  generalize hr : (checkTarget m target o).1 = r, hm : (checkTarget m target o).2 = m'
  have h := checkTarget_checked m target o
  rw [hr, hm] at h
  cases h with
  | nothing _ hnone => rw [iff_true_right (hnone key)]
  | announced change _ hclosed _ hsent hself hother hnone =>
    rw [iff_true_right (hnone key), iff_true_right (hopen hclosed key), Memory.Agrees,
      lastSent_append hsent]
    by_cases hkey : change.key = key
    · rw [if_pos hkey, ← hkey, Option.some.injEq]
      exact hself
    · rw [if_neg hkey, hother key (Ne.symm hkey)]
      exact hopen hclosed key
  | recorded k _ _ hsent _ hself hother hnone =>
    rw [hnone, Memory.Agrees, lastSent_congr hsent]
    by_cases hkey : key = k
    · rw [hkey, hself, Memory.Agrees, iff_false_right (not_not.2 rfl), not_iff]
    · rw [hother key hkey, iff_true_right hkey, Memory.Agrees]

/-- While the channel is open and no check fails, everything was announced. -/
theorem remembers_checkTarget {m : Memory K} (hopen : m.closed = false → m.Remembers)
    {target : Except RuntimeError K} {o : Outcome} (hok : (checkTarget m target o).1 = .ok ())
    (hclosed : (checkTarget m target o).2.closed = false) :
    (checkTarget m target o).2.Remembers := by
  intro key
  rw [agrees_checkTarget hopen]
  have h := checkTarget_checked m target o
  revert hclosed
  generalize hr : (checkTarget m target o).1 = r, hm : (checkTarget m target o).2 = m' at h
  intro hclosed
  cases h with
  | nothing _ hnone => exact iff_of_true (hopen hclosed key) (hnone key)
  | announced change _ hclosed' _ _ _ _ hnone => exact iff_of_true (hopen hclosed' key) (hnone key)
  | recorded k _ _ _ himp =>
    rw [himp (hr ▸ hok)] at hclosed
    cases hclosed

/-! ### A tick, and runs -/

/-- What a loop does to the agreement on each key. -/
theorem agrees_checkTargets (outcomes : ℕ → Outcome) (targets : List (Except RuntimeError K))
    (i : ℕ) {m : Memory K} (hopen : m.closed = false → m.Remembers) (key : K) :
    (checkTargets outcomes i targets m).2.Agrees key ↔
      (m.Agrees key ↔ Even (unannounced outcomes key i targets m)) := by
  induction targets generalizing i m with
  | nil => exact (iff_true_right (⟨0, rfl⟩ : Even 0)).symm
  | cons target targets ih =>
    have hfirst := agrees_checkTarget hopen target (outcomes i) key
    have hrest : (checkTarget m target (outcomes i)).1 = .ok () →
        (checkTarget m target (outcomes i)).2.closed = false →
        (checkTarget m target (outcomes i)).2.Remembers := remembers_checkTarget hopen
    rw [checkTargets, unannounced]
    generalize checkTarget m target (outcomes i) = checked at hfirst hrest
    -- the parity of the count changes with each record that is not announced
    have hparity : ∀ n, Even ((if Unannounced m target (outcomes i) key then 1 else 0) + n) ↔
        (¬ Unannounced m target (outcomes i) key ↔ Even n) := by
      intro n
      by_cases h : Unannounced m target (outcomes i) key
      · rw [if_pos h, Nat.add_comm, Nat.even_add_one, iff_false_left (not_not.2 h)]
      · rw [if_neg h, Nat.zero_add, iff_true_left h]
    obtain ⟨result, m'⟩ := checked
    cases result with
    | error e =>
      change m'.Agrees key ↔ (m.Agrees key ↔ Even (_ + 0))
      rw [hfirst, hparity 0, iff_true_right (show Even 0 from ⟨0, rfl⟩)]
    | ok u =>
      change (checkTargets outcomes (i + 1) targets m').2.Agrees key ↔ _
      rw [ih (i + 1) (hrest rfl), hfirst, hparity]
      by_cases hm : m.Agrees key
      · rw [iff_true_left hm, iff_true_left hm]
      · rw [iff_false_left hm, iff_false_left hm, not_iff]

theorem remembers_tick_iff {targets : List (Except RuntimeError K)} {m : Memory K}
    (h : m.Remembers) (outcomes : ℕ → Outcome) :
    (tick targets m outcomes).Remembers ↔ ∀ key, Even (unannounced outcomes key 0 targets m) := by
  have hagrees : ∀ key, (tick targets m outcomes).Agrees key ↔
      (checkTargets outcomes 0 targets m).2.Agrees key := by
    intro key
    rw [tick]
    generalize checkTargets outcomes 0 targets m = checked
    obtain ⟨result, m'⟩ := checked
    cases result with
    | error e => rfl
    | ok u => rfl
  refine forall_congr' fun key => ?_
  rw [hagrees, agrees_checkTargets outcomes targets 0 (fun _ => h), iff_true_left (h key)]

/-- **What the monitor remembers.** After every tick of a run its memory is what it announced,
exactly if no tick records a verdict of a key without announcing it, or it does so an even number of
times. -/
theorem remembers_iff_announces (targets : List (Except RuntimeError K))
    {tr : List ((ℕ → Outcome) × Memory K)}
    (h : (healthMonitor targets).Run (healthMonitor targets).init tr) :
    System.AllStates Memory.Remembers (healthMonitor targets).init tr ↔
      System.AllSteps (Announces targets) (healthMonitor targets).init tr := by
  have hinit : (healthMonitor targets).init.Remembers :=
    fun key => iff_of_false (Finset.notMem_empty key) (by rintro ⟨⟩)
  have hstep : ∀ m outcomes m', m.Remembers → (healthMonitor targets).step m outcomes m' →
      (m'.Remembers ↔ Announces targets m outcomes m') := by
    rintro m outcomes m' hm ⟨-, rfl⟩
    exact remembers_tick_iff hm outcomes
  rw [System.allStates_iff, and_iff_right hinit]
  exact h.allSteps_iff hstep (fun m l m' hm hst hc => (hstep m l m' hm hst).2 hc) hinit

section Connected

variable {m : Memory K} {outcomes : ℕ → Outcome}

theorem closed_checkTarget {o : Outcome} (hconnected : o.connected = true)
    (hopen : m.closed = false) (target : Except RuntimeError K) :
    (checkTarget m target o).2.closed = false := by
  -- a receiver that is there takes what is sent
  have hsend : ∀ m' : Memory K, m'.closed = false → ∀ change,
      (m'.send o change).closed = false := by
    intro m' hm' change
    have hlost : ¬ m'.Lost o := by simp [Memory.Lost, hm', hconnected]
    rw [send_of_not_lost hlost]
    exact hm'
  cases target with
  | error e => exact hopen
  | ok key =>
    unfold checkTarget
    cases o.checkHealth with
    | error e => exact hopen
    | ok isHealthy =>
      dsimp only
      by_cases hremove : (!isHealthy && !decide (key ∈ m.unhealthyKeys)) = true
      · rw [if_pos hremove]
        exact hsend m hopen _
      · rw [if_neg hremove]
        by_cases hinsert : (isHealthy && decide (key ∈ m.unhealthyKeys)) = true
        · rw [if_pos hinsert]
          cases o.dispatcherNew with
          | error e => exact hopen
          | ok u =>
            exact hsend { m with unhealthyKeys := m.unhealthyKeys.erase key } hopen _
        · rw [if_neg hinsert]
          exact hopen

/-- On a channel that stays open, a verdict goes unannounced only where the dispatcher of a key that
recovers cannot be built, and there the tick ends. -/
theorem unannounced_le_one (hconnected : ∀ i, (outcomes i).connected = true) (key : K)
    (targets : List (Except RuntimeError K)) (i : ℕ) (hopen : m.closed = false) :
    unannounced outcomes key i targets m ≤ 1 := by
  induction targets generalizing i m with
  | nil => exact Nat.zero_le 1
  | cons target targets ih =>
    have hclosed := closed_checkTarget (hconnected i) hopen target
    have hchecked := checkTarget_checked m target (outcomes i)
    rw [unannounced]
    generalize checkTarget m target (outcomes i) = checked at hclosed hchecked
    obtain ⟨result, m'⟩ := checked
    cases result with
    | error e =>
      change _ + 0 ≤ 1
      split
      · exact le_rfl
      · exact Nat.zero_le 1
    | ok u =>
      -- the check went on, so the verdict was announced
      have hnone : ¬ Unannounced m target (outcomes i) key := by
        cases hchecked with
        | nothing _ hnone => exact hnone key
        | announced _ _ _ _ _ _ _ hnone => exact hnone key
        | recorded _ _ _ _ himp =>
          rw [himp rfl] at hclosed
          cases hclosed
      rw [if_neg hnone, Nat.zero_add]
      exact ih (i + 1) hclosed

/-- So on such a channel the ticks that announce are those where none goes unannounced. -/
theorem announces_iff_of_connected (hconnected : ∀ i, (outcomes i).connected = true)
    (targets : List (Except RuntimeError K)) (hopen : m.closed = false) (m' : Memory K) :
    Announces targets m outcomes m' ↔ ∀ key, unannounced outcomes key 0 targets m = 0 := by
  refine forall_congr' fun key => ?_
  have hle := unannounced_le_one hconnected key targets 0 hopen
  obtain h | h := Nat.le_one_iff_eq_zero_or_eq_one.1 hle
  · rw [h]
    exact iff_of_true ⟨0, rfl⟩ rfl
  · rw [h]
    exact iff_of_false Nat.not_even_one Nat.one_ne_zero

end Connected

/-! ### The two monitors -/

/-- **When the health monitors remember what they announced.** The monitor of a weighted strategy
and the one of the latency strategy, for every configuration, and in every run of ticks. -/
theorem remembers_iff (rnd : ℚ → ℚ) (toF64 : ℚ → Option ℚ) (config : RouterConfig) :
    (∀ tr, (healthMonitor (weightedTargets rnd toF64 config)).Run
        (healthMonitor (weightedTargets rnd toF64 config)).init tr →
      (System.AllStates Memory.Remembers
          (healthMonitor (weightedTargets rnd toF64 config)).init tr ↔
        System.AllSteps (Announces (weightedTargets rnd toF64 config))
          (healthMonitor (weightedTargets rnd toF64 config)).init tr)) ∧
    ∀ tr, (healthMonitor (p2cTargets config)).Run (healthMonitor (p2cTargets config)).init tr →
      (System.AllStates Memory.Remembers (healthMonitor (p2cTargets config)).init tr ↔
        System.AllSteps (Announces (p2cTargets config))
          (healthMonitor (p2cTargets config)).init tr) :=
  ⟨fun _ h => remembers_iff_announces _ h, fun _ h => remembers_iff_announces _ h⟩

/-! ### A dispatcher that cannot be built -/

theorem nodup_openAI : [InferenceProvider.openAI].Nodup := List.nodup_singleton _

theorem openAI_ne_nil : [InferenceProvider.openAI] ≠ [] := List.cons_ne_nil _ _

/-- One provider, by latency. -/
def openAIOnly : RouterConfig where
  loadBalance :=
    { entries := [(.chat, .latency ⟨[.openAI], nodup_openAI, openAI_ne_nil⟩)]
      nodup := List.nodup_singleton _ }

/-- The provider is unhealthy; or it is healthy, and its dispatcher can be built or not. -/
def meets (isHealthy : Bool) (dispatcherNew : Except InitError Unit) : ℕ → Outcome :=
  fun _ => ⟨.ok isHealthy, dispatcherNew, true⟩

/-- The provider becomes unhealthy, and recovers. -/
def recovery (dispatcherNew : Except InitError Unit) : List ((ℕ → Outcome) × Memory Key) :=
  let first := tick (p2cTargets openAIOnly) (healthMonitor (p2cTargets openAIOnly)).init
    (meets false (.ok ()))
  [(meets false (.ok ()), first),
    (meets true dispatcherNew, tick (p2cTargets openAIOnly) first (meets true dispatcherNew))]

theorem run_recovery (dispatcherNew : Except InitError Unit) :
    (healthMonitor (p2cTargets openAIOnly)).Run (healthMonitor (p2cTargets openAIOnly)).init
      (recovery dispatcherNew) :=
  .cons ⟨rfl, rfl⟩ (.cons ⟨by decide +kernel, rfl⟩ (.nil _))

theorem remembers_iff_recovery : System.AllStates Memory.Remembers
    (healthMonitor (p2cTargets openAIOnly)).init (recovery (.ok ())) := by
  refine ((remembers_iff id some openAIOnly).2 _ (run_recovery _)).2 ⟨fun key => ?_, fun key => ?_,
    trivial⟩
  · simp [unannounced, p2cTargets, openAIOnly, Unannounced, Memory.Lost, meets, checkTarget,
      healthMonitor]
  · simp [unannounced, p2cTargets, openAIOnly, Unannounced, Memory.Lost, meets, checkTarget,
      healthMonitor, tick, checkTargets, Memory.send, Except.isOk, Except.toBool]

/-- **A key is forgotten and not announced.** Its provider recovers, and its dispatcher cannot be
built. -/
theorem remembers_fails : ¬ ∀ (config : RouterConfig) (tr : List ((ℕ → Outcome) × Memory Key)),
    (healthMonitor (p2cTargets config)).Run (healthMonitor (p2cTargets config)).init tr →
      System.AllStates Memory.Remembers (healthMonitor (p2cTargets config)).init tr := by
  intro h
  have hstates := h openAIOnly _ (run_recovery (.error .dispatcher))
  have hlast := hstates.2 _ (List.mem_cons_of_mem _ List.mem_cons_self) ⟨.openAI, .chat⟩
  revert hlast
  change ¬ (_ ↔ _)
  decide +kernel

end AiGateway.Announced
