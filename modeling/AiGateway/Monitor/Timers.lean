import AiGateway.Monitor.Exclusion
import Mathlib.Algebra.Ring.Parity
import Mathlib.Data.List.Range

/-!
# The timers and the history of the rate limit monitor

The monitors with a clock. A timer is a deadline, set when the restore is scheduled,
and it fires at its deadline or later, among the timers that are due in any order.
The history records what the rate limit monitor receives and sends, and when.

* `run_untimed`: with the clock and the history forgotten, a run is one of `monitors`;
* `TimersInv`: what is true of every state of a run in which nothing fails: the
  keys held back are those with a restore pending, each of them once, the
  changes of a key go out in turn, and a timer knows the response it is for;
* `bookkeeping`: the parts of it that concern an observer.
-/

namespace AiGateway

open Transition Tower

variable {K : Type} [DecidableEq K]

/-! ### The clock and the history -/

/-- What the rate limit monitor does, as far as others see it. -/
inductive RateRecord (K : Type)
  | received (response : TooManyRequests)
  | sent (change : Change K)

/-- The monitors at a point in time. -/
structure TimedState (K : Type) where
  monitor : MonitorState K
  /-- The time, in nanoseconds. -/
  clock : ℕ
  /-- The pending restores with the deadlines of their timers. -/
  timers : List (ProviderRestore K × ℕ)
  /-- What the rate limit monitor did and when, the newest entry first. -/
  history : List (ℕ × RateRecord K)

/-- The timers after an action other than that of a timer. -/
def startTimer (parseHttpDate : List Char → Option DateTime) (s : TimedState K) :
    MonitorAction K → List (ProviderRestore K × ℕ)
  | .rateRemoveSent =>
    match s.monitor.rate with
    | .removing key response =>
      match restoreWait (response.event parseHttpDate) with
      -- `tokio::time::sleep`, counted from now on
      | some timer => (⟨key, response.apiEndpoint, timer⟩, s.clock + timer.nanos) :: s.timers
      | none => s.timers
    | _ => s.timers
  | _ => s.timers

/-- What an action adds to the history. -/
def recorded (s : MonitorState K) : MonitorAction K → List (RateRecord K)
  | .rateLimited response => [.received response]
  | .rateRemoveSent =>
    match s.rate with
    | .removing key _ => [.sent (.remove key)]
    | _ => []
  | .restoreSent =>
    match s.rate with
    | .restoring restore => [.sent (.insert restore.key)]
    | _ => []
  | _ => []

/-- **The steps with a clock.** Time passes, a timer that is due fires, or the monitors do
anything else that they can do. -/
inductive TimedStep (parseHttpDate : List Char → Option DateTime) (kind : MonitorKind K) :
    TimedState K → Option (MonitorAction K) → TimedState K → Prop
  | elapse (s : TimedState K) (duration : ℕ) :
      TimedStep parseHttpDate kind s none { s with clock := s.clock + duration }
  | timerFired (s : TimedState K) (before after : List (ProviderRestore K × ℕ))
      (restore : ProviderRestore K) (deadline : ℕ) : s.monitor.rate = .idle →
      s.timers = before ++ (restore, deadline) :: after → deadline ≤ s.clock →
      TimedStep parseHttpDate kind s (some (.timerFired restore))
        { s with
          monitor := { s.monitor with
            pendingRestores := (before ++ after).map Prod.fst, rate := .restoring restore }
          timers := before ++ after }
  | act (s : TimedState K) (a : MonitorAction K) (monitor : MonitorState K) :
      (∀ restore, a ≠ .timerFired restore) →
      MonitorStep parseHttpDate kind s.monitor a monitor →
      TimedStep parseHttpDate kind s (some a)
        { s with
          monitor := monitor
          timers := startTimer parseHttpDate s a
          history := (recorded s.monitor a).map (fun r => (s.clock, r)) ++ s.history }

/-- The monitors of a balancer that starts with the services of `keys`, with a clock. -/
def timedMonitors (parseHttpDate : List Char → Option DateTime) (kind : MonitorKind K)
    (keys : List K) : System (TimedState K) (Option (MonitorAction K)) where
  init := ⟨(monitors parseHttpDate kind keys).init, 0, [], []⟩
  step := TimedStep parseHttpDate kind

variable {parseHttpDate : List Char → Option DateTime} {kind : MonitorKind K}

/-- The timers are those of the pending restores. -/
def TimersMatch (s : TimedState K) : Prop := s.timers.map Prod.fst = s.monitor.pendingRestores

/-- What an action other than that of a timer does to the pending restores, it does to
the timers. -/
theorem map_startTimer {s : TimedState K} (h : TimersMatch s) {a : MonitorAction K}
    {monitor : MonitorState K} (ha : ∀ restore, a ≠ .timerFired restore)
    (hstep : MonitorStep parseHttpDate kind s.monitor a monitor) :
    (startTimer parseHttpDate s a).map Prod.fst = monitor.pendingRestores := by
  cases hstep with
  | healthCheck key isHealthy hidle =>
    obtain ⟨unhealthy, health, -, -, hframe⟩ := checkHealth_frame s.monitor key isHealthy
    rw [hframe]
    exact h
  | healthRemoveSent key hstage hroom => exact h
  | healthInsertSent key hstage hroom => exact h
  | healthFailed key hstage => exact h
  | rateLimited response hidle =>
    obtain ⟨rate, hframe⟩ := @receiveEvent_frame K _ kind s.monitor response
    rw [hframe]
    exact h
  | rateRemoveSent key response hstage hroom =>
    -- the only action that starts a timer, if there is a time to wait
    simp only [startTimer, hstage, scheduleRestore]
    cases hw : restoreWait (response.event parseHttpDate) with
    | some timer =>
      rw [List.map_cons]
      exact congrArg _ h
    | none => exact h
  | timerFired before after restore hidle hpending => exact absurd rfl (ha restore)
  | restoreSent restore hstage hroom => exact h
  | restoreFailed restore hstage => exact h
  | delivered =>
    obtain ⟨-, -, -, hpending, -⟩ := deliver_frame s.monitor
    rw [hpending]
    exact h

/-- **The clock only adds to the monitors.** A step is time passing, or a step of the monitors. -/
theorem TimedStep.monitorStep {s s' : TimedState K} {l : Option (MonitorAction K)}
    (h : TimersMatch s) (hstep : TimedStep parseHttpDate kind s l s') :
    TimersMatch s' ∧
      match l with
      | none => s'.monitor = s.monitor
      | some a => MonitorStep parseHttpDate kind s.monitor a s'.monitor := by
  cases hstep with
  | elapse duration => exact ⟨h, rfl⟩
  | timerFired before after restore deadline hidle htimers hdue =>
    refine ⟨rfl, ?_⟩
    unfold TimersMatch at h
    rw [htimers, List.map_append, List.map_cons] at h
    have hfired : MonitorStep parseHttpDate kind s.monitor _ _ :=
      .timerFired s.monitor _ _ restore hidle h.symm
    rw [← List.map_append] at hfired
    exact hfired
  | act a monitor ha hmonitor => exact ⟨map_startTimer h ha hmonitor, hmonitor⟩

/-- A run without the clock. -/
def untimed (tr : List (Option (MonitorAction K) × TimedState K)) :
    List (MonitorAction K × MonitorState K) :=
  tr.filterMap fun p => p.1.map fun a => (a, p.2.monitor)

/-- What is proved of the runs of the monitors holds of their runs with a clock. -/
theorem run_untimed {keys : List K} {s : TimedState K}
    {tr : List (Option (MonitorAction K) × TimedState K)} (hs : TimersMatch s)
    (hrun : (timedMonitors parseHttpDate kind keys).Run s tr) :
    (monitors parseHttpDate kind keys).Run s.monitor (untimed tr) := by
  induction hrun with
  | nil s => exact .nil _
  | @cons s s' l tr hstep hrun ih =>
    obtain ⟨hs', hmonitor⟩ := TimedStep.monitorStep hs hstep
    cases l with
    | none =>
      have hrest := ih hs'
      rw [hmonitor] at hrest
      exact hrest
    | some a => exact .cons hmonitor (ih hs')

/-! ### What an observer sees -/

/-- The changes sent for a key, the oldest first. -/
def changesFor (key : K) : List (ℕ × RateRecord K) → List (Change K)
  | [] => []
  | (_, .received _) :: earlier => changesFor key earlier
  | (_, .sent change) :: earlier =>
    if change.key = key then changesFor key earlier ++ [change] else changesFor key earlier

/-- The change whose turn it is after `n` others: a removal first. -/
def turn (key : K) (n : ℕ) : Change K := if Even n then .remove key else .insert key

/-- Removals and insertions of the key in turn, a removal the first. -/
def InTurn (key : K) (changes : List (Change K)) : Prop :=
  changes = (List.range changes.length).map (turn key)

omit [DecidableEq K] in
theorem InTurn.concat {key : K} {changes : List (Change K)} (h : InTurn key changes) :
    InTurn key (changes ++ [turn key changes.length]) := by
  unfold InTurn at h ⊢
  rw [List.length_append, List.length_singleton, List.range_succ, List.map_append, ← h]
  rfl

/-- A change that is its key's turn keeps every key in turn. -/
theorem inTurn_sent {history : List (ℕ × RateRecord K)}
    (h : ∀ key, InTurn key (changesFor key history)) {change : Change K}
    (hturn : turn change.key (changesFor change.key history).length = change) (time : ℕ) (key : K) :
    InTurn key (changesFor key ((time, .sent change) :: history)) := by
  simp only [changesFor]
  split
  · next heq =>
    subst heq
    have hconcat := (h change.key).concat
    rw [hturn] at hconcat
    exact hconcat
  · exact h key

/-- A change ends the turn of its key, and of no other. -/
theorem odd_length_sent (history : List (ℕ × RateRecord K)) (change : Change K) (time : ℕ)
    (key : K) :
    Odd (changesFor key ((time, .sent change) :: history)).length ↔
      if change.key = key then ¬ Odd (changesFor key history).length
      else Odd (changesFor key history).length := by
  simp only [changesFor]
  split
  · rw [List.length_append, List.length_singleton, Nat.odd_add_one]
  · rfl

/-- The last change sent for the key is a removal, and what was received right before it,
at the time `arrival`, is the response that caused it. -/
inductive LastRemoval (kind : MonitorKind K) (key : K) (arrival : ℕ)
    (response : TooManyRequests) : List (ℕ × RateRecord K) → Prop
  | sent (time : ℕ) (earlier : List (ℕ × RateRecord K)) :
      kind.createKeyForEndpoint response.apiEndpoint = some key →
      LastRemoval kind key arrival response
        ((time, .sent (.remove key)) :: (arrival, .received response) :: earlier)
  | older {time : ℕ} {record : RateRecord K} {earlier : List (ℕ × RateRecord K)} :
      (∀ change, record = .sent change → change.key ≠ key) →
      LastRemoval kind key arrival response earlier →
      LastRemoval kind key arrival response ((time, record) :: earlier)

/-- How long a response keeps its provider out at least, in nanoseconds: the seconds of
the header, 30 by default, and the buffer. -/
def waitNanos (parseHttpDate : List Char → Option DateTime) (response : TooManyRequests) : ℕ :=
  ((response.event parseHttpDate).retryAfterSeconds.getD defaultWaitSeconds).1 * 1000000000 +
    rateLimitBuffer.nanos

/-- The key has been removed for a response, which allows it back at the time `time`. -/
def AllowedBack (parseHttpDate : List Char → Option DateTime) (kind : MonitorKind K)
    (history : List (ℕ × RateRecord K)) (key : K) (time : ℕ) : Prop :=
  ∃ arrival response, LastRemoval kind key arrival response history ∧
    arrival + waitNanos parseHttpDate response ≤ time

/-- Every insertion is preceded by the removal of its key, and sent no earlier than the
response that caused this allows the key back. -/
def Punctual (parseHttpDate : List Char → Option DateTime) (kind : MonitorKind K)
    (history : List (ℕ × RateRecord K)) : Prop :=
  ∀ time key earlier, (time, .sent (.insert key)) :: earlier <:+ history →
    AllowedBack parseHttpDate kind earlier key time

omit [DecidableEq K] in
/-- What is true of every insertion, by what was there before, is true when a record is added, if it
is true of that one. -/
theorem insertions_cons {P : ℕ → K → List (ℕ × RateRecord K) → Prop}
    {history : List (ℕ × RateRecord K)}
    (h : ∀ time key earlier, (time, .sent (.insert key)) :: earlier <:+ history →
      P time key earlier) {entry : ℕ × RateRecord K}
    (hentry : ∀ time key, entry = (time, .sent (.insert key)) → P time key history) :
    ∀ time key earlier, (time, .sent (.insert key)) :: earlier <:+ entry :: history →
      P time key earlier := by
  intro time key earlier hsuffix
  rcases List.suffix_cons_iff.mp hsuffix with heq | hsuffix
  · obtain ⟨hfirst, rfl⟩ := List.cons.inj heq
    exact hentry time key hfirst.symm
  · exact h time key earlier hsuffix

omit [DecidableEq K] in
/-- An insertion that waited may be sent. -/
theorem Punctual.insert {history : List (ℕ × RateRecord K)}
    (h : Punctual parseHttpDate kind history) {time : ℕ} {key : K}
    (hdue : AllowedBack parseHttpDate kind history key time) :
    Punctual parseHttpDate kind ((time, .sent (.insert key)) :: history) := by
  refine insertions_cons h ?_
  rintro _ _ ⟨⟩
  exact hdue

omit [DecidableEq K] in
/-- What is no insertion needs not wait. -/
theorem Punctual.other {history : List (ℕ × RateRecord K)} (h : Punctual parseHttpDate kind history)
    {time : ℕ} {record : RateRecord K} (hother : ∀ key, record ≠ .sent (.insert key)) :
    Punctual parseHttpDate kind ((time, record) :: history) := by
  refine insertions_cons h ?_
  rintro _ key ⟨⟩
  exact absurd rfl (hother key)

/-- The timer runs for as long as the response says. -/
theorem nanos_of_restoreWait {response : TooManyRequests} {timer : Duration}
    (h : restoreWait (response.event parseHttpDate) = some timer) :
    timer.nanos = waitNanos parseHttpDate response := by
  unfold restoreWait at h
  exact (Duration.nanos_of_checkedAdd h).trans (by rw [Duration.nanos_fromSecs]; rfl)

/-! ### The invariant -/

/-- The keys the rate limit monitor holds back: those of the pending restores, behind the
one that is being restored. -/
def heldBack (s : MonitorState K) : List K :=
  match s.rate with
  | .restoring restore => restore.key :: s.pendingRestores.map ProviderRestore.key
  | _ => s.pendingRestores.map ProviderRestore.key

omit [DecidableEq K] in
theorem heldBack_of_restoring {s : MonitorState K} {restore : ProviderRestore K}
    (hstage : s.rate = .restoring restore) :
    heldBack s = restore.key :: s.pendingRestores.map ProviderRestore.key := by
  unfold heldBack
  rw [hstage]

omit [DecidableEq K] in
theorem heldBack_of_ne {s : MonitorState K} (h : ∀ restore, s.rate ≠ .restoring restore) :
    heldBack s = s.pendingRestores.map ProviderRestore.key := by
  unfold heldBack
  split
  · next restore hstage => exact absurd hstage (h restore)
  · rfl

omit [DecidableEq K] in
/-- A restore that is taken out of those that wait is held back still. -/
theorem heldBack_fired {s : MonitorState K} {before after : List (ProviderRestore K)}
    {restore : ProviderRestore K} (hidle : s.rate = .idle)
    (hpending : s.pendingRestores = before ++ restore :: after) :
    (heldBack s).Perm (restore.key :: (before ++ after).map ProviderRestore.key) := by
  have hne : ∀ restore', s.rate ≠ .restoring restore' := fun _ h => by cases hidle.symm.trans h
  rw [heldBack_of_ne hne, hpending]
  exact List.perm_middle.map ProviderRestore.key

omit [DecidableEq K] in
/-- What does not concern the key does not change when it is allowed back. -/
theorem AllowedBack.older {history : List (ℕ × RateRecord K)} {key : K} {t time : ℕ}
    (h : AllowedBack parseHttpDate kind history key time) {record : RateRecord K}
    (hother : ∀ change, record = .sent change → change.key ≠ key) :
    AllowedBack parseHttpDate kind ((t, record) :: history) key time := by
  obtain ⟨arrival, response, hlast, hle⟩ := h
  exact ⟨arrival, response, .older hother hlast, hle⟩

omit [DecidableEq K] in
theorem AllowedBack.mono {history : List (ℕ × RateRecord K)} {key : K} {time time' : ℕ}
    (h : AllowedBack parseHttpDate kind history key time) (hle : time ≤ time') :
    AllowedBack parseHttpDate kind history key time' := by
  obtain ⟨arrival, response, hlast, hwait⟩ := h
  exact ⟨arrival, response, hlast, hwait.trans hle⟩

/-- The monitor is about to remove the key for a response it has just received. -/
def Caused (kind : MonitorKind K) (s : TimedState K) (key : K) (response : TooManyRequests) :
    Prop :=
  key ∉ s.monitor.rateLimitedProviders ∧
    kind.createKeyForEndpoint response.apiEndpoint = some key ∧
    ∃ arrival earlier, s.history = (arrival, .received response) :: earlier ∧ arrival ≤ s.clock

/-- **The invariant of the rate limit monitor.** -/
structure TimersInv (parseHttpDate : List Char → Option DateTime) (kind : MonitorKind K)
    (s : TimedState K) : Prop where
  matched : TimersMatch s
  nodup : (heldBack s.monitor).Nodup
  limited : ∀ key, key ∈ s.monitor.rateLimitedProviders ↔ key ∈ heldBack s.monitor
  caused : ∀ key response, s.monitor.rate = .removing key response → Caused kind s key response
  inTurn : ∀ key, InTurn key (changesFor key s.history)
  /-- A key is held back as long as the last change sent for it is a removal. -/
  isOut : ∀ key, Odd (changesFor key s.history).length ↔ key ∈ s.monitor.rateLimitedProviders
  due : ∀ p ∈ s.timers, AllowedBack parseHttpDate kind s.history p.1.key p.2
  fired : ∀ restore, s.monitor.rate = .restoring restore →
    AllowedBack parseHttpDate kind s.history restore.key s.clock
  punctual : Punctual parseHttpDate kind s.history

theorem timersInv_init (keys : List K) :
    TimersInv parseHttpDate kind (timedMonitors parseHttpDate kind keys).init where
  matched := rfl
  nodup := List.nodup_nil
  limited key := iff_of_false (Finset.notMem_empty key) List.not_mem_nil
  caused key response h := by cases h
  inTurn key := rfl
  isOut key := iff_of_false (fun h => by cases Nat.not_odd_zero h) (Finset.notMem_empty key)
  due p hp := absurd hp List.not_mem_nil
  fired restore h := by cases h
  punctual time key earlier h := by cases List.suffix_nil.mp h

/-- A key the monitor does not hold back has no timer. -/
theorem TimersInv.key_ne_of_notMem {s : TimedState K} (h : TimersInv parseHttpDate kind s)
    {key : K} (hkey : key ∉ s.monitor.rateLimitedProviders) :
    ∀ p ∈ s.timers, key ≠ p.1.key := by
  rintro p hp rfl
  have hpending : p.1 ∈ s.monitor.pendingRestores := by
    rw [← h.matched]
    exact List.mem_map_of_mem hp
  have hmem : p.1.key ∈ s.monitor.pendingRestores.map ProviderRestore.key :=
    List.mem_map_of_mem hpending
  refine hkey ((h.limited p.1.key).mpr ?_)
  unfold heldBack
  split
  · exact List.mem_cons_of_mem _ hmem
  · exact hmem

/-! ### Steps -/

/-- Steps that leave the rate limit monitor alone. -/
theorem TimersInv.frame {s : TimedState K} (h : TimersInv parseHttpDate kind s)
    {monitor : MonitorState K} {clock : ℕ} (hclock : s.clock ≤ clock)
    (hlimited : monitor.rateLimitedProviders = s.monitor.rateLimitedProviders)
    (hpending : monitor.pendingRestores = s.monitor.pendingRestores)
    (hrate : monitor.rate = s.monitor.rate) :
    TimersInv parseHttpDate kind ⟨monitor, clock, s.timers, s.history⟩ := by
  have hheld : heldBack monitor = heldBack s.monitor := by
    unfold heldBack
    rw [hrate, hpending]
  -- only what speaks of the monitor or of the clock has to be looked at again
  refine ⟨h.matched.trans hpending.symm, ?_, ?_, ?_, h.inTurn, ?_, h.due, ?_, h.punctual⟩
  · change (heldBack monitor).Nodup
    rw [hheld]
    exact h.nodup
  · intro key
    change key ∈ monitor.rateLimitedProviders ↔ key ∈ heldBack monitor
    rw [hlimited, hheld]
    exact h.limited key
  · intro key response hstage
    obtain ⟨hnot, hkey, arrival, earlier, hhistory, hle⟩ :=
      h.caused key response (hrate.symm.trans hstage)
    refine ⟨?_, hkey, arrival, earlier, hhistory, hle.trans hclock⟩
    change key ∉ monitor.rateLimitedProviders
    rw [hlimited]
    exact hnot
  · intro key
    change _ ↔ key ∈ monitor.rateLimitedProviders
    rw [hlimited]
    exact h.isOut key
  · intro restore hstage
    exact (h.fired restore (hrate.symm.trans hstage)).mono hclock

/-- A response is received: its key is held back already, or about to be removed. -/
theorem TimersInv.received {s : TimedState K} (h : TimersInv parseHttpDate kind s)
    (response : TooManyRequests) (hidle : s.monitor.rate = .idle) :
    TimersInv parseHttpDate kind
      ⟨receiveEvent kind s.monitor response, s.clock, s.timers,
        (s.clock, .received response) :: s.history⟩ := by
  have hother : ∀ key, ∀ change : Change K, RateRecord.received response = .sent change →
      change.key ≠ key := fun _ _ heq => by cases heq
  -- a key that is about to be removed is not held back yet
  have hheld : heldBack (receiveEvent kind s.monitor response) = heldBack s.monitor := by
    unfold receiveEvent
    split
    · simp only [heldBack, hidle]
    · split
      · rfl
      · simp only [heldBack, hidle]
  obtain ⟨rate, hframe⟩ := @receiveEvent_frame K _ kind s.monitor response
  refine ⟨?_, ?_, ?_, ?_, h.inTurn, ?_, ?_, ?_, h.punctual.other (fun _ heq => by cases heq)⟩
  · rw [hframe]
    exact h.matched
  · rw [hheld]
    exact h.nodup
  · intro key
    change key ∈ (receiveEvent kind s.monitor response).rateLimitedProviders ↔
      key ∈ heldBack (receiveEvent kind s.monitor response)
    rw [hheld, hframe]
    exact h.limited key
  · intro key r hstage
    simp only [receiveEvent] at hstage
    unfold Caused
    rw [hframe]
    -- the stage is a removal only of a key that was not limited
    split at hstage
    · cases hstage
    · next k hk =>
      split at hstage
      · rw [hidle] at hstage
        cases hstage
      · next hnot =>
        cases hstage
        exact ⟨hnot, hk, s.clock, s.history, rfl, le_rfl⟩
  · intro key
    rw [hframe]
    exact h.isOut key
  · intro p hp
    exact (h.due p hp).older (hother p.1.key)
  · intro restore hstage
    simp only [receiveEvent] at hstage
    split at hstage
    · cases hstage
    · split at hstage
      · rw [hidle] at hstage
        cases hstage
      · cases hstage

theorem scheduleRestore_eq (s : MonitorState K) (key : K) {response : TooManyRequests}
    {timer : Duration} (htimer : restoreWait (response.event parseHttpDate) = some timer) :
    scheduleRestore parseHttpDate kind s key response =
      { s with
        rateLimitedProviders := insert key s.rateLimitedProviders
        pendingRestores := ⟨key, response.apiEndpoint, timer⟩ :: s.pendingRestores
        rate := .idle } := by
  unfold scheduleRestore
  rw [htimer]

/-- A removal is sent, and the timer of its key starts. -/
theorem TimersInv.removed {s : TimedState K} (h : TimersInv parseHttpDate kind s) {key : K}
    {response : TooManyRequests} (hstage : s.monitor.rate = .removing key response)
    {timer : Duration} (htimer : restoreWait (response.event parseHttpDate) = some timer) :
    TimersInv parseHttpDate kind
      ⟨scheduleRestore parseHttpDate kind (s.monitor.send (.remove key)) key response, s.clock,
        (⟨key, response.apiEndpoint, timer⟩, s.clock + timer.nanos) :: s.timers,
        (s.clock, .sent (.remove key)) :: s.history⟩ := by
  obtain ⟨hnot, hkey, arrival, earlier, hhistory, hle⟩ := h.caused key response hstage
  -- nothing is being restored, so what is held back are the restores that are pending
  have hheld : heldBack s.monitor = s.monitor.pendingRestores.map ProviderRestore.key :=
    heldBack_of_ne fun restore h => by cases hstage.symm.trans h
  -- the key has no timer yet, or it would have been removed before
  have hpending : key ∉ s.monitor.pendingRestores.map ProviderRestore.key := by
    intro hmem
    rw [h.limited, hheld] at hnot
    exact hnot hmem
  rw [scheduleRestore_eq (s.monitor.send (.remove key)) key htimer]
  refine ⟨congrArg _ h.matched, ?_, ?_, (fun k r hk => by cases hk), ?_, ?_, ?_,
    (fun restore hk => by cases hk), h.punctual.other (fun _ heq => by cases heq)⟩
  · change (key :: s.monitor.pendingRestores.map ProviderRestore.key).Nodup
    have hnodup := h.nodup
    rw [hheld] at hnodup
    exact List.nodup_cons.mpr ⟨hpending, hnodup⟩
  · intro k
    change k ∈ insert key s.monitor.rateLimitedProviders ↔
      k ∈ key :: s.monitor.pendingRestores.map ProviderRestore.key
    rw [Finset.mem_insert, List.mem_cons, h.limited, hheld]
  · -- the key is in the balancer, so that it is the turn of a removal
    refine inTurn_sent h.inTurn ?_ s.clock
    exact if_pos (Nat.not_odd_iff_even.mp fun hodd => hnot ((h.isOut key).mp hodd))
  · intro k
    change _ ↔ k ∈ insert key s.monitor.rateLimitedProviders
    rw [odd_length_sent, Finset.mem_insert, h.isOut]
    split
    · next heq =>
      obtain rfl : key = k := heq
      exact iff_of_true hnot (Or.inl rfl)
    · next hne => exact (or_iff_right fun heq => hne heq.symm).symm
  · intro p hp
    rcases List.mem_cons.mp hp with rfl | hp
    · -- the timer runs from now on, so it is not due before the time counted from the arrival
      refine ⟨arrival, response, ?_, ?_⟩
      · rw [hhistory]
        exact .sent s.clock earlier hkey
      · rw [← nanos_of_restoreWait htimer]
        exact Nat.add_le_add_right hle _
    · refine (h.due p hp).older ?_
      intro change heq
      cases heq
      exact h.key_ne_of_notMem hnot p hp

/-- A timer that is due fires: its key is still held back. -/
theorem TimersInv.timerFired {s : TimedState K} (h : TimersInv parseHttpDate kind s)
    {before after : List (ProviderRestore K × ℕ)} {restore : ProviderRestore K} {deadline : ℕ}
    (hidle : s.monitor.rate = .idle) (htimers : s.timers = before ++ (restore, deadline) :: after)
    (hdue : deadline ≤ s.clock) :
    TimersInv parseHttpDate kind
      ⟨{ s.monitor with
          pendingRestores := (before ++ after).map Prod.fst, rate := .restoring restore },
        s.clock, before ++ after, s.history⟩ := by
  have hpending : s.monitor.pendingRestores =
      before.map Prod.fst ++ restore :: after.map Prod.fst := by
    rw [← h.matched, htimers, List.map_append, List.map_cons]
  -- up to the order, the keys held back are the same
  have hperm := heldBack_fired hidle hpending
  rw [← List.map_append] at hperm
  refine ⟨rfl, hperm.nodup_iff.mp h.nodup, ?_, (fun k r hk => by cases hk), h.inTurn, h.isOut,
    ?_, ?_, h.punctual⟩
  · intro k
    exact (h.limited k).trans hperm.mem_iff
  · intro p hp
    refine h.due p ?_
    rw [htimers]
    exact List.perm_middle.mem_iff.mpr (List.mem_cons_of_mem _ hp)
  · intro r hr
    cases hr
    refine (h.due (restore, deadline) ?_).mono hdue
    rw [htimers]
    exact List.mem_append_right before List.mem_cons_self

/-- The service of a key is sent, and the key is no longer held back. -/
theorem TimersInv.restored {s : TimedState K} (h : TimersInv parseHttpDate kind s)
    {restore : ProviderRestore K} (hstage : s.monitor.rate = .restoring restore) :
    TimersInv parseHttpDate kind
      ⟨{ s.monitor.send (.insert restore.key) with
          rateLimitedProviders := s.monitor.rateLimitedProviders.erase restore.key,
          rate := .idle },
        s.clock, s.timers, (s.clock, .sent (.insert restore.key)) :: s.history⟩ := by
  have hheld := heldBack_of_restoring hstage
  have hnodup := h.nodup
  rw [hheld] at hnodup
  obtain ⟨hnot, hnodup⟩ := List.nodup_cons.mp hnodup
  have hmem : restore.key ∈ s.monitor.rateLimitedProviders := by
    rw [h.limited, hheld]
    exact List.mem_cons_self
  refine ⟨h.matched, hnodup, ?_, (fun k r hk => by cases hk), ?_, ?_, ?_,
    (fun r hk => by cases hk), h.punctual.insert (h.fired restore hstage)⟩
  · intro k
    change k ∈ s.monitor.rateLimitedProviders.erase restore.key ↔
      k ∈ s.monitor.pendingRestores.map ProviderRestore.key
    rw [Finset.mem_erase, h.limited, hheld, List.mem_cons]
    constructor
    · rintro ⟨hne, hk⟩
      exact hk.resolve_left hne
    · intro hk
      refine ⟨?_, Or.inr hk⟩
      rintro rfl
      exact hnot hk
  · refine inTurn_sent h.inTurn ?_ s.clock
    exact if_neg (Nat.not_even_iff_odd.mpr ((h.isOut restore.key).mpr hmem))
  · intro k
    change _ ↔ k ∈ s.monitor.rateLimitedProviders.erase restore.key
    rw [odd_length_sent, Finset.mem_erase, h.isOut]
    split
    · next heq =>
      obtain rfl : restore.key = k := heq
      exact iff_of_false (fun hno => hno hmem) (fun hk => hk.1 rfl)
    · next hne => exact (and_iff_right fun heq => hne heq.symm).symm
  · intro p hp
    refine (h.due p hp).older ?_
    intro change heq
    cases heq
    -- a pending restore has another key
    change restore.key ≠ p.1.key
    intro hkey
    refine hnot ?_
    rw [hkey, ← h.matched]
    exact List.mem_map_of_mem (List.mem_map_of_mem hp)

/-- What the results assume of a step: dispatchers can be built, and the number of seconds
of a response does not overflow with the buffer. -/
def Succeeds (parseHttpDate : List Char → Option DateTime) (s : TimedState K)
    (l : Option (MonitorAction K)) (_s' : TimedState K) : Prop :=
  l ≠ some .restoreFailed ∧
    (l = some .rateRemoveSent → ∀ key response, s.monitor.rate = .removing key response →
      restoreWait (response.event parseHttpDate) ≠ none)

/-- **One step** keeps the invariant, if it succeeds. -/
theorem TimersInv.step {s s' : TimedState K} {l : Option (MonitorAction K)}
    (h : TimersInv parseHttpDate kind s) (hstep : TimedStep parseHttpDate kind s l s')
    (hok : Succeeds parseHttpDate s l s') : TimersInv parseHttpDate kind s' := by
  cases hstep with
  | elapse duration => exact h.frame (Nat.le_add_right _ _) rfl rfl rfl
  | timerFired before after restore deadline hidle htimers hdue =>
    exact h.timerFired hidle htimers hdue
  | act a monitor ha hmonitor =>
    cases hmonitor with
    | healthCheck key isHealthy hidle =>
      obtain ⟨unhealthy, health, -, -, hframe⟩ := checkHealth_frame s.monitor key isHealthy
      rw [hframe]
      exact h.frame le_rfl rfl rfl rfl
    | healthRemoveSent key hstage hroom => exact h.frame le_rfl rfl rfl rfl
    | healthInsertSent key hstage hroom => exact h.frame le_rfl rfl rfl rfl
    | healthFailed key hstage => exact h.frame le_rfl rfl rfl rfl
    | rateLimited response hidle => exact h.received response hidle
    | rateRemoveSent key response hstage hroom =>
      -- the step succeeds, so there is a time to wait
      obtain ⟨timer, htimer⟩ := Option.ne_none_iff_exists'.mp (hok.2 rfl key response hstage)
      have hremoved := h.removed hstage htimer
      simp only [startTimer, recorded, hstage, htimer]
      exact hremoved
    | timerFired before after restore hidle hpending => exact absurd rfl (ha restore)
    | restoreSent restore hstage hroom =>
      have hrestored := h.restored hstage
      simp only [startTimer, recorded, hstage]
      exact hrestored
    | restoreFailed restore hstage => exact absurd rfl hok.1
    | delivered =>
      obtain ⟨-, -, hlimited, hpending, hrate⟩ := deliver_frame s.monitor
      exact h.frame le_rfl hlimited hpending hrate

/-! ### Whole runs -/

/-- The bookkeeping between the rounds of the monitor's loop, and within the round that
restores a key. -/
def Consistent (s : MonitorState K) : Prop :=
  (s.pendingRestores.map ProviderRestore.key).Nodup ∧
    match s.rate with
    | .restoring restore =>
      restore.key ∉ s.pendingRestores.map ProviderRestore.key ∧
        s.rateLimitedProviders =
          insert restore.key (s.pendingRestores.map ProviderRestore.key).toFinset
    | _ => s.rateLimitedProviders = (s.pendingRestores.map ProviderRestore.key).toFinset

theorem TimersInv.consistent {s : TimedState K} (h : TimersInv parseHttpDate kind s) :
    Consistent s.monitor := by
  have hnodup := h.nodup
  have hlimited := h.limited
  unfold heldBack at hnodup hlimited
  unfold Consistent
  cases hrate : s.monitor.rate with
  | restoring restore =>
    rw [hrate] at hnodup hlimited
    obtain ⟨hnot, hnodup⟩ := List.nodup_cons.mp hnodup
    refine ⟨hnodup, hnot, ?_⟩
    ext key
    rw [hlimited key, Finset.mem_insert, List.mem_toFinset, List.mem_cons]
  | idle | removing | failed | panicked =>
    rw [hrate] at hnodup hlimited
    refine ⟨hnodup, ?_⟩
    ext key
    rw [hlimited key, List.mem_toFinset]

/-- **The bookkeeping over whole runs.** In every state of a run that succeeds, the keys
held back are those of the pending restores, each of which has a key of its own; the changes
sent for each key are a removal, an insertion, and so on in turn; and every insertion
is sent when the response that caused the removal before it allows it. -/
theorem bookkeeping (parseHttpDate : List Char → Option DateTime) (kind : MonitorKind K)
    (keys : List K) {tr : List (Option (MonitorAction K) × TimedState K)}
    (hrun : (timedMonitors parseHttpDate kind keys).Run
      (timedMonitors parseHttpDate kind keys).init tr)
    (hok : System.AllSteps (Succeeds parseHttpDate)
      (timedMonitors parseHttpDate kind keys).init tr) :
    System.AllStates
      (fun s => Consistent s.monitor ∧ (∀ key, InTurn key (changesFor key s.history)) ∧
        Punctual parseHttpDate kind s.history)
      (timedMonitors parseHttpDate kind keys).init tr := by
  have hinv : System.AllStates (TimersInv parseHttpDate kind)
      (timedMonitors parseHttpDate kind keys).init tr :=
    hrun.invariant_of_allSteps (fun _ _ _ hs hstep hsucc => hs.step hstep hsucc)
      (timersInv_init keys) hok
  exact hinv.imp fun _ hs => ⟨hs.consistent, hs.inTurn, hs.punctual⟩

/-- OpenAI is rate limited, and restored after a minute. -/
theorem bookkeeping_restored :
    ∃ tr : List (Option (MonitorAction Key) × TimedState Key), tr.length = 5 ∧
      System.AllStates
        (fun s => Consistent s.monitor ∧ (∀ key, InTurn key (changesFor key s.history)) ∧
          Punctual (fun _ => none) latencyMonitor s.history)
        (timedMonitors (fun _ => none) latencyMonitor [openAIChat]).init tr := by
  have hrun : (timedMonitors (fun _ => none) latencyMonitor [openAIChat]).Run
      (timedMonitors (fun _ => none) latencyMonitor [openAIChat]).init _ :=
    .cons (.act _ _ _ (fun _ h => by cases h) (.rateLimited _ openAITooManyRequests rfl)) <|
    .cons (.act _ _ _ (fun _ h => by cases h)
      (.rateRemoveSent _ openAIChat openAITooManyRequests rfl (by decide))) <|
    .cons (.elapse _ 60000000000) <|
    .cons (.timerFired _ [] [] openAIRestore 60000000000 rfl rfl le_rfl) <|
    .cons (.act _ _ _ (fun _ h => by cases h) (.restoreSent _ openAIRestore rfl (by decide))) <|
    .nil _
  refine ⟨_, ?_, bookkeeping _ _ [openAIChat] hrun ?_⟩
  · rfl
  · refine ⟨⟨(fun h => by cases h), (fun h => by cases h)⟩, ⟨(fun h => by cases h), ?_⟩,
      ⟨(fun h => by cases h), (fun h => by cases h)⟩,
      ⟨(fun h => by cases h), (fun h => by cases h)⟩,
      ⟨(fun h => by cases h), (fun h => by cases h)⟩, trivial⟩
    intro _ key response hstage hnone
    obtain rfl : openAITooManyRequests = response := (RateStage.removing.inj hstage).2
    cases hnone

end AiGateway
