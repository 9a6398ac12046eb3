import AiGateway.Monitor.Timers

/-!
# Responses about a provider that is out already

While a provider is out, requests in flight may still be answered with a 429. What do
these later responses do to the restore that is pending?

They are ignored: neither the monitor nor a timer changes. So the timer that was set for
the first response decides alone, and a later one that asks for longer is not respected.

* `ignores_duplicates`: what a response about a provider that is out changes;
* `Covered`: for every response since a key was last inserted there is a timer that runs
  at least as long, if no later one asks for longer than what is pending;
* `backOff`: what holds of every run, also of those in which the monitor fails.
-/

namespace AiGateway

open Transition Tower

variable {K : Type} [DecidableEq K] {parseHttpDate : List Char → Option DateTime}
  {kind : MonitorKind K}

/-! ### What the responses ask for -/

/-- How long a response asks to wait, in nanoseconds: the seconds of its header, 30 by
default, without the buffer. -/
def retryAfterNanos (parseHttpDate : List Char → Option DateTime) (response : TooManyRequests) :
    ℕ :=
  ((response.event parseHttpDate).retryAfterSeconds.getD defaultWaitSeconds).1 * 1000000000

theorem retryAfterNanos_le_waitNanos (response : TooManyRequests) :
    retryAfterNanos parseHttpDate response ≤ waitNanos parseHttpDate response :=
  Nat.le_add_right _ _

/-- The responses received for a key since it was last inserted, with their arrivals: the
one it was removed for and those that came while it was out. -/
def receivedSince (kind : MonitorKind K) (key : K) :
    List (ℕ × RateRecord K) → List (ℕ × TooManyRequests)
  | [] => []
  | (arrival, .received response) :: earlier =>
    if kind.createKeyForEndpoint response.apiEndpoint = some key then
      (arrival, response) :: receivedSince kind key earlier
    else receivedSince kind key earlier
  | (_, .sent (.insert k)) :: earlier => if k = key then [] else receivedSince kind key earlier
  | (_, .sent (.remove _)) :: earlier => receivedSince kind key earlier

/-- What has been received since an insertion of some key was received before as well, and the
insertion was of another key. -/
theorem mem_receivedSince_insert {key k : K} {time : ℕ} {earlier : List (ℕ × RateRecord K)}
    {p : ℕ × TooManyRequests}
    (h : p ∈ receivedSince kind key ((time, .sent (.insert k)) :: earlier)) :
    k ≠ key ∧ p ∈ receivedSince kind key earlier := by
  simp only [receivedSince] at h
  split at h
  · exact absurd h List.not_mem_nil
  · next hne => exact ⟨hne, h⟩

/-- What has been received is the latest response, or was there before. -/
theorem mem_receivedSince_received {key : K} {arrival : ℕ} {response : TooManyRequests}
    {earlier : List (ℕ × RateRecord K)} {p : ℕ × TooManyRequests}
    (h : p ∈ receivedSince kind key ((arrival, .received response) :: earlier)) :
    (kind.createKeyForEndpoint response.apiEndpoint = some key ∧ p = (arrival, response)) ∨
      p ∈ receivedSince kind key earlier := by
  simp only [receivedSince] at h
  split at h
  · next hkey =>
    rcases List.mem_cons.mp h with hp | hp
    · exact Or.inl ⟨hkey, hp⟩
    · exact Or.inr hp
  · exact Or.inr h

/-- No insertion is sent before a response that was received for its key since the key was
last inserted allows it. -/
def Extended (parseHttpDate : List Char → Option DateTime) (kind : MonitorKind K)
    (history : List (ℕ × RateRecord K)) : Prop :=
  ∀ time key earlier, (time, .sent (.insert key)) :: earlier <:+ history →
    ∀ p ∈ receivedSince kind key earlier, p.1 + retryAfterNanos parseHttpDate p.2 ≤ time

/-- An insertion that has waited for all of them. -/
theorem Extended.insert {history : List (ℕ × RateRecord K)}
    (h : Extended parseHttpDate kind history) {time : ℕ} {key : K}
    (hdue : ∀ p ∈ receivedSince kind key history,
      p.1 + retryAfterNanos parseHttpDate p.2 ≤ time) :
    Extended parseHttpDate kind ((time, .sent (.insert key)) :: history) := by
  refine insertions_cons h ?_
  rintro _ _ ⟨⟩
  exact hdue

/-- What is no insertion needs not wait. -/
theorem Extended.other {history : List (ℕ × RateRecord K)}
    (h : Extended parseHttpDate kind history) {time : ℕ} {record : RateRecord K}
    (hother : ∀ key, record ≠ .sent (.insert key)) :
    Extended parseHttpDate kind ((time, record) :: history) := by
  refine insertions_cons h ?_
  rintro _ key ⟨⟩
  exact absurd rfl (hother key)

/-! ### Duplicates -/

/-- A response about a provider that is out changes nothing but the history. -/
def IgnoresDuplicates (kind : MonitorKind K) (s : TimedState K) (l : Option (MonitorAction K))
    (s' : TimedState K) : Prop :=
  ∀ response key, l = some (.rateLimited response) →
    kind.createKeyForEndpoint response.apiEndpoint = some key →
    key ∈ s.monitor.rateLimitedProviders → s'.monitor = s.monitor ∧ s'.timers = s.timers

/-- A response asks for no longer than the timer of its key runs already. -/
def NotLonger (parseHttpDate : List Char → Option DateTime) (kind : MonitorKind K)
    (s : TimedState K) (l : Option (MonitorAction K)) (_s' : TimedState K) : Prop :=
  ∀ response key, l = some (.rateLimited response) →
    kind.createKeyForEndpoint response.apiEndpoint = some key →
    ∀ timer ∈ s.timers, timer.1.key = key →
      s.clock + retryAfterNanos parseHttpDate response ≤ timer.2

omit [DecidableEq K] in
theorem notLonger_of_ne {s s' : TimedState K} {l : Option (MonitorAction K)}
    (h : ∀ response, l ≠ some (.rateLimited response)) : NotLonger parseHttpDate kind s l s' :=
  fun response _ hl => absurd hl (h response)

/-- **Duplicates are ignored**, by every step. -/
theorem ignores_duplicates {s s' : TimedState K} {l : Option (MonitorAction K)}
    (hstep : TimedStep parseHttpDate kind s l s') : IgnoresDuplicates kind s l s' := by
  rintro response key rfl hkey hout
  cases hstep with
  | act _ monitor _ hmonitor =>
    cases hmonitor with
    | rateLimited _ hidle =>
      refine ⟨?_, rfl⟩
      show receiveEvent kind s.monitor response = s.monitor
      simp only [receiveEvent, hkey, if_pos hout]

/-! ### When the monitor has stopped -/

/-- The rate limit monitor has returned an error, or panicked. -/
def Stopped (s : MonitorState K) : Prop := s.rate = .failed ∨ s.rate = .panicked

omit [DecidableEq K] in
/-- In every other stage it is running. -/
theorem not_stopped_of_rate {s : MonitorState K} {stage : RateStage K} (h : s.rate = stage)
    (hfailed : stage ≠ .failed) (hpanicked : stage ≠ .panicked) : ¬ Stopped s := by
  rintro (hs | hs)
  · exact hfailed (h.symm.trans hs)
  · exact hpanicked (h.symm.trans hs)

omit [DecidableEq K] in
/-- Only two actions can fail. -/
theorem succeeds_of_ne {s s' : TimedState K} {l : Option (MonitorAction K)}
    (hfailed : l ≠ some .restoreFailed) (hremove : l ≠ some .rateRemoveSent) :
    Succeeds parseHttpDate s l s' :=
  ⟨hfailed, fun hl => absurd hl hremove⟩

/-- A monitor that has stopped does not start again, and a step that fails stops it. -/
theorem running_of_step {s s' : TimedState K} {l : Option (MonitorAction K)}
    (hstep : TimedStep parseHttpDate kind s l s') (h : ¬ Stopped s'.monitor) :
    ¬ Stopped s.monitor ∧ Succeeds parseHttpDate s l s' := by
  cases hstep with
  | elapse duration => exact ⟨h, succeeds_of_ne (by simp) (by simp)⟩
  | timerFired before after restore deadline hidle htimers hdue =>
    exact ⟨not_stopped_of_rate hidle (by simp) (by simp), succeeds_of_ne (by simp) (by simp)⟩
  | act a monitor ha hmonitor =>
    cases hmonitor with
    | healthCheck key isHealthy hidle =>
      obtain ⟨unhealthy, health, -, -, hframe⟩ := checkHealth_frame s.monitor key isHealthy
      rw [hframe] at h
      exact ⟨h, succeeds_of_ne (by simp) (by simp)⟩
    | healthRemoveSent key hstage hroom => exact ⟨h, succeeds_of_ne (by simp) (by simp)⟩
    | healthInsertSent key hstage hroom => exact ⟨h, succeeds_of_ne (by simp) (by simp)⟩
    | healthFailed key hstage => exact ⟨h, succeeds_of_ne (by simp) (by simp)⟩
    | rateLimited response hidle =>
      exact ⟨not_stopped_of_rate hidle (by simp) (by simp), succeeds_of_ne (by simp) (by simp)⟩
    | rateRemoveSent key response hstage hroom =>
      refine ⟨not_stopped_of_rate hstage (by simp) (by simp), by simp, ?_⟩
      intro _ key' response' hstage' hnone
      obtain ⟨-, rfl⟩ := RateStage.removing.inj (hstage.symm.trans hstage')
      -- a wait that is too long for the clock panics
      refine h (Or.inr ?_)
      simp only [scheduleRestore, hnone]
    | timerFired before after restore hidle hpending => exact absurd rfl (ha restore)
    | restoreSent restore hstage hroom =>
      exact ⟨not_stopped_of_rate hstage (by simp) (by simp), succeeds_of_ne (by simp) (by simp)⟩
    | restoreFailed restore hstage => exact absurd (Or.inl rfl) h
    | delivered =>
      obtain ⟨-, -, -, -, hrate⟩ := deliver_frame s.monitor
      unfold Stopped at h ⊢
      rw [hrate] at h
      exact ⟨h, succeeds_of_ne (by simp) (by simp)⟩

/-! ### The responses that are covered -/

/-- What makes sure that the monitor waits for a response about the key. -/
inductive Covered (parseHttpDate : List Char → Option DateTime) (s : TimedState K) (key : K)
    (p : ℕ × TooManyRequests) : Prop
  /-- The timer of the key ends no earlier. -/
  | pending (timer : ProviderRestore K × ℕ) : timer ∈ s.timers → timer.1.key = key →
      p.1 + retryAfterNanos parseHttpDate p.2 ≤ timer.2 → Covered parseHttpDate s key p
  /-- The time is over. -/
  | restoring (restore : ProviderRestore K) : s.monitor.rate = .restoring restore →
      restore.key = key → p.1 + retryAfterNanos parseHttpDate p.2 ≤ s.clock →
      Covered parseHttpDate s key p
  /-- The timer is about to be set for this very response. -/
  | removing : s.monitor.rate = .removing key p.2 → p.1 ≤ s.clock → Covered parseHttpDate s key p

/-- Every response since the insertion of its key is covered. -/
def AllCovered (parseHttpDate : List Char → Option DateTime) (kind : MonitorKind K)
    (s : TimedState K) : Prop :=
  ∀ key, ∀ p ∈ receivedSince kind key s.history, Covered parseHttpDate s key p

omit [DecidableEq K] in
/-- Steps that leave the rate limit monitor alone. -/
theorem Covered.frame {s s' : TimedState K} {key : K} {p : ℕ × TooManyRequests}
    (h : Covered parseHttpDate s key p) (hclock : s.clock ≤ s'.clock)
    (htimers : s'.timers = s.timers) (hrate : s'.monitor.rate = s.monitor.rate) :
    Covered parseHttpDate s' key p := by
  cases h with
  | pending timer hmem hkey hle => exact .pending timer (by rw [htimers]; exact hmem) hkey hle
  | restoring restore hstage hkey hle =>
    exact .restoring restore (hrate.trans hstage) hkey (hle.trans hclock)
  | removing hstage hle => exact .removing (hrate.trans hstage) (hle.trans hclock)

/-- A response is received that asks for no longer than what is pending for its key. -/
theorem AllCovered.received {s : TimedState K} (h : AllCovered parseHttpDate kind s)
    (hs : TimersInv parseHttpDate kind s) (response : TooManyRequests)
    (hidle : s.monitor.rate = .idle)
    (hle : ∀ key, kind.createKeyForEndpoint response.apiEndpoint = some key →
      ∀ timer ∈ s.timers, timer.1.key = key →
        s.clock + retryAfterNanos parseHttpDate response ≤ timer.2) :
    AllCovered parseHttpDate kind
      ⟨receiveEvent kind s.monitor response, s.clock, s.timers,
        (s.clock, .received response) :: s.history⟩ := by
  intro key p hp
  rcases mem_receivedSince_received hp with ⟨hkey, rfl⟩ | hp
  · by_cases hout : key ∈ s.monitor.rateLimitedProviders
    · -- the key is out, and while the monitor is idle this means that it has a timer
      have hheld := (hs.limited key).mp hout
      simp only [heldBack, hidle] at hheld
      rw [← hs.matched] at hheld
      obtain ⟨restore, hrestore, hrestoreKey⟩ := List.mem_map.mp hheld
      obtain ⟨timer, htimer, rfl⟩ := List.mem_map.mp hrestore
      exact .pending timer htimer hrestoreKey (hle key hkey timer htimer hrestoreKey)
    · -- its removal is sent next, for this response
      refine .removing ?_ le_rfl
      simp only [receiveEvent, hkey, if_neg hout]
  · cases h key p hp with
    | pending timer hmem hkey hdue => exact .pending timer hmem hkey hdue
    | restoring restore hstage _ _ => cases hidle.symm.trans hstage
    | removing hstage _ => cases hidle.symm.trans hstage

/-- A removal is sent, and the timer of its key starts. -/
theorem AllCovered.removed {s : TimedState K} (h : AllCovered parseHttpDate kind s) {key : K}
    {response : TooManyRequests} (hstage : s.monitor.rate = .removing key response)
    {timer : Duration} (htimer : restoreWait (response.event parseHttpDate) = some timer)
    (monitor : MonitorState K) :
    AllCovered parseHttpDate kind
      ⟨monitor, s.clock,
        (⟨key, response.apiEndpoint, timer⟩, s.clock + timer.nanos) :: s.timers,
        (s.clock, .sent (.remove key)) :: s.history⟩ := by
  intro k p hp
  cases h k p hp with
  | pending q hmem hkey hdue => exact .pending q (List.mem_cons_of_mem _ hmem) hkey hdue
  | restoring restore hother _ _ => cases hstage.symm.trans hother
  | removing hremoving hle =>
    obtain ⟨rfl, rfl⟩ := RateStage.removing.inj (hstage.symm.trans hremoving)
    refine .pending _ List.mem_cons_self rfl ?_
    calc p.1 + retryAfterNanos parseHttpDate p.2
        ≤ s.clock + waitNanos parseHttpDate p.2 :=
          Nat.add_le_add hle (retryAfterNanos_le_waitNanos p.2)
      _ = s.clock + timer.nanos := by rw [nanos_of_restoreWait htimer]

omit [DecidableEq K] in
/-- A timer that is due fires: it has run for long enough. -/
theorem Covered.timerFired {s : TimedState K} {key : K} {p : ℕ × TooManyRequests}
    (h : Covered parseHttpDate s key p) {before after : List (ProviderRestore K × ℕ)}
    {restore : ProviderRestore K} {deadline : ℕ} (hidle : s.monitor.rate = .idle)
    (htimers : s.timers = before ++ (restore, deadline) :: after) (hdue : deadline ≤ s.clock)
    {monitor : MonitorState K} (hrate : monitor.rate = .restoring restore) :
    Covered parseHttpDate ⟨monitor, s.clock, before ++ after, s.history⟩ key p := by
  cases h with
  | pending timer hmem hkey hle =>
    rw [htimers] at hmem
    rcases List.mem_cons.mp (List.perm_middle.mem_iff.mp hmem) with rfl | hmem
    · exact .restoring restore hrate hkey (hle.trans hdue)
    · exact .pending timer hmem hkey hle
  | restoring restore hstage _ _ => cases hidle.symm.trans hstage
  | removing hstage _ => cases hidle.symm.trans hstage

/-- **One step** that succeeds covers every response, if the one it may receive asks for no longer
than what is pending. -/
theorem AllCovered.step {s s' : TimedState K} {l : Option (MonitorAction K)}
    (h : AllCovered parseHttpDate kind s) (hs : TimersInv parseHttpDate kind s)
    (hstep : TimedStep parseHttpDate kind s l s') (hok : Succeeds parseHttpDate s l s')
    (hle : NotLonger parseHttpDate kind s l s') : AllCovered parseHttpDate kind s' := by
  cases hstep with
  | elapse duration => exact fun key p hp => (h key p hp).frame (Nat.le_add_right _ _) rfl rfl
  | timerFired before after restore deadline hidle htimers hdue =>
    exact fun key p hp => (h key p hp).timerFired hidle htimers hdue rfl
  | act a monitor ha hmonitor =>
    cases hmonitor with
    | healthCheck key isHealthy hidle =>
      obtain ⟨unhealthy, health, -, -, hframe⟩ := checkHealth_frame s.monitor key isHealthy
      rw [hframe]
      exact fun key p hp => (h key p hp).frame le_rfl rfl rfl
    | healthRemoveSent key hstage hroom => exact fun key p hp => (h key p hp).frame le_rfl rfl rfl
    | healthInsertSent key hstage hroom => exact fun key p hp => (h key p hp).frame le_rfl rfl rfl
    | healthFailed key hstage => exact fun key p hp => (h key p hp).frame le_rfl rfl rfl
    | rateLimited response hidle =>
      exact h.received hs response hidle fun key hkey => hle response key rfl hkey
    | rateRemoveSent key response hstage hroom =>
      obtain ⟨timer, htimer⟩ := Option.ne_none_iff_exists'.mp (hok.2 rfl key response hstage)
      have hremoved := h.removed hstage htimer
      simp only [startTimer, recorded, hstage, htimer]
      exact hremoved _
    | timerFired before after restore hidle hpending => exact absurd rfl (ha restore)
    | restoreSent restore hstage hroom =>
      simp only [startTimer, recorded, hstage]
      intro key p hp
      -- the responses about the key that is back are past
      obtain ⟨hne, hp⟩ := mem_receivedSince_insert hp
      cases h key p hp with
      | pending timer hmem hkey hdue => exact .pending timer hmem hkey hdue
      | restoring restore' hrestoring hkey _ =>
        obtain rfl := RateStage.restoring.inj (hstage.symm.trans hrestoring)
        exact absurd hkey hne
      | removing hremoving _ => cases hstage.symm.trans hremoving
    | restoreFailed restore hstage => exact absurd rfl hok.1
    | delivered =>
      obtain ⟨-, -, -, -, hrate⟩ := deliver_frame s.monitor
      exact fun key p hp => (h key p hp).frame le_rfl rfl hrate

/-! ### Whole runs -/

/-- What a step adds to the history is an insertion only for the key that is being restored. -/
theorem history_of_step {s s' : TimedState K} {l : Option (MonitorAction K)}
    (hstep : TimedStep parseHttpDate kind s l s') :
    s'.history = s.history ∨
      (∃ record, s'.history = (s.clock, record) :: s.history ∧
        ∀ key, record ≠ .sent (.insert key)) ∨
      ∃ restore, s.monitor.rate = .restoring restore ∧
        s'.history = (s.clock, .sent (.insert restore.key)) :: s.history := by
  cases hstep with
  | elapse duration => exact Or.inl rfl
  | timerFired before after restore deadline hidle htimers hdue => exact Or.inl rfl
  | act a monitor ha hmonitor =>
    cases hmonitor with
    | rateLimited response hidle => exact Or.inr (Or.inl ⟨_, rfl, fun _ => by simp⟩)
    | rateRemoveSent key response hstage hroom =>
      refine Or.inr (Or.inl ⟨.sent (.remove key), ?_, fun _ => by simp⟩)
      simp only [recorded, hstage, List.map_cons, List.map_nil, List.cons_append, List.nil_append]
    | restoreSent restore hstage hroom =>
      refine Or.inr (Or.inr ⟨restore, hstage, ?_⟩)
      simp only [recorded, hstage, List.map_cons, List.map_nil, List.cons_append, List.nil_append]
    -- a timer fires in a step of its own
    | timerFired before after restore hidle hpending => exact absurd rfl (ha restore)
    | healthCheck | healthRemoveSent | healthInsertSent | healthFailed | restoreFailed
    | delivered => exact Or.inl rfl

/-- **The invariant of every run.** As long as the monitor has not stopped, its bookkeeping is in
order, and no insertion it has sent came too early. -/
structure BackOffInv (parseHttpDate : List Char → Option DateTime) (kind : MonitorKind K)
    (s : TimedState K) : Prop where
  running : ¬ Stopped s.monitor → TimersInv parseHttpDate kind s
  punctual : Punctual parseHttpDate kind s.history

/-- One step keeps it, whether it succeeds or not. -/
theorem BackOffInv.step {s s' : TimedState K} {l : Option (MonitorAction K)}
    (h : BackOffInv parseHttpDate kind s) (hstep : TimedStep parseHttpDate kind s l s') :
    BackOffInv parseHttpDate kind s' := by
  constructor
  · intro hrunning
    obtain ⟨hbefore, hok⟩ := running_of_step hstep hrunning
    exact (h.running hbefore).step hstep hok
  · rcases history_of_step hstep with heq | ⟨record, heq, hother⟩ | ⟨restore, hstage, heq⟩
    · rw [heq]
      exact h.punctual
    · rw [heq]
      exact h.punctual.other hother
    · have hinv := h.running (not_stopped_of_rate hstage (by simp) (by simp))
      rw [heq]
      exact h.punctual.insert (hinv.fired restore hstage)

/-- What holds in addition if no response asks for longer than what is pending. -/
structure ExtendedInv (parseHttpDate : List Char → Option DateTime) (kind : MonitorKind K)
    (s : TimedState K) : Prop extends BackOffInv parseHttpDate kind s where
  covered : ¬ Stopped s.monitor → AllCovered parseHttpDate kind s
  extended : Extended parseHttpDate kind s.history

theorem ExtendedInv.step {s s' : TimedState K} {l : Option (MonitorAction K)}
    (h : ExtendedInv parseHttpDate kind s) (hstep : TimedStep parseHttpDate kind s l s')
    (hle : NotLonger parseHttpDate kind s l s') : ExtendedInv parseHttpDate kind s' := by
  refine ⟨h.toBackOffInv.step hstep, ?_, ?_⟩
  · intro hrunning
    obtain ⟨hbefore, hok⟩ := running_of_step hstep hrunning
    exact (h.covered hbefore).step (h.running hbefore) hstep hok hle
  · rcases history_of_step hstep with heq | ⟨record, heq, hother⟩ | ⟨restore, hstage, heq⟩
    · rw [heq]
      exact h.extended
    · rw [heq]
      exact h.extended.other hother
    · have hbefore : ¬ Stopped s.monitor := not_stopped_of_rate hstage (by simp) (by simp)
      have hnodup := (h.running hbefore).nodup
      rw [heq]
      refine h.extended.insert ?_
      intro p hp
      cases h.covered hbefore restore.key p hp with
      | pending timer hmem hkey _ =>
        -- the key that is being restored has no timer any more
        rw [heldBack_of_restoring hstage] at hnodup
        refine absurd ?_ (List.nodup_cons.mp hnodup).1
        have hmatched : s.timers.map Prod.fst = s.monitor.pendingRestores :=
          (h.running hbefore).matched
        rw [← hkey, ← hmatched]
        exact List.mem_map_of_mem (List.mem_map_of_mem hmem)
      | restoring _ _ _ hdue => exact hdue
      | removing hremoving _ => cases hstage.symm.trans hremoving

theorem extendedInv_init (keys : List K) :
    ExtendedInv parseHttpDate kind (timedMonitors parseHttpDate kind keys).init where
  running _ := timersInv_init keys
  punctual := (timersInv_init keys).punctual
  covered _ key p hp := absurd hp List.not_mem_nil
  extended time key earlier h := by cases List.suffix_nil.mp h

/-- **When a provider comes back.** In every run, responses about a provider that is out are
ignored, and an insertion is sent no earlier than the response that caused the
removal before it allows. No insertion is sent before any of the responses since the last one
allows it, if none of them asks for longer than what is pending for its key. -/
theorem backOff (parseHttpDate : List Char → Option DateTime) (kind : MonitorKind K)
    (keys : List K) {tr : List (Option (MonitorAction K) × TimedState K)}
    (hrun : (timedMonitors parseHttpDate kind keys).Run
      (timedMonitors parseHttpDate kind keys).init tr) :
    System.AllSteps (IgnoresDuplicates kind) (timedMonitors parseHttpDate kind keys).init tr ∧
      System.AllStates (fun s => Punctual parseHttpDate kind s.history)
        (timedMonitors parseHttpDate kind keys).init tr ∧
      (System.AllSteps (NotLonger parseHttpDate kind)
          (timedMonitors parseHttpDate kind keys).init tr →
        System.AllStates (fun s => Extended parseHttpDate kind s.history)
          (timedMonitors parseHttpDate kind keys).init tr) := by
  have hinit : ExtendedInv parseHttpDate kind (timedMonitors parseHttpDate kind keys).init :=
    extendedInv_init keys
  refine ⟨?_, ?_, ?_⟩
  · have hgood : ∀ s l s', BackOffInv parseHttpDate kind s → TimedStep parseHttpDate kind s l s' →
        IgnoresDuplicates kind s l s' := fun _ _ _ _ hstep => ignores_duplicates hstep
    exact hrun.allSteps (fun _ _ _ hs hstep => hs.step hstep) hgood hinit.toBackOffInv
  · have hinv : System.AllStates (BackOffInv parseHttpDate kind)
        (timedMonitors parseHttpDate kind keys).init tr :=
      hrun.invariant (fun _ _ _ hs hstep => hs.step hstep) hinit.toBackOffInv
    exact hinv.imp fun _ hs => hs.punctual
  -- while no response asks for longer, nothing that is pending is too early
  · intro hle
    have hinv : System.AllStates (ExtendedInv parseHttpDate kind)
        (timedMonitors parseHttpDate kind keys).init tr :=
      hrun.invariant_of_allSteps (fun _ _ _ hs hstep hno => hs.step hstep hno) hinit hle
    exact hinv.imp fun _ hs => hs.extended

/-- OpenAI answers twice that it has had too many requests, the second time after 20 seconds, and is
restored after a minute. -/
theorem backOff_restored :
    ∃ tr : List (Option (MonitorAction Key) × TimedState Key), tr.length = 7 ∧
      System.AllStates (fun s => Extended (fun _ => none) latencyMonitor s.history)
        (timedMonitors (fun _ => none) latencyMonitor [openAIChat]).init tr := by
  have hrun : (timedMonitors (fun _ => none) latencyMonitor [openAIChat]).Run
      (timedMonitors (fun _ => none) latencyMonitor [openAIChat]).init _ :=
    .cons (.act _ _ _ (fun _ h => by cases h) (.rateLimited _ openAITooManyRequests rfl)) <|
    .cons (.act _ _ _ (fun _ h => by cases h)
      (.rateRemoveSent _ openAIChat openAITooManyRequests rfl (by decide))) <|
    .cons (.elapse _ 20000000000) <|
    .cons (.act _ _ _ (fun _ h => by cases h) (.rateLimited _ openAITooManyRequests rfl)) <|
    .cons (.elapse _ 40000000000) <|
    .cons (.timerFired _ [] [] openAIRestore 60000000000 rfl rfl le_rfl) <|
    .cons (.act _ _ _ (fun _ h => by cases h) (.restoreSent _ openAIRestore rfl (by decide))) <|
    .nil _
  refine ⟨_, ?_, (backOff _ _ [openAIChat] hrun).2.2 ?_⟩
  · rfl
  · refine ⟨?_, notLonger_of_ne fun _ => by simp, notLonger_of_ne fun _ => by simp, ?_,
      notLonger_of_ne fun _ => by simp, notLonger_of_ne fun _ => by simp,
      notLonger_of_ne fun _ => by simp, trivial⟩
    · -- there is no timer yet
      intro response key _ _ timer hmem
      exact absurd hmem List.not_mem_nil
    · intro response key hl _ timer hmem _
      obtain rfl : openAITooManyRequests = response := by
        injection hl with haction
        exact MonitorAction.rateLimited.inj haction
      obtain rfl := List.mem_singleton.mp hmem
      show 20000000000 + 30 * 1000000000 ≤ 60000000000
      norm_num

/-- A 429 of OpenAI that asks for a minute. -/
def openAIMinute : TooManyRequests := ⟨.openAI, some [54, 48], 0⟩

/-- OpenAI asks for 30 seconds, and 20 seconds later for a minute: it is back 20 seconds before that
has passed. -/
theorem extended_fails :
    ¬ ∀ (parseHttpDate : List Char → Option DateTime) (keys : List Key)
        (tr : List (Option (MonitorAction Key) × TimedState Key)),
      (timedMonitors parseHttpDate latencyMonitor keys).Run
        (timedMonitors parseHttpDate latencyMonitor keys).init tr →
      System.AllStates (fun s => Extended parseHttpDate latencyMonitor s.history)
        (timedMonitors parseHttpDate latencyMonitor keys).init tr := by
  intro h
  have hrun : (timedMonitors (fun _ => none) latencyMonitor [openAIChat]).Run
      (timedMonitors (fun _ => none) latencyMonitor [openAIChat]).init _ :=
    .cons (.act _ _ _ (fun _ h => by cases h) (.rateLimited _ openAIHalfMinute rfl)) <|
    .cons (.act _ _ _ (fun _ h => by cases h)
      (.rateRemoveSent _ openAIChat openAIHalfMinute rfl (by decide))) <|
    .cons (.elapse _ 20000000000) <|
    .cons (.act _ _ _ (fun _ h => by cases h) (.rateLimited _ openAIMinute rfl)) <|
    .cons (.elapse _ 40000000000) <|
    .cons (.timerFired _ [] [] openAIRestore 60000000000 rfl rfl le_rfl) <|
    .cons (.act _ _ _ (fun _ h => by cases h) (.restoreSent _ openAIRestore rfl (by decide))) <|
    .nil _
  have hlast := (h _ _ _ hrun).finalState
  have hallowed : 20000000000 + 60 * 1000000000 ≤ 60000000000 :=
    hlast 60000000000 openAIChat _ List.suffix_rfl (20000000000, openAIMinute)
      List.mem_cons_self
  exact absurd hallowed (by norm_num)

end AiGateway
