import AiGateway.Monitor.System
import Mathlib.Data.Finset.Card

/-!
# The ticks of the health monitor

`HealthMonitor::run_forever` of `monitor/health/provider.rs`. At each tick the checks of all
routers are started and joined, and the next tick waits for the last of them. A check goes
through the keys of its router, and sends a change for each key whose verdict is new. The
verdicts are those of the providers, which all routers share; the channel of each router is
emptied by its balancer, which is polled only while a request is queued for the router.

* `exists_run_monitor`: what a router sees is a run of its monitors;
* `due_of_step`, `hasRoom_of_run`: the changes in a channel are paid for by changes of verdicts;
* `tick_notMem_of_stuck`: a full channel stops the ticks until the balancer is polled;
* `unreceived_spec`: the changes that a balancer has not received.
-/

namespace AiGateway.Ticks

open Transition Tower

variable {ι : Type} [DecidableEq ι] {K : ι → Type} [∀ r, DecidableEq (K r)]

/-! ### The state -/

/-- What the monitors know of a router: its strategy, and the keys of its services. -/
structure Watch (K : Type) where
  kind : MonitorKind K
  provider : K → InferenceProvider
  keys : List K

/-- A router with its monitors. -/
structure Lane (K : Type) where
  monitor : MonitorState K
  /-- The keys that the check of this tick still has to look at. -/
  todo : List K
  /-- The requests in the queue of the balancer. -/
  queued : ℕ

/-- The routers, and the verdict that the metrics of each provider lead to. -/
structure Gateway (K : ι → Type) where
  lanes : ∀ r, Lane (K r)
  healthy : InferenceProvider → Bool

/-- The check of a router is over. -/
def Lane.AtRest {K : Type} (lane : Lane K) : Prop := lane.todo = [] ∧ lane.monitor.health = .idle

/-- No check has returned an error: the first one ends the health monitor. -/
def Gateway.Alive (s : Gateway K) : Prop := ∀ r, (s.lanes r).monitor.health ≠ .failed

def Gateway.setLane (s : Gateway K) (r : ι) (lane : Lane (K r)) : Gateway K :=
  { s with lanes := Function.update s.lanes r lane }

def Gateway.setMonitor (s : Gateway K) (r : ι) (monitor : MonitorState (K r)) : Gateway K :=
  s.setLane r { s.lanes r with monitor := monitor }

/-- The balancer receives everything that discovery has. -/
def receiveAll {K : Type} [DecidableEq K] (s : MonitorState K) : MonitorState K :=
  { s with
    initial := []
    events := []
    services := drain s.services (s.initial.map Change.insert ++ s.events) }

/-- The worker polls the balancer, which takes a request if it has a service. -/
def Lane.poll {K : Type} [DecidableEq K] (lane : Lane K) : Lane K :=
  let monitor := receiveAll lane.monitor
  { lane with
    monitor := monitor
    queued := if monitor.services.Nonempty then lane.queued - 1 else lane.queued }

/-! ### The steps -/

/-- An action of the health monitor after its decision. -/
def isHealth {K : Type} : MonitorAction K → Bool
  | .healthRemoveSent => true
  | .healthInsertSent => true
  | .healthFailed => true
  | _ => false

/-- An action of the rate limit monitor. -/
def isRate {K : Type} : MonitorAction K → Bool
  | .rateLimited _ => true
  | .rateRemoveSent => true
  | .timerFired _ => true
  | .restoreSent => true
  | .restoreFailed => true
  | _ => false

theorem isHealth_of_isRate {K : Type} {a : MonitorAction K} (h : isRate a) :
    isHealth a = false := by
  cases a <;> first | rfl | cases h

inductive Label (K : ι → Type)
  /-- The verdict on a provider changes. -/
  | health (provider : InferenceProvider)
  | tick
  /-- The check of a router looks at its next key. -/
  | check (r : ι)
  /-- The monitors of a router go on. -/
  | act (r : ι) (a : MonitorAction (K r))
  | request (r : ι)
  | poll (r : ι)

section Steps

variable (parseHttpDate : List Char → Option DateTime) (watch : ∀ r, Watch (K r))

/-- **The steps of the system.** -/
inductive TickStep : Gateway K → Label K → Gateway K → Prop
  | health (s : Gateway K) (provider : InferenceProvider) :
      TickStep s (.health provider)
        { s with healthy := Function.update s.healthy provider !s.healthy provider }
  | tick (s : Gateway K) : (∀ r, (s.lanes r).AtRest) →
      TickStep s .tick
        { s with lanes := fun r => { s.lanes r with todo := (watch r).keys } }
  | check (s : Gateway K) (r : ι) (key : K r) (todo : List (K r)) : s.Alive →
      (s.lanes r).monitor.health = .idle → (s.lanes r).todo = key :: todo →
      TickStep s (.check r)
        (s.setLane r { s.lanes r with
          monitor := checkHealth (s.lanes r).monitor key (s.healthy ((watch r).provider key))
          todo := todo })
  | healthAct (s : Gateway K) (r : ι) (a : MonitorAction (K r)) (monitor : MonitorState (K r)) :
      s.Alive → isHealth a →
      MonitorStep parseHttpDate (watch r).kind (s.lanes r).monitor a monitor →
      TickStep s (.act r a) (s.setMonitor r monitor)
  | rateAct (s : Gateway K) (r : ι) (a : MonitorAction (K r)) (monitor : MonitorState (K r)) :
      isRate a → MonitorStep parseHttpDate (watch r).kind (s.lanes r).monitor a monitor →
      TickStep s (.act r a) (s.setMonitor r monitor)
  | request (s : Gateway K) (r : ι) :
      TickStep s (.request r) (s.setLane r { s.lanes r with queued := (s.lanes r).queued + 1 })
  | poll (s : Gateway K) (r : ι) : 0 < (s.lanes r).queued →
      TickStep s (.poll r) (s.setLane r (s.lanes r).poll)

/-- The gateway as it starts, with all providers healthy. -/
def ticks : System (Gateway K) (Label K) where
  init :=
    { lanes := fun r => ⟨(monitors parseHttpDate (watch r).kind (watch r).keys).init, [], 0⟩
      healthy := fun _ => true }
  step := TickStep parseHttpDate watch

end Steps

/-! ### The lanes -/

section Lanes

variable {s : Gateway K} {r r' : ι}

omit [∀ r, DecidableEq (K r)]

@[simp] theorem lanes_setLane_self (lane : Lane (K r)) : (s.setLane r lane).lanes r = lane := by
  unfold Gateway.setLane
  exact Function.update_self ..

theorem lanes_setLane_ne (h : r' ≠ r) (lane : Lane (K r)) :
    (s.setLane r lane).lanes r' = s.lanes r' := by
  unfold Gateway.setLane
  exact Function.update_of_ne h ..

/-- When one lane is set, the others need to be looked at as they were. -/
theorem forall_setLane {P : ∀ r, Lane (K r) → Prop} {lane : Lane (K r')} (hself : P r' lane)
    (hothers : ∀ r, r ≠ r' → P r (s.lanes r)) (r : ι) : P r ((s.setLane r' lane).lanes r) := by
  unfold Gateway.setLane
  exact (Function.forall_update_iff s.lanes P).mpr ⟨hself, hothers⟩ r

@[simp] theorem monitor_setMonitor_self (monitor : MonitorState (K r)) :
    ((s.setMonitor r monitor).lanes r).monitor = monitor := by
  unfold Gateway.setMonitor
  rw [lanes_setLane_self]

@[simp] theorem todo_setMonitor_self (monitor : MonitorState (K r)) :
    ((s.setMonitor r monitor).lanes r).todo = (s.lanes r).todo := by
  unfold Gateway.setMonitor
  rw [lanes_setLane_self]

end Lanes

/-! ### What a router sees -/

section Monitors

variable {K : Type} [DecidableEq K] {parseHttpDate : List Char → Option DateTime}
  {kind : MonitorKind K} {keys : List K}

/-- A delivery is the first part of a poll. -/
theorem receiveAll_deliver (s : MonitorState K) : receiveAll (deliver s) = receiveAll s := by
  unfold deliver
  split
  · next key initial hinitial =>
    unfold receiveAll
    rw [hinitial]
    rfl
  · next change events hinitial hevents =>
    unfold receiveAll
    rw [hinitial, hevents]
    rfl
  · rfl

/-- It takes one change from what is there. -/
theorem length_deliver {s : MonitorState K} {n : ℕ}
    (h : s.initial.length + s.events.length = n + 1) :
    (deliver s).initial.length + (deliver s).events.length = n := by
  unfold deliver
  split
  · next key initial hinitial =>
    rw [hinitial, List.length_cons] at h
    show initial.length + s.events.length = n
    omega
  · next change events hinitial hevents =>
    rw [hinitial, hevents, List.length_cons] at h
    show s.initial.length + events.length = n
    rw [hinitial]
    omega
  · next hinitial hevents =>
    rw [hinitial, hevents] at h
    cases h

/-- A poll is as many deliveries as there are changes. -/
theorem exists_run_receiveAll (s : MonitorState K) :
    ∃ tr, (monitors parseHttpDate kind keys).Run s tr ∧ System.finalState s tr = receiveAll s := by
  generalize hn : s.initial.length + s.events.length = n
  induction n generalizing s with
  | zero =>
    refine ⟨[], .nil s, ?_⟩
    obtain ⟨hinitial, hevents⟩ := Nat.add_eq_zero_iff.mp hn
    cases s
    cases List.eq_nil_of_length_eq_zero hinitial
    cases List.eq_nil_of_length_eq_zero hevents
    rfl
  | succ n ih =>
    obtain ⟨tr, hrun, hfinal⟩ := ih (deliver s) (length_deliver hn)
    refine ⟨(.delivered, deliver s) :: tr, .cons (.delivered s) hrun, ?_⟩
    rw [System.finalState_cons, hfinal, receiveAll_deliver]

end Monitors

variable {parseHttpDate : List Char → Option DateTime} {watch : ∀ r, Watch (K r)}
  {s s' : Gateway K} {l : Label K} {r : ι}

/-- A step is a few steps of the monitors of each router. -/
theorem exists_run_monitor_of_step (h : TickStep parseHttpDate watch s l s') (r : ι) :
    ∃ tr, (monitors parseHttpDate (watch r).kind (watch r).keys).Run (s.lanes r).monitor tr ∧
      System.finalState (s.lanes r).monitor tr = (s'.lanes r).monitor := by
  -- a step of one router leaves the others where they are
  have hself : ∀ (r' : ι) (lane : Lane (K r')), (∃ tr,
      (monitors parseHttpDate (watch r').kind (watch r').keys).Run (s.lanes r').monitor tr ∧
        System.finalState (s.lanes r').monitor tr = lane.monitor) →
      ∃ tr, (monitors parseHttpDate (watch r).kind (watch r).keys).Run (s.lanes r).monitor tr ∧
        System.finalState (s.lanes r).monitor tr = ((s.setLane r' lane).lanes r).monitor := by
    intro r' lane h
    exact forall_setLane (P := fun r lane => ∃ tr,
      (monitors parseHttpDate (watch r).kind (watch r).keys).Run (s.lanes r).monitor tr ∧
        System.finalState (s.lanes r).monitor tr = lane.monitor) h
      (fun _ _ => ⟨[], .nil _, rfl⟩) r
  cases h with
  | health provider => exact ⟨[], .nil _, rfl⟩
  | tick hrest => exact ⟨[], .nil _, rfl⟩
  | check r' key todo halive hidle htodo =>
    exact hself r' _ ⟨[(.healthCheck key _, _)], .cons (.healthCheck _ key _ hidle) (.nil _), rfl⟩
  | healthAct r' a monitor halive ha hact =>
    exact hself r' _ ⟨[(a, monitor)], .cons hact (.nil _), rfl⟩
  | rateAct r' a monitor ha hact => exact hself r' _ ⟨[(a, monitor)], .cons hact (.nil _), rfl⟩
  | request r' => exact hself r' _ ⟨[], .nil _, rfl⟩
  | poll r' hqueued => exact hself r' _ (exists_run_receiveAll _)

/-- **What a router sees of a run** is a run of its monitors. -/
theorem exists_run_monitor {tr : List (Label K × Gateway K)}
    (h : (ticks parseHttpDate watch).Run s tr) (r : ι) :
    ∃ tr', (monitors parseHttpDate (watch r).kind (watch r).keys).Run (s.lanes r).monitor tr' ∧
      System.finalState (s.lanes r).monitor tr' = ((System.finalState s tr).lanes r).monitor := by
  induction h with
  | nil s => exact ⟨[], .nil _, rfl⟩
  | cons hstep _ ih =>
    obtain ⟨tr₁, hrun₁, hfinal₁⟩ := exists_run_monitor_of_step hstep r
    obtain ⟨tr₂, hrun₂, hfinal₂⟩ := ih
    rw [← hfinal₁] at hrun₂ hfinal₂
    refine ⟨tr₁ ++ tr₂, hrun₁.append hrun₂, ?_⟩
    rw [System.finalState_append, hfinal₂, System.finalState_cons]

/-! ### One action of a monitor -/

/-- The changes an action of the health monitor sends. -/
def healthSends {K : Type} : MonitorAction K → ℕ
  | .healthRemoveSent => 1
  | .healthInsertSent => 1
  | _ => 0

/-- The changes an action of the rate limit monitor sends. -/
def rateSends {K : Type} : MonitorAction K → ℕ
  | .rateRemoveSent => 1
  | .restoreSent => 1
  | _ => 0

/-- An action sends one change at most. -/
theorem sends_le_one {K : Type} (a : MonitorAction K) : healthSends a + rateSends a ≤ 1 := by
  cases a <;> first | exact Nat.le_refl 1 | exact Nat.zero_le 1

section Act

variable {K : Type} [DecidableEq K] {kind : MonitorKind K} {m m' : MonitorState K}
  {a : MonitorAction K}

/-- The health monitor is at a send. -/
def sending : HealthStage K → ℕ
  | .removing _ => 1
  | .inserting _ => 1
  | _ => 0

/-- The key whose removal is being sent. -/
def removingKey : HealthStage K → Option K
  | .removing key => some key
  | _ => none

/-- The last verdict on a key was that it is unhealthy. -/
def Recorded (m : MonitorState K) (key : K) : Prop :=
  key ∈ m.unhealthyKeys ∨ removingKey m.health = some key

instance (m : MonitorState K) (key : K) : Decidable (Recorded m key) :=
  inferInstanceAs (Decidable (_ ∨ _))

/-- **What an action of a monitor does** to the channel, and what it leaves to do. -/
structure ActSpec (m : MonitorState K) (a : MonitorAction K) (m' : MonitorState K) : Prop where
  events : m'.events.length = m.events.length + (healthSends a + rateSends a)
  room : healthSends a + rateSends a ≠ 0 → m.HasRoom
  recorded : ∀ key, Recorded m' key ↔ Recorded m key
  sending : sending m'.health + healthSends a ≤ sending m.health
  health : isRate a → m'.health = m.health

omit [DecidableEq K] in
/-- An action that sends nothing and only concerns the rate limit monitor. -/
theorem ActSpec.of_eq (hevents : m'.events = m.events)
    (hunhealthy : m'.unhealthyKeys = m.unhealthyKeys) (hhealth : m'.health = m.health)
    (hsends : healthSends a + rateSends a = 0) :
    ActSpec m a m' where
  events := by rw [hevents, hsends, Nat.add_zero]
  room h := absurd hsends h
  recorded key := by
    unfold Recorded
    rw [hunhealthy, hhealth]
  sending := by
    rw [hhealth, (Nat.add_eq_zero_iff.mp hsends).1, Nat.add_zero]
  health _ := hhealth

theorem actSpec_of_step (ha : isHealth a ∨ isRate a)
    (h : MonitorStep parseHttpDate kind m a m') : ActSpec m a m' := by
  have hsent : ∀ change, (m.send change).events.length = m.events.length + 1 := fun change =>
    List.length_append
  cases h with
  | healthCheck key isHealthy hidle => rcases ha with ha | ha <;> cases ha
  | delivered => rcases ha with ha | ha <;> cases ha
  | healthRemoveSent key hstage hroom =>
    refine ⟨hsent _, fun _ => hroom, fun k => ?_, ?_, fun h => by cases h⟩
    · -- the key moves from the stage to the recorded ones
      unfold Recorded
      rw [hstage]
      simp [removingKey, or_comm, eq_comm]
    · rw [hstage]
      exact Nat.le_refl 1
  | healthInsertSent key hstage hroom =>
    -- the key was forgotten by the check, so nothing is recorded
    refine ⟨hsent _, fun _ => hroom, fun k => ?_, ?_, fun h => by cases h⟩
    · unfold Recorded
      rw [hstage]
      rfl
    · rw [hstage]
      exact Nat.le_refl 1
  | healthFailed key hstage =>
    refine ⟨rfl, fun h => absurd rfl h, fun k => ?_, Nat.zero_le _, fun h => by cases h⟩
    unfold Recorded
    rw [hstage]
    rfl
  | rateLimited response hidle =>
    obtain ⟨rate, heq⟩ := @receiveEvent_frame K _ kind m response
    rw [heq]
    exact .of_eq rfl rfl rfl rfl
  | rateRemoveSent key response hstage hroom =>
    obtain ⟨limited, pending, rate, -, heq⟩ :=
      @scheduleRestore_frame K _ parseHttpDate kind (m.send (.remove key)) key response
    rw [heq]
    exact ⟨hsent _, fun _ => hroom, fun k => Iff.rfl, Nat.le_refl _, fun _ => rfl⟩
  | timerFired before after restore hidle hpending => exact .of_eq rfl rfl rfl rfl
  | restoreSent restore hstage hroom =>
    exact ⟨hsent _, fun _ => hroom, fun k => Iff.rfl, Nat.le_refl _, fun _ => rfl⟩
  | restoreFailed restore hstage => exact .of_eq rfl rfl rfl rfl

end Act

/-! ### The changes that are not received -/

/-- The changes a balancer has not received, after one more label. -/
def unreceivedNext (r : ι) (n : ℕ) : Label K → ℕ
  | .act r' a => if r' = r then n + (healthSends a + rateSends a) else n
  | .poll r' => if r' = r then 0 else n
  | _ => n

/-- **The changes sent to a balancer since it was last polled.** -/
def unreceivedAfter (r : ι) (labels : List (Label K)) : ℕ := labels.foldl (unreceivedNext r) 0

/-- Checking a key sends nothing yet. -/
theorem events_checkHealth {K : Type} [DecidableEq K] (m : MonitorState K) (key : K)
    (isHealthy : Bool) : (checkHealth m key isHealthy).events = m.events := by
  obtain ⟨unhealthy, health, -, -, heq⟩ := checkHealth_frame m key isHealthy
  rw [heq]

/-- The channel of a router has what a label leaves in it, and not more than its capacity. -/
structure EventsFollow (s s' : Gateway K) (l : Label K) (r : ι) : Prop where
  length : (s'.lanes r).monitor.events.length =
    unreceivedNext r (s.lanes r).monitor.events.length l
  bounded : (s.lanes r).monitor.events.length ≤ channelCapacity →
    (s'.lanes r).monitor.events.length ≤ channelCapacity

omit [∀ r, DecidableEq (K r)] in
/-- The lane that is set needs to be looked at, if the label is about no other. -/
theorem eventsFollow_setLane (l : Label K) {r' : ι} {lane : Lane (K r')}
    (hothers : ∀ r n, r ≠ r' → unreceivedNext r n l = n)
    (hlength : lane.monitor.events.length =
      unreceivedNext r' (s.lanes r').monitor.events.length l)
    (hbounded : (s.lanes r').monitor.events.length ≤ channelCapacity →
      lane.monitor.events.length ≤ channelCapacity) (r : ι) :
    EventsFollow s (s.setLane r' lane) l r := by
  by_cases hr : r = r'
  · subst hr
    constructor
    · rw [lanes_setLane_self]
      exact hlength
    · rw [lanes_setLane_self]
      exact hbounded
  · constructor
    · rw [lanes_setLane_ne hr, hothers r _ hr]
    · rw [lanes_setLane_ne hr]
      exact id

omit [∀ r, DecidableEq (K r)] in
/-- What a monitor does sends at most one change, and finds room for it before. -/
theorem eventsFollow_act {r' : ι} {a : MonitorAction (K r')} {monitor : MonitorState (K r')}
    (hspec : ActSpec (s.lanes r').monitor a monitor) (r : ι) :
    EventsFollow s (s.setMonitor r' monitor) (.act r' a) r := by
  refine eventsFollow_setLane (.act r' a) (fun _ _ hr => if_neg (Ne.symm hr)) ?_ (fun hle => ?_) r
  · rw [hspec.events]
    exact (if_pos rfl).symm
  · rw [hspec.events]
    by_cases hsends : healthSends a + rateSends a = 0
    · rwa [hsends, Nat.add_zero]
    · have hroom := hspec.room hsends
      exact Nat.le_trans (Nat.add_le_add_left (sends_le_one a) _) hroom

/-- **One step** keeps to the history, and to the capacity. -/
theorem events_of_step (h : TickStep parseHttpDate watch s l s') (r : ι) :
    EventsFollow s s' l r := by
  cases h with
  | health provider => exact ⟨rfl, id⟩
  | tick hrest => exact ⟨rfl, id⟩
  | check r' key todo halive hidle htodo =>
    refine eventsFollow_setLane (.check r') (fun _ _ _ => rfl) ?_ ?_ r
    · rw [events_checkHealth]
      rfl
    · rw [events_checkHealth]
      exact id
  | healthAct r' a monitor halive ha hstep =>
    exact eventsFollow_act (actSpec_of_step (Or.inl ha) hstep) r
  | rateAct r' a monitor ha hstep =>
    exact eventsFollow_act (actSpec_of_step (Or.inr ha) hstep) r
  | request r' =>
    refine eventsFollow_setLane (.request r') (fun _ _ _ => rfl) ?_ ?_ r
    · rfl
    · exact id
  | poll r' hqueued =>
    -- the balancer has all of them now
    refine eventsFollow_setLane (.poll r') (fun _ _ hr => if_neg (Ne.symm hr)) ?_
      (fun _ => Nat.zero_le _) r
    exact (if_pos rfl).symm

theorem events_of_run {tr : List (Label K × Gateway K)} (h : (ticks parseHttpDate watch).Run s tr)
    (r : ι) :
    ((System.finalState s tr).lanes r).monitor.events.length =
        (tr.map Prod.fst).foldl (unreceivedNext r) (s.lanes r).monitor.events.length ∧
      ((s.lanes r).monitor.events.length ≤ channelCapacity →
        ((System.finalState s tr).lanes r).monitor.events.length ≤ channelCapacity) := by
  refine ⟨h.foldl_labels (fun s => (s.lanes r).monitor.events.length) (unreceivedNext r)
    fun _ _ _ hstep => (events_of_step hstep r).length, fun hle => ?_⟩
  have hbounded : System.AllStates
      (fun s : Gateway K => (s.lanes r).monitor.events.length ≤ channelCapacity) s tr :=
    h.invariant (fun _ _ _ hs hstep => (events_of_step hstep r).bounded hs) hle
  exact hbounded.finalState

/-! ### What a change is paid for by -/

section Owed

variable {K : Type} [DecidableEq K]

/-- The last verdict on a key is not the present one. -/
def Stale (watch : Watch K) (healthy : InferenceProvider → Bool) (m : MonitorState K) (key : K) :
    Prop :=
  Recorded m key ↔ healthy (watch.provider key) = true

instance (watch : Watch K) (healthy : InferenceProvider → Bool) (m : MonitorState K) (key : K) :
    Decidable (Stale watch healthy m key) := inferInstanceAs (Decidable (_ ↔ _))

def staleKeys (watch : Watch K) (healthy : InferenceProvider → Bool) (m : MonitorState K) :
    Finset K :=
  watch.keys.toFinset.filter (Stale watch healthy m)

/-- **What the health monitor owes a balancer**: the keys with a new verdict that the checks have
not seen, and the change that is about to be sent. -/
def owed (watch : Watch K) (healthy : InferenceProvider → Bool) (m : MonitorState K) : ℕ :=
  (staleKeys watch healthy m).card + sending m.health

/-- The services of a provider. -/
def servicesOf (watch : Watch K) (provider : InferenceProvider) : Finset K :=
  watch.keys.toFinset.filter fun key => watch.provider key = provider

variable {watch : Watch K} {healthy : InferenceProvider → Bool} {m m' : MonitorState K}

theorem mem_staleKeys {key : K} : key ∈ staleKeys watch healthy m ↔
    key ∈ watch.keys ∧ Stale watch healthy m key := by
  unfold staleKeys
  rw [Finset.mem_filter, List.mem_toFinset]

/-- A verdict changes. -/
theorem owed_update (provider : InferenceProvider) (verdict : Bool) :
    owed watch (Function.update healthy provider verdict) m ≤
      owed watch healthy m + (servicesOf watch provider).card := by
  unfold owed
  rw [Nat.add_right_comm]
  refine Nat.add_le_add_right ((Finset.card_le_card ?_).trans (Finset.card_union_le _ _)) _
  intro key hkey
  rw [mem_staleKeys] at hkey
  rw [Finset.mem_union, mem_staleKeys, servicesOf, Finset.mem_filter, List.mem_toFinset]
  by_cases hprovider : watch.provider key = provider
  · exact Or.inr ⟨hkey.1, hprovider⟩
  · refine Or.inl ⟨hkey.1, ?_⟩
    have hstale := hkey.2
    unfold Stale at hstale ⊢
    rwa [Function.update_of_ne hprovider] at hstale

/-- What is recorded of one key changes, to the present verdict. -/
theorem owed_of_recorded {key : K} (hkey : key ∈ staleKeys watch healthy m)
    (hnew : ¬ Stale watch healthy m' key)
    (hothers : ∀ k, k ≠ key → (Recorded m' k ↔ Recorded m k))
    (hidle : sending m.health = 0) (hsending : sending m'.health = 1) :
    owed watch healthy m' ≤ owed watch healthy m := by
  have hsub : staleKeys watch healthy m' ⊆ (staleKeys watch healthy m).erase key := by
    intro k hk
    rw [mem_staleKeys] at hk
    have hne : k ≠ key := by
      rintro rfl
      exact hnew hk.2
    rw [Finset.mem_erase, mem_staleKeys]
    refine ⟨hne, hk.1, ?_⟩
    unfold Stale at hk ⊢
    rw [← hothers k hne]
    exact hk.2
  have hcard := Finset.card_le_card hsub
  rw [Finset.card_erase_of_mem hkey] at hcard
  have hpos := Finset.card_pos.mpr ⟨key, hkey⟩
  unfold owed
  omega

/-- The check of a key sees its verdict, and sets about sending it if it is new. -/
theorem owed_checkHealth (hidle : m.health = .idle) {key : K} (hkey : key ∈ watch.keys) :
    owed watch healthy (checkHealth m key (healthy (watch.provider key))) ≤
      owed watch healthy m := by
  have hrecorded : ∀ k, Recorded m k ↔ k ∈ m.unhealthyKeys := by
    intro k
    unfold Recorded
    rw [hidle]
    exact or_iff_left (fun h => by cases h)
  have hnone : sending m.health = 0 := by rw [hidle]; rfl
  unfold checkHealth
  dsimp only
  split
  · next h =>
    -- the key became unhealthy, and is being removed
    obtain ⟨hunhealthy, hnot⟩ := h
    have hstale : key ∈ staleKeys watch healthy m :=
      mem_staleKeys.mpr ⟨hkey, iff_of_false (mt (hrecorded key).mp hnot) hunhealthy⟩
    refine owed_of_recorded hstale (fun h => hunhealthy (h.mp (Or.inr rfl))) ?_ hnone rfl
    intro k hne
    rw [hrecorded]
    exact or_iff_left fun h => hne (Option.some.inj h).symm
  · split
    · next h =>
      -- the key became healthy, and is forgotten
      obtain ⟨hhealthy, hmem⟩ := h
      have hstale : key ∈ staleKeys watch healthy m :=
        mem_staleKeys.mpr ⟨hkey, iff_of_true ((hrecorded key).mpr hmem) hhealthy⟩
      refine owed_of_recorded hstale (fun h => ?_) ?_ hnone rfl
      · rcases h.mpr hhealthy with h | h
        · exact Finset.notMem_erase key _ h
        · cases h
      · intro k hne
        rw [hrecorded]
        refine (or_iff_left fun h => by cases h).trans ?_
        exact Finset.mem_erase.trans (and_iff_right hne)
    · exact Nat.le_refl _

/-- What is sent is owed no more. -/
theorem owed_act {a : MonitorAction K} (h : ActSpec m a m') :
    owed watch healthy m' + healthSends a ≤ owed watch healthy m := by
  have hkeys : staleKeys watch healthy m' = staleKeys watch healthy m := by
    ext key
    rw [mem_staleKeys, mem_staleKeys]
    unfold Stale
    rw [h.recorded]
  unfold owed
  rw [hkeys, Nat.add_assoc]
  exact Nat.add_le_add_left h.sending _

end Owed

/-- What a label may add to what is owed and sent: the services of a provider whose verdict
changes, and what the rate limit monitor sends. -/
def cause (watch : ∀ r, Watch (K r)) (r : ι) : Label K → ℕ
  | .health provider => (servicesOf (watch r) provider).card
  | .act r' a => if r' = r then rateSends a else 0
  | _ => 0

/-- What the labels of a run may add. -/
def causes (watch : ∀ r, Watch (K r)) (r : ι) : List (Label K) → ℕ
  | [] => 0
  | l :: labels => cause watch r l + causes watch r labels

/-- The keys that a check has to look at are those of the router. -/
def TodoIn (watch : ∀ r, Watch (K r)) (s : Gateway K) : Prop :=
  ∀ r, ∀ key ∈ (s.lanes r).todo, key ∈ (watch r).keys

/-- The changes in the channel of a router and those the health monitor owes it. -/
def Gateway.due (watch : ∀ r, Watch (K r)) (s : Gateway K) (r : ι) : ℕ :=
  (s.lanes r).monitor.events.length + owed (watch r) s.healthy (s.lanes r).monitor

theorem todoIn_of_step (hinv : TodoIn watch s) (h : TickStep parseHttpDate watch s l s') :
    TodoIn watch s' := by
  have hself : ∀ (r' : ι) (lane : Lane (K r')), (∀ key ∈ lane.todo, key ∈ (s.lanes r').todo) →
      TodoIn watch (s.setLane r' lane) := by
    intro r' lane hsub
    exact forall_setLane (P := fun r lane => ∀ key ∈ lane.todo, key ∈ (watch r).keys)
      (fun key hkey => hinv r' key (hsub key hkey)) fun r _ => hinv r
  cases h with
  | health provider => exact hinv
  | tick hrest => exact fun r key hkey => hkey
  | check r' key todo halive hidle htodo =>
    refine hself r' _ fun k hk => ?_
    rw [htodo]
    exact List.mem_cons_of_mem key hk
  | healthAct r' a monitor halive ha hstep => exact hself r' _ fun k hk => hk
  | rateAct r' a monitor ha hstep => exact hself r' _ fun k hk => hk
  | request r' => exact hself r' _ fun k hk => hk
  | poll r' hqueued => exact hself r' _ fun k hk => hk

/-- **One step.** A router gets no more than what the label may add. -/
theorem due_of_step (hinv : TodoIn watch s) (h : TickStep parseHttpDate watch s l s') (r : ι) :
    s'.due watch r ≤ s.due watch r + cause watch r l := by
  -- a step is about one lane, and the other routers keep what they have
  have hset : ∀ (r' : ι) (lane : Lane (K r')),
      lane.monitor.events.length + owed (watch r') s.healthy lane.monitor ≤
        s.due watch r' + cause watch r' l →
      (s.setLane r' lane).due watch r ≤ s.due watch r + cause watch r l := by
    intro r' lane hself
    exact forall_setLane (P := fun r lane => lane.monitor.events.length +
      owed (watch r) s.healthy lane.monitor ≤ s.due watch r + cause watch r l) hself
      (fun _ _ => Nat.le_add_right _ _) r
  -- an event of a check was owed before, and one of the rate limit monitor is its own cause
  have hact : ∀ (r' : ι) (a : MonitorAction (K r')) (monitor : MonitorState (K r')),
      ActSpec (s.lanes r').monitor a monitor → l = .act r' a →
      (s.setMonitor r' monitor).due watch r ≤ s.due watch r + cause watch r l := by
    rintro r' a monitor hspec rfl
    refine hset r' _ ?_
    have howed := @owed_act (K r') _ (watch r') s.healthy _ _ _ hspec
    have hcause : cause watch r' (.act r' a) = rateSends a := if_pos rfl
    unfold Gateway.due
    rw [hspec.events, hcause]
    show _ + owed (watch r') s.healthy monitor ≤ _
    omega
  cases h with
  | health provider =>
    -- a verdict may turn every key of its provider
    unfold Gateway.due
    rw [Nat.add_assoc]
    exact Nat.add_le_add_left (owed_update provider _) _
  | tick hrest => exact Nat.le_refl _
  | check r' key todo halive hidle htodo =>
    have hkey : key ∈ (watch r').keys := by
      refine hinv r' key ?_
      rw [htodo]
      exact List.mem_cons_self
    refine hset r' _ ?_
    rw [events_checkHealth]
    exact Nat.add_le_add_left (owed_checkHealth hidle hkey) _
  | healthAct r' a monitor halive ha hstep =>
    exact hact r' a monitor (actSpec_of_step (Or.inl ha) hstep) rfl
  | rateAct r' a monitor ha hstep =>
    exact hact r' a monitor (actSpec_of_step (Or.inr ha) hstep) rfl
  | request r' => exact hset r' _ (Nat.le_refl _)
  | poll r' hqueued => exact hset r' _ (Nat.add_le_add_right (Nat.zero_le _) _)

/-- **The whole run.** A router whose due stays below the capacity always has room. -/
theorem hasRoom_of_run {tr : List (Label K × Gateway K)} (h : (ticks parseHttpDate watch).Run s tr)
    (hinv : TodoIn watch s) (r : ι)
    (hdue : s.due watch r + causes watch r (tr.map Prod.fst) < channelCapacity) :
    System.AllStates (fun s => (s.lanes r).monitor.HasRoom) s tr := by
  have hroom : ∀ s : Gateway K, s.due watch r < channelCapacity → (s.lanes r).monitor.HasRoom :=
    fun s hs => Nat.lt_of_le_of_lt (Nat.le_add_right _ _) hs
  induction h with
  | nil s => exact (System.allStates_nil _ s).mpr (hroom s hdue)
  | cons hstep _ ih =>
    rw [List.map_cons, causes, ← Nat.add_assoc] at hdue
    rw [System.allStates_cons]
    refine ⟨hroom _ (Nat.lt_of_le_of_lt (Nat.le_trans (Nat.le_add_right _ _)
      (Nat.le_add_right _ _)) hdue), ih (todoIn_of_step hinv hstep) ?_⟩
    exact Nat.lt_of_le_of_lt (Nat.add_le_add_right (due_of_step hinv hstep r) _) hdue

/-! ### How the checks go on -/

/-- A step of the check of a router. -/
def Label.Checks (r : ι) : Label K → Prop
  | .check r' => r' = r
  | .act r' a => r' = r ∧ isHealth a
  | _ => False

/-- How many steps the check of a router can still take. -/
def Lane.left {K : Type} (lane : Lane K) : ℕ := 2 * lane.todo.length + sending lane.monitor.health

/-- The check of a router is at a key, or its channel has room. -/
def Lane.CanGoOn {K : Type} (lane : Lane K) : Prop :=
  lane.monitor.health = .idle ∨ lane.monitor.HasRoom

section Alive

omit [∀ r, DecidableEq (K r)]

theorem alive_setLane (h : s.Alive) {lane : Lane (K r)} (hlane : lane.monitor.health ≠ .failed) :
    (s.setLane r lane).Alive :=
  forall_setLane (P := fun _ lane => lane.monitor.health ≠ .failed) hlane fun r' _ => h r'

end Alive

theorem checkHealth_spec {K : Type} [DecidableEq K] (m : MonitorState K) (key : K)
    (isHealthy : Bool) (hidle : m.health = .idle) :
    (checkHealth m key isHealthy).health ≠ .failed ∧
      sending (checkHealth m key isHealthy).health ≤ 1 := by
  unfold checkHealth
  dsimp only
  split
  · exact ⟨fun h => (by cases h), Nat.le_refl 1⟩
  · split
    · exact ⟨fun h => (by cases h), Nat.le_refl 1⟩
    · rw [hidle]
      exact ⟨fun h => (by cases h), Nat.zero_le 1⟩

/-- A check that goes on is the next key's, or the change it sends has room. -/
theorem canGoOn_of_checks {l : Label K} {s' : Gateway K}
    (hstep : TickStep parseHttpDate watch s l s') (hchecks : l.Checks r) (halive' : s'.Alive) :
    (s.lanes r).CanGoOn := by
  cases hstep with
  | check r' key todo _ hidle htodo =>
    cases hchecks
    exact Or.inl hidle
  | healthAct r' a monitor _ ha hstep =>
    obtain ⟨rfl, -⟩ := hchecks
    cases hstep with
    | healthRemoveSent key hstage hroom => exact Or.inr hroom
    | healthInsertSent key hstage hroom => exact Or.inr hroom
    | healthFailed key hstage =>
      refine absurd ?_ (halive' r')
      rw [monitor_setMonitor_self]
    | _ => cases ha
  | rateAct r' a monitor ha hstep =>
    cases (isHealth_of_isRate ha).symm.trans hchecks.2
  | _ => cases hchecks

/-- A change that is sent is one thing less to do. -/
theorem exists_check_of_sent (halive : s.Alive) {a : MonitorAction (K r)}
    {monitor : MonitorState (K r)} (ha : isHealth a)
    (hstep : MonitorStep parseHttpDate (watch r).kind (s.lanes r).monitor a monitor)
    (hidle : monitor.health = .idle) (hsending : sending (s.lanes r).monitor.health = 1) :
    ∃ l s', TickStep parseHttpDate watch s l s' ∧ l.Checks r ∧ s'.Alive ∧
      (s'.lanes r).left < (s.lanes r).left := by
  refine ⟨.act r a, _, .healthAct s r a monitor halive ha hstep, ⟨rfl, ha⟩,
    alive_setLane halive (fun h => by cases hidle.symm.trans h), ?_⟩
  unfold Lane.left
  rw [monitor_setMonitor_self, todo_setMonitor_self, hidle, hsending]
  exact Nat.lt_succ_self _

/-- **The check of a router can go on** whatever the other routers do, unless it waits for room
in the channel of its own. It gets nearer to its end. -/
theorem exists_check_iff (halive : s.Alive) (hrest : ¬ (s.lanes r).AtRest) :
    (∃ l s', TickStep parseHttpDate watch s l s' ∧ l.Checks r ∧ s'.Alive ∧
      (s'.lanes r).left < (s.lanes r).left) ↔ (s.lanes r).CanGoOn := by
  constructor
  · rintro ⟨l, s', hstep, hchecks, halive', -⟩
    exact canGoOn_of_checks hstep hchecks halive'
  · intro hgo
    cases hstage : (s.lanes r).monitor.health with
    | failed => exact absurd hstage (halive r)
    | idle =>
      -- an idle check goes on to its next key
      cases htodo : (s.lanes r).todo with
      | nil => exact absurd ⟨htodo, hstage⟩ hrest
      | cons key todo =>
        obtain ⟨hfailed, hle⟩ := checkHealth_spec (s.lanes r).monitor key
          (s.healthy ((watch r).provider key)) hstage
        refine ⟨.check r, _, .check s r key todo halive hstage htodo, rfl,
          alive_setLane halive hfailed, ?_⟩
        rw [lanes_setLane_self]
        unfold Lane.left
        rw [htodo, List.length_cons]
        dsimp only
        omega
    -- a change is sent if there is room
    | removing key =>
      have hroom : (s.lanes r).monitor.HasRoom := hgo.resolve_left fun h => by
        cases hstage.symm.trans h
      exact exists_check_of_sent halive rfl (.healthRemoveSent _ key hstage hroom) rfl
        (by rw [hstage]; rfl)
    | inserting key =>
      have hroom : (s.lanes r).monitor.HasRoom := hgo.resolve_left fun h => by
        cases hstage.symm.trans h
      exact exists_check_of_sent halive rfl (.healthInsertSent _ key hstage hroom) rfl
        (by rw [hstage]; rfl)

/-! ### A full channel -/

/-- The check of a router is not over, and there is no room for a change. -/
def Stuck (s : Gateway K) (r : ι) : Prop :=
  (s.lanes r).monitor.health ≠ .idle ∧ ¬ (s.lanes r).monitor.HasRoom

omit [∀ r, DecidableEq (K r)] in
/-- The lane of another router does not matter. -/
theorem Stuck.setLane (hstuck : Stuck s r) {r' : ι} {lane : Lane (K r')}
    (hself : r = r' → Stuck (s.setLane r' lane) r) : Stuck (s.setLane r' lane) r := by
  by_cases hr : r = r'
  · exact hself hr
  · unfold Stuck
    rw [lanes_setLane_ne hr]
    exact hstuck

/-- The rate limit monitor has no room either, and leaves the health monitor alone. -/
theorem Stuck.rateAct (hstuck : Stuck s r) {a : MonitorAction (K r)} {monitor : MonitorState (K r)}
    (ha : isRate a)
    (hstep : MonitorStep parseHttpDate (watch r).kind (s.lanes r).monitor a monitor) :
    Stuck (s.setMonitor r monitor) r := by
  have hspec := actSpec_of_step (Or.inr ha) hstep
  have hnone : healthSends a + rateSends a = 0 := by
    by_contra hsends
    exact hstuck.2 (hspec.room hsends)
  have hevents := hspec.events
  rw [hnone, Nat.add_zero] at hevents
  unfold Stuck MonitorState.HasRoom at hstuck ⊢
  rw [monitor_setMonitor_self, hspec.health ha, hevents]
  exact hstuck

/-- **One step.** Only a poll gets a check out of this. -/
theorem stuck_of_step (hstuck : Stuck s r) (h : TickStep parseHttpDate watch s l s')
    (hpoll : l ≠ .poll r) : Stuck s' r ∧ l ≠ .tick := by
  cases h with
  | health provider => exact ⟨hstuck, fun h => by cases h⟩
  -- a tick waits for every check to rest
  | tick hrest => exact absurd (hrest r).2 hstuck.1
  | check r' key todo halive hidle htodo =>
    refine ⟨hstuck.setLane ?_, fun h => by cases h⟩
    rintro rfl
    exact absurd hidle hstuck.1
  | healthAct r' a monitor halive ha hstep =>
    refine ⟨hstuck.setLane ?_, fun h => by cases h⟩
    rintro rfl
    cases hstep with
    | healthRemoveSent key hstage hroom => exact absurd hroom hstuck.2
    | healthInsertSent key hstage hroom => exact absurd hroom hstuck.2
    -- a check that has failed does not rest either
    | healthFailed key hstage =>
      unfold Stuck
      rw [lanes_setLane_self]
      exact ⟨(fun h => by cases h), hstuck.2⟩
    | _ => cases ha
  | rateAct r' a monitor ha hstep =>
    refine ⟨hstuck.setLane ?_, fun h => by cases h⟩
    rintro rfl
    exact hstuck.rateAct ha hstep
  | request r' =>
    refine ⟨hstuck.setLane ?_, fun h => by cases h⟩
    rintro rfl
    unfold Stuck
    rw [lanes_setLane_self]
    exact hstuck
  | poll r' hqueued =>
    refine ⟨hstuck.setLane ?_, fun h => by cases h⟩
    rintro rfl
    exact absurd rfl hpoll

/-- **The ticks stop** until the balancer is polled. -/
theorem tick_notMem_of_stuck {tr : List (Label K × Gateway K)}
    (h : (ticks parseHttpDate watch).Run s tr) (hstuck : Stuck s r)
    (hpoll : .poll r ∉ tr.map Prod.fst) : .tick ∉ tr.map Prod.fst := by
  induction h with
  | nil s => exact List.not_mem_nil
  | cons hstep _ ih =>
    rw [List.map_cons, List.mem_cons, not_or] at hpoll ⊢
    obtain ⟨hstuck', htick⟩ := stuck_of_step hstuck hstep (Ne.symm hpoll.1)
    exact ⟨Ne.symm htick, ih hstuck' hpoll.2⟩

/-! ### Main result -/

/-- **The changes a balancer has not received**, in a state that is reached. They are those sent
since it was last polled, and at most the capacity of its channel. There is room as long as less
is due to the router than that, and a check always goes on but for a full channel, which stops
the ticks until the balancer is polled. -/
theorem unreceived_spec (parseHttpDate : List Char → Option DateTime) (watch : ∀ r, Watch (K r))
    (tr : List (Label K × Gateway K))
    (h : (ticks parseHttpDate watch).Run (ticks parseHttpDate watch).init tr) (r : ι)
    (s : Gateway K) (hs : System.finalState (ticks parseHttpDate watch).init tr = s) :
    (s.lanes r).monitor.events.length = unreceivedAfter r (tr.map Prod.fst) ∧
    (s.lanes r).monitor.events.length ≤ channelCapacity ∧
    (∀ tr', (ticks parseHttpDate watch).Run s tr' →
      s.due watch r + causes watch r (tr'.map Prod.fst) < channelCapacity →
      System.AllStates (fun s => (s.lanes r).monitor.HasRoom) s tr') ∧
    (s.Alive → ¬ (s.lanes r).AtRest →
      ((∃ l s', TickStep parseHttpDate watch s l s' ∧ l.Checks r ∧ s'.Alive ∧
        (s'.lanes r).left < (s.lanes r).left) ↔ (s.lanes r).CanGoOn)) ∧
    (∀ tr', (ticks parseHttpDate watch).Run s tr' → Stuck s r →
      .poll r ∉ tr'.map Prod.fst → .tick ∉ tr'.map Prod.fst) := by
  subst hs
  obtain ⟨hevents, hle⟩ := events_of_run h r
  have hinit : TodoIn watch (ticks parseHttpDate watch).init := fun r key hkey => by cases hkey
  have htodo := (System.Run.invariant (fun _ _ _ => todoIn_of_step) h hinit).finalState
  exact ⟨hevents, hle (Nat.zero_le _), fun tr' htr' => hasRoom_of_run htr' htodo r,
    exists_check_iff, fun tr' => tick_notMem_of_stuck⟩

/-- Nothing is due to a router at first. -/
theorem due_init (parseHttpDate : List Char → Option DateTime) (watch : ∀ r, Watch (K r)) (r : ι) :
    (ticks parseHttpDate watch).init.due watch r = 0 := by
  have hnone : staleKeys (watch r) (fun _ => true)
      (monitors parseHttpDate (watch r).kind (watch r).keys).init = ∅ := by
    refine Finset.eq_empty_of_forall_notMem fun key hkey => ?_
    rcases (mem_staleKeys.mp hkey).2.mpr rfl with h | h
    · exact Finset.notMem_empty key h
    · cases h
  unfold Gateway.due owed
  change 0 + ((staleKeys (watch r) (fun _ => true)
    (monitors parseHttpDate (watch r).kind (watch r).keys).init).card + 0) = 0
  rw [hnone, Finset.card_empty]

/-! ### A router without requests -/

/-- The key of the only service. -/
def chatKey : Key := ⟨.openAI, .chat⟩

/-- A gateway of one router. -/
def oneRouter : Unit → Watch Key := fun _ => ⟨latencyMonitor, Key.provider, [chatKey]⟩

abbrev oneTicks : System (Gateway fun _ : Unit => Key) (Label fun _ : Unit => Key) :=
  ticks (fun _ => none) oneRouter

/-- The verdict on the provider changes, and a tick starts. -/
def ticked (s : Gateway fun _ : Unit => Key) : Gateway fun _ : Unit => Key where
  lanes r := { s.lanes r with todo := [chatKey] }
  healthy := Function.update s.healthy .openAI !s.healthy .openAI

/-- The service is checked. -/
def turned (s : Gateway fun _ : Unit => Key) : Gateway fun _ : Unit => Key :=
  (ticked s).setLane () { s.lanes () with
    monitor := checkHealth (s.lanes ()).monitor chatKey !s.healthy .openAI
    todo := [] }

/-- The three steps that lead there. -/
def turn (s : Gateway fun _ : Unit => Key) :
    List ((Label fun _ : Unit => Key) × Gateway fun _ : Unit => Key) :=
  [(.health .openAI, ⟨s.lanes, (ticked s).healthy⟩), (.tick, ticked s), (.check (), turned s)]

theorem alive_of_idle {s : Gateway fun _ : Unit => Key}
    (hidle : (s.lanes ()).monitor.health = .idle) : s.Alive :=
  fun _ h => by cases hidle.symm.trans h

theorem run_turn {s : Gateway fun _ : Unit => Key} (hrest : (s.lanes ()).AtRest) :
    oneTicks.Run s (turn s) := by
  refine .cons (.health s .openAI) (.cons (.tick _ fun _ => hrest) (.cons ?_ (.nil _)))
  exact .check (ticked s) () chatKey [] (alive_of_idle hrest.2) hrest.2 rfl

theorem ne_request_of_mem_turn {s : Gateway fun _ : Unit => Key} {l : Label fun _ : Unit => Key}
    (h : l ∈ (turn s).map Prod.fst) : l ≠ .request () := by
  change l ∈ [.health .openAI, .tick, .check ()] at h
  simp only [List.mem_cons, List.not_mem_nil, or_false] at h
  rcases h with rfl | rfl | rfl <;> exact fun h => by cases h

theorem unreceived_spec_turn :
    System.AllStates (fun s : Gateway fun _ : Unit => Key => (s.lanes ()).monitor.HasRoom)
      oneTicks.init (turn oneTicks.init) :=
  (unreceived_spec (fun _ => none) oneRouter [] (.nil _) () _ rfl).2.2.1 _ (run_turn ⟨rfl, rfl⟩)
    (by rw [System.finalState_nil, due_init]; decide)

/-- The verdict that was sent last is the present one, and `n` changes are in the channel. -/
structure Settled (s : Gateway fun _ : Unit => Key) (n : ℕ) : Prop where
  rest : (s.lanes ()).AtRest
  length : (s.lanes ()).monitor.events.length = n
  recorded : chatKey ∈ (s.lanes ()).monitor.unhealthyKeys ↔ s.healthy .openAI = false

/-- The check has something to send. -/
theorem Settled.health_turned {s : Gateway fun _ : Unit => Key} {n : ℕ} (h : Settled s n) :
    ((turned s).lanes ()).monitor.events.length = n ∧ ((turned s).lanes ()).todo = [] ∧
      (((turned s).lanes ()).monitor.health = .removing chatKey ∧
          (turned s).healthy .openAI = false ∨
        ((turned s).lanes ()).monitor.health = .inserting chatKey ∧
          (turned s).healthy .openAI = true ∧
          chatKey ∉ ((turned s).lanes ()).monitor.unhealthyKeys) := by
  have hhealthy : (turned s).healthy .openAI = !s.healthy .openAI := by
    change Function.update s.healthy .openAI _ .openAI = _
    exact Function.update_self ..
  unfold turned at hhealthy ⊢
  rw [lanes_setLane_self, hhealthy, events_checkHealth]
  refine ⟨h.length, rfl, ?_⟩
  unfold checkHealth
  -- the verdict has turned, and what is recorded is the one before
  cases hverdict : s.healthy .openAI with
  | true =>
    have hnot : chatKey ∉ (s.lanes ()).monitor.unhealthyKeys := fun hmem => by
      cases hverdict.symm.trans (h.recorded.mp hmem)
    refine Or.inl ⟨?_, rfl⟩
    simp [hnot]
  | false =>
    have hmem := h.recorded.mpr hverdict
    refine Or.inr ⟨?_, rfl, ?_⟩
    · simp [hmem]
    · simp [hmem]

/-- One step more sends the change. -/
theorem exists_run_sent {s : Gateway fun _ : Unit => Key} (hrest : (s.lanes ()).AtRest)
    {a : MonitorAction Key} {monitor : MonitorState Key}
    (hstep : TickStep (fun _ => none) oneRouter (turned s) (.act () a)
      ((turned s).setMonitor () monitor)) : ∃ tr, oneTicks.Run s tr ∧
      (∀ l ∈ tr.map Prod.fst, l ≠ .request ()) ∧
      System.finalState s tr = (turned s).setMonitor () monitor := by
  let sent : List ((Label fun _ : Unit => Key) × Gateway fun _ : Unit => Key) :=
    [(.act () a, (turned s).setMonitor () monitor)]
  have hsent : oneTicks.Run (turned s) sent := .cons hstep (.nil _)
  refine ⟨turn s ++ sent, (run_turn hrest).append hsent, ?_, ?_⟩
  · rw [List.map_append]
    intro l hl
    rcases List.mem_append.mp hl with hl | hl
    · exact ne_request_of_mem_turn hl
    · rw [List.mem_singleton.mp hl]
      exact fun h => by cases h
  · rw [System.finalState_append]
    rfl

theorem settled_setMonitor {s : Gateway fun _ : Unit => Key} {monitor : MonitorState Key} {n : ℕ}
    (htodo : (s.lanes ()).todo = []) (hidle : monitor.health = .idle)
    (hlength : monitor.events.length = n)
    (hrecorded : chatKey ∈ monitor.unhealthyKeys ↔ s.healthy .openAI = false) :
    Settled (s.setMonitor () monitor) n := by
  refine ⟨⟨?_, ?_⟩, ?_, ?_⟩
  · rwa [todo_setMonitor_self]
  · rwa [monitor_setMonitor_self]
  · rwa [monitor_setMonitor_self]
  · rw [monitor_setMonitor_self]
    exact hrecorded

/-- While there is room, it is sent. -/
theorem Settled.next {s : Gateway fun _ : Unit => Key} {n : ℕ} (h : Settled s n)
    (hn : n < channelCapacity) : ∃ tr, oneTicks.Run s tr ∧
      (∀ l ∈ tr.map Prod.fst, l ≠ .request ()) ∧ Settled (System.finalState s tr) (n + 1) := by
  obtain ⟨hlength, htodo, hstage⟩ := h.health_turned
  -- the tick has decided what to send, and there is room for it
  have hroom : ((turned s).lanes ()).monitor.HasRoom := by
    unfold MonitorState.HasRoom
    rwa [hlength]
  have hsent : ∀ change, (((turned s).lanes ()).monitor.send change).events.length = n + 1 :=
    fun change => by rw [← hlength]; exact List.length_append
  rcases hstage with ⟨hstage, hverdict⟩ | ⟨hstage, hverdict, hnot⟩
  · -- a removal, and the key is recorded
    have halive : (turned s).Alive := fun _ h => by cases hstage.symm.trans h
    obtain ⟨tr, hrun, hlabels, hfinal⟩ := exists_run_sent h.rest
      (.healthAct _ () _ _ halive rfl (.healthRemoveSent _ chatKey hstage hroom))
    refine ⟨tr, hrun, hlabels, ?_⟩
    rw [hfinal]
    exact settled_setMonitor htodo rfl (hsent _)
      (iff_of_true (Finset.mem_insert_self _ _) hverdict)
  · -- an insertion, of a key that is not recorded
    have halive : (turned s).Alive := fun _ h => by cases hstage.symm.trans h
    obtain ⟨tr, hrun, hlabels, hfinal⟩ := exists_run_sent h.rest
      (.healthAct _ () _ _ halive rfl (.healthInsertSent _ chatKey hstage hroom))
    refine ⟨tr, hrun, hlabels, ?_⟩
    rw [hfinal]
    exact settled_setMonitor htodo rfl (hsent _)
      (iff_of_false hnot fun h => by cases hverdict.symm.trans h)

/-- Failures and recoveries fill the channel. -/
theorem exists_settled (n : ℕ) (hn : n ≤ channelCapacity) : ∃ tr, oneTicks.Run oneTicks.init tr ∧
    (∀ l ∈ tr.map Prod.fst, l ≠ .request ()) ∧ Settled (System.finalState oneTicks.init tr) n := by
  induction n with
  | zero =>
    refine ⟨[], .nil _, (fun l hl => by cases hl), ⟨rfl, rfl⟩, rfl, ?_⟩
    exact iff_of_false (Finset.notMem_empty _) (fun h => by cases h)
  | succ n ih =>
    obtain ⟨tr, hrun, hlabels, hsettled⟩ := ih (Nat.le_of_succ_le hn)
    obtain ⟨tr', hrun', hlabels', hsettled'⟩ := hsettled.next hn
    refine ⟨tr ++ tr', hrun.append hrun', ?_, ?_⟩
    · intro l hl
      rw [List.map_append] at hl
      rcases List.mem_append.mp hl with hl | hl
      · exact hlabels l hl
      · exact hlabels' l hl
    · rwa [System.finalState_append]

/-- **An idle router stops the health monitor.** Its only provider fails and recovers, without
any request for the router, and the check waits for room in its channel. -/
theorem room_fails :
    ∃ tr, oneTicks.Run oneTicks.init tr ∧ (∀ l ∈ tr.map Prod.fst, l ≠ .request ()) ∧
      ¬ ((System.finalState oneTicks.init tr).lanes ()).monitor.events.length < channelCapacity ∧
      Stuck (System.finalState oneTicks.init tr) () := by
  obtain ⟨tr, hrun, hlabels, hsettled⟩ := exists_settled channelCapacity (Nat.le_refl _)
  obtain ⟨hlength, -, hstage⟩ := hsettled.health_turned
  have hfull : ¬ ((turned (System.finalState oneTicks.init tr)).lanes ()).monitor.HasRoom := by
    unfold MonitorState.HasRoom
    rw [hlength]
    exact Nat.lt_irrefl _
  refine ⟨tr ++ turn _, hrun.append (run_turn hsettled.rest), ?_, ?_⟩
  · intro l hl
    rw [List.map_append] at hl
    rcases List.mem_append.mp hl with hl | hl
    · exact hlabels l hl
    · exact ne_request_of_mem_turn hl
  · rw [System.finalState_append]
    refine ⟨hfull, ?_, hfull⟩
    rcases hstage with ⟨hstage, -⟩ | ⟨hstage, -⟩
    · exact fun h => by cases hstage.symm.trans h
    · exact fun h => by cases hstage.symm.trans h

end AiGateway.Ticks
