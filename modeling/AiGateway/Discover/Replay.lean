import AiGateway.Framework.Channel
import AiGateway.Monitor.System

/-!
# The order of discovery

`ConfigDiscovery` of `discover/provider/config.rs`: the stream of changes that a balancer polls.
It hands out the configured services once, and then what the monitors send. They send while the
services are still being handed out, or before that has begun.

* `ConfigDiscovery.orderly`: the services wait in front of what is in the channel;
* `deliver_eq`: a poll is a step of the balancer's side of the monitors' system;
* `initial_services_first`: every run hands out every service once and then every change once,
  in the order they were sent, so that no service that was removed is inserted behind its removal.
-/

namespace AiGateway.Discover

open Transition Tokio

variable {K V : Type} {capacity : ℕ}

/-- A change of the set of services, with the service that is inserted. -/
inductive Change (K V : Type)
  | insert (key : K) (service : V)
  | remove (key : K)

namespace Change

def key : Change K V → K
  | insert key _ => key
  | remove key => key

/-- What the balancer's set of keys is told. -/
def forget : Change K V → Tower.Change K
  | insert key _ => .insert key
  | remove key => .remove key

end Change

/-! ### The configured services -/

/-- `ServiceMap`: what is left of a map of services, in the order its iterator takes them. -/
structure ServiceMap (K V : Type) where
  inner : List (K × V)
  nodup : (inner.map Prod.fst).Nodup

namespace ServiceMap

def keys (services : ServiceMap K V) : List K := services.inner.map Prod.fst

/-- The service of a key. -/
def get [DecidableEq K] (services : ServiceMap K V) (key : K) : Option V :=
  services.inner.lookup key

/-- The map without the entry that comes first. -/
def tail (services : ServiceMap K V) : ServiceMap K V where
  inner := services.inner.tail
  nodup := services.nodup.sublist ((List.tail_sublist services.inner).map Prod.fst)

/-- `poll_next` -/
def pollNext (services : ServiceMap K V) : Poll (Option (Change K V)) × ServiceMap K V :=
  match services.inner with
  | (key, service) :: _ => (.ready (some (.insert key service)), services.tail)
  | [] => (.ready none, services)

/-- What is still to be handed out. -/
def inserts (services : ServiceMap K V) : List (Change K V) :=
  services.inner.map fun entry => .insert entry.1 entry.2

theorem pollNext_nil {services : ServiceMap K V} (h : services.inner = []) :
    services.pollNext = (.ready none, services) := by
  unfold pollNext
  rw [h]

theorem pollNext_cons {services : ServiceMap K V} {key : K} {service : V}
    {rest : List (K × V)} (h : services.inner = (key, service) :: rest) :
    services.pollNext = (.ready (some (.insert key service)), services.tail) := by
  unfold pollNext
  rw [h]

theorem inserts_of_nil {services : ServiceMap K V} (h : services.inner = []) :
    services.inserts = [] := by
  unfold inserts
  rw [h, List.map_nil]

theorem inserts_of_cons {services : ServiceMap K V} {key : K} {service : V}
    {rest : List (K × V)} (h : services.inner = (key, service) :: rest) :
    services.inserts = .insert key service :: services.tail.inserts := by
  unfold inserts
  rw [h, show services.tail.inner = services.inner.tail from rfl, h, List.tail_cons,
    List.map_cons]

theorem keys_of_nil {services : ServiceMap K V} (h : services.inner = []) :
    services.keys = [] := by
  unfold keys
  rw [h, List.map_nil]

theorem keys_of_cons {services : ServiceMap K V} {key : K} {service : V}
    {rest : List (K × V)} (h : services.inner = (key, service) :: rest) :
    services.keys = key :: services.tail.keys := by
  unfold keys
  rw [h, show services.tail.inner = services.inner.tail from rfl, h, List.tail_cons,
    List.map_cons]

/-- Each service of the map is inserted, once. -/
theorem filter_inserts [DecidableEq K] (services : ServiceMap K V) (key : K) :
    (services.inserts.filter fun change => change.key = key) =
      ((services.get key).map (Change.insert key)).toList := by
  obtain ⟨inner, hnodup⟩ := services
  unfold inserts get
  dsimp only
  induction inner with
  | nil => rfl
  | cons entry inner ih =>
    obtain ⟨k, service⟩ := entry
    rw [List.map_cons, List.nodup_cons] at hnodup
    rw [List.map_cons, List.filter_cons, ih hnodup.2]
    by_cases hkey : k = key
    · subst hkey
      -- no other entry has the key
      have hnone : inner.lookup k = none := by
        refine List.lookup_eq_none_iff.mpr fun entry hentry => bne_iff_ne.mpr fun heq => ?_
        have hmem : entry.1 ∈ inner.map Prod.fst := List.mem_map_of_mem hentry
        exact hnodup.1 (heq ▸ hmem)
      have hfirst : decide ((Change.insert k service).key = k) = true := decide_eq_true rfl
      rw [if_pos hfirst, hnone, List.lookup_cons_self]
      rfl
    · have hfirst : ¬ decide ((Change.insert k service).key = key) = true :=
        fun heq => hkey (of_decide_eq_true heq)
      rw [if_neg hfirst, List.lookup_cons, beq_false_of_ne (Ne.symm hkey)]

end ServiceMap

/-! ### The stream -/

/-- `ConfigDiscovery` -/
structure ConfigDiscovery (capacity : ℕ) (K V : Type) where
  initial : ServiceMap K V
  events : Channel capacity (Change K V)

/-- `handle_change` -/
def handleChange (change : Change K V) : Poll (Option (Change K V)) :=
  match change with
  | .insert key service => .ready (some (.insert key service))
  | .remove key => .ready (some (.remove key))

@[simp] theorem handleChange_eq (change : Change K V) :
    handleChange change = .ready (some change) := by
  cases change with
  | insert key service => rfl
  | remove key => rfl

namespace ConfigDiscovery

/-- The discovery of a router, before anything has been sent to it. -/
def new (services : ServiceMap K V) : ConfigDiscovery capacity K V := ⟨services, Channel.new⟩

/-- `poll_next` -/
def pollNext (proceeds : Bool) (d : ConfigDiscovery capacity K V) :
    Poll (Option (Change K V)) × ConfigDiscovery capacity K V :=
  match d.initial.pollNext with
  | (.ready (some change), initial) => (handleChange change, { d with initial := initial })
  -- the map is empty: the channel is polled, and may be turned away
  | (_, initial) =>
    match d.events.pollNext proceeds with
    | (.ready (some change), events) => (handleChange change, ⟨initial, events⟩)
    | (.pending, events) => (.pending, ⟨initial, events⟩)
    | (.ready none, events) => (.ready none, ⟨initial, events⟩)

/-- A monitor sends a change. -/
def trySend (d : ConfigDiscovery capacity K V) (change : Change K V) :
    Option (ConfigDiscovery capacity K V) :=
  (d.events.trySend change).map fun events => { d with events := events }

def close (d : ConfigDiscovery capacity K V) : ConfigDiscovery capacity K V :=
  { d with events := d.events.close }

/-- The discovery and the monitors that send to it. -/
def pipe (capacity : ℕ) (K V : Type) : Pipe (ConfigDiscovery capacity K V) (Change K V) :=
  ⟨trySend, close, pollNext⟩

/-- What is still to be handed out. -/
def waiting (d : ConfigDiscovery capacity K V) : List (Change K V) :=
  d.initial.inserts ++ d.events.queue

theorem pollNext_of_cons {d : ConfigDiscovery capacity K V} {key : K} {service : V}
    {rest : List (K × V)} (h : d.initial.inner = (key, service) :: rest) (proceeds : Bool) :
    d.pollNext proceeds =
      (.ready (some (.insert key service)), { d with initial := d.initial.tail }) := by
  unfold pollNext
  rw [ServiceMap.pollNext_cons h]
  rfl

/-- Behind the services, a poll is one of the channel. -/
theorem pollNext_of_nil {d : ConfigDiscovery capacity K V} (h : d.initial.inner = [])
    (proceeds : Bool) :
    d.pollNext proceeds =
      ((d.events.pollNext proceeds).1, { d with events := (d.events.pollNext proceeds).2 }) := by
  unfold pollNext
  rw [ServiceMap.pollNext_nil h]
  dsimp only
  split
  · next change events hpoll => rw [hpoll, handleChange_eq]
  · next events hpoll => rw [hpoll]
  · next events hpoll => rw [hpoll]

/-- **Discovery is in order**: the services wait in front of what is sent. -/
theorem orderly : Orderly (pipe capacity K V) waiting where
  trySend {d change d'} h := by
    obtain ⟨events, hsend, rfl⟩ := Option.map_eq_some_iff.mp h
    show d.initial.inserts ++ events.queue = (d.initial.inserts ++ d.events.queue) ++ [change]
    rw [Channel.queue_of_trySend hsend, List.append_assoc]
  close d := rfl
  pollNext proceeds d := by
    show d.waiting = (d.pollNext proceeds).1.item.toList ++ (d.pollNext proceeds).2.waiting
    cases hinitial : d.initial.inner with
    | nil =>
      -- with no services left, discovery is its channel
      have hchannel : d.events.queue = (d.events.pollNext proceeds).1.item.toList ++
          (d.events.pollNext proceeds).2.queue := Channel.orderly.pollNext proceeds d.events
      rw [pollNext_of_nil hinitial, waiting, waiting, ServiceMap.inserts_of_nil hinitial]
      exact hchannel
    | cons entry rest =>
      rw [pollNext_of_cons hinitial, waiting, waiting, ServiceMap.inserts_of_cons hinitial]
      rfl
  proceeds d hitem := by
    change (d.pollNext true).1.item = none at hitem
    cases hinitial : d.initial.inner with
    | nil =>
      rw [pollNext_of_nil hinitial] at hitem
      have hqueue : d.events.queue = [] := Channel.orderly.proceeds d.events hitem
      rw [waiting, ServiceMap.inserts_of_nil hinitial, hqueue, List.append_nil]
    | cons entry rest =>
      rw [pollNext_of_cons hinitial] at hitem
      cases hitem

end ConfigDiscovery

/-- The runs of a router's discovery. -/
def discovering (capacity : ℕ) (services : ServiceMap K V) :
    System (ConfigDiscovery capacity K V) (PipeAction (Change K V)) :=
  (ConfigDiscovery.pipe capacity K V).system (.new services)

/-! ### The balancer -/

section Balancer

variable [DecidableEq K]

/-- A change that is taken is applied. -/
def applyItem (services : Finset K) : Option (Change K V) → Finset K
  | some change => changeServices services change.forget
  | none => services

theorem deliver_of_nil {s : MonitorState K} (hinitial : s.initial = []) (hevents : s.events = []) :
    deliver s = s := by
  unfold deliver
  rw [hinitial, hevents]

theorem deliver_of_change {s : MonitorState K} {change : Tower.Change K}
    {events : List (Tower.Change K)} (hinitial : s.initial = [])
    (hevents : s.events = change :: events) :
    deliver s = { s with events := events, services := changeServices s.services change } := by
  unfold deliver
  rw [hinitial, hevents]

theorem deliver_of_key {s : MonitorState K} {key : K} {initial : List K}
    (hinitial : s.initial = key :: initial) :
    deliver s =
      { s with initial := initial, services := changeServices s.services (.insert key) } := by
  unfold deliver
  rw [hinitial]

/-- **A delivery of the monitors' system is a poll** that proceeds, and what the balancer makes
of it. -/
theorem deliver_eq {s : MonitorState K} {d : ConfigDiscovery capacity K V}
    (hinitial : s.initial = d.initial.keys)
    (hevents : s.events = d.events.queue.map Change.forget) :
    deliver s = { s with
      initial := (d.pollNext true).2.initial.keys
      events := (d.pollNext true).2.events.queue.map Change.forget
      services := applyItem s.services (d.pollNext true).1.item } := by
  cases hinner : d.initial.inner with
  | nil =>
    have hkeys : s.initial = [] := hinitial.trans (ServiceMap.keys_of_nil hinner)
    rw [ConfigDiscovery.pollNext_of_nil hinner]
    dsimp only
    rw [← hinitial]
    cases hqueue : d.events.queue with
    | nil =>
      -- nothing waits, neither in the map nor in the channel
      obtain ⟨hitem, hrest⟩ := Channel.pollNext_nil hqueue true
      rw [hitem, hrest, ← hevents]
      rw [hqueue, List.map_nil] at hevents
      exact deliver_of_nil hkeys hevents
    | cons change rest =>
      rw [hqueue, List.map_cons] at hevents
      rw [Channel.pollNext_cons hqueue, Channel.queue_tail_of_cons hqueue]
      exact deliver_of_change hkeys hevents
  | cons entry rest =>
    -- while the map has services, the channel is left alone
    have hkeys := hinitial.trans (ServiceMap.keys_of_cons hinner)
    rw [ConfigDiscovery.pollNext_of_cons hinner]
    dsimp only
    rw [← hevents]
    exact deliver_of_key hkeys

/-- A key that has been removed is not there until it is inserted again. -/
theorem notMem_drain_of_forall_ne {services : Finset K} {key : K}
    {changes : List (Tower.Change K)} (hkey : key ∉ services)
    (hchanges : ∀ change ∈ changes, change ≠ .insert key) : key ∉ drain services changes := by
  induction changes generalizing services with
  | nil => exact hkey
  | cons change changes ih =>
    obtain ⟨hfirst, hrest⟩ := List.forall_mem_cons.mp hchanges
    rw [drain_cons]
    refine ih ?_ hrest
    cases change with
    | insert k =>
      rw [changeServices, Finset.mem_insert, not_or]
      exact ⟨fun heq => hfirst (by rw [heq]), hkey⟩
    | remove k =>
      rw [changeServices, Finset.mem_erase]
      exact fun hmem => hkey hmem.2

end Balancer

/-! ### Every run -/

section Runs

variable [DecidableEq K] {services : ServiceMap K V}
  {tr : List (PipeAction (Change K V) × ConfigDiscovery capacity K V)}

/-- **A run replays the configured services, and then what was sent.** -/
structure Replays (services : ServiceMap K V)
    (tr : List (PipeAction (Change K V) × ConfigDiscovery capacity K V)) : Prop where
  /-- There is one insertion for each configured service. -/
  one_each : ∀ key, (services.inserts.filter fun change => change.key = key) =
    ((services.get key).map (Change.insert key)).toList
  /-- What is handed out is that, then what was sent, as far as it goes. -/
  in_order : handedOut tr <+: services.inserts ++ sent tr
  /-- So many more polls hand out all of it. -/
  all : ∀ more, (discovering capacity services).Run (System.finalState (.new services) tr) more →
    (∀ p ∈ more, p.1.Proceeds) →
    services.inserts.length + (sent tr).length ≤ (handedOut tr).length + more.length →
    handedOut (tr ++ more) = services.inserts ++ sent tr
  /-- A removal that is handed out lasts until the key is inserted by one who sends. -/
  removed : ∀ key before after, sent tr = before ++ .remove key :: after →
    (∀ change ∈ after, change.forget ≠ .insert key) →
    services.inserts.length + before.length < (handedOut tr).length →
    ∀ start, key ∉ drain start ((handedOut tr).map Change.forget)

/-- What a removal takes out stays out, as far as the changes behind it go. -/
theorem notMem_drain_of_isPrefix {changes front after : List (Change K V)} {key : K}
    (hchanges : changes <+: front ++ .remove key :: after)
    (hafter : ∀ change ∈ after, change.forget ≠ .insert key)
    (hlength : front.length < changes.length) (start : Finset K) :
    key ∉ drain start (changes.map Change.forget) := by
  -- two fronts of one list: the shorter one ends with the removal
  have hfront : front ++ [.remove key] <+: front ++ .remove key :: after := by
    rw [List.prefix_append_right_inj, List.cons_prefix_cons]
    exact ⟨rfl, List.nil_prefix⟩
  have htaken : front ++ [.remove key] <+: changes := by
    refine List.prefix_of_prefix_length_le hfront hchanges ?_
    rw [List.length_append, List.length_singleton]
    exact hlength
  obtain ⟨taken, rfl⟩ := htaken
  have hrest : taken <+: after := by
    rw [List.append_assoc, List.prefix_append_right_inj, List.singleton_append,
      List.cons_prefix_cons] at hchanges
    exact hchanges.2
  rw [List.map_append, List.map_append, drain_append, drain_append]
  refine notMem_drain_of_forall_ne ?_ fun change hchange => ?_
  · -- just behind the removal
    show key ∉ (drain start (front.map Change.forget)).erase key
    exact Finset.notMem_erase key _
  · obtain ⟨c, hc, rfl⟩ := List.mem_map.mp hchange
    exact hafter c (hrest.subset hc)

/-- **The configured services come first, in every run**: each once, and behind them every change
that is sent, once and in the order in which they are sent. -/
theorem initial_services_first (h : (discovering capacity services).Run (.new services) tr) :
    Replays services tr := by
  have hwaiting : (ConfigDiscovery.new services : ConfigDiscovery capacity K V).waiting =
      services.inserts := List.append_nil _
  have horder := ConfigDiscovery.orderly.handedOut_isPrefix h
  have hconserved := ConfigDiscovery.orderly.conserved h
  rw [hwaiting] at horder hconserved
  refine ⟨services.filter_inserts, horder, fun more hmore hpolls hlength => ?_,
    fun key before after hsent hafter hlength => ?_⟩
  -- what is handed out and what waits add up to all of it
  · have hrest := congrArg List.length hconserved
    rw [List.length_append, List.length_append] at hrest
    rw [handedOut_append, ConfigDiscovery.orderly.handedOut_eq hmore hpolls (by omega)]
    exact hconserved.symm
  · rw [hsent, ← List.append_assoc] at horder
    refine notMem_drain_of_isPrefix horder hafter ?_
    rw [List.length_append]
    exact hlength

end Runs

/-- A map of one service. -/
def oneService : ServiceMap Key Unit := ⟨[(⟨.openAI, .chat⟩, ())], List.nodup_singleton _⟩

/-- The service is removed before the first poll. -/
theorem initial_services_first_removed :
    ∃ tr : List (PipeAction (Change Key Unit) × ConfigDiscovery channelCapacity Key Unit),
    sent tr = [.remove ⟨.openAI, .chat⟩] ∧
    handedOut tr = [.insert ⟨.openAI, .chat⟩ (), .remove ⟨.openAI, .chat⟩] ∧
    Replays oneService tr := by
  have hrun : (discovering channelCapacity oneService).Run (.new oneService) _ :=
    .cons (.sent (a := .remove ⟨.openAI, .chat⟩) rfl)
      (.cons (.polled _ true) (.cons (.polled _ true) (.nil _)))
  exact ⟨_, rfl, rfl, initial_services_first hrun⟩

end AiGateway.Discover
