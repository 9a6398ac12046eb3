import AiGateway.Balancer.Weighted
import AiGateway.Framework.Buffer
import AiGateway.Router.Wiring

/-!
# The readiness of the gateway

`poll_ready` of the meta router (`router/meta.rs`), of the routers (`router/service.rs`), of
the layers in front of a balancer and of the balancer itself. The meta router is asked before
it knows which router a request is for, and asks all of them.

A balancer is polled by the worker of the buffer in front of it, once a request is in the
queue. Its dispatchers are always ready.

* `MetaRouter.pollReady_eq_ready_iff`: the gateway is ready exactly when every buffer is open
  and has room;
* `waiting_of_run`: how many requests wait for a balancer is known from the history;
* `accepted_iff`: the states in which a request for a router is accepted;
* `pending_until_worked`: one full buffer stops the gateway until its balancer is ready.
-/

namespace AiGateway.Readiness

open Transition Tower

/-- `BUFFER_SIZE`. -/
def bufferSize : ℕ := 1024

/-- `InternalError`, as far as readiness can cause it. -/
inductive InternalError
  | internal
  | bufferError
  | pollReadyError
  deriving DecidableEq

/-! ### The balancers -/

/-- `ProviderBalancer`: the services behind each kind of balance. -/
inductive ProviderBalancer
  | peakEwma (services : ReadyCache Key)
  | weighted (inner : WeightedBalance WeightedKey)

namespace ProviderBalancer

/-- A balancer before it has heard of any service. -/
def new : Wiring.ProviderBalancer → ProviderBalancer
  | .peakEwma _ => peakEwma ReadyCache.empty
  | .weighted _ => weighted ⟨ReadyCache.empty, none⟩

/-- What discovery may have for a balancer. -/
def Changes : ProviderBalancer → Type
  | peakEwma _ => List (Change Key)
  | weighted _ => List (Change WeightedKey)

def noChanges : (balancer : ProviderBalancer) → balancer.Changes
  | peakEwma _ => ([] : List (Change Key))
  | weighted _ => ([] : List (Change WeightedKey))

/-- The pending services, all of which become ready. -/
def completions {K : Type} [DecidableEq K] (services : ReadyCache K) (changes : List (Change K)) :
    List (K × Bool) :=
  (changes.foldl ReadyCache.apply services).pending.map fun key => (key, true)

def pollResult : PollResult → PollReady InternalError
  | .ready => .ready
  | .pending => .pending
  | .sampleFailed => .failed .pollReadyError
  | .outOfFuel => .pending

/-- `poll_ready`. The balance over latencies finds a service as soon as there is one; the
weighted one may fail to select it. -/
def pollReady (sampler : Sampler) :
    (balancer : ProviderBalancer) → balancer.Changes → PollReady InternalError × ProviderBalancer
  | peakEwma services, (changes : List (Change Key)) =>
    let services := (changes.foldl ReadyCache.apply services).pollPending
      (completions services changes)
    (if services.ready.isEmpty then .pending else .ready, peakEwma services)
  | weighted inner, (changes : List (Change WeightedKey)) =>
    let polled := AiGateway.pollReady WeightedKey.rawWeight inner
      ⟨changes, completions inner.services changes, fun _ => .ready, sampler⟩
    (pollResult polled.1, weighted polled.2)

/-- `call`. Over latencies, `choice` is the service that was selected. -/
def call (choice : ℕ) : ProviderBalancer → ProviderBalancer
  | peakEwma services => peakEwma (services.callReadyIndex choice)
  | weighted inner => weighted inner.call

/-- The balancer has a service that it can select. -/
def IsReady (balancer : ProviderBalancer) : Prop :=
  ∀ sampler, (balancer.pollReady sampler balancer.noChanges).1 = .ready

end ProviderBalancer

/-! ### The layers -/

/-- `poll_ready` of `CacheService`, and of the service in its place without a cache. -/
def cachePollReady (inner : PollReady Empty) : PollReady InternalError :=
  inner.mapErr fun _ => .internal

/-- `poll_ready` of `ErrorHandler`. -/
def errorHandlerPollReady : PollReady InternalError → PollReady Empty
  | .ready => .ready
  -- the error is only written to the log
  | .failed _ => .pending
  | .pending => .pending

/-- `poll_ready` of `request_context::Service` and of `rate_limit::Service`. -/
def innerPollReady (inner : PollReady InternalError) : PollReady InternalError := inner

/-- `poll_ready` of `Dispatcher`, and of the unified API. -/
def dispatcherPollReady : PollReady InternalError := .ready

/-- The loop over the services of a router, or of the meta router: whether any of them is
pending. Errors are not looked at. -/
def anyPending {E : Type} (services : List (PollReady E)) : Bool :=
  services.foldl (fun anyPending poll => if poll.isPending then true else anyPending) false

/-- What the loop is followed by, for the service outside the map. -/
def pollAll {E : Type} (services : List (PollReady E)) (other : PollReady E) : PollReady E :=
  if (if other.isPending then true else anyPending services) then .pending else .ready

variable {Request : Type}

/-- A balancer with its buffer. -/
structure Stack (Request : Type) where
  buffer : Buffer bufferSize Request
  balancer : ProviderBalancer

namespace Stack

def new (balancer : Wiring.ProviderBalancer) : Stack Request := ⟨Buffer.new, .new balancer⟩

/-- `poll_ready` of the layers in front of a balancer. -/
def pollReady (stack : Stack Request) : PollReady InternalError :=
  cachePollReady (errorHandlerPollReady (innerPollReady
    ((stack.buffer.pollReady ()).mapErr fun _ => .bufferError)))

/-- What the worker finds when it polls the balancer. -/
def polled (stack : Stack Request) (sampler : Sampler) (changes : stack.balancer.Changes) :
    PollReady InternalError × ProviderBalancer :=
  let (result, balancer) := stack.balancer.pollReady sampler changes
  (innerPollReady result, balancer)

/-- A round of the worker. -/
def work (stack : Stack Request) (sampler : Sampler) (changes : stack.balancer.Changes)
    (choice : ℕ) : Stack Request :=
  let (result, balancer) := stack.polled sampler changes
  { buffer := stack.buffer.work result
    balancer := if result = .ready then balancer.call choice else balancer }

end Stack

/-- `Router`. -/
structure Router (Request : Type) where
  inner : AList fun _ : EndpointType => Stack Request

namespace Router

/-- The balancers that were built, each behind its layers. -/
def new (router : Wiring.Router) : Router Request where
  inner := router.inner.foldl (fun inner entry => inner.insert entry.1 (.new entry.2)) ∅

/-- `poll_ready`. -/
def pollReady (router : Router Request) : PollReady InternalError :=
  pollAll (router.inner.entries.map fun entry => entry.2.pollReady)
    (innerPollReady (cachePollReady (errorHandlerPollReady dispatcherPollReady)))

/-- The layers in front of each balancer are ready, and so is the balancer. -/
def IsReady (router : Router Request) : Prop :=
  ∀ endpointType stack, router.inner.lookup endpointType = some stack →
    stack.pollReady = .ready ∧ stack.balancer.IsReady

end Router

/-- `MetaRouter`. -/
structure MetaRouter (Request : Type) where
  inner : AList fun _ : RouterId => Router Request

namespace MetaRouter

def new (routers : List (RouterId × Wiring.Router)) : MetaRouter Request where
  inner := routers.foldl (fun inner entry => inner.insert entry.1 (.new entry.2)) ∅

/-- `poll_ready`. -/
def pollReady (s : MetaRouter Request) : PollReady InternalError :=
  pollAll (s.inner.entries.map fun entry => entry.2.pollReady)
    (innerPollReady (cachePollReady (errorHandlerPollReady dispatcherPollReady)))

/-- The balancer a request is for. -/
def stack? (s : MetaRouter Request) (id : RouterId) (endpointType : EndpointType) :
    Option (Stack Request) :=
  (s.inner.lookup id).bind fun router => router.inner.lookup endpointType

def setStack (s : MetaRouter Request) (id : RouterId) (endpointType : EndpointType)
    (stack : Stack Request) : MetaRouter Request :=
  match s.inner.lookup id with
  | some router => ⟨s.inner.insert id ⟨router.inner.insert endpointType stack⟩⟩
  | none => s

/-- The requests that wait for a balancer; none wait where there is no balancer. -/
def waiting (s : MetaRouter Request) (id : RouterId) (endpointType : EndpointType) : Option ℕ :=
  match s.stack? id endpointType with
  | some stack => stack.buffer.waiting
  | none => some 0

end MetaRouter

/-! ### The system -/

/-- What happens to the gateway. -/
inductive Label
  /-- A request is put into the queue of a balancer. -/
  | request (id : RouterId) (endpointType : EndpointType)
  /-- A request is answered without a balancer. -/
  | answered
  /-- The worker of a balancer polls it. -/
  | worked (id : RouterId) (endpointType : EndpointType) (result : PollReady InternalError)

/-- **The steps of the gateway.** It is called when it is ready, and its workers go on at any
time. A request stays in the queue from the moment it is accepted. -/
inductive ReadinessStep : MetaRouter Request → Label → MetaRouter Request → Prop
  | request (s : MetaRouter Request) (id : RouterId) (endpointType : EndpointType)
      (stack : Stack Request) (request : Request) : s.pollReady = .ready →
      s.stack? id endpointType = some stack →
      ReadinessStep s (.request id endpointType)
        (s.setStack id endpointType { stack with buffer := stack.buffer.call request })
  | answered (s : MetaRouter Request) : s.pollReady = .ready → ReadinessStep s .answered s
  | worked (s : MetaRouter Request) (id : RouterId) (endpointType : EndpointType)
      (stack : Stack Request) (sampler : Sampler) (changes : stack.balancer.Changes)
      (choice : ℕ) : s.stack? id endpointType = some stack → stack.buffer.closed = false →
      stack.buffer.queue ≠ [] →
      ReadinessStep s (.worked id endpointType (stack.polled sampler changes).1)
        (s.setStack id endpointType (stack.work sampler changes choice))

/-- The gateway of the given routers. -/
def metaRouter (Request : Type) (routers : List (RouterId × Wiring.Router)) :
    System (MetaRouter Request) Label where
  init := .new routers
  step := ReadinessStep

/-- What a label means for the buffer of a balancer. -/
def Label.action? (id : RouterId) (endpointType : EndpointType) :
    Label → Option (Buffer.Action InternalError)
  | request id' endpointType' =>
    if id' = id ∧ endpointType' = endpointType then some .called else none
  | answered => none
  | worked id' endpointType' result =>
    if id' = id ∧ endpointType' = endpointType then some (.worked result) else none

/-- The requests that wait after one more label. -/
def waitingNext (id : RouterId) (endpointType : EndpointType) (n : Option ℕ) (l : Label) :
    Option ℕ :=
  match l.action? id endpointType with
  | some a => n.bind a.next
  | none => n

/-- **The requests that wait for a balancer after a history**: those sent to it that it has not
taken, unless one of its polls has failed. -/
def waitingAfter (id : RouterId) (endpointType : EndpointType) (labels : List Label) : Option ℕ :=
  labels.foldl (waitingNext id endpointType) (some 0)

/-! ### Asking all services -/

section PollAll

variable {E : Type} {services : List (PollReady E)} {other : PollReady E}

theorem anyPending_eq_false_iff : anyPending services = false ↔ ∀ p ∈ services, p ≠ .pending := by
  -- the loop keeps what it has found
  have hloop : ∀ found : Bool,
      services.foldl (fun anyPending poll => if poll.isPending then true else anyPending) found =
        false ↔ found = false ∧ ∀ p ∈ services, p ≠ .pending := by
    induction services with
    | nil => simp
    | cons p services ih =>
      intro found
      rw [List.foldl_cons, ih, List.forall_mem_cons, ← and_assoc]
      refine and_congr_left fun _ => ?_
      cases p <;> simp [PollReady.isPending]
  exact (hloop false).trans (and_iff_right rfl)

/-- All of them have to be ready, or to fail. -/
theorem pollAll_eq_ready_iff :
    pollAll services other = .ready ↔ (∀ p ∈ services, p ≠ .pending) ∧ other ≠ .pending := by
  unfold pollAll
  cases other with
  | pending => simp [PollReady.isPending]
  | ready => simp [PollReady.isPending, anyPending_eq_false_iff]
  | failed e => simp [PollReady.isPending, anyPending_eq_false_iff]

/-- It is never an error. -/
theorem pollAll_ne_pending_iff : pollAll services other ≠ .pending ↔
    pollAll services other = .ready := by
  unfold pollAll
  split <;> simp

end PollAll

/-! ### The layers -/

variable {s s' : MetaRouter Request} {id id' : RouterId} {endpointType endpointType' : EndpointType}
  {stack : Stack Request}

/-- The services outside the maps are ready at any time. -/
theorem dispatcherPollReady_ne_pending :
    innerPollReady (cachePollReady (errorHandlerPollReady dispatcherPollReady)) ≠ .pending :=
  fun h => by cases h

/-- The layers pass on that the buffer is ready, and anything else holds a request up. -/
theorem Stack.pollReady_eq (stack : Stack Request) :
    stack.pollReady =
      if stack.buffer.pollReady () = .ready then .ready else .pending := by
  unfold Stack.pollReady
  cases stack.buffer.pollReady () <;> rfl

theorem Stack.pollReady_ne_pending_iff : stack.pollReady ≠ .pending ↔
    ∃ n, stack.buffer.waiting = some n ∧ n < bufferSize := by
  rw [Stack.pollReady_eq, ← @Buffer.pollReady_eq_ready_iff Unit Request bufferSize _ ()]
  by_cases h : stack.buffer.pollReady () = .ready
  · simp [h]
  · simp [h]

theorem Router.pollReady_ne_pending_iff {router : Router Request} : router.pollReady ≠ .pending ↔
    ∀ endpointType stack, router.inner.lookup endpointType = some stack →
      ∃ n, stack.buffer.waiting = some n ∧ n < bufferSize := by
  unfold Router.pollReady
  rw [pollAll_ne_pending_iff, pollAll_eq_ready_iff, and_iff_left dispatcherPollReady_ne_pending]
  constructor
  · intro h endpointType stack hlookup
    have hmem := AList.mem_lookup_iff.mp hlookup
    exact Stack.pollReady_ne_pending_iff.mp (h _ (List.mem_map_of_mem hmem))
  · intro h p hp
    obtain ⟨⟨endpointType, stack⟩, hmem, rfl⟩ := List.mem_map.mp hp
    exact Stack.pollReady_ne_pending_iff.mpr (h endpointType stack (AList.mem_lookup_iff.mpr hmem))

/-- **The gateway is ready** exactly when every buffer is open and has room. -/
theorem MetaRouter.pollReady_eq_ready_iff : s.pollReady = .ready ↔
    ∀ id endpointType, ∃ n, s.waiting id endpointType = some n ∧ n < bufferSize := by
  unfold MetaRouter.pollReady
  rw [pollAll_eq_ready_iff, and_iff_left dispatcherPollReady_ne_pending]
  constructor
  · intro h id endpointType
    unfold MetaRouter.waiting MetaRouter.stack?
    cases hrouter : s.inner.lookup id with
    -- what does not exist has nothing waiting
    | none => exact ⟨0, rfl, by decide⟩
    | some router =>
      have hmem := AList.mem_lookup_iff.mp hrouter
      have hready := Router.pollReady_ne_pending_iff.mp (h _ (List.mem_map_of_mem hmem))
      rw [Option.bind_some]
      cases hstack : router.inner.lookup endpointType with
      | none => exact ⟨0, rfl, by decide⟩
      | some stack => exact hready endpointType stack hstack
  · intro h p hp
    obtain ⟨⟨id, router⟩, hmem, rfl⟩ := List.mem_map.mp hp
    refine Router.pollReady_ne_pending_iff.mpr fun endpointType stack hstack => ?_
    have hwaiting := h id endpointType
    unfold MetaRouter.waiting MetaRouter.stack? at hwaiting
    rw [AList.mem_lookup_iff.mpr hmem, Option.bind_some, hstack] at hwaiting
    exact hwaiting

theorem MetaRouter.pollReady_ne_ready_iff : s.pollReady ≠ .ready ↔ s.pollReady = .pending := by
  rw [← not_iff_not, not_not, ← ne_eq (s.pollReady), MetaRouter.pollReady, pollAll_ne_pending_iff]

theorem MetaRouter.pollReady_of_full (h : s.waiting id endpointType = some bufferSize) :
    s.pollReady = .pending := by
  rw [← pollReady_ne_ready_iff, Ne, pollReady_eq_ready_iff]
  intro hall
  obtain ⟨n, hn, hlt⟩ := hall id endpointType
  cases h.symm.trans hn
  exact Nat.lt_irrefl _ hlt

/-! ### One balancer and the others -/

theorem MetaRouter.stack?_setStack_self (h : s.stack? id endpointType = some stack)
    (stack' : Stack Request) :
    (s.setStack id endpointType stack').stack? id endpointType = some stack' := by
  unfold stack? at h
  unfold setStack stack?
  cases hrouter : s.inner.lookup id with
  | none => simp [hrouter] at h
  | some router =>
    dsimp only
    rw [AList.lookup_insert, Option.bind_some, AList.lookup_insert]

theorem MetaRouter.stack?_setStack_ne (h : ¬(id = id' ∧ endpointType = endpointType'))
    (stack' : Stack Request) :
    (s.setStack id endpointType stack').stack? id' endpointType' = s.stack? id' endpointType' := by
  unfold setStack
  cases hrouter : s.inner.lookup id with
  | none => rfl
  | some router =>
    unfold stack?
    dsimp only
    by_cases hid : id' = id
    · subst hid
      have htype : endpointType' ≠ endpointType := fun heq => h ⟨rfl, heq.symm⟩
      rw [AList.lookup_insert, hrouter, Option.bind_some, Option.bind_some,
        AList.lookup_insert_ne htype]
    · rw [AList.lookup_insert_ne hid]

theorem MetaRouter.waiting_of_stack? (h : s.stack? id endpointType = some stack) :
    s.waiting id endpointType = stack.buffer.waiting := by
  unfold waiting
  rw [h]

theorem MetaRouter.waiting_setStack (h : s.stack? id endpointType = some stack)
    (stack' : Stack Request) :
    (s.setStack id endpointType stack').waiting id endpointType = stack'.buffer.waiting :=
  waiting_of_stack? (stack?_setStack_self h stack')

theorem MetaRouter.waiting_setStack_ne (h : ¬(id = id' ∧ endpointType = endpointType'))
    (stack' : Stack Request) :
    (s.setStack id endpointType stack').waiting id' endpointType' =
      s.waiting id' endpointType' := by
  unfold waiting
  rw [stack?_setStack_ne h]

/-! ### The history -/

theorem Label.action?_request_self (id : RouterId) (endpointType : EndpointType) :
    (Label.request id endpointType).action? id endpointType = some .called := if_pos ⟨rfl, rfl⟩

theorem Label.action?_request_ne (h : ¬(id' = id ∧ endpointType' = endpointType)) :
    (Label.request id' endpointType').action? id endpointType = none := if_neg h

theorem Label.action?_worked_ne (h : ¬(id' = id ∧ endpointType' = endpointType))
    (result : PollReady InternalError) :
    (Label.worked id' endpointType' result).action? id endpointType = none := if_neg h

theorem Label.action?_worked_self (id : RouterId) (endpointType : EndpointType)
    (result : PollReady InternalError) :
    (Label.worked id endpointType result).action? id endpointType = some (.worked result) :=
  if_pos ⟨rfl, rfl⟩

theorem waitingNext_of_some {l : Label} {a : Buffer.Action InternalError} {n : Option ℕ}
    (h : l.action? id endpointType = some a) : waitingNext id endpointType n l = n.bind a.next := by
  unfold waitingNext
  rw [h]

theorem waitingNext_of_none {l : Label} {n : Option ℕ} (h : l.action? id endpointType = none) :
    waitingNext id endpointType n l = n := by
  unfold waitingNext
  rw [h]

/-- **One step.** What waits for a balancer after it is known from its label. -/
theorem waiting_of_step {l : Label} (h : ReadinessStep s l s') (id : RouterId)
    (endpointType : EndpointType) :
    s'.waiting id endpointType = waitingNext id endpointType (s.waiting id endpointType) l := by
  cases h with
  | request id' endpointType' stack request hready hstack =>
    -- only the stack that the step is about is set
    by_cases hsame : id' = id ∧ endpointType' = endpointType
    · obtain ⟨rfl, rfl⟩ := hsame
      rw [waitingNext_of_some (Label.action?_request_self id' endpointType'),
        MetaRouter.waiting_setStack hstack]
      obtain ⟨n, hn, hlt⟩ := MetaRouter.pollReady_eq_ready_iff.mp hready id' endpointType'
      rw [MetaRouter.waiting_of_stack? hstack] at hn ⊢
      exact Buffer.waiting_call request (Buffer.length_lt_of_waiting hn hlt)
    · rw [waitingNext_of_none (Label.action?_request_ne hsame),
        MetaRouter.waiting_setStack_ne hsame]
  | answered hready => rfl
  | worked id' endpointType' stack sampler changes choice hstack hopen hqueue =>
    by_cases hsame : id' = id ∧ endpointType' = endpointType
    · obtain ⟨rfl, rfl⟩ := hsame
      rw [waitingNext_of_some (Label.action?_worked_self id' endpointType' _),
        MetaRouter.waiting_setStack hstack, MetaRouter.waiting_of_stack? hstack]
      exact Buffer.waiting_work _ hopen
    · rw [waitingNext_of_none (Label.action?_worked_ne hsame _),
        MetaRouter.waiting_setStack_ne hsame]

/-- **The whole run.** -/
theorem waiting_foldl {routers : List (RouterId × Wiring.Router)}
    {tr : List (Label × MetaRouter Request)}
    (h : (metaRouter Request routers).Run s tr) (id : RouterId) (endpointType : EndpointType) :
    (System.finalState s tr).waiting id endpointType =
      (tr.map Prod.fst).foldl (waitingNext id endpointType) (s.waiting id endpointType) :=
  h.foldl_labels (fun s => s.waiting id endpointType) (waitingNext id endpointType)
    fun _ _ _ hstep => waiting_of_step hstep id endpointType

/-- Nothing waits at first. -/
theorem waiting_new (routers : List (RouterId × Wiring.Router)) (id : RouterId)
    (endpointType : EndpointType) :
    (MetaRouter.new routers : MetaRouter Request).waiting id endpointType = some 0 := by
  unfold MetaRouter.waiting MetaRouter.stack?
  cases hid : (MetaRouter.new routers : MetaRouter Request).inner.lookup id with
  | none => rfl
  | some router =>
    rw [Option.bind_some]
    cases hstack : router.inner.lookup endpointType with
    | none => rfl
    | some stack =>
      -- both maps are filled with what is new, in a loop
      rcases Registry.exists_of_lookup_foldl_insert _ routers hid with h | ⟨built, -, rfl⟩
      · rw [AList.lookup_empty] at h
        cases h
      · rcases Registry.exists_of_lookup_foldl_insert _ built.inner hstack with h | ⟨b, -, rfl⟩
        · rw [AList.lookup_empty] at h
          cases h
        · exact Buffer.waiting_new

/-- **What waits for a balancer** in a state that is reached is known from the history. -/
theorem waiting_of_run {routers : List (RouterId × Wiring.Router)}
    {tr : List (Label × MetaRouter Request)}
    (h : (metaRouter Request routers).Run (metaRouter Request routers).init tr) (id : RouterId)
    (endpointType : EndpointType) :
    (System.finalState (metaRouter Request routers).init tr).waiting id endpointType =
      waitingAfter id endpointType (tr.map Prod.fst) := by
  rw [waiting_foldl h]
  change List.foldl _ ((MetaRouter.new routers).waiting id endpointType) _ = _
  rw [waiting_new]
  rfl

/-! ### Main results -/

/-- **When a request for a router is accepted**, in a state that is reached in which the layers
of the router and its balancers are ready: exactly when each buffer of each other router has
room for the requests that wait, and none of their balancers has failed a poll. -/
theorem accepted_iff (routers : List (RouterId × Wiring.Router))
    (tr : List (Label × MetaRouter Request))
    (hrun : (metaRouter Request routers).Run (metaRouter Request routers).init tr) (id : RouterId)
    (router : Router Request)
    (hrouter : (System.finalState (metaRouter Request routers).init tr).inner.lookup id =
      some router)
    (hready : router.IsReady) :
    (System.finalState (metaRouter Request routers).init tr).pollReady = .ready ↔
      ∀ id' endpointType, id' ≠ id →
        ∃ n, waitingAfter id' endpointType (tr.map Prod.fst) = some n ∧ n < bufferSize := by
  rw [MetaRouter.pollReady_eq_ready_iff]
  constructor
  · intro h id' endpointType _
    rw [← waiting_of_run hrun]
    exact h id' endpointType
  · intro h id' endpointType
    -- the router of the request is ready itself
    by_cases hid : id' = id
    · subst hid
      unfold MetaRouter.waiting MetaRouter.stack?
      rw [hrouter, Option.bind_some]
      cases hstack : router.inner.lookup endpointType with
      | none => exact ⟨0, rfl, by decide⟩
      | some stack =>
        refine Stack.pollReady_ne_pending_iff.mp ?_
        rw [(hready endpointType stack hstack).1]
        exact fun h => by cases h
    · rw [waiting_of_run hrun]
      exact h id' endpointType hid

/-- **A full buffer stops the gateway** for as long as its balancer is not ready when it is
polled, whatever the other balancers do. -/
theorem pending_until_worked {routers : List (RouterId × Wiring.Router)}
    {tr : List (Label × MetaRouter Request)} (h : (metaRouter Request routers).Run s tr)
    (hfull : s.waiting id endpointType = some bufferSize)
    (hpolls : System.AllSteps (fun _ l _ => ∀ result, l = .worked id endpointType result →
      result = .pending) s tr) :
    System.AllStates (fun s => s.pollReady = .pending) s tr := by
  refine System.AllStates.imp (System.Run.invariant_of_allSteps ?_ h hfull hpolls)
    fun s => MetaRouter.pollReady_of_full
  -- nothing is accepted, and nothing is taken from the full buffer
  intro s l s' hs hstep hpoll
  have hpending := MetaRouter.pollReady_of_full hs
  rw [waiting_of_step hstep, hs]
  cases hstep with
  | request id' endpointType' stack request hready hstack =>
    cases hpending.symm.trans hready
  | answered hready => cases hpending.symm.trans hready
  | worked id' endpointType' stack sampler changes choice hstack hopen hqueue =>
    by_cases hsame : id' = id ∧ endpointType' = endpointType
    · obtain ⟨rfl, rfl⟩ := hsame
      rw [waitingNext_of_some (Label.action?_worked_self id' endpointType' _), hpoll _ rfl]
      rfl
    · rw [waitingNext_of_none (Label.action?_worked_ne hsame _)]

/-! ### An outage -/

theorem MetaRouter.lookup_setStack_ne (h : id' ≠ id) (stack' : Stack Request) :
    (s.setStack id endpointType stack').inner.lookup id' = s.inner.lookup id' := by
  unfold setStack
  cases hrouter : s.inner.lookup id with
  | none => rfl
  | some router => exact AList.lookup_insert_ne h

/-- Requests can be sent to a router until its buffer is full. -/
theorem exists_fill {routers : List (RouterId × Wiring.Router)} (request : Request) (m : ℕ) :
    ∀ {s : MetaRouter Request} {stack : Stack Request} {n : ℕ},
      s.stack? id endpointType = some stack → stack.buffer.waiting = some n →
      n + m ≤ bufferSize →
      (∀ id' endpointType', ¬(id = id' ∧ endpointType = endpointType') →
        ∃ n, s.waiting id' endpointType' = some n ∧ n < bufferSize) →
      ∃ tr stack', (metaRouter Request routers).Run s tr ∧
        (System.finalState s tr).stack? id endpointType = some stack' ∧
        stack'.balancer = stack.balancer ∧ stack'.buffer.waiting = some (n + m) ∧
        ∀ id' ≠ id, (System.finalState s tr).inner.lookup id' = s.inner.lookup id' := by
  induction m with
  | zero =>
    intro s stack n hstack hn _ _
    exact ⟨[], stack, .nil s, hstack, rfl, hn, fun _ _ => rfl⟩
  | succ m ih =>
    intro s stack n hstack hn hle hothers
    have hlt : n < bufferSize := Nat.lt_of_lt_of_le (Nat.lt_add_of_pos_right m.succ_pos) hle
    -- every buffer has room, so the gateway takes the request
    have hready : s.pollReady = .ready := by
      rw [MetaRouter.pollReady_eq_ready_iff]
      intro id' endpointType'
      by_cases hsame : id = id' ∧ endpointType = endpointType'
      · obtain ⟨rfl, rfl⟩ := hsame
        exact ⟨n, (MetaRouter.waiting_of_stack? hstack).trans hn, hlt⟩
      · exact hothers id' endpointType' hsame
    have hcalled : (stack.buffer.call request).waiting = some (n + 1) := by
      rw [@Buffer.waiting_call InternalError _ _ _ request (Buffer.length_lt_of_waiting hn hlt), hn]
      rfl
    obtain ⟨tr, stack', hrun, hfinal, hbalancer, hwaiting, hframe⟩ :=
      @ih (s.setStack id endpointType { stack with buffer := stack.buffer.call request })
        { stack with buffer := stack.buffer.call request } (n + 1)
        (MetaRouter.stack?_setStack_self hstack _) hcalled
        (by rwa [Nat.add_assoc, Nat.add_comm 1 m]) (by
          intro id' endpointType' hne
          rw [MetaRouter.waiting_setStack_ne hne]
          exact hothers id' endpointType' hne)
    refine ⟨(.request id endpointType, _) :: tr, stack',
      .cons (.request s id endpointType stack request hready hstack) hrun, ?_, hbalancer, ?_, ?_⟩
    · rwa [System.finalState_cons]
    · rwa [Nat.add_assoc, Nat.add_comm 1 m] at hwaiting
    · intro id' hid'
      rw [System.finalState_cons, hframe id' hid', MetaRouter.lookup_setStack_ne hid']

/-- Two routers that chat. -/
def twoRouters : List (RouterId × Wiring.Router) :=
  [(.default, ⟨[(.chat, .peakEwma ⟨∅, ⟨0⟩⟩)]⟩),
    (.named ['e', 'u'], ⟨[(.chat, .peakEwma ⟨∅, ⟨2⟩⟩)]⟩)]

/-- A balancer that has not been polled yet, with a request. -/
def asked : Stack Unit where
  buffer := Buffer.new.call ()
  balancer := .peakEwma ReadyCache.empty

/-- The balancer after it has answered it. -/
def served : Stack Unit where
  buffer := Buffer.new
  balancer := .peakEwma ⟨[], [⟨.openAI, .chat⟩], List.nodup_nil, List.nodup_singleton _⟩

/-- The default router answers a request. -/
def serving : List (Label × MetaRouter Unit) :=
  let s : MetaRouter Unit := (MetaRouter.new twoRouters).setStack .default .chat asked
  [(.request .default .chat, s), (.worked .default .chat .ready, s.setStack .default .chat served)]

theorem run_serving :
    (metaRouter Unit twoRouters).Run (metaRouter Unit twoRouters).init serving := by
  have hchanges : asked.balancer.Changes := ([.insert ⟨.openAI, .chat⟩] : List (Change Key))
  refine .cons (.request _ .default .chat (.new (.peakEwma ⟨∅, ⟨0⟩⟩)) () (by decide) rfl) ?_
  exact .cons (.worked _ .default .chat asked firstPositive
    ([.insert ⟨.openAI, .chat⟩] : List (Change Key)) 0 rfl rfl (by decide)) (.nil _)

def servedRouter : Router Unit := ⟨AList.insert .chat served ∅⟩

theorem isReady_servedRouter : servedRouter.IsReady := by
  intro endpointType stack hlookup
  by_cases h : endpointType = .chat
  · subst h
    cases hlookup
    exact ⟨by decide, fun sampler => rfl⟩
  · unfold servedRouter at hlookup
    rw [AList.lookup_insert_ne h, AList.lookup_empty] at hlookup
    cases hlookup

/-- Then the only provider of the other router is removed, and a request is sent to it. -/
def removed : List (Label × MetaRouter Unit) :=
  let s : MetaRouter Unit :=
    (System.finalState (metaRouter Unit twoRouters).init serving).setStack (.named ['e', 'u'])
      .chat asked
  [(.request (.named ['e', 'u']) .chat, s),
    (.worked (.named ['e', 'u']) .chat .pending, s.setStack (.named ['e', 'u']) .chat asked)]

theorem run_removed :
    (metaRouter Unit twoRouters).Run
      (System.finalState (metaRouter Unit twoRouters).init serving) removed := by
  refine .cons (.request _ (.named ['e', 'u']) .chat (.new (.peakEwma ⟨∅, ⟨2⟩⟩)) () (by decide)
    rfl) ?_
  exact .cons (.worked _ (.named ['e', 'u']) .chat asked firstPositive
    ([.insert ⟨.openAI, .chat⟩, .remove ⟨.openAI, .chat⟩] : List (Change Key)) 0 rfl rfl
    (by decide)) (.nil _)

/-- One request waits for the other router, which is less than its buffer holds: requests are
accepted. -/
theorem accepted_iff_serving :
    waitingAfter (.named ['e', 'u']) .chat ((serving ++ removed).map Prod.fst) = some 1 ∧
      (System.finalState (metaRouter Unit twoRouters).init (serving ++ removed)).pollReady =
        .ready := by
  refine ⟨by decide, (accepted_iff twoRouters _ (run_serving.append run_removed) .default
    servedRouter rfl isReady_servedRouter).mpr fun id' endpointType hne => ?_⟩
  by_cases hwaits : (.named ['e', 'u'] : RouterId) = id' ∧ EndpointType.chat = endpointType
  · obtain ⟨rfl, rfl⟩ := hwaits
    exact ⟨1, by decide, by decide⟩
  · -- nothing is sent to any other balancer
    refine ⟨0, ?_, by decide⟩
    simp [waitingAfter, waitingNext, Label.action?, serving, removed, Ne.symm hne, hwaits]

/-- **An outage elsewhere.** The balancer of one router has no provider, and its buffer fills
up. From then on, requests for the other router are not accepted either. -/
theorem accepted_fails :
    ∃ (routers : List (RouterId × Wiring.Router)) (tr : List (Label × MetaRouter Unit))
      (id id' : RouterId) (router : Router Unit) (stack : Stack Unit),
      (metaRouter Unit routers).Run (metaRouter Unit routers).init tr ∧
      (System.finalState (metaRouter Unit routers).init tr).inner.lookup id = some router ∧
      router.IsReady ∧ id' ≠ id ∧
      (System.finalState (metaRouter Unit routers).init tr).stack? id' .chat = some stack ∧
      stack.balancer = .peakEwma ReadyCache.empty ∧
      (System.finalState (metaRouter Unit routers).init tr).pollReady ≠ .ready := by
  -- both routers are served, and then one loses its provider
  have hprefix := System.Run.append run_serving run_removed
  have hready : (System.finalState (metaRouter Unit twoRouters).init
      (serving ++ removed)).pollReady = .ready := by decide
  -- requests for it fill its buffer, which leaves the other router as it was
  obtain ⟨tr, stack, hrun, hstack, hbalancer, hwaiting, hframe⟩ :=
    @exists_fill Unit (.named ['e', 'u']) .chat twoRouters () 1023 _ asked 1 rfl rfl
      (Nat.le_refl _) fun id endpointType _ => MetaRouter.pollReady_eq_ready_iff.mp hready id
        endpointType
  refine ⟨twoRouters, _, .default, .named ['e', 'u'], servedRouter, stack,
    System.Run.append hprefix hrun, ?_, isReady_servedRouter, ?_, ?_, hbalancer, ?_⟩
  · rw [System.finalState_append, hframe .default (fun h => by cases h)]
    rfl
  · exact fun h => by cases h
  · rw [System.finalState_append]
    exact hstack
  · rw [System.finalState_append, MetaRouter.pollReady_of_full]
    · exact fun h => by cases h
    · exact (MetaRouter.waiting_of_stack? hstack).trans hwaiting

end AiGateway.Readiness
