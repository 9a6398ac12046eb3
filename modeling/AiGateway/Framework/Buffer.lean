import Mathlib.Data.List.Basic
import Mathlib.Tactic.Common

/-!
# Readiness and buffers

A service is asked whether it is ready before it is called. A buffer in front of a service
is ready as long as its queue has room: its worker takes a request from the queue only when
the service is ready, and ends for good when the service fails.

* `pollReady_eq_ready_iff`: a buffer is ready exactly when it is open and has room;
* `waiting_call`, `waiting_work`: how many requests wait is known from the history of a
  buffer.
-/

namespace Tower

variable {E E' Request : Type} {bound : ℕ}

/-- What `poll_ready` returns. -/
inductive PollReady (E : Type)
  | ready
  | failed (e : E)
  | pending
  deriving DecidableEq

namespace PollReady

def isPending : PollReady E → Bool
  | pending => true
  | _ => false

def mapErr (f : E → E') : PollReady E → PollReady E'
  | ready => ready
  | failed e => failed (f e)
  | pending => pending

@[simp] theorem isPending_eq_false_iff {p : PollReady E} : p.isPending = false ↔ p ≠ pending := by
  cases p <;> simp [isPending]

@[simp] theorem mapErr_eq_ready_iff {f : E → E'} {p : PollReady E} :
    p.mapErr f = ready ↔ p = ready := by
  cases p <;> simp [mapErr]

end PollReady

/-- `Buffer`: a bounded queue, which is closed once its worker has ended. -/
structure Buffer (bound : ℕ) (Request : Type) where
  queue : List Request
  length_le : queue.length ≤ bound
  closed : Bool

namespace Buffer

def new : Buffer bound Request := ⟨[], Nat.zero_le bound, false⟩

/-- `poll_ready`. -/
def pollReady (closedError : E) (b : Buffer bound Request) : PollReady E :=
  if b.closed then .failed closedError
  else if b.queue.length < bound then .ready
  else .pending

/-- `call`, which puts the request into the queue. Without room it is not called. -/
def call (b : Buffer bound Request) (request : Request) : Buffer bound Request :=
  if h : b.queue.length < bound then
    { b with queue := b.queue ++ [request], length_le := by rwa [List.length_append] }
  else b

/-- What the worker does after it has polled the service for the first request. -/
def work (b : Buffer bound Request) : PollReady E → Buffer bound Request
  | .ready =>
    { b with
      queue := b.queue.tail
      length_le := Nat.le_trans (List.tail_sublist b.queue).length_le b.length_le }
  | .failed _ => ⟨[], Nat.zero_le bound, true⟩
  | .pending => b

/-! ### How many requests wait -/

/-- The requests that wait in an open buffer. -/
def waiting (b : Buffer bound Request) : Option ℕ :=
  if b.closed then none else some b.queue.length

/-- What happens to a buffer. -/
inductive Action (E : Type)
  | called
  | worked (result : PollReady E)
  deriving DecidableEq

/-- How many requests wait after one more action. Nothing waits in a closed buffer. -/
def Action.next : Action E → ℕ → Option ℕ
  | called, n => some (n + 1)
  | worked .ready, n => some (n - 1)
  | worked (.failed _), _ => none
  | worked .pending, n => some n

@[simp] theorem waiting_new : (new : Buffer bound Request).waiting = some 0 := rfl

variable {b : Buffer bound Request}

/-- **A buffer is ready** exactly when it is open and its queue has room. -/
theorem pollReady_eq_ready_iff {closedError : E} :
    b.pollReady closedError = .ready ↔ ∃ n, b.waiting = some n ∧ n < bound := by
  unfold pollReady waiting
  cases b.closed with
  | true => simp
  | false =>
    by_cases h : b.queue.length < bound
    · simp [h]
    · simp [h]

theorem length_lt_of_waiting {n : ℕ} (h : b.waiting = some n) (hlt : n < bound) :
    b.queue.length < bound := by
  unfold waiting at h
  split at h
  · cases h
  · cases h
    exact hlt

theorem waiting_call (request : Request) (h : b.queue.length < bound) :
    (b.call request).waiting = b.waiting.bind (Action.called : Action E).next := by
  unfold waiting call
  rw [dif_pos h]
  cases b.closed with
  | true => rfl
  | false => simp [Action.next]

theorem waiting_work (result : PollReady E) (hclosed : b.closed = false) :
    (b.work result).waiting = b.waiting.bind (Action.worked result).next := by
  unfold waiting
  rw [hclosed]
  cases result with
  | ready => simp [work, Action.next, hclosed]
  | failed e => rfl
  | pending => simp [work, Action.next, hclosed]

end Buffer

end Tower
