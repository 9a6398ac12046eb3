import AiGateway.Framework.Runs
import AiGateway.Framework.RustStd

/-!
# Streams that are sent to

A stream at the end of a channel is polled by one task, while others send. The runtime
bounds how much a task takes in a row, so that a poll may be turned away although something
waits.

* `Orderly`: a stream hands out what waits in it, in its order, and leaves nothing out;
* `Orderly.conserved`: along a run, what waited and what was sent is what was handed out and
  what still waits;
* `Orderly.handedOut_eq`: enough polls that are not turned away hand out all that waited;
* `Channel.orderly`: a bounded channel is such a stream.
-/

namespace Tokio

open Transition

variable {σ α : Type*}

/-- What a poll returns. -/
inductive Poll (α : Type*)
  | ready (a : α)
  | pending

/-- The item that a poll of a stream yields. The end of the stream is no item. -/
def Poll.item : Poll (Option α) → Option α
  | ready item => item
  | pending => none

/-- A stream with its senders. -/
structure Pipe (σ α : Type*) where
  /-- `none`: there is no room, or no sender is left. -/
  trySend : σ → α → Option σ
  /-- The last sender goes. -/
  close : σ → σ
  /-- A poll, and whether the runtime lets it proceed. -/
  pollNext : Bool → σ → Poll (Option α) × σ

/-! ### Runs -/

inductive PipeAction (α : Type*)
  | sent (a : α)
  | closed
  | polled (proceeds : Bool) (result : Poll (Option α))

namespace PipeAction

/-- What is sent, if anything. -/
def message : PipeAction α → Option α
  | sent a => some a
  | _ => none

/-- What is handed out, if anything. -/
def item : PipeAction α → Option α
  | polled _ result => result.item
  | _ => none

/-- A poll that is not turned away. -/
def Proceeds : PipeAction α → Prop
  | polled proceeds _ => proceeds = true
  | _ => False

end PipeAction

/-- What a run sends, in order. -/
def sent (tr : List (PipeAction α × σ)) : List α := tr.filterMap fun p => p.1.message

/-- What a run hands out, in order. -/
def handedOut (tr : List (PipeAction α × σ)) : List α := tr.filterMap fun p => p.1.item

section Labels

variable {tr tr' : List (PipeAction α × σ)} {s : σ}

@[simp] theorem sent_nil : sent ([] : List (PipeAction α × σ)) = [] := rfl

@[simp] theorem handedOut_nil : handedOut ([] : List (PipeAction α × σ)) = [] := rfl

theorem sent_cons (l : PipeAction α) : sent ((l, s) :: tr) = l.message.toList ++ sent tr :=
  List.filterMap_cons_toList _ _ _

theorem handedOut_cons (l : PipeAction α) :
    handedOut ((l, s) :: tr) = l.item.toList ++ handedOut tr :=
  List.filterMap_cons_toList _ _ _

theorem handedOut_append : handedOut (tr ++ tr') = handedOut tr ++ handedOut tr' :=
  List.filterMap_append

end Labels

namespace Pipe

/-- The steps of the senders and of the task that polls. -/
inductive Step (pipe : Pipe σ α) : σ → PipeAction α → σ → Prop
  | sent {s s' : σ} {a : α} : pipe.trySend s a = some s' → Step pipe s (.sent a) s'
  | closed (s : σ) : Step pipe s .closed (pipe.close s)
  | polled (s : σ) (proceeds : Bool) :
      Step pipe s (.polled proceeds (pipe.pollNext proceeds s).1) (pipe.pollNext proceeds s).2

/-- A stream that starts at `init`. -/
def system (pipe : Pipe σ α) (init : σ) : System σ (PipeAction α) := ⟨init, pipe.Step⟩

end Pipe

/-! ### Order -/

/-- **A stream in order**: what is sent waits behind what waits already, and a poll takes the
first of it. Only if nothing waits does a poll that proceeds find nothing. -/
structure Orderly (pipe : Pipe σ α) (waiting : σ → List α) : Prop where
  trySend : ∀ {s a s'}, pipe.trySend s a = some s' → waiting s' = waiting s ++ [a]
  close : ∀ s, waiting (pipe.close s) = waiting s
  pollNext : ∀ proceeds s, waiting s =
    (pipe.pollNext proceeds s).1.item.toList ++ waiting (pipe.pollNext proceeds s).2
  proceeds : ∀ s, (pipe.pollNext true s).1.item = none → waiting s = []

namespace Orderly

variable {pipe : Pipe σ α} {waiting : σ → List α} {init s s' : σ} {l : PipeAction α}
  {tr : List (PipeAction α × σ)}

/-- One step keeps what there is. -/
theorem step (h : Orderly pipe waiting) (hst : pipe.Step s l s') :
    waiting s ++ l.message.toList = l.item.toList ++ waiting s' := by
  cases hst with
  | sent hsend => exact (h.trySend hsend).symm
  | closed => exact (List.append_nil _).trans (h.close s).symm
  | polled proceeds =>
    rw [show (PipeAction.polled proceeds (pipe.pollNext proceeds s).1).message = none from rfl,
      Option.toList_none, List.append_nil]
    exact h.pollNext proceeds s

/-- **Nothing is lost and nothing is doubled**: what waited and what was sent has been handed out,
or waits. -/
theorem conserved (h : Orderly pipe waiting) (hrun : (pipe.system init).Run s tr) :
    waiting s ++ sent tr = handedOut tr ++ waiting (System.finalState s tr) := by
  induction hrun with
  | nil s => exact List.append_nil _
  | @cons s s' l tr hst _ ih =>
    rw [sent_cons, handedOut_cons, System.finalState_cons]
    calc waiting s ++ (l.message.toList ++ sent tr)
        = (waiting s ++ l.message.toList) ++ sent tr := (List.append_assoc _ _ _).symm
      _ = (l.item.toList ++ waiting s') ++ sent tr := by rw [h.step hst]
      _ = l.item.toList ++ (handedOut tr ++ waiting (System.finalState s' tr)) := by
          rw [List.append_assoc, ih]
      _ = (l.item.toList ++ handedOut tr) ++ waiting (System.finalState s' tr) :=
          (List.append_assoc _ _ _).symm

/-- What is handed out comes in the order of what waited and what was sent. -/
theorem handedOut_isPrefix (h : Orderly pipe waiting) (hrun : (pipe.system init).Run s tr) :
    handedOut tr <+: waiting s ++ sent tr :=
  ⟨waiting (System.finalState s tr), (h.conserved hrun).symm⟩

/-- A poll that proceeds takes the first of what waits. -/
theorem waiting_of_proceeds (h : Orderly pipe waiting) (hst : pipe.Step s l s')
    (hl : l.Proceeds) : waiting s' = (waiting s).tail := by
  cases hst with
  | sent hsend => cases hl
  | closed => cases hl
  | polled proceeds =>
    obtain rfl : proceeds = true := hl
    have htaken := h.pollNext true s
    cases hitem : (pipe.pollNext true s).1.item with
    | none =>
      -- nothing waited, so that nothing waits now
      have hnone := h.proceeds s hitem
      rw [hitem, hnone] at htaken
      rw [hnone, (List.append_eq_nil_iff.mp htaken.symm).2, List.tail_nil]
    | some a =>
      rw [hitem] at htaken
      rw [htaken, Option.toList_some, List.singleton_append, List.tail_cons]

/-- So many polls take so much. -/
theorem waiting_finalState (h : Orderly pipe waiting) (hrun : (pipe.system init).Run s tr)
    (hpolls : ∀ p ∈ tr, p.1.Proceeds) :
    waiting (System.finalState s tr) = (waiting s).drop tr.length := by
  induction hrun with
  | nil s => rfl
  | @cons s s' l tr hst _ ih =>
    obtain ⟨hfirst, hrest⟩ := List.forall_mem_cons.mp hpolls
    rw [System.finalState_cons, ih hrest, h.waiting_of_proceeds hst hfirst, List.drop_tail,
      List.length_cons]

/-- **Enough polls** hand out all that waited. -/
theorem handedOut_eq (h : Orderly pipe waiting) (hrun : (pipe.system init).Run s tr)
    (hpolls : ∀ p ∈ tr, p.1.Proceeds) (hlength : (waiting s).length ≤ tr.length) :
    handedOut tr = waiting s := by
  have hnone : sent tr = [] := by
    refine List.filterMap_eq_nil_iff.mpr fun p hp => ?_
    obtain ⟨l, s⟩ := p
    cases l with
    | sent a => cases hpolls _ hp
    | closed => rfl
    | polled proceeds result => rfl
  have hall := h.conserved hrun
  rw [h.waiting_finalState hrun hpolls, List.drop_eq_nil_of_le hlength, hnone, List.append_nil,
    List.append_nil] at hall
  exact hall.symm

end Orderly

/-! ### The bounded channel -/

/-- A bounded channel: what waits in it, the oldest first. -/
structure Channel (capacity : ℕ) (α : Type*) where
  queue : List α
  length_le : queue.length ≤ capacity
  /-- No sender is left. -/
  closed : Bool

namespace Channel

variable {capacity : ℕ}

def new : Channel capacity α := ⟨[], Nat.zero_le capacity, false⟩

/-- A message is accepted as long as there is room for it. -/
def trySend (c : Channel capacity α) (a : α) : Option (Channel capacity α) :=
  if h : c.closed = false ∧ c.queue.length < capacity then
    some ⟨c.queue ++ [a], by rw [List.length_append]; exact h.2, c.closed⟩
  else none

def close (c : Channel capacity α) : Channel capacity α := { c with closed := true }

/-- What waits behind the first message. -/
def tail (c : Channel capacity α) : Channel capacity α :=
  ⟨c.queue.tail, (List.tail_sublist c.queue).length_le.trans c.length_le, c.closed⟩

/-- `poll_recv`: the end comes when the channel is closed and empty. -/
def pollNext (proceeds : Bool) (c : Channel capacity α) :
    Poll (Option α) × Channel capacity α :=
  if proceeds then
    match c.queue with
    | a :: _ => (.ready (some a), c.tail)
    | [] => (if c.closed then .ready none else .pending, c)
  else (.pending, c)

/-- The channel and its senders. -/
def pipe (capacity : ℕ) (α : Type*) : Pipe (Channel capacity α) α := ⟨trySend, close, pollNext⟩

theorem queue_of_trySend {c c' : Channel capacity α} {a : α} (h : c.trySend a = some c') :
    c'.queue = c.queue ++ [a] := by
  unfold trySend at h
  split at h
  · cases h
    rfl
  · cases h

theorem pollNext_nil {c : Channel capacity α} (h : c.queue = []) (proceeds : Bool) :
    (c.pollNext proceeds).1.item = none ∧ (c.pollNext proceeds).2 = c := by
  unfold pollNext
  rw [h]
  dsimp only
  split
  · exact ⟨by split <;> rfl, rfl⟩
  · exact ⟨rfl, rfl⟩

theorem pollNext_cons {c : Channel capacity α} {a : α} {rest : List α} (h : c.queue = a :: rest) :
    c.pollNext true = (.ready (some a), c.tail) := by
  unfold pollNext
  rw [h]
  rfl

theorem queue_tail_of_cons {c : Channel capacity α} {a : α} {rest : List α}
    (h : c.queue = a :: rest) : c.tail.queue = rest := by
  show c.queue.tail = rest
  rw [h, List.tail_cons]

/-- **A channel is in order.** -/
theorem orderly : Orderly (pipe capacity α) queue where
  trySend := queue_of_trySend
  close c := rfl
  pollNext proceeds c := by
    show c.queue = (c.pollNext proceeds).1.item.toList ++ (c.pollNext proceeds).2.queue
    cases proceeds with
    | false => rfl
    | true =>
      cases hqueue : c.queue with
      | nil =>
        obtain ⟨hitem, hrest⟩ := pollNext_nil hqueue true
        rw [hitem, hrest, hqueue]
        rfl
      | cons a rest =>
        rw [pollNext_cons hqueue, queue_tail_of_cons hqueue]
        rfl
  -- a channel that has something hands it out
  proceeds c hitem := by
    change (c.pollNext true).1.item = none at hitem
    cases hqueue : c.queue with
    | nil => rfl
    | cons a rest =>
      rw [pollNext_cons hqueue] at hitem
      cases hitem

end Channel

end Tokio
