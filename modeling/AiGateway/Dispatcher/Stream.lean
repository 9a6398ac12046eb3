import AiGateway.Framework.RustStd
import AiGateway.Dispatcher.Client
import AiGateway.Framework.Runs

/-!
# Polling an event source

`sse_stream` of `dispatcher/client.rs`, one poll at a time. An event source is not only
read: with its default retry policy it sends the request again when it is polled after the
connection broke. So a poll may send the request, and wait for the response, and the task that
forwards events decides by polling on how often the request is sent.

* `sentOnce_iff`: for which sequences of items the request is sent at most once;
* `sent_eq_posts`: how often it is sent until the task has ended;
* `sseStream_of_ended`: what a run sends to the client is what `sseStream` makes of its items.
-/

namespace AiGateway

open Transition

/-! ### The event source -/

/-- What an event source has of a response. -/
inductive Connection
  /-- Nothing: the next poll sends the request. -/
  | idle
  /-- The request has been sent, and the response is awaited. -/
  | awaiting
  /-- The response is being read. -/
  | opened
  deriving DecidableEq

/-- `EventSource` of `reqwest_eventsource`. -/
structure EventSource where
  /-- How often the request has been sent. -/
  sent : ℕ
  connection : Connection
  isClosed : Bool

namespace EventSource

/-- The source of a request, which is sent when it is first polled. -/
def new : EventSource := ⟨0, .idle, false⟩

def close (source : EventSource) : EventSource := { source with isClosed := true }

/-- The next poll sends the request, unless it cannot be made. -/
def IsIdle (source : EventSource) : Prop := source.isClosed = false ∧ source.connection = .idle

instance (source : EventSource) : Decidable source.IsIdle := inferInstanceAs (Decidable (_ ∧ _))

/-- **A poll that sends the request.** It yields nothing yet. -/
def send (source : EventSource) : EventSource :=
  { source with sent := source.sent + 1, connection := .awaiting }

/-- **A poll that is ready**, with the item it yields. Every error but those about the response
itself leaves the source ready to send the request again. -/
inductive Poll : EventSource → Option SseItem → EventSource → Prop
  | closed (source : EventSource) : source.isClosed = true → Poll source none source
  | opened (source : EventSource) : source.isClosed = false → source.connection = .awaiting →
      Poll source (some (.ok .opened)) { source with connection := .opened }
  | invalidStatusCode (source : EventSource) (status : StatusCode) (body : Option Bytes) :
      source.isClosed = false → source.connection = .awaiting →
      Poll source (some (.error (.invalidStatusCode status body))) source.close
  | invalidContentType (source : EventSource) : source.isClosed = false →
      source.connection = .awaiting →
      Poll source (some (.error .invalidContentType)) source.close
  | connectionFailed (source : EventSource) : source.isClosed = false →
      source.connection = .awaiting →
      Poll source (some (.error .transport)) { source with connection := .idle }
  /-- The last event id, which a request that is sent again carries, is no header value. -/
  | invalidLastEventId (source : EventSource) : source.isClosed = false →
      source.connection = .idle → 0 < source.sent →
      Poll source (some (.error .invalidLastEventId)) source.close
  | message (source : EventSource) (data : String) : source.isClosed = false →
      source.connection = .opened → Poll source (some (.ok (.message data))) source
  | broken (source : EventSource) (e : EventSourceError) : source.isClosed = false →
      source.connection = .opened → e = .utf8 ∨ e = .parser ∨ e = .transport ∨ e = .streamEnded →
      Poll source (some (.error e)) { source with connection := .idle }

end EventSource

/-! ### The task -/

inductive SseStage
  /-- The first event is awaited. -/
  | starting
  | forwarding
  | ended
  /-- The error the event source starts with is returned. -/
  | failed (e : EventSourceError)

/-- `sse_stream` and the task it spawns, with what was sent to the client so far. -/
structure SseTask where
  source : EventSource
  stage : SseStage
  out : List (Except EventSourceError Bytes)

/-- The event source is polled: the first event is awaited, or the loop goes on. -/
def SseTask.Polls (task : SseTask) : Prop := task.stage = .starting ∨ task.stage = .forwarding

/-- An item that is read, and whether the client is gone by then. -/
structure SseRead where
  item : Option SseItem
  receiverDropped : Bool

/-- What a poll comes to. -/
inductive SseAction
  | send
  | read (r : SseRead)

/-- The item of a poll, unless it only sends the request. -/
def SseAction.read? : SseAction → Option SseRead
  | .send => none
  | .read r => some r

/-- A send to the client, which fails when it is gone. -/
def sendTo (receiverDropped : Bool) (x : Except EventSourceError Bytes) :
    List (Except EventSourceError Bytes) :=
  if receiverDropped then [] else [x]

/-- What `sse_stream` does with the first item. -/
def startWith (source : EventSource) : Option SseItem → SseTask
  | some (.error e) => ⟨source, .failed e, []⟩
  | some (.ok (.message data)) =>
    ⟨source, .forwarding, if data = "[DONE]" then [] else [.ok (sseData data)]⟩
  | some (.ok .opened) => ⟨source, .forwarding, []⟩
  | none => ⟨source, .forwarding, []⟩

/-- What the loop does with an item, `handle_stream_error` included. -/
def forwardItem (out : List (Except EventSourceError Bytes)) (source : EventSource)
    (receiverDropped : Bool) : Option SseItem → SseTask
  | none => ⟨source.close, .ended, out⟩
  | some (.error .streamEnded) => ⟨source.close, .ended, out⟩
  | some (.error (.invalidStatusCode _ none)) => ⟨source.close, .ended, out⟩
  | some (.error (.invalidStatusCode _ (some body))) =>
    ⟨source, .forwarding, out ++ sendTo receiverDropped (.ok body)⟩
  -- any other error is sent, and the loop goes on even if this fails
  | some (.error e) => ⟨source, .forwarding, out ++ sendTo receiverDropped (.error e)⟩
  | some (.ok (.message data)) =>
    if data = "[DONE]" then ⟨source.close, .ended, out⟩
    else if receiverDropped then ⟨source.close, .ended, out⟩
    else ⟨source, .forwarding, out ++ [.ok (sseData data)]⟩
  | some (.ok .opened) => ⟨source, .forwarding, out⟩

/-- **The steps of the task**: it polls the source until it has ended or failed. -/
inductive SseStep : SseTask → SseAction → SseTask → Prop
  | send (task : SseTask) : task.Polls → task.source.IsIdle →
      SseStep task .send { task with source := task.source.send }
  | start (task : SseTask) (r : SseRead) (source : EventSource) : task.stage = .starting →
      task.source.Poll r.item source → SseStep task (.read r) (startWith source r.item)
  | forward (task : SseTask) (r : SseRead) (source : EventSource) : task.stage = .forwarding →
      task.source.Poll r.item source →
      SseStep task (.read r) (forwardItem task.out source r.receiverDropped r.item)

/-- `dispatch_stream` of one request. -/
def sseTask : System SseTask SseAction where
  init := ⟨.new, .starting, []⟩
  step := SseStep

/-- What a run reads. -/
def readsOf (tr : List (SseAction × SseTask)) : List SseRead :=
  (tr.map Prod.fst).filterMap SseAction.read?

/-- The items a run reads. -/
def itemsOf (tr : List (SseAction × SseTask)) : List (Option SseItem) :=
  (readsOf tr).map SseRead.item

theorem itemsOf_read (r : SseRead) (task : SseTask) (tr : List (SseAction × SseTask)) :
    itemsOf ((.read r, task) :: tr) = r.item :: itemsOf tr := rfl

/-! ### One poll -/

namespace EventSource

theorem not_isIdle_of_isClosed {source : EventSource} (h : source.isClosed = true) :
    ¬ source.IsIdle := by
  rintro ⟨hclosed, -⟩
  rw [h] at hclosed
  cases hclosed

theorem not_isIdle_send (source : EventSource) : ¬ source.send.IsIdle := fun h => by cases h.2

/-- A poll that yields an item does not send. -/
theorem Poll.sent_eq {source source' : EventSource} {item : Option SseItem}
    (h : source.Poll item source') : source'.sent = source.sent := by
  cases h <;> rfl

/-- A source that is about to send yields an item only if the request cannot be made again. -/
theorem Poll.of_isIdle {source source' : EventSource} {item : Option SseItem}
    (h : source.Poll item source') (hidle : source.IsIdle) :
    item = some (.error .invalidLastEventId) ∧ 0 < source.sent := by
  obtain ⟨hclosed, hidle⟩ := hidle
  cases h with
  | closed hclosed' => cases hclosed.symm.trans hclosed'
  | opened _ hawaiting => cases hidle.symm.trans hawaiting
  | invalidStatusCode _ _ _ hawaiting => cases hidle.symm.trans hawaiting
  | invalidContentType _ hawaiting => cases hidle.symm.trans hawaiting
  | connectionFailed _ hawaiting => cases hidle.symm.trans hawaiting
  | invalidLastEventId _ _ hsent => exact ⟨rfl, hsent⟩
  | message _ _ hopened => cases hidle.symm.trans hopened
  | broken _ _ hopened _ => cases hidle.symm.trans hopened

/-- What a source that awaits a response yields is about the response. -/
theorem Poll.ne_invalidLastEventId {source source' : EventSource} {item : Option SseItem}
    (h : source.Poll item source') (hawaiting : source.connection = .awaiting) :
    item ≠ some (.error .invalidLastEventId) := by
  rintro rfl
  cases h with
  | invalidLastEventId _ hidle _ => cases hawaiting.symm.trans hidle
  | broken _ _ hopened _ => cases hawaiting.symm.trans hopened

end EventSource

/-- The connection broke. -/
def IsBroken (item : Option SseItem) : Prop := item.any isBroken = true

instance (item : Option SseItem) : Decidable (IsBroken item) := inferInstanceAs (Decidable (_ = _))

/-- **Ready to send again.** A source is about to send exactly if its last item broke the
connection, or was the end of the stream. -/
theorem EventSource.Poll.isIdle_iff {source source' : EventSource} {item : Option SseItem}
    (h : source.Poll item source') (hended : item ≠ some (.error .streamEnded)) :
    source'.IsIdle ↔ IsBroken item := by
  cases h with
  | closed hclosed =>
    exact iff_of_false (not_isIdle_of_isClosed hclosed) Bool.false_ne_true
  | opened =>
    exact iff_of_false (fun h => by cases h.2) Bool.false_ne_true
  | invalidStatusCode =>
    exact iff_of_false (not_isIdle_of_isClosed rfl) Bool.false_ne_true
  | invalidContentType =>
    exact iff_of_false (not_isIdle_of_isClosed rfl) Bool.false_ne_true
  | invalidLastEventId =>
    exact iff_of_false (not_isIdle_of_isClosed rfl) Bool.false_ne_true
  | connectionFailed hclosed => exact iff_of_true ⟨hclosed, rfl⟩ rfl
  | message data _ hopened =>
    exact iff_of_false (fun h => by cases hopened.symm.trans h.2)
      Bool.false_ne_true
  -- four ways to break, of which the end of the stream is excluded
  | broken e hclosed _ he =>
    rcases he with rfl | rfl | rfl | rfl
    · exact iff_of_true ⟨hclosed, rfl⟩ rfl
    · exact iff_of_true ⟨hclosed, rfl⟩ rfl
    · exact iff_of_true ⟨hclosed, rfl⟩ rfl
    · exact absurd rfl hended

/-- The loop either ends, after an item that broke nothing, or goes on with the source as it
is. -/
theorem forwardItem_spec (out : List (Except EventSourceError Bytes)) (source : EventSource)
    (receiverDropped : Bool) (item : Option SseItem) :
    ((forwardItem out source receiverDropped item).stage = .ended ∧ ¬ IsBroken item ∧
        (forwardItem out source receiverDropped item).source.sent = source.sent) ∨
      ((forwardItem out source receiverDropped item).stage = .forwarding ∧
        (forwardItem out source receiverDropped item).source = source ∧
        item ≠ some (.error .streamEnded)) := by
  -- in the order of its branches
  unfold forwardItem
  split
  · exact Or.inl ⟨rfl, Bool.false_ne_true, rfl⟩
  · exact Or.inl ⟨rfl, Bool.false_ne_true, rfl⟩
  · exact Or.inl ⟨rfl, Bool.false_ne_true, rfl⟩
  · exact Or.inr ⟨rfl, rfl, fun h => by cases h⟩
  · next hended _ _ =>
    refine Or.inr ⟨rfl, rfl, fun h => ?_⟩
    cases h
    exact hended rfl
  · split
    · exact Or.inl ⟨rfl, Bool.false_ne_true, rfl⟩
    · split
      · exact Or.inl ⟨rfl, Bool.false_ne_true, rfl⟩
      · exact Or.inr ⟨rfl, rfl, fun h => by cases h⟩
  · exact Or.inr ⟨rfl, rfl, fun h => by cases h⟩

/-- Where an item is read, nothing is sent. -/
theorem SseStep.sent_eq {task task' : SseTask} {r : SseRead} (h : SseStep task (.read r) task') :
    task'.source.sent = task.source.sent := by
  cases h with
  | start _ source hstage hpoll =>
    have hsource : (startWith source r.item).source = source := by
      unfold startWith
      split <;> rfl
    rw [hsource, hpoll.sent_eq]
  | forward _ source hstage hpoll =>
    rcases forwardItem_spec task.out source r.receiverDropped r.item with h | h
    · rw [h.2.2, hpoll.sent_eq]
    · rw [h.2.1, hpoll.sent_eq]

/-! ### Runs -/

/-- A task that polls no more does nothing more. -/
theorem run_eq_nil {task : SseTask} {tr : List (SseAction × SseTask)} (hrun : sseTask.Run task tr)
    (h : ¬ task.Polls) : tr = [] := by
  cases hrun with
  | nil => rfl
  | cons hstep hrest =>
    cases hstep with
    | send hpolls hidle => exact absurd hpolls h
    | start r source hstage hpoll => exact absurd (Or.inl hstage) h
    | forward r source hstage hpoll => exact absurd (Or.inr hstage) h

theorem not_polls_of_ended {task : SseTask} (h : task.stage = .ended) : ¬ task.Polls := by
  unfold SseTask.Polls
  rw [h]
  rintro (h | h) <;> cases h

/-- The first item after the request was sent is about its response. -/
theorem head?_itemsOf_ne {task : SseTask} {tr : List (SseAction × SseTask)}
    (hrun : sseTask.Run task tr) (hawaiting : task.source.connection = .awaiting) :
    (itemsOf tr).head? ≠ some (some (.error .invalidLastEventId)) := by
  cases hrun with
  | nil => exact fun h => by cases h
  | cons hstep hrest =>
    cases hstep with
    | send hpolls hidle => cases hawaiting.symm.trans hidle.2
    | start r source hstage hpoll =>
      exact fun h => hpoll.ne_invalidLastEventId hawaiting (Option.some.inj h)
    | forward r source hstage hpoll =>
      exact fun h => hpoll.ne_invalidLastEventId hawaiting (Option.some.inj h)

/-- **The start of a run.** The request is sent, and the first item tells whether the source
opened. -/
theorem run_init {tr : List (SseAction × SseTask)} (hrun : sseTask.Run sseTask.init tr) :
    itemsOf tr = [] ∧ System.AllStates (fun task => task.source.sent ≤ 1) sseTask.init tr ∧
        (System.finalState sseTask.init tr).Polls ∨
      ∃ r task tr', tr = (.send, { sseTask.init with source := EventSource.new.send }) ::
          (.read r, task) :: tr' ∧ sseTask.Run task tr' ∧
        (∀ tr'', sseTask.Run task tr'' → sseTask.Run sseTask.init ((.send,
          { sseTask.init with source := EventSource.new.send }) :: (.read r, task) :: tr'')) ∧
        (r.item = some (.ok .opened) ∧ task = ⟨⟨1, .opened, false⟩, .forwarding, []⟩ ∨
          ∃ e source, r.item = some (.error e) ∧ source.sent = 1 ∧
            task = ⟨source, .failed e, []⟩) := by
  have hinit : sseTask.init.Polls := Or.inl rfl
  cases hrun with
  | nil => exact Or.inl ⟨rfl, (System.allStates_nil _ _).mpr (Nat.zero_le 1), hinit⟩
  | cons hstep hrest =>
    cases hstep with
    | forward r source hstage hpoll => cases hstage
    -- the source has sent nothing yet, so it can only send
    | start r source _ hpoll => exact absurd (hpoll.of_isIdle ⟨rfl, rfl⟩).2 (Nat.lt_irrefl 0)
    | send hpolls hidle =>
      cases hrest with
      | nil =>
        refine Or.inl ⟨rfl, ⟨Nat.zero_le 1, fun p hp => ?_⟩, hinit⟩
        obtain rfl := List.mem_singleton.mp hp
        exact Nat.le_refl 1
      | cons hstep hrest =>
        cases hstep with
        | send _ hidle' => exact absurd hidle' (EventSource.not_isIdle_send _)
        | forward r source hstage hpoll => cases hstage
        | start r source _ hpoll =>
          refine Or.inr ⟨r, _, _, rfl, hrest, fun tr'' hrun'' =>
            .cons (.send _ hpolls hidle) (.cons (.start _ r source rfl hpoll) hrun''), ?_⟩
          obtain ⟨item, receiverDropped⟩ := r
          cases hpoll with
          | closed hclosed => cases hclosed
          | opened => exact Or.inl ⟨rfl, rfl⟩
          | invalidStatusCode => exact Or.inr ⟨_, _, rfl, rfl, rfl⟩
          | invalidContentType => exact Or.inr ⟨_, _, rfl, rfl, rfl⟩
          | connectionFailed => exact Or.inr ⟨_, _, rfl, rfl, rfl⟩
          | invalidLastEventId _ hidle' => cases hidle'
          | message data _ hopened => cases hopened
          | broken e _ hopened => cases hopened

/-! ### How often the request is sent -/

/-- The request has been sent at most once. -/
def SentOnce (task : SseTask) : Prop := task.source.sent ≤ 1

/-- No item breaks the connection, unless the next one is the failure to make the request
again. -/
def Unbroken : List (Option SseItem) → Prop
  | [] => True
  | item :: rest =>
    (IsBroken item → rest.head? = some (some (.error .invalidLastEventId))) ∧ Unbroken rest

/-- The loop sends nothing after an item that broke nothing, and so on. -/
theorem sentOnce_of_unbroken {task : SseTask} {tr : List (SseAction × SseTask)}
    (hrun : sseTask.Run task tr) (hsent : task.source.sent = 1) {item : Option SseItem}
    (hstage : task.stage = .forwarding) (hitem : task.source.IsIdle ↔ IsBroken item)
    (h : Unbroken (item :: itemsOf tr)) : System.AllStates SentOnce task tr := by
  induction hrun generalizing item with
  | nil task => exact (System.allStates_nil _ _).mpr hsent.le
  | @cons task task' action tr hstep hrest ih =>
    obtain ⟨hnext, hrestUnbroken⟩ := h
    cases hstep with
    | start r source hstarting => cases hstage.symm.trans hstarting
    | send hpolls hidle =>
      -- the request would have been sent again, and the next item be about its response
      have hne := head?_itemsOf_ne hrest
      exact absurd (hnext (hitem.mp hidle)) (hne rfl)
    | forward r source _ hpoll =>
      refine (System.allStates_cons ..).mpr ⟨hsent.le, ?_⟩
      rcases forwardItem_spec task.out source r.receiverDropped r.item with
        ⟨hends, -, hkept⟩ | ⟨hgoes, hsource, hne⟩
      · obtain rfl := run_eq_nil hrest (not_polls_of_ended hends)
        exact (System.allStates_nil _ _).mpr (hkept.trans (hpoll.sent_eq.trans hsent)).le
      · refine ih ?_ hgoes ?_ hrestUnbroken
        · rw [hsource, hpoll.sent_eq, hsent]
        · rw [hsource]
          exact hpoll.isIdle_iff hne

theorem not_sentOnce_send {task : SseTask} {tr : List (SseAction × SseTask)}
    (hsent : task.source.sent = 1) : ¬ System.AllStates SentOnce task
      ((SseAction.send, { task with source := task.source.send }) :: tr) := by
  rintro ⟨-, hall⟩
  have hle : task.source.sent + 1 ≤ 1 := hall _ List.mem_cons_self
  rw [hsent] at hle
  exact absurd hle (by decide)

/-- Where the connection broke, the next poll sends the request once more. -/
theorem exists_twice {task : SseTask} {tr : List (SseAction × SseTask)}
    (hrun : sseTask.Run task tr) (hsent : task.source.sent = 1) {item : Option SseItem}
    (hstage : task.stage = .forwarding) (hitem : task.source.IsIdle ↔ IsBroken item)
    (h : ¬ Unbroken (item :: itemsOf tr)) :
    ∃ tr', sseTask.Run task tr' ∧ readsOf tr' = readsOf tr ∧
      ¬ System.AllStates SentOnce task tr' := by
  induction hrun generalizing item with
  | nil task =>
    -- the run can go on with a poll that sends
    have hbroken : IsBroken item := by
      by_contra hnot
      exact h ⟨fun hitem => absurd hitem hnot, trivial⟩
    exact ⟨_, .cons (.send task (Or.inr hstage) (hitem.mpr hbroken)) (.nil _), rfl,
      not_sentOnce_send hsent⟩
  | @cons task task' action tr hstep hrest ih =>
    cases hstep with
    | start r source hstarting => cases hstage.symm.trans hstarting
    | send hpolls hidle =>
      exact ⟨_, .cons (.send task hpolls hidle) hrest, rfl, not_sentOnce_send hsent⟩
    | forward r source _ hpoll =>
      have hnot : ¬ Unbroken (r.item :: itemsOf tr) := fun hall =>
        h ⟨fun hbroken => congrArg some (hpoll.of_isIdle (hitem.mpr hbroken)).1, hall⟩
      rcases forwardItem_spec task.out source r.receiverDropped r.item with
        ⟨hends, hunbroken, -⟩ | ⟨hgoes, hsource, hne⟩
      · -- the loop ends with an item that broke nothing
        obtain rfl := run_eq_nil hrest (not_polls_of_ended hends)
        exact absurd ⟨fun hbroken => absurd hbroken hunbroken, trivial⟩ hnot
      · obtain ⟨tr', hrun', hreads, hall⟩ := ih (by rw [hsource, hpoll.sent_eq, hsent]) hgoes
          (by rw [hsource]; exact hpoll.isIdle_iff hne) hnot
        refine ⟨_, .cons (.forward task r source hstage hpoll) hrun', ?_, fun hcons =>
          hall ((System.allStates_cons ..).mp hcons).2⟩
        exact congrArg (r :: ·) hreads

/-- The items an opened source yields next, after the one that opened it. -/
theorem opened_isIdle_iff :
    (⟨1, .opened, false⟩ : EventSource).IsIdle ↔ IsBroken (some (.ok .opened)) :=
  iff_of_false (fun h => by cases h.2) Bool.false_ne_true

/-- **When a request is sent at most once.** For a sequence of items that the task reads, with a
client that may leave at any of them, no run of the task sends the request twice exactly when,
after the first item, the connection never breaks, other than where the request cannot be made
again. -/
theorem sentOnce_iff {reads : List SseRead}
    (hreads : ∃ tr, sseTask.Run sseTask.init tr ∧ readsOf tr = reads) :
    (∀ tr, sseTask.Run sseTask.init tr → readsOf tr = reads →
        System.AllStates SentOnce sseTask.init tr) ↔
      Unbroken (reads.map SseRead.item).tail := by
  constructor
  · intro hall
    by_contra hnot
    obtain ⟨tr, hrun, rfl⟩ := hreads
    rcases run_init hrun with ⟨hitems, -, -⟩ | ⟨r, task, tr', rfl, hrest, hextend, hfirst⟩
    · change ¬ Unbroken (itemsOf tr).tail at hnot
      rw [hitems] at hnot
      exact hnot trivial
    · change ¬ Unbroken (itemsOf tr') at hnot
      rcases hfirst with ⟨hopened, rfl⟩ | ⟨e, source, -, -, rfl⟩
      -- the same items are read by a run that has sent the request again
      · obtain ⟨tr'', hrun'', hsame, htwice⟩ := exists_twice hrest rfl rfl opened_isIdle_iff
          fun hunbroken => hnot hunbroken.2
        have honce := hall _ (hextend tr'' hrun'') (congrArg (r :: ·) hsame)
        exact htwice ((System.allStates_cons ..).mp ((System.allStates_cons ..).mp honce).2).2
      · obtain rfl := run_eq_nil hrest (by rintro (h | h) <;> cases h)
        exact hnot trivial
  · rintro hunbroken tr hrun rfl
    rcases run_init hrun with ⟨-, honce, -⟩ | ⟨r, task, tr', rfl, hrest, -, hfirst⟩
    · exact honce
    · refine (System.allStates_cons ..).mpr ⟨Nat.zero_le 1, (System.allStates_cons ..).mpr
        ⟨Nat.le_refl 1, ?_⟩⟩
      rcases hfirst with ⟨hopened, rfl⟩ | ⟨e, source, -, hsent, rfl⟩
      · have hfrom : Unbroken (some (.ok .opened) :: itemsOf tr') :=
          ⟨fun hbroken => absurd hbroken Bool.false_ne_true, hunbroken⟩
        exact sentOnce_of_unbroken hrest rfl rfl opened_isIdle_iff hfrom
      · obtain rfl := run_eq_nil hrest (by rintro (h | h) <;> cases h)
        exact (System.allStates_nil _ _).mpr hsent.le

/-- The items that are read of a source before it is closed. -/
def yielded (tr : List (SseAction × SseTask)) : List SseItem := (itemsOf tr).filterMap id

theorem yielded_send (task : SseTask) (tr : List (SseAction × SseTask)) :
    yielded ((.send, task) :: tr) = yielded tr := rfl

theorem yielded_read (r : SseRead) (task : SseTask) (tr : List (SseAction × SseTask)) :
    yielded ((.read r, task) :: tr) = r.item.toList ++ yielded tr := by
  unfold yielded
  rw [itemsOf_read, List.filterMap_cons_toList]
  rfl

/-- Where the request was sent, the next item that is yielded is about its response. -/
theorem head?_yielded_ne {task : SseTask} {tr : List (SseAction × SseTask)}
    (hrun : sseTask.Run task tr) (hclosed : task.source.isClosed = false)
    (hawaiting : task.source.connection = .awaiting) :
    (yielded tr).head? ≠ some (.error .invalidLastEventId) := by
  have hne := head?_itemsOf_ne hrun hawaiting
  -- a source that is open yields an item, which is then the first one
  have hsome : ∀ {item : Option SseItem} {source}, task.source.Poll item source →
      item ≠ none := by
    rintro _ source hpoll rfl
    cases hpoll with
    | closed hclosed' => cases hclosed.symm.trans hclosed'
  cases hrun with
  | nil => exact fun h => by cases h
  | cons hstep hrest =>
    cases hstep with
    | send hpolls hidle => cases hawaiting.symm.trans hidle.2
    | start r source hstage hpoll =>
      obtain ⟨i, hi⟩ := Option.ne_none_iff_exists'.mp (hsome hpoll)
      rw [itemsOf_read, hi] at hne
      rw [yielded_read, hi]
      exact fun h => hne (congrArg some h)
    | forward r source hstage hpoll =>
      obtain ⟨i, hi⟩ := Option.ne_none_iff_exists'.mp (hsome hpoll)
      rw [itemsOf_read, hi] at hne
      rw [yielded_read, hi]
      exact fun h => hne (congrArg some h)

/-- What an item that the loop goes on after adds, and that nothing is added after the others. -/
theorem resends_of_forwardItem (out : List (Except EventSourceError Bytes)) (source : EventSource)
    (item : Option SseItem) :
    ((forwardItem out source false item).stage = .forwarding →
        ∀ rest, resends (item.toList ++ rest) =
          (if IsBroken item ∧ rest.head? ≠ some (.error .invalidLastEventId) then 1 else 0) +
            resends rest) ∧
      ((forwardItem out source false item).stage = .ended → resends item.toList = 0) := by
  -- `[DONE]`, the end of the stream and a status without a body end the loop
  cases item with
  | none => exact ⟨fun h => (by cases h), fun _ => rfl⟩
  | some item =>
    cases item with
    | ok event =>
      cases event with
      | opened => exact ⟨fun _ rest => rfl, fun h => by cases h⟩
      | message data =>
        by_cases hdone : data = "[DONE]"
        · subst hdone
          exact ⟨fun h => (by cases h), fun _ => rfl⟩
        · refine ⟨fun _ rest => ?_, fun _ => ?_⟩
          · change resends (.ok (.message data) :: rest) = _
            rw [resends, if_neg hdone, if_neg fun h => Bool.false_ne_true h.1, Nat.zero_add]
          · change resends [.ok (.message data)] = 0
            rw [resends, if_neg hdone, resends]
    | error e =>
      cases e with
      | streamEnded => exact ⟨fun h => (by cases h), fun _ => rfl⟩
      | invalidStatusCode status body =>
        cases body with
        | none => exact ⟨fun h => (by cases h), fun _ => rfl⟩
        | some body => exact ⟨fun _ rest => rfl, fun h => by cases h⟩
      | utf8 | parser | transport | invalidContentType | invalidLastEventId =>
        exact ⟨fun _ rest => rfl, fun h => by cases h⟩

/-- **The loop** sends the request again after each item that broke the connection. -/
theorem sent_of_run {task : SseTask} {tr : List (SseAction × SseTask)}
    (hrun : sseTask.Run task tr) (hstage : task.stage = .forwarding)
    (hstays : ∀ r ∈ readsOf tr, r.receiverDropped = false)
    (hended : ¬ (System.finalState task tr).Polls) :
    (System.finalState task tr).source.sent = task.source.sent +
      (if task.source.IsIdle ∧ (yielded tr).head? ≠ some (.error .invalidLastEventId)
        then 1 else 0) + resends (yielded tr) := by
  induction hrun with
  | nil task => exact absurd (Or.inr hstage) hended
  | @cons task task' action tr hstep hrest ih =>
    rw [System.finalState_cons] at hended ⊢
    cases hstep with
    | start r source hstarting => cases hstage.symm.trans hstarting
    | send hpolls hidle =>
      have hne := head?_yielded_ne hrest hidle.1 rfl
      rw [ih hstage hstays hended, if_neg fun h => EventSource.not_isIdle_send _ h.1,
        yielded_send, if_pos ⟨hidle, hne⟩]
      rfl
    | forward r source _ hpoll =>
      obtain ⟨hread, htail⟩ := List.forall_mem_cons.mp hstays
      rw [hread] at hrest ih hended ⊢
      -- a source that is about to send yields an item only in vain
      rw [yielded_read, if_neg fun h => h.2 (by rw [(hpoll.of_isIdle h.1).1]; rfl), Nat.add_zero]
      rcases forwardItem_spec task.out source false r.item with
        ⟨hends, -, hkept⟩ | ⟨hgoes, hsource, hne⟩
      · obtain rfl := run_eq_nil hrest (not_polls_of_ended hends)
        have hzero := (resends_of_forwardItem task.out source r.item).2 hends
        change (forwardItem task.out source false r.item).source.sent =
          task.source.sent + resends (r.item.toList ++ [])
        rw [List.append_nil, hzero, hkept, hpoll.sent_eq, Nat.add_zero]
      · rw [ih hgoes htail hended, hsource, hpoll.sent_eq,
          (resends_of_forwardItem task.out source r.item).1 hgoes, Nat.add_assoc]
        simp only [hpoll.isIdle_iff hne]

/-- **How often the request is sent** until the task polls no more, for a client that stays. -/
theorem sent_eq_posts {tr : List (SseAction × SseTask)} (hrun : sseTask.Run sseTask.init tr)
    (hstays : ∀ r ∈ readsOf tr, r.receiverDropped = false)
    (hended : ¬ (System.finalState sseTask.init tr).Polls) :
    (System.finalState sseTask.init tr).source.sent = posts (yielded tr) := by
  rcases run_init hrun with ⟨-, -, hpolls⟩ | ⟨r, task, tr', rfl, hrest, -, hfirst⟩
  · exact absurd hpolls hended
  · rw [System.finalState_cons, System.finalState_cons] at hended ⊢
    rw [yielded_send, yielded_read]
    rcases hfirst with ⟨hopened, rfl⟩ | ⟨e, source, hfailed, hsent, rfl⟩
    · rw [sent_of_run hrest rfl (List.forall_mem_cons.mp hstays).2 hended, hopened,
        if_neg fun h => by cases h.1.2]
      rfl
    · obtain rfl := run_eq_nil hrest (by rintro (h | h) <;> cases h)
      rw [hfailed]
      exact hsent

/-! ### What the client receives -/

/-- One item, for a client that stays: it is sent what `forwardEvents` makes of the item. When
the loop ends, this is all that it makes of the items. -/
theorem forwardItem_out (out : List (Except EventSourceError Bytes)) (source : EventSource)
    (item : Option SseItem) :
    ∃ sent, (forwardItem out source false item).out = out ++ sent ∧
      (((forwardItem out source false item).stage = .forwarding ∧
          ∀ rest, forwardEvents (item.toList ++ rest) = sent ++ forwardEvents rest) ∨
        ((forwardItem out source false item).stage = .ended ∧
          ∀ rest, (item = none → rest = []) → forwardEvents (item.toList ++ rest) = sent)) := by
  cases item with
  | none =>
    refine ⟨[], (List.append_nil out).symm, Or.inr ⟨rfl, fun rest hrest => ?_⟩⟩
    rw [hrest rfl]
    rfl
  | some item =>
    cases item with
    | ok event =>
      -- the opening and the end marker send nothing, and only the latter ends the loop
      cases event with
      | opened => exact ⟨[], (List.append_nil out).symm, Or.inl ⟨rfl, fun rest => rfl⟩⟩
      | message data =>
        by_cases hdone : data = "[DONE]"
        · subst hdone
          exact ⟨[], (List.append_nil out).symm, Or.inr ⟨rfl, fun rest _ => rfl⟩⟩
        · have hitem : forwardItem out source false (some (.ok (.message data))) =
              ⟨source, .forwarding, out ++ [.ok (sseData data)]⟩ := by
            simp only [forwardItem, if_neg hdone]
            rfl
          rw [hitem]
          refine ⟨[.ok (sseData data)], rfl, Or.inl ⟨rfl, fun rest => ?_⟩⟩
          show forwardEvents (.ok (.message data) :: rest) = _
          simp only [forwardEvents, if_neg hdone]
          rfl
    | error e =>
      cases e with
      | streamEnded => exact ⟨[], (List.append_nil out).symm, Or.inr ⟨rfl, fun rest _ => rfl⟩⟩
      | invalidStatusCode status body =>
        cases body with
        | none => exact ⟨[], (List.append_nil out).symm, Or.inr ⟨rfl, fun rest _ => rfl⟩⟩
        | some body => exact ⟨_, rfl, Or.inl ⟨rfl, fun rest => rfl⟩⟩
      | utf8 | parser | transport | invalidContentType | invalidLastEventId =>
        exact ⟨_, rfl, Or.inl ⟨rfl, fun rest => rfl⟩⟩

/-- A client that stays receives of the loop what `forwardEvents` makes of its items. -/
theorem forwardEvents_of_run {task : SseTask} {tr : List (SseAction × SseTask)}
    (hrun : sseTask.Run task tr) (hstage : task.stage = .forwarding)
    (hstays : ∀ r ∈ readsOf tr, r.receiverDropped = false)
    (hended : ¬ (System.finalState task tr).Polls) :
    task.out ++ forwardEvents (yielded tr) = (System.finalState task tr).out := by
  -- by induction on the run: an item that is forwarded goes first, and ends it or leaves the rest
  induction hrun with
  | nil task => exact absurd (Or.inr hstage) hended
  | @cons task task' action tr hstep hrest ih =>
    rw [System.finalState_cons] at hended ⊢
    cases hstep with
    | start r source hstarting => cases hstage.symm.trans hstarting
    | send hpolls hidle => exact ih hstage hstays hended
    | forward r source _ hpoll =>
      obtain ⟨hread, htail⟩ := List.forall_mem_cons.mp hstays
      rw [hread] at hrest ih hended ⊢
      rw [yielded_read]
      obtain ⟨sent, hout, ⟨hgoes, hforward⟩ | ⟨hends, hforward⟩⟩ :=
        forwardItem_out task.out source r.item
      · rw [hforward, ← List.append_assoc, ← hout]
        exact ih hgoes htail hended
      · -- nothing is read any more
        obtain rfl := run_eq_nil hrest (not_polls_of_ended hends)
        rw [hforward (yielded []) fun _ => rfl]
        exact hout.symm

/-- **One poll at a time is `sseStream`.** When the task has ended, a client that stayed has
received what `sseStream` makes of the items. -/
theorem sseStream_of_ended {tr : List (SseAction × SseTask)}
    (hrun : sseTask.Run sseTask.init tr) (hstays : ∀ r ∈ readsOf tr, r.receiverDropped = false)
    (hended : (System.finalState sseTask.init tr).stage = .ended) :
    sseStream (yielded tr) = .ok (System.finalState sseTask.init tr).out := by
  have hpolls := not_polls_of_ended hended
  rcases run_init hrun with ⟨-, -, hgoes⟩ | ⟨r, task, tr', rfl, hrest, -, hfirst⟩
  · exact absurd hgoes hpolls
  · rw [System.finalState_cons, System.finalState_cons] at hended hpolls ⊢
    rcases hfirst with ⟨hopened, rfl⟩ | ⟨e, source, -, -, rfl⟩
    · have hout := forwardEvents_of_run hrest rfl (List.forall_mem_cons.mp hstays).2 hpolls
      rw [yielded_send, yielded_read, hopened, ← hout]
      rfl
    · -- a source that starts with an error does not get here
      obtain rfl := run_eq_nil hrest (by rintro (h | h) <;> cases h)
      cases hended

/-! ### A connection that breaks -/

/-- A poll that yields an item, for a client that stays. -/
def readOf (item : SseItem) : SseRead := ⟨some item, false⟩

/-- A source that opens, yields a message and ends. -/
def endedReads : List SseRead :=
  [readOf (.ok .opened), readOf (.ok (.message "Hello")), readOf (.error .streamEnded)]

/-- Its request is sent once in every run. -/
theorem sentOnce_iff_message :
    (∃ tr, sseTask.Run sseTask.init tr ∧ readsOf tr = endedReads) ∧
      ∀ tr, sseTask.Run sseTask.init tr → readsOf tr = endedReads →
        System.AllStates SentOnce sseTask.init tr := by
  have hrun : sseTask.Run sseTask.init _ :=
    .cons (.send _ (Or.inl rfl) ⟨rfl, rfl⟩) <|
    .cons (.start _ (readOf (.ok .opened)) _ rfl (.opened _ rfl rfl)) <|
    .cons (.forward _ (readOf (.ok (.message "Hello"))) _ rfl (.message _ "Hello" rfl rfl)) <|
    .cons (.forward _ (readOf (.error .streamEnded)) _ rfl
      (.broken _ .streamEnded rfl rfl (Or.inr (Or.inr (Or.inr rfl))))) <|
    .nil _
  have hreads : ∃ tr, sseTask.Run sseTask.init tr ∧ readsOf tr = endedReads := ⟨_, hrun, rfl⟩
  exact ⟨hreads, (sentOnce_iff hreads).mpr
    ⟨fun h => absurd h (by decide), fun h => absurd h (by decide), trivial⟩⟩

/-- **The request is sent again.** The connection breaks after a message, the task polls the
source once more, and the source sends the request a second time, whether or not it ever yields
another item. -/
theorem sentOnce_fails : ¬ ∀ tr : List (SseAction × SseTask), sseTask.Run sseTask.init tr →
    System.AllStates SentOnce sseTask.init tr := by
  intro h
  have hrun : sseTask.Run sseTask.init _ :=
    .cons (.send _ (Or.inl rfl) ⟨rfl, rfl⟩) <|
    .cons (.start _ (readOf (.ok .opened)) _ rfl (.opened _ rfl rfl)) <|
    .cons (.forward _ (readOf (.ok (.message "Hello"))) _ rfl (.message _ "Hello" rfl rfl)) <|
    .cons (.forward _ (readOf (.error .transport)) _ rfl
      (.broken _ .transport rfl rfl (Or.inr (Or.inr (Or.inl rfl))))) <|
    .cons (.send _ (Or.inr rfl) ⟨rfl, rfl⟩) <|
    .nil _
  have htwice := (h _ hrun).finalState
  exact absurd htwice (by unfold SentOnce; decide)

end AiGateway
