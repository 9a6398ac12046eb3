import AiGateway.Monitor.Metrics

/-!
# The event stream of a response

`sse_stream` of `dispatcher/client.rs`: an event source is awaited once, so that an
error it starts with becomes an error of the request, and then forwarded to the
client in a task of its own.

What the event source yields follows `reqwest_eventsource`: a failed connection, a
status other than 200 and a wrong content type are its first item; otherwise it
opens, and the rest is read off the body.

* `posts_eq_one`: the request is sent once if the connection does not break;
* `isRemote_of_mem_forwardEvents`: a forwarded error is never the end of the stream, and
  never a status, so each counts as an upstream error.
-/

namespace AiGateway

/-- `reqwest_eventsource::Event`. -/
inductive SseEvent
  | opened
  | message (data : String)
  deriving DecidableEq

/-- An item of an event source. -/
abbrev SseItem := Except EventSourceError SseEvent

/-! ### Upstream -/

/-- What an upstream answers: the status, the headers that matter, the body in frames
that may fail to arrive, and what an event source reads off that body. -/
structure UpstreamResponse where
  status : StatusCode
  retryAfter : Option Bytes
  isEventStream : Bool
  frames : List (Option Bytes)
  events : List SseItem

/-- The outcome of sending a request. -/
inductive UpstreamOutcome
  | transportFailed
  | response (r : UpstreamResponse)

/-- The whole body; `none` if a frame fails to arrive. -/
def UpstreamResponse.collect (r : UpstreamResponse) : Option Bytes :=
  (r.frames.mapM id).map List.flatten

/-- The items of the event source of a request. -/
def eventSource : UpstreamOutcome → List SseItem
  | .transportFailed => [.error .transport]
  | .response r =>
    -- the checks on the response, in their order
    if r.status ≠ StatusCode.ok then [.error (.invalidStatusCode r.status r.collect)]
    else if ¬r.isEventStream then [.error .invalidContentType]
    else .ok .opened :: r.events

/-! ### The code -/

/-- The text of an event. -/
def sseData (data : String) : Bytes := data.toUTF8.toList

/-- The task that forwards events, with `handle_stream_error`: the items it sends to
the client. -/
def forwardEvents : List SseItem → List (Except EventSourceError Bytes)
  | [] => []
  | .error .streamEnded :: _ => []
  -- the response of a wrong status is passed on; the task ends if it cannot be read
  | .error (.invalidStatusCode _ (some body)) :: rest => .ok body :: forwardEvents rest
  | .error (.invalidStatusCode _ none) :: _ => []
  | .error e :: rest => .error e :: forwardEvents rest
  | .ok (.message data) :: rest =>
    if data = "[DONE]" then [] else .ok (sseData data) :: forwardEvents rest
  | .ok .opened :: rest => forwardEvents rest

/-- `sse_stream`: the error the event source starts with, or the stream of items
the client will receive. -/
def sseStream : List SseItem → Except EventSourceError (List (Except EventSourceError Bytes))
  | [] => .ok []
  | .error e :: _ => .error e
  | .ok (.message data) :: rest =>
    .ok (if data = "[DONE]" then forwardEvents rest
      else .ok (sseData data) :: forwardEvents rest)
  | .ok .opened :: rest => .ok (forwardEvents rest)

/-! ### How often the request is sent -/

/-- The connection broke, and the event source sends the request again when it is polled. -/
def isBroken : SseItem → Bool
  | .error .transport | .error .utf8 | .error .parser => true
  | _ => false

/-- How often the request is sent again for the task that forwards events. After an item that broke
the connection the task goes on, unless a last event id that is no header value keeps the event
source from making the request. -/
def resends : List SseItem → ℕ
  | [] => 0
  | .error .streamEnded :: _ => 0
  | .error (.invalidStatusCode _ none) :: _ => 0
  | .ok (.message data) :: rest => if data = "[DONE]" then 0 else resends rest
  | item :: rest =>
    (if isBroken item = true ∧ rest.head? ≠ some (.error .invalidLastEventId) then 1 else 0)
      + resends rest

/-- How often the request of a stream is sent. Nothing is read after an error the stream starts
with. -/
def posts : List SseItem → ℕ
  | .ok _ :: rest => 1 + resends rest
  | _ => 1

/-- Without an item that breaks the connection the request is not sent again. -/
theorem resends_eq_zero {items : List SseItem} (h : ∀ item ∈ items, isBroken item = false) :
    resends items = 0 := by
  fun_induction resends items with
  | case1 | case2 | case3 | case4 => rfl
  | case5 data rest hdata ih => exact ih fun item hitem => h item (List.mem_cons_of_mem _ hitem)
  | case6 item rest _ _ _ ih =>
    obtain ⟨hitem, hrest⟩ := List.forall_mem_cons.mp h
    rw [if_neg fun hboth => Bool.false_ne_true (hitem.symm.trans hboth.1), ih hrest]

theorem posts_eq_one {items : List SseItem} (h : ∀ item ∈ items.tail, isBroken item = false) :
    posts items = 1 := by
  cases items with
  | nil => rfl
  | cons item rest =>
    cases item with
    | ok event => exact congrArg (1 + ·) (resends_eq_zero h)
    | error e => rfl

/-! ### What is forwarded -/

/-- Every forwarded error counts as an upstream error. -/
theorem isRemote_of_mem_forwardEvents {items : List SseItem} {e : EventSourceError}
    (h : .error e ∈ forwardEvents items) : e.isRemote = true := by
  induction items with
  | nil => cases h
  | cons item rest ih =>
    cases item with
    | ok event =>
      cases event with
      | opened => exact ih h
      | message data =>
        rw [forwardEvents] at h
        -- the end of the conversation forwards nothing more
        split at h
        · cases h
        · rcases List.mem_cons.mp h with h | h
          · cases h
          · exact ih h
    | error e' =>
      cases e' with
      -- the end of the stream ends the task
      | streamEnded => cases h
      | invalidStatusCode status body =>
        cases body with
        | none => cases h
        | some body =>
          rcases List.mem_cons.mp h with h | h
          · cases h
          · exact ih h
      | utf8 | parser | transport | invalidContentType | invalidLastEventId =>
        rcases List.mem_cons.mp h with h | h
        · cases h
          rfl
        · exact ih h

end AiGateway
