import AiGateway.Config.Helicone
import AiGateway.Dispatcher.Client
import AiGateway.Framework.Url
import AiGateway.Monitor.RetryAfter

/-!
# Dispatching a request

`Dispatcher::dispatch` of `dispatcher/service.rs`: a request is sent to its provider,
as an event stream or not, and what comes back is accounted for. The accounts are
what the monitors of the provider go by: the health metrics of the endpoint and the
events of the rate limit channel.

The two ways of sending keep their accounts in different places. Without a stream,
the status of the response decides, once the response is there. With one, the
errors of the event source are recorded: the one it starts with at once, later ones
as the client reads them.

* `rateLimitEvents_sync`, `rateLimitEvents_stream`: which 429s are announced;
* `remoteInternalErrors_sync`, `remoteInternalErrors_stream`: which outcomes count
  as upstream errors;
* `accounting`: both, for either way of sending;
* `evenlyAccounted_iff`: where the two ways differ.
-/

namespace AiGateway

open Web

/-! ### The data -/

/-- What the auth middleware knows of the sender. -/
structure AuthContext where
  apiKey : String
  userId : String
  orgId : String

/-- `MapperContext`, as far as the dispatcher depends on it. -/
structure MapperContext where
  isStream : Bool

/-- `InternalError`, the ones a dispatch can end in. -/
inductive InternalError
  | providerNotConfigured (provider : InferenceProvider)
  | reqwestError
  | extensionNotFound (name : String)
  deriving DecidableEq

/-- `ApiError`, likewise. -/
inductive ApiError
  | internal (e : InternalError)
  | streamError (e : EventSourceError)
  deriving DecidableEq

/-- What the dispatchers share: the base URLs of the configured providers and the mode
of the Helicone features. -/
structure Gateway (Host : Type) where
  baseUrl : InferenceProvider → Option (Url Host)
  features : HeliconeFeatures

/-- A request that has passed the auth middleware. -/
structure DispatchRequest (features : HeliconeFeatures) where
  mapperCtx : MapperContext
  apiEndpoint : Option ApiEndpoint
  pathAndQuery : PathAndQuery
  authContext : Option AuthContext
  /-- The middleware refuses a request it cannot authenticate. -/
  authenticated : features.isAuthEnabled = true → authContext.isSome = true

/-- The dispatcher of a provider. Those of the routers have a sender to the rate limit
monitor, those of the direct proxies have none. -/
structure Dispatcher where
  provider : InferenceProvider
  hasRateLimitTx : Bool

/-- The body of a response to the client, in items; the errors of an event stream are
recorded as they are read. -/
inductive UserBody
  | plain (items : List (Except ApiError Bytes))
  | recorded (items : List (Except EventSourceError Bytes))

structure UserResponse where
  status : StatusCode
  retryAfter : Option Bytes
  body : UserBody

/-- The result of a dispatch. The panic is that of the `expect` on the target URL. -/
inductive DispatchResult
  | panicked
  | failed (e : ApiError)
  | responded (response : UserResponse)

/-- What the monitors go by. -/
structure Accounts where
  metrics : EndpointMetricsRegistry ℕ
  rateLimitEvents : List RateLimitEvent

namespace Dispatcher

variable {Host : Type}

/-! ### The code -/

/-- The URL a request is sent to; the inner `none` is the failure of the join. -/
def targetUrl (parseAuthority : AuthorityParser Host) (gateway : Gateway Host) (d : Dispatcher)
    (pathAndQuery : PathAndQuery) : Except InternalError (Option (Url Host)) :=
  match gateway.baseUrl d.provider with
  | none => .error (.providerNotConfigured d.provider)
  | some baseUrl => .ok (baseUrl.join parseAuthority pathAndQuery.asStr)

/-- `dispatch_stream`. The response to the client is a 200 with headers of its own. -/
def dispatchStream (apiEndpoint : Option ApiEndpoint) (outcome : UpstreamOutcome)
    (accounts : Accounts) : Except ApiError UserResponse × Accounts :=
  match sseStream (eventSource outcome) with
  -- the `?` returns before the status is looked at
  | .error e =>
    (.error (.streamError e),
      { accounts with metrics := accounts.metrics.recordStreamErrMetrics apiEndpoint e })
  | .ok items => (.ok ⟨.ok, none, .recorded items⟩, accounts)

/-- A frame of a body, passed on to the client. -/
def frameItem : Option Bytes → Except ApiError Bytes
  | some bytes => .ok bytes
  | none => .error (.internal .reqwestError)

/-- `dispatch_sync`. The response to the client is the one of the provider. -/
def dispatchSync (outcome : UpstreamOutcome) : Except ApiError UserResponse :=
  match outcome with
  -- the `?` on the send returns before anything is counted
  | .transportFailed => .error (.internal .reqwestError)
  | .response r => .ok ⟨r.status, r.retryAfter, .plain (r.frames.map frameItem)⟩

section Accounting

variable (parseHttpDate : List Char → Option DateTime)

/-- The end of `dispatch`: the status of the response is accounted for. -/
def accountResponse (d : Dispatcher) (apiEndpoint : Option ApiEndpoint) (now : ℕ)
    (response : UserResponse) (accounts : Accounts) : Accounts :=
  match apiEndpoint with
  | none => accounts
  | some e =>
    if response.status.isServerError then
      { accounts with
        metrics := accounts.metrics.modify e fun m => m.incrRemoteInternalErrorCount Nat.succ }
    else if response.status = .tooManyRequests ∧ d.hasRateLimitTx then
      { accounts with
        rateLimitEvents := accounts.rateLimitEvents ++
          [(⟨e, response.retryAfter, now⟩ : TooManyRequests).event parseHttpDate] }
    else accounts

/-- The request is sent, one way or the other. -/
def send (isStream : Bool) (apiEndpoint : Option ApiEndpoint) (outcome : UpstreamOutcome)
    (accounts : Accounts) : Except ApiError UserResponse × Accounts :=
  if isStream then dispatchStream apiEndpoint outcome accounts
  else (dispatchSync outcome, accounts)

/-- `dispatch`, at `now`. What the provider answers may depend on the URL. -/
def dispatch (parseAuthority : AuthorityParser Host) (gateway : Gateway Host) (d : Dispatcher)
    (req : DispatchRequest gateway.features) (upstream : Url Host → UpstreamOutcome) (now : ℕ)
    (accounts : Accounts) : DispatchResult × Accounts :=
  match targetUrl parseAuthority gateway d req.pathAndQuery with
  | .error e => (.failed (.internal e), accounts)
  | .ok none => (.panicked, accounts)
  | .ok (some target) =>
    let counted : Accounts := match req.apiEndpoint with
      | some e =>
        { accounts with metrics := accounts.metrics.modify e fun m => m.incrReqCount Nat.succ }
      | none => accounts
    match send req.mapperCtx.isStream req.apiEndpoint (upstream target) counted with
    | (.error e, accounts) => (.failed e, accounts)
    | (.ok response, accounts) =>
      -- the response is logged before it is accounted for
      if gateway.features.isObservabilityEnabled ∧ req.authContext.isNone then
        (.failed (.internal (.extensionNotFound "AuthContext")), accounts)
      else
        (.responded response, accountResponse parseHttpDate d req.apiEndpoint now response accounts)

/-- The client reads an item of a recorded body. -/
def readItem (apiEndpoint : Option ApiEndpoint) (accounts : Accounts)
    (item : Except EventSourceError Bytes) : Accounts :=
  match item with
  | .error e => { accounts with metrics := accounts.metrics.recordStreamErrMetrics apiEndpoint e }
  | .ok _ => accounts

/-- The client reads the first items of a body. -/
def readBody (apiEndpoint : Option ApiEndpoint) (reads : ℕ) (body : UserBody)
    (accounts : Accounts) : Accounts :=
  match body with
  | .plain _ => accounts
  | .recorded items => (items.take reads).foldl (readItem apiEndpoint) accounts

/-- A request from its dispatch to the last item its client reads: the accounts. -/
def serve (parseAuthority : AuthorityParser Host) (gateway : Gateway Host) (d : Dispatcher)
    (req : DispatchRequest gateway.features) (upstream : Url Host → UpstreamOutcome)
    (now reads : ℕ) (accounts : Accounts) : Accounts :=
  match dispatch parseHttpDate parseAuthority gateway d req upstream now accounts with
  | (.responded response, accounts) => readBody req.apiEndpoint reads response.body accounts
  | (_, accounts) => accounts

/-! ### Once the URL is known -/

/-- What remains of `serve` once there is a URL and the request has been counted. -/
def exchange (d : Dispatcher) (isStream : Bool) (apiEndpoint : Option ApiEndpoint)
    (outcome : UpstreamOutcome) (now reads : ℕ) (accounts : Accounts) : Accounts :=
  match send isStream apiEndpoint outcome accounts with
  | (.error _, accounts) => accounts
  | (.ok response, accounts) =>
    readBody apiEndpoint reads response.body
      (accountResponse parseHttpDate d apiEndpoint now response accounts)

/-- The accounts once the request itself has been counted. -/
def countRequest (accounts : Accounts) (e : ApiEndpoint) : Accounts :=
  { accounts with metrics := accounts.metrics.modify e fun m => m.incrReqCount Nat.succ }

/-- A request that reached the dispatcher is never turned away after it was sent: where
responses are logged, the sender is known. -/
theorem serve_eq_exchange {parseAuthority : AuthorityParser Host} {gateway : Gateway Host}
    {d : Dispatcher} {req : DispatchRequest gateway.features} {e : ApiEndpoint} {target : Url Host}
    (hendpoint : req.apiEndpoint = some e)
    (htarget : targetUrl parseAuthority gateway d req.pathAndQuery = .ok (some target))
    (upstream : Url Host → UpstreamOutcome) (now reads : ℕ) (accounts : Accounts) :
    serve parseHttpDate parseAuthority gateway d req upstream now reads accounts =
      exchange parseHttpDate d req.mapperCtx.isStream (some e) (upstream target) now reads
        (countRequest accounts e) := by
  have hknown :
      ¬(gateway.features.isObservabilityEnabled = true ∧ req.authContext.isNone = true) := by
    rintro ⟨hobserved, hnone⟩
    have hsome := req.authenticated (HeliconeFeatures.isAuthEnabled_of_observability hobserved)
    rw [Option.isNone_iff_eq_none.mp hnone] at hsome
    cases hsome
  -- what is sent decides, and logging it does not fail
  unfold serve dispatch exchange
  rw [htarget, hendpoint]
  dsimp only
  have hcounted : { accounts with
      metrics := accounts.metrics.modify e fun m => m.incrReqCount Nat.succ } =
    countRequest accounts e := rfl
  rw [hcounted]
  cases send req.mapperCtx.isStream (some e) (upstream target) (countRequest accounts e) with
  | mk result sent =>
    cases result with
    | error err => rfl
    | ok response =>
      dsimp only
      rw [if_neg hknown]

/-! ### Reading a body -/

/-- **Reading records the errors.** Each error among the items counts once, at the
endpoint of the request. -/
theorem remoteInternalErrors_foldl_readItem (e : ApiEndpoint)
    {items : List (Except EventSourceError Bytes)}
    (hremote : ∀ err, .error err ∈ items → err.isRemote = true) (accounts : Accounts) :
    (items.foldl (readItem (some e)) accounts).metrics.remoteInternalErrors e =
      accounts.metrics.remoteInternalErrors e + items.countP (fun item => !item.isOk) := by
  induction items generalizing accounts with
  | nil => rfl
  | cons item items ih =>
    have ih := fun a => ih (fun err h => hremote err (List.mem_cons_of_mem item h)) a
    -- reading one item, and then the others
    rw [List.foldl_cons, ih]
    cases item with
    | ok bytes => rw [List.countP_cons_of_neg (by simp [Except.isOk, Except.toBool])]; rfl
    | error err =>
      rw [List.countP_cons_of_pos (by simp [Except.isOk, Except.toBool])]
      change (accounts.metrics.recordStreamErrMetrics (some e) err).remoteInternalErrors e + _ = _
      rw [remoteInternalErrors_record, hremote err List.mem_cons_self, if_pos rfl]
      omega

/-- Reading touches neither the events nor the other endpoints. -/
theorem foldl_readItem_frame (e : ApiEndpoint) (items : List (Except EventSourceError Bytes))
    (accounts : Accounts) :
    (items.foldl (readItem (some e)) accounts).rateLimitEvents = accounts.rateLimitEvents ∧
      ∀ e' ≠ e, (items.foldl (readItem (some e)) accounts).metrics e' = accounts.metrics e' := by
  induction items generalizing accounts with
  | nil => exact ⟨rfl, fun _ _ => rfl⟩
  | cons item items ih =>
    obtain ⟨hevents, hothers⟩ := ih (readItem (some e) accounts item)
    rw [List.foldl_cons]
    cases item with
    | ok bytes => exact ⟨hevents, hothers⟩
    | error err =>
      refine ⟨hevents, fun e' hne => ?_⟩
      rw [hothers e' hne]
      exact recordStreamErrMetrics_of_ne hne

/-! ### Either way of sending -/

/-- Without a stream, the status of the response is all that matters. -/
theorem exchange_sync (d : Dispatcher) (e : ApiEndpoint) (r : UpstreamResponse) (now reads : ℕ)
    (accounts : Accounts) :
    exchange parseHttpDate d false (some e) (.response r) now reads accounts =
      accountResponse parseHttpDate d (some e) now
        ⟨r.status, r.retryAfter, .plain (r.frames.map frameItem)⟩ accounts := rfl

/-- With one, the status has no say: it is 200 for the client, or there is an error. -/
theorem exchange_stream (d : Dispatcher) (e : ApiEndpoint) (outcome : UpstreamOutcome)
    (now reads : ℕ) (accounts : Accounts) :
    exchange parseHttpDate d true (some e) outcome now reads accounts =
      match sseStream (eventSource outcome) with
      | .error err =>
        { accounts with metrics := accounts.metrics.recordStreamErrMetrics (some e) err }
      | .ok items => (items.take reads).foldl (readItem (some e)) accounts := by
  unfold exchange send dispatchStream
  rw [if_pos rfl]
  cases sseStream (eventSource outcome) with
  | error err => rfl
  | ok items => rfl

/-- A response the server is to blame for counts one error, any other none. -/
theorem remoteInternalErrors_sync (d : Dispatcher) (e : ApiEndpoint) (r : UpstreamResponse)
    (now reads : ℕ) (accounts : Accounts) :
    (exchange parseHttpDate d false (some e) (.response r) now reads
        accounts).metrics.remoteInternalErrors e =
      accounts.metrics.remoteInternalErrors e + if r.status.isServerError then 1 else 0 := by
  rw [exchange_sync]
  unfold accountResponse
  dsimp only
  -- a server error is counted, and the other branches leave the metrics alone
  by_cases h : r.status.isServerError = true
  · rw [if_pos h, if_pos h]
    change (accounts.metrics.modify e _ e).remoteInternalErrorCount = _
    rw [EndpointMetricsRegistry.modify_self]
    rfl
  · rw [if_neg h, if_neg h]
    split <;> rfl

/-- A 429 is announced, and nothing else is. -/
theorem rateLimitEvents_sync {d : Dispatcher} (htx : d.hasRateLimitTx = true) (e : ApiEndpoint)
    (r : UpstreamResponse) (now reads : ℕ) (accounts : Accounts) :
    (exchange parseHttpDate d false (some e) (.response r) now reads accounts).rateLimitEvents =
      accounts.rateLimitEvents ++ if r.status = .tooManyRequests then
        [(⟨e, r.retryAfter, now⟩ : TooManyRequests).event parseHttpDate] else [] := by
  rw [exchange_sync]
  unfold accountResponse
  dsimp only
  by_cases h429 : r.status = .tooManyRequests
  · -- 429 is no server error
    rw [h429, if_neg (by decide), if_pos ⟨rfl, htx⟩, if_pos rfl]
  · rw [if_neg h429, List.append_nil]
    split
    · rfl
    · rw [if_neg fun h => h429 h.1]

/-- What a stream counts as upstream errors, with its first items read: the error it
starts with, or those among the items. -/
def streamErrors (reads : ℕ) : UpstreamOutcome → ℕ
  | .transportFailed => 1
  | .response r =>
    if r.status ≠ .ok then if r.status.isServerError then 1 else 0
    else if ¬r.isEventStream then 1
    else ((forwardEvents r.events).take reads).countP fun item => !item.isOk

theorem remoteInternalErrors_stream (d : Dispatcher) (e : ApiEndpoint) (outcome : UpstreamOutcome)
    (now reads : ℕ) (accounts : Accounts) :
    (exchange parseHttpDate d true (some e) outcome now reads
        accounts).metrics.remoteInternalErrors e =
      accounts.metrics.remoteInternalErrors e + streamErrors reads outcome := by
  rw [exchange_stream]
  cases outcome with
  | transportFailed => exact remoteInternalErrors_record _ e .transport
  | response r =>
    unfold eventSource streamErrors
    dsimp only
    by_cases hstatus : r.status ≠ .ok
    · rw [if_pos hstatus, if_pos hstatus]
      exact remoteInternalErrors_record _ e (.invalidStatusCode r.status r.collect)
    · rw [if_neg hstatus, if_neg hstatus]
      by_cases hstream : ¬r.isEventStream = true
      · rw [if_pos hstream, if_pos hstream]
        exact remoteInternalErrors_record _ e .invalidContentType
      · rw [if_neg hstream, if_neg hstream]
        -- the stream has opened: what counts is what the client reads of it
        refine remoteInternalErrors_foldl_readItem e (fun err herr => ?_) accounts
        exact isRemote_of_mem_forwardEvents (List.mem_of_mem_take herr)

/-- A stream announces nothing. -/
theorem rateLimitEvents_stream (d : Dispatcher) (e : ApiEndpoint) (outcome : UpstreamOutcome)
    (now reads : ℕ) (accounts : Accounts) :
    (exchange parseHttpDate d true (some e) outcome now reads accounts).rateLimitEvents =
      accounts.rateLimitEvents := by
  rw [exchange_stream]
  cases sseStream (eventSource outcome) with
  | error err => rfl
  | ok items => exact (foldl_readItem_frame e (items.take reads) accounts).1

/-- The other endpoints are left alone. -/
theorem metrics_exchange_of_ne (d : Dispatcher) (isStream : Bool) {e e' : ApiEndpoint}
    (hne : e' ≠ e) (outcome : UpstreamOutcome) (now reads : ℕ) (accounts : Accounts) :
    (exchange parseHttpDate d isStream (some e) outcome now reads accounts).metrics e' =
      accounts.metrics e' := by
  cases isStream with
  | true =>
    rw [exchange_stream]
    cases sseStream (eventSource outcome) with
    | error err => exact recordStreamErrMetrics_of_ne hne
    | ok items => exact (foldl_readItem_frame e (items.take reads) accounts).2 e' hne
  | false =>
    cases outcome with
    | transportFailed => rfl
    | response r =>
      rw [exchange_sync]
      unfold accountResponse
      dsimp only
      split
      · exact EndpointMetricsRegistry.modify_of_ne hne
      · split <;> rfl

/-! ### The accounts of a request -/

/-- One event about the endpoint has been sent, and nothing else. -/
def Announced (e : ApiEndpoint) (before after : Accounts) : Prop :=
  ∃ event : RateLimitEvent, event.apiEndpoint = e ∧
    after.rateLimitEvents = before.rateLimitEvents ++ [event]

theorem not_announced_of_eq {e : ApiEndpoint} {before after : Accounts}
    (h : after.rateLimitEvents = before.rateLimitEvents) : ¬ Announced e before after := by
  rintro ⟨event, -, hevent⟩
  rw [h] at hevent
  exact absurd hevent.symm (by simp)

/-- The status of an outcome, if it is a response. -/
def outcomeStatus : UpstreamOutcome → Option StatusCode
  | .transportFailed => none
  | .response r => some r.status

/-- Without a stream, a 429 is announced, and any other outcome sends no event. -/
theorem announced_sync_cases {d : Dispatcher} (htx : d.hasRateLimitTx = true) (e : ApiEndpoint)
    (outcome : UpstreamOutcome) (now reads : ℕ) (accounts : Accounts) :
    (outcomeStatus outcome = some .tooManyRequests ∧ Announced e accounts
        (exchange parseHttpDate d false (some e) outcome now reads accounts)) ∨
      (outcomeStatus outcome ≠ some .tooManyRequests ∧
        (exchange parseHttpDate d false (some e) outcome now reads accounts).rateLimitEvents =
          accounts.rateLimitEvents) := by
  cases outcome with
  | transportFailed => exact Or.inr ⟨(fun h => by cases h), rfl⟩
  | response r =>
    have hevents := rateLimitEvents_sync parseHttpDate htx e r now reads accounts
    by_cases h429 : r.status = .tooManyRequests
    · rw [if_pos h429] at hevents
      exact Or.inl ⟨congrArg some h429, _, rfl, hevents⟩
    · rw [if_neg h429, List.append_nil] at hevents
      exact Or.inr ⟨fun h => h429 (Option.some.inj h), hevents⟩

/-- Without a stream, an event is sent exactly when the status is 429. -/
theorem announced_sync_iff {d : Dispatcher} (htx : d.hasRateLimitTx = true) (e : ApiEndpoint)
    (outcome : UpstreamOutcome) (now reads : ℕ) (accounts : Accounts) :
    Announced e accounts (exchange parseHttpDate d false (some e) outcome now reads accounts) ↔
      outcomeStatus outcome = some .tooManyRequests := by
  rcases announced_sync_cases parseHttpDate htx e outcome now reads accounts with
    ⟨h429, hannounced⟩ | ⟨hne, hsilent⟩
  · exact iff_of_true hannounced h429
  · exact iff_of_false (not_announced_of_eq hsilent) hne

/-- **The accounts of a request.** An event is sent for a 429 only, at most once, and
without a stream for every 429. Without a stream, a response counts as an upstream
error exactly when its status is one of the server; with a stream, the errors are
those of the event source. The other endpoints are left alone. -/
theorem accounting (parseAuthority : AuthorityParser Host) (gateway : Gateway Host) (d : Dispatcher)
    (htx : d.hasRateLimitTx = true) (req : DispatchRequest gateway.features) (e : ApiEndpoint)
    (hendpoint : req.apiEndpoint = some e) (target : Url Host)
    (htarget : targetUrl parseAuthority gateway d req.pathAndQuery = .ok (some target))
    (upstream : Url Host → UpstreamOutcome) (now reads : ℕ) (before : Accounts) :
    let after := serve parseHttpDate parseAuthority gateway d req upstream now reads before
    (after.rateLimitEvents = before.rateLimitEvents ∨
        outcomeStatus (upstream target) = some .tooManyRequests ∧ Announced e before after) ∧
      (req.mapperCtx.isStream = false →
        (Announced e before after ↔ outcomeStatus (upstream target) = some .tooManyRequests)) ∧
      (req.mapperCtx.isStream = false → ∀ r, upstream target = .response r →
        after.metrics.remoteInternalErrors e =
          before.metrics.remoteInternalErrors e + if r.status.isServerError then 1 else 0) ∧
      (req.mapperCtx.isStream = true →
        after.metrics.remoteInternalErrors e =
          before.metrics.remoteInternalErrors e + streamErrors reads (upstream target)) ∧
      ∀ e' ≠ e, after.metrics e' = before.metrics e' := by
  intro after
  have hafter : after = exchange parseHttpDate d req.mapperCtx.isStream (some e) (upstream target)
      now reads (countRequest before e) :=
    serve_eq_exchange parseHttpDate hendpoint htarget upstream now reads before
  -- counting the request changes neither the events nor the errors
  have hcounted : (countRequest before e).metrics.remoteInternalErrors e =
      before.metrics.remoteInternalErrors e := by
    change (before.metrics.modify e _ e).remoteInternalErrorCount = _
    rw [EndpointMetricsRegistry.modify_self]
    rfl
  rw [hafter]
  refine ⟨?_, ?_, ?_, ?_, ?_⟩
  · cases req.mapperCtx.isStream with
    | true => exact Or.inl (rateLimitEvents_stream parseHttpDate d e _ now reads _)
    | false =>
      rcases announced_sync_cases parseHttpDate htx e (upstream target) now reads
        (countRequest before e) with hannounced | ⟨-, hsilent⟩
      · exact Or.inr hannounced
      · exact Or.inl hsilent
  · intro hsync
    rw [hsync]
    exact announced_sync_iff parseHttpDate htx e (upstream target) now reads (countRequest before e)
  · intro hsync r hr
    rw [hsync, hr, remoteInternalErrors_sync, hcounted]
  · intro hstream
    rw [hstream, remoteInternalErrors_stream, hcounted]
  · intro e' hne
    rw [metrics_exchange_of_ne parseHttpDate d _ hne]
    exact EndpointMetricsRegistry.modify_of_ne hne

/-! ### Even accounts -/

/-- The provider is to blame: the transport failed, or the response is a server error. -/
def isRemoteFailure : UpstreamOutcome → Bool
  | .transportFailed => true
  | .response r => r.status.isServerError

/-- Accounts that do not depend on the way of sending: an event exactly for a 429, and
one error exactly where the provider is to blame. -/
def EvenlyAccounted (e : ApiEndpoint) (outcome : UpstreamOutcome) (before after : Accounts) :
    Prop :=
  (Announced e before after ↔ outcomeStatus outcome = some .tooManyRequests) ∧
    (after.metrics.remoteInternalErrors e = before.metrics.remoteInternalErrors e + 1 ↔
      isRemoteFailure outcome = true)

/-- **Where the two ways differ.** The accounts are even unless the transport fails
without a stream, or a stream meets a 429 or errors of its own. -/
theorem evenlyAccounted_iff {d : Dispatcher} (htx : d.hasRateLimitTx = true) (isStream : Bool)
    (e : ApiEndpoint) (outcome : UpstreamOutcome) (now reads : ℕ) (accounts : Accounts) :
    EvenlyAccounted e outcome accounts
        (exchange parseHttpDate d isStream (some e) outcome now reads accounts) ↔
      if isStream then
        outcomeStatus outcome ≠ some .tooManyRequests ∧
          (streamErrors reads outcome = 1 ↔ isRemoteFailure outcome = true)
      else outcome ≠ .transportFailed := by
  unfold EvenlyAccounted
  cases isStream with
  | true =>
    have hsilent := not_announced_of_eq (e := e)
      (rateLimitEvents_stream parseHttpDate d e outcome now reads accounts)
    -- a stream announces nothing, so it must not meet a 429
    rw [remoteInternalErrors_stream, if_pos rfl, Nat.add_left_cancel_iff]
    exact and_congr_left fun _ => ⟨fun h h429 => hsilent (h.mpr h429),
      fun h => iff_of_false hsilent h⟩
  | false =>
    rw [announced_sync_iff parseHttpDate htx, iff_self, true_and, if_neg Bool.false_ne_true]
    cases outcome with
    | transportFailed =>
      -- a failed transport is not counted without a stream
      refine iff_of_false (fun h => ?_) (fun h => h rfl)
      exact absurd (h.mpr rfl) (Nat.ne_of_lt (Nat.lt_succ_self _))
    | response r =>
      rw [remoteInternalErrors_sync, Nat.add_left_cancel_iff]
      refine iff_of_true ?_ (by intro h; cases h)
      change (if r.status.isServerError then 1 else 0) = 1 ↔ r.status.isServerError = true
      cases r.status.isServerError with
      | true => exact iff_of_true rfl rfl
      | false => exact iff_of_false (by decide) (by decide)

end Accounting

/-! ### OpenAI -/

/-- A gateway to OpenAI, without Helicone. -/
def openAIGateway : Gateway (List Char) where
  baseUrl provider :=
    if provider = .openAI then
      some ⟨"https".toList, some "api.openai.com".toList, none, false⟩ else none
  features := .none

/-- The dispatcher of a router. -/
def openAIDispatcher : Dispatcher := ⟨.openAI, true⟩

def chatRequest (isStream : Bool) : DispatchRequest .none where
  mapperCtx := ⟨isStream⟩
  apiEndpoint := some .openAI
  pathAndQuery := ⟨"/v1/chat/completions".toList⟩
  authContext := none
  authenticated := by intro h; cases h

def noAccounts : Accounts := ⟨fun _ => ⟨0, 0⟩, []⟩

/-- The accounts of a chat request, none of whose body is read. -/
def serveChat (isStream : Bool) (outcome : UpstreamOutcome) : Accounts :=
  serve (fun _ => none) (fun _ _ => none) openAIGateway openAIDispatcher (chatRequest isStream)
    (fun _ => outcome) 0 0 noAccounts

/-- **The accounts are not even.** A stream that meets a 429 is not announced, a failed
transport without a stream is no error, and a stream of a wrong type is one. -/
theorem accounting_fails :
    ¬ EvenlyAccounted .openAI (.response ⟨.tooManyRequests, none, false, [], []⟩) noAccounts
        (serveChat true (.response ⟨.tooManyRequests, none, false, [], []⟩)) ∧
      ¬ EvenlyAccounted .openAI .transportFailed noAccounts (serveChat false .transportFailed) ∧
      ¬ EvenlyAccounted .openAI (.response ⟨.ok, none, false, [], []⟩) noAccounts
        (serveChat true (.response ⟨.ok, none, false, [], []⟩)) := by
  refine ⟨fun h => ?_, fun h => ?_, fun h => ?_⟩
  · exact not_announced_of_eq rfl (h.1.mpr rfl)
  · exact absurd (h.2.mpr rfl) (by decide)
  · exact absurd (h.2.mp rfl) (by decide)

/-- A 502 without a stream: one error, no event. -/
theorem accounting_badGateway :
    (serveChat false (.response ⟨.badGateway, none, false, [], []⟩)).rateLimitEvents = [] ∧
      (serveChat false (.response ⟨.badGateway, none, false, [], []⟩)).metrics.remoteInternalErrors
        .openAI = 1 := by
  have h := accounting (fun _ => none) (fun _ _ => none) openAIGateway openAIDispatcher rfl
    (chatRequest false) .openAI rfl _ rfl
    (fun _ => .response ⟨.badGateway, none, false, [], []⟩) 0 0 noAccounts
  refine ⟨?_, h.2.2.1 rfl _ rfl⟩
  rcases h.1 with h | ⟨h, -⟩
  · exact h
  · exact absurd h (by decide)

end Dispatcher

end AiGateway
