import AiGateway.Types.Provider
import Mathlib.Data.List.Basic
import Mathlib.Tactic.Common

/-!
# The health metrics of the endpoints

`discover/monitor/metrics.rs`: how many requests an endpoint was sent, and how many
upstream errors it answered with. The registry has one pair of counters for every endpoint of every
provider, and these are all endpoints. What a counter is stays open: the dispatcher's runs are told
by numbers, the checks of health by rolling windows.

`recordStreamErrMetrics` of `dispatcher/service.rs`, which counts the errors of an
event stream, is here as well. `remoteInternalErrors_record` says what it counts.
-/

namespace AiGateway

/-- An HTTP status code. -/
structure StatusCode where
  code : ℕ
  ge : 100 ≤ code
  lt : code < 1000
  deriving DecidableEq

namespace StatusCode

def ok : StatusCode := ⟨200, by decide, by decide⟩

def tooManyRequests : StatusCode := ⟨429, by decide, by decide⟩

def badGateway : StatusCode := ⟨502, by decide, by decide⟩

def isServerError (status : StatusCode) : Bool := decide (500 ≤ status.code ∧ status.code < 600)

end StatusCode

/-- `Bytes`. -/
abbrev Bytes := List UInt8

/-- `reqwest_eventsource::Error`. A wrong status keeps its response, whose body may
fail to be read. -/
inductive EventSourceError
  | utf8
  | parser
  | transport
  | invalidContentType
  | invalidStatusCode (status : StatusCode) (body : Option Bytes)
  | invalidLastEventId
  | streamEnded
  deriving DecidableEq

namespace InferenceProvider

/-- `endpoints`. Each enumeration of endpoints has one member. -/
def endpoints : InferenceProvider → List ApiEndpoint
  | openAI => [.openAI]
  | anthropic => [.anthropic]
  | googleGemini => [.google]
  | ollama => [.ollama]
  | bedrock => [.bedrock]
  | named _ => []

/-- `InferenceProvider::iter`, which gives the provider that is not built in an empty name. -/
def iter : List InferenceProvider := [openAI, anthropic, bedrock, ollama, googleGemini, named ""]

end InferenceProvider

theorem ApiEndpoint.mem_endpoints (e : ApiEndpoint) :
    e ∈ InferenceProvider.iter.flatMap InferenceProvider.endpoints := by
  cases e <;> decide

/-- `EndpointMetrics`. -/
structure EndpointMetrics (Counter : Type) where
  requestCount : Counter
  remoteInternalErrorCount : Counter
  deriving DecidableEq

section Counters

variable {Counter : Type} (incr : Counter → Counter)

namespace EndpointMetrics

def incrReqCount (m : EndpointMetrics Counter) : EndpointMetrics Counter :=
  { m with requestCount := incr m.requestCount }

def incrRemoteInternalErrorCount (m : EndpointMetrics Counter) : EndpointMetrics Counter :=
  { m with remoteInternalErrorCount := incr m.remoteInternalErrorCount }

/-- `incr_for_stream_error`. -/
def incrForStreamError (m : EndpointMetrics Counter) : EventSourceError → EndpointMetrics Counter
  -- the end of a stream is no error, and a status is one of the server's or none
  | .streamEnded => m
  | .invalidStatusCode status _ =>
    if status.isServerError then m.incrRemoteInternalErrorCount incr else m
  | .utf8 | .parser | .transport | .invalidContentType | .invalidLastEventId =>
    m.incrRemoteInternalErrorCount incr

end EndpointMetrics

/-- `EndpointMetricsRegistry`. It is made with metrics for the endpoints of all providers, and gets
no other ones. -/
abbrev EndpointMetricsRegistry (Counter : Type) := ApiEndpoint → EndpointMetrics Counter

/-- `InternalError::MetricsNotConfigured`. -/
structure MetricsNotConfigured where
  apiEndpoint : ApiEndpoint
  deriving DecidableEq

namespace EndpointMetricsRegistry

def healthMetrics (registry : EndpointMetricsRegistry Counter) (apiEndpoint : ApiEndpoint) :
    Except MetricsNotConfigured (EndpointMetrics Counter) :=
  if apiEndpoint ∈ InferenceProvider.iter.flatMap InferenceProvider.endpoints then
    .ok (registry apiEndpoint)
  else .error ⟨apiEndpoint⟩

/-- **No endpoint is without metrics.** -/
theorem healthMetrics_eq (registry : EndpointMetricsRegistry Counter) (e : ApiEndpoint) :
    registry.healthMetrics e = .ok (registry e) := if_pos e.mem_endpoints

/-- The metrics of one endpoint change. -/
def modify (registry : EndpointMetricsRegistry Counter) (apiEndpoint : ApiEndpoint)
    (f : EndpointMetrics Counter → EndpointMetrics Counter) : EndpointMetricsRegistry Counter :=
  fun e => if e = apiEndpoint then f (registry e) else registry e

variable {registry : EndpointMetricsRegistry Counter} {e e' : ApiEndpoint}
  {f : EndpointMetrics Counter → EndpointMetrics Counter}

@[simp] theorem modify_self : registry.modify e f e = f (registry e) := if_pos rfl

theorem modify_of_ne (h : e' ≠ e) : registry.modify e f e' = registry e' := if_neg h

end EndpointMetricsRegistry

end Counters

/-- Whether an error of an event stream counts as an upstream error. -/
def EventSourceError.isRemote : EventSourceError → Bool
  | .streamEnded => false
  | .invalidStatusCode status _ => status.isServerError
  | .utf8 | .parser | .transport | .invalidContentType | .invalidLastEventId => true

/-! ### The errors of a stream -/

/-- `record_stream_err_metrics`, for an error of the stream itself. -/
def EndpointMetricsRegistry.recordStreamErrMetrics (registry : EndpointMetricsRegistry ℕ)
    (apiEndpoint : Option ApiEndpoint) (error : EventSourceError) : EndpointMetricsRegistry ℕ :=
  match apiEndpoint with
  | some e => registry.modify e fun m => m.incrForStreamError Nat.succ error
  | none => registry

/-- The upstream errors counted for an endpoint. -/
def EndpointMetricsRegistry.remoteInternalErrors (registry : EndpointMetricsRegistry ℕ)
    (e : ApiEndpoint) : ℕ := (registry e).remoteInternalErrorCount

/-- **What a stream error counts.** One, at its endpoint, unless the stream just
ended or the status was not the server's fault. -/
theorem remoteInternalErrors_record (registry : EndpointMetricsRegistry ℕ) (e : ApiEndpoint)
    (error : EventSourceError) :
    (registry.recordStreamErrMetrics (some e) error).remoteInternalErrors e =
      registry.remoteInternalErrors e + if error.isRemote then 1 else 0 := by
  change (registry.modify e (fun m => m.incrForStreamError Nat.succ error)
    e).remoteInternalErrorCount = _
  rw [EndpointMetricsRegistry.modify_self]
  cases error with
  | invalidStatusCode status body =>
    change (if status.isServerError then _ else _ : EndpointMetrics ℕ).remoteInternalErrorCount =
      _ + if status.isServerError then 1 else 0
    split <;> rfl
  | streamEnded => rfl
  | utf8 => rfl
  | parser => rfl
  | transport => rfl
  | invalidContentType => rfl
  | invalidLastEventId => rfl

theorem recordStreamErrMetrics_of_ne {registry : EndpointMetricsRegistry ℕ} {e e' : ApiEndpoint}
    {error : EventSourceError} (h : e' ≠ e) :
    registry.recordStreamErrMetrics (some e) error e' = registry e' := by
  change registry.modify e (fun m => m.incrForStreamError Nat.succ error) e' = registry e'
  exact EndpointMetricsRegistry.modify_of_ne h

end AiGateway
