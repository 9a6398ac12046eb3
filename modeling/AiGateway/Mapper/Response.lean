import AiGateway.Dispatcher.Service
import AiGateway.Framework.Json

/-!
# Converting responses

`map_response` of `middleware/mapper/service.rs`, `convert_resp_body` of
`middleware/mapper/mod.rs`, the conversion of errors by the converters, and the responses the
error handler makes of the errors that are left.

An error of a provider takes one of two ways to the client. Without a stream its body is
read as an error of the provider and written as one of OpenAI's, under the same
status. With a stream it is the first item of the event source, and an error of the gateway.

* `parseError_bedrock_iff`: nothing but a null is read as an error of Bedrock;
* `status_kept_iff`: the error statuses that reach the client.
-/

namespace AiGateway

open Serde

namespace StatusCode

def isClientError (status : StatusCode) : Bool := decide (400 ≤ status.code ∧ status.code < 500)

def internalServerError : StatusCode := ⟨500, by decide, by decide⟩

def unauthorized : StatusCode := ⟨401, by decide, by decide⟩

def forbidden : StatusCode := ⟨403, by decide, by decide⟩

end StatusCode

namespace ErrorBody

/-! ### The errors of the providers -/

/-- `async_openai::error::ApiError`, and `ErrorDetails` of `error/api.rs`. -/
structure ErrorDetails where
  message : String
  type : Option String
  param : Option String
  code : Option String
  deriving DecidableEq

/-- `async_openai::error::WrappedError`. -/
structure WrappedError where
  error : ErrorDetails
  deriving DecidableEq

/-- `ErrorDetails` of `endpoints/anthropic/messages.rs`. -/
structure AnthropicErrorDetails where
  message : String
  kind : String

/-- `AnthropicApiError`. -/
structure AnthropicApiError where
  error : AnthropicErrorDetails
  kind : String

/-- `ConverseError`, a unit struct. -/
structure ConverseError where

/-- `Endpoint::ErrorResponseBody`. -/
abbrev ErrorResponseBody : ApiEndpoint → Type
  | .openAI => WrappedError
  | .anthropic => AnthropicApiError
  | .google => WrappedError
  | .ollama => WrappedError
  | .bedrock => ConverseError

/-! ### Reading them -/

/-- A derived `Deserialize` of a struct without optional fields: an object with each of the
fields once, or an array of them. -/
def structFields (names : List String) : Json → Option (List Json)
  | .obj fields => names.mapM fun name =>
      -- a field that is missing or given twice is an error
      match fields.filter fun p => p.1 = name with
      | [p] => some p.2
      | _ => none
  | .arr items => if items.length = names.length then some items else none
  | _ => none

/-- A string. -/
def readString : Json → Option String
  | .str s => some s
  | _ => none

def AnthropicErrorDetails.read (j : Json) : Option AnthropicErrorDetails :=
  match structFields ["message", "type"] j with
  | some [message, kind] => do return ⟨← readString message, ← readString kind⟩
  | _ => none

def AnthropicApiError.read (j : Json) : Option AnthropicApiError :=
  match structFields ["error", "type"] j with
  | some [error, kind] => do return ⟨← AnthropicErrorDetails.read error, ← readString kind⟩
  | _ => none

/-- A unit struct is a null. -/
def ConverseError.read : Json → Option ConverseError
  | .null => some {}
  | _ => none

/-- `InternalError`, as far as the mapper returns it on a response. -/
inductive MapError
  | deserialize
  | collectBodyError
  | emptyResponseBody
  /-- Converting or writing a body failed. -/
  | conversion

/-- `ApiError`, from the dispatcher or the mapper. -/
inductive ResponseError
  | dispatch (e : ApiError)
  | map (e : MapError)

/-- **The libraries.** How a body is read as JSON, JSON as an error of OpenAI, and such an
error written; and the texts of the errors of the gateway. -/
structure Libraries where
  fromSlice : Bytes → Option Json
  wrappedError : Json → Option WrappedError
  toVec : WrappedError → Bytes
  display : ResponseError → String

variable (lib : Libraries)

/-- `serde_json::from_slice::<T::ErrorResponseBody>`. -/
def parseError (target : ApiEndpoint) (bytes : Bytes) : Option (ErrorResponseBody target) :=
  (lib.fromSlice bytes).bind fun j =>
    match target with
    | .openAI => lib.wrappedError j
    | .anthropic => AnthropicApiError.read j
    | .google => lib.wrappedError j
    | .ollama => lib.wrappedError j
    | .bedrock => ConverseError.read j

/-! ### Converting them -/

/-- `get_error_type`. -/
def getErrorType (status : StatusCode) : String :=
  if status = .tooManyRequests then "tokens"
  else if status.isClientError then "invalid_request_error"
  else "server_error"

/-- `get_error_code`. -/
def getErrorCode (status : StatusCode) : Option String :=
  if status = .unauthorized ∨ status = .forbidden then some "invalid_api_key"
  else if status = .tooManyRequests then some "rate_limit_exceeded"
  else none

/-- `openai_error_from_status`. -/
def openaiErrorFromStatus (status : StatusCode) (message : Option String) : WrappedError :=
  let kind := getErrorType status
  ⟨{ message := message.getD kind, type := some kind, param := none, code := getErrorCode status }⟩

/-- `try_convert_error` of the five converters. None of them fails. -/
def tryConvertError (status : StatusCode) : (target : ApiEndpoint) → ErrorResponseBody target →
    WrappedError
  -- what is an error of OpenAI already is kept as it is
  | .openAI, value => value
  | .anthropic, value => openaiErrorFromStatus status (some value.error.message)
  | .google, value => value
  | .ollama, value => value
  | .bedrock, _ => openaiErrorFromStatus status none

/-- What a converter does with the responses that are no errors. -/
structure BodyConverter where
  chunk : Bytes → Except MapError (Option Bytes)
  body : Bytes → Except MapError Bytes

/-- `convert_resp_body`. -/
def convertRespBody (converter : BodyConverter) (target : ApiEndpoint) (status : StatusCode)
    (bytes : Bytes) (isStream : Bool) : Except MapError (Option Bytes) :=
  if isStream then converter.chunk bytes
  else if status.isClientError || status.isServerError then
    match parseError lib target bytes with
    | none => .error .deserialize
    | some sourceError => .ok (some (lib.toVec (tryConvertError status target sourceError)))
  else (converter.body bytes).map some

/-! ### The mapped response -/

/-- A response of the mapper. An item of a stream may be an error. -/
structure MappedResponse where
  status : StatusCode
  body : List (Except MapError Bytes)

/-- The frames of a body. -/
def UserBody.frames : UserBody → List (Option Bytes)
  | .plain items => items.map Except.toOption
  | .recorded items => items.map Except.toOption

/-- The prefix and the end the OpenAI SDK expects around an event. -/
def sseFrame (data : Bytes) : Bytes := sseData "data: " ++ data ++ sseData "\n\n"

/-- What becomes of a frame of a stream, which is nothing if the converter drops it. -/
def mapFrame (converter : BodyConverter) (target : ApiEndpoint) (status : StatusCode) :
    Option Bytes → Option (Except MapError Bytes)
  | none => some (.error .collectBodyError)
  | some bytes =>
    match convertRespBody lib converter target status bytes true with
    | .error e => some (.error e)
    | .ok none => none
    | .ok (some data) => some (.ok (sseFrame data))

/-- `map_response`. -/
def mapResponse (converter : BodyConverter) (target : ApiEndpoint) (isStream : Bool)
    (response : UserResponse) : Except MapError MappedResponse :=
  if isStream then
    .ok ⟨response.status,
      (UserBody.frames response.body).filterMap (mapFrame lib converter target response.status)⟩
  else
    match (UserBody.frames response.body).mapM id with
    | none => .error .collectBodyError
    | some frames =>
      match convertRespBody lib converter target response.status frames.flatten false with
      | .error e => .error e
      | .ok none => .error .emptyResponseBody
      | .ok (some body) => .ok ⟨response.status, [.ok body]⟩

/-! ### The errors that are left -/

/-- `StreamError::into_response`: the status and the type of the error. -/
def streamErrorStatus : EventSourceError → StatusCode × String
  | .invalidStatusCode status _ =>
    if status.isServerError then (status, "server_error")
    else if status.isClientError then (status, "invalid_request_error")
    else (.internalServerError, "server_error")
  | _ => (.internalServerError, "server_error")

/-- `ApiError::into_response`: the status and the type of the error. -/
def ResponseError.statusAndType : ResponseError → StatusCode × String
  | .dispatch (.streamError e) => streamErrorStatus e
  | .dispatch (.internal _) => (.internalServerError, "server_error")
  | .map _ => (.internalServerError, "server_error")

/-- The response the error handler makes of an error. -/
def ResponseError.intoResponse (e : ResponseError) : MappedResponse where
  status := e.statusAndType.1
  body := [.ok (lib.toVec ⟨{
    message := lib.display e, type := some e.statusAndType.2, param := none, code := none }⟩)]

/-- **What the client is answered.** The request is sent, the response is mapped, and the
error handler makes a response of an error. -/
def answer (converter : BodyConverter) (target : ApiEndpoint) (isStream : Bool)
    (outcome : UpstreamOutcome) (accounts : Accounts) : MappedResponse :=
  match (Dispatcher.send isStream (some target) outcome accounts).1 with
  | .error e => (ResponseError.dispatch e).intoResponse lib
  | .ok response =>
    match mapResponse lib converter target isStream response with
    | .error e => (ResponseError.map e).intoResponse lib
    | .ok mapped => mapped

/-! ### The status of an error -/

section Status

variable {lib} {converter : BodyConverter} {target : ApiEndpoint} {accounts : Accounts}
  {r : UpstreamResponse}

/-- A status from 400 to 599. -/
def IsErrorStatus (status : StatusCode) : Prop := 400 ≤ status.code ∧ status.code < 600

/-- An error status is one of the client or one of the server. -/
theorem IsErrorStatus.isError {status : StatusCode} (h : IsErrorStatus status) :
    (status.isClientError || status.isServerError) = true := by
  obtain ⟨hge, hlt⟩ := h
  unfold StatusCode.isClientError StatusCode.isServerError
  rw [Bool.or_eq_true, decide_eq_true_iff, decide_eq_true_iff]
  by_cases h500 : status.code < 500
  · exact Or.inl ⟨hge, h500⟩
  · exact Or.inr ⟨Nat.le_of_not_lt h500, hlt⟩

theorem IsErrorStatus.ne_ok {status : StatusCode} (h : IsErrorStatus status) : status ≠ .ok := by
  rintro rfl
  exact absurd h.1 (by decide)

/-- A 500 is one of the gateway's errors. -/
theorem eq_internalServerError_iff {status : StatusCode} :
    StatusCode.internalServerError = status ↔ status.code = 500 := by
  constructor
  · rintro rfl
    rfl
  · intro h
    cases status
    cases h
    rfl

/-- With a stream, the error of the event source has the status. -/
theorem status_answer_stream (h : IsErrorStatus r.status) :
    (answer lib converter target true (.response r) accounts).status = r.status := by
  -- the stream has no event: its first item is the error
  have hsource : sseStream (eventSource (.response r)) =
      .error (.invalidStatusCode r.status r.collect) := by
    simp only [eventSource, if_pos h.ne_ok, sseStream]
  have hsend : (Dispatcher.send true (some target) (.response r) accounts).1 =
      .error (.streamError (.invalidStatusCode r.status r.collect)) := by
    unfold Dispatcher.send Dispatcher.dispatchStream
    rw [if_pos rfl, hsource]
  unfold answer
  rw [hsend]
  change (streamErrorStatus (.invalidStatusCode r.status r.collect)).1 = r.status
  have herror := h.isError
  rw [Bool.or_eq_true] at herror
  simp only [streamErrorStatus]
  by_cases hserver : r.status.isServerError = true
  · rw [if_pos hserver]
  · rw [if_neg hserver, if_pos (herror.resolve_right hserver)]

/-- The frames of a body that is passed on are those that arrive. -/
theorem frames_plain (frames : List (Option Bytes)) :
    UserBody.frames (.plain (frames.map Dispatcher.frameItem)) = frames := by
  change (frames.map Dispatcher.frameItem).map Except.toOption = frames
  rw [List.map_map]
  refine List.map_id'' (fun frame => ?_) frames
  cases frame with
  | none => rfl
  | some bytes => rfl

/-- Without one, the status is kept where the body is read as an error of the provider. -/
theorem status_answer_sync (h : IsErrorStatus r.status) :
    (answer lib converter target false (.response r) accounts).status =
      if ((r.collect).bind (parseError lib target)).isSome then r.status
      else .internalServerError := by
  have herror := h.isError
  have hsend : (Dispatcher.send false (some target) (.response r) accounts).1 =
      .ok ⟨r.status, r.retryAfter, .plain (r.frames.map Dispatcher.frameItem)⟩ := rfl
  unfold answer mapResponse
  rw [hsend]
  dsimp only
  rw [if_neg Bool.false_ne_true, frames_plain]
  unfold UpstreamResponse.collect
  -- a body that breaks off is an error of the gateway, as is one that is not read
  cases r.frames.mapM id with
  | none => rfl
  | some frames =>
    dsimp only
    unfold convertRespBody
    rw [if_neg Bool.false_ne_true, if_pos herror]
    change _ = if (parseError lib target frames.flatten).isSome then r.status else _
    cases parseError lib target frames.flatten with
    | none => rfl
    | some e => rfl

/-- **What is read as an error of Bedrock**: a null. -/
theorem parseError_bedrock_iff (bytes : Bytes) :
    (parseError lib .bedrock bytes).isSome = true ↔ lib.fromSlice bytes = some .null := by
  unfold parseError
  cases lib.fromSlice bytes with
  | none => exact iff_of_false (fun h => by cases h) (fun h => by cases h)
  | some j =>
    change (ConverseError.read j).isSome = true ↔ _
    cases j with
    | null => exact iff_of_true rfl rfl
    | _ => exact iff_of_false (fun h => by cases h) (fun h => by cases h)

end Status

/-- **Which error statuses reach the client.** Those of streams, those of bodies that arrive
and are read as an error of the provider, and 500, which any other becomes. -/
theorem status_kept_iff (lib : Libraries) (converter : BodyConverter) (target : ApiEndpoint)
    (isStream : Bool) (r : UpstreamResponse) (accounts : Accounts) (h : IsErrorStatus r.status) :
    (answer lib converter target isStream (.response r) accounts).status = r.status ↔
      isStream = true ∨ r.status.code = 500 ∨
        ∃ body, r.collect = some body ∧ (parseError lib target body).isSome = true := by
  cases isStream with
  | true => exact iff_of_true (status_answer_stream h) (Or.inl rfl)
  | false =>
    rw [status_answer_sync h, or_iff_right Bool.false_ne_true]
    -- without a body, or with one that is not read, the status is 500
    cases hcollect : r.collect with
    | none =>
      rw [Option.bind_none, if_neg (fun hnone => by cases hnone), eq_internalServerError_iff]
      refine (or_iff_left ?_).symm
      rintro ⟨body, hbody, -⟩
      cases hbody
    | some body =>
      rw [Option.bind_some]
      by_cases hparsed : (parseError lib target body).isSome = true
      · rw [if_pos hparsed]
        exact iff_of_true rfl (Or.inr ⟨body, rfl, hparsed⟩)
      · rw [if_neg hparsed, eq_internalServerError_iff]
        refine (or_iff_left ?_).symm
        rintro ⟨body', hbody, hparsed'⟩
        cases hbody
        exact hparsed hparsed'

/-! ### A gateway in front of the provider -/

/-- Libraries that read nothing but the empty object. -/
def emptyObjectLibraries : Libraries where
  fromSlice bytes := if bytes = [123, 125] then some (.obj []) else none
  wrappedError _ := none
  toVec _ := []
  display _ := ""

/-- A converter that converts nothing. -/
def noBodies : BodyConverter := ⟨fun _ => .error .conversion, fun _ => .error .conversion⟩

/-- The bytes of `<html>`. -/
def htmlPage : Bytes := [60, 104, 116, 109, 108, 62]

def serviceUnavailable : StatusCode := ⟨503, by decide, by decide⟩

/-- A 503 with a page of HTML. -/
def unavailable : UpstreamResponse := ⟨serviceUnavailable, none, false, [some htmlPage], []⟩

/-- With a stream, the 503 is a 503. -/
theorem status_kept_iff_stream :
    (answer emptyObjectLibraries noBodies .openAI true (.response unavailable)
      Dispatcher.noAccounts).status = unavailable.status :=
  (status_kept_iff emptyObjectLibraries noBodies .openAI true unavailable Dispatcher.noAccounts
    ⟨by decide, by decide⟩).mpr (Or.inl rfl)

/-- **The client is told that the gateway failed.** A 503 whose body is no error of OpenAI
becomes a 500. -/
theorem status_kept_fails : ¬ ∀ (lib : Libraries) (converter : BodyConverter)
    (target : ApiEndpoint) (isStream : Bool) (r : UpstreamResponse) (accounts : Accounts),
    IsErrorStatus r.status →
    (answer lib converter target isStream (.response r) accounts).status = r.status := by
  intro h
  have hkept := h emptyObjectLibraries noBodies .openAI false unavailable Dispatcher.noAccounts
    ⟨by decide, by decide⟩
  rw [status_answer_sync ⟨by decide, by decide⟩] at hkept
  exact absurd hkept (by decide)

end ErrorBody

end AiGateway
