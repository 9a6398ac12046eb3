import AiGateway.Cache.Key
import AiGateway.Dispatcher.Service
import AiGateway.Framework.Effects
import AiGateway.Framework.Headers

/-!
# Logging a request

`LoggerService::log` of `logger/service.rs`, from the point where the body of the response is
there, `S3Client::log_bodies` of `logger/s3.rs` and the messages of `types/logger.rs`: the two
bodies are put into a bucket, under a URL that the gateway signs or has signed, and then a message
about the request goes to Helicone. The first thing that fails ends it.

The answers of the bucket and of Helicone are parameters, and so are URLs and the writing of JSON.
Sizes and times are exact.

* `upward_task`: what the task does, it does once, and in its order;
* `about_of_mem_task`: whatever it sends is about its own request;
* `logRequest_mem_task_iff`, `errorCount_mem_task_iff`: when the message is sent, and when an error
  is counted.
-/

namespace AiGateway.Logger

open Effectful Http

/-! ### Messages -/

/-- `DeploymentTarget`. -/
inductive DeploymentTarget
  | cloud
  | sidecar

/-- `S3Log`. -/
structure S3Log where
  request : String
  response : String

structure HeliconeLogMetadata where
  modelOverride : Option String
  omitRequestLog : Bool
  omitResponseLog : Bool
  webhookEnabled : Bool
  posthogApiKey : Option String
  posthogHost : Option String
  lytixKey : Option String

variable {Url : Type}

/-- `RequestLog`, without the fields that are never set. -/
structure RequestLog (Url : Type) where
  id : String
  userId : String
  properties : List (String × String)
  targetUrl : Url
  provider : String
  bodySize : ℕ
  path : String
  requestCreatedAt : ℤ
  isStream : Bool

/-- `ResponseLog`, likewise. -/
structure ResponseLog where
  id : String
  status : ℕ
  bodySize : ℕ
  responseCreatedAt : ℤ
  delayMs : ℕ

/-- `Log`. -/
structure Log (Url : Type) where
  request : RequestLog Url
  response : ResponseLog

structure LogMessage (Url : Type) where
  authorization : String
  heliconeMeta : HeliconeLogMetadata
  log : Log Url

/-! ### Errors -/

/-- `LoggerError`, the ones that logging ends in. -/
inductive LoggerError
  | invalidHeaderStr
  | invalidLogMessage
  | failedToSendRequest
  | responseError
  | invalidUrl
  | bodyNotUtf8
  | unexpectedResponse (message : String)

/-- `AsRef<str>`: the name of the variant. -/
def LoggerError.asRef : LoggerError → String
  | invalidHeaderStr => "InvalidHeaderStr"
  | invalidLogMessage => "InvalidLogMessage"
  | failedToSendRequest => "FailedToSendRequest"
  | responseError => "ResponseError"
  | invalidUrl => "InvalidUrl"
  | bodyNotUtf8 => "BodyNotUtf8"
  | unexpectedResponse _ => "UnexpectedResponse"

/-! ### Libraries -/

/-- `JawnResponse`. -/
inductive JawnResponse (α : Type)
  | data (data : α)
  | error (error : String)

/-- What becomes of an HTTP request. -/
inductive Answer (α : Type)
  | failed
  | errorStatus
  | answered (body : α)

/-- **What logging rests on**: the configuration, URLs and JSON, and the answers of the others. -/
structure Env (Url : Type) where
  deploymentTarget : DeploymentTarget
  /-- `Minio::put_object`, signed. -/
  signPut : String → Url
  /-- `join` of the base URL of Helicone. -/
  join : String → Option Url
  path : Url → String
  toUppercase : String → String
  /-- `serde_json::to_vec`. -/
  toVec : S3Log → Option Bytes
  /-- The answer to a `SignedUrlRequest`; a body that cannot be read is `none`. -/
  signAnswer : String → ℕ → Answer (Option (JawnResponse Url))
  putAnswer : Url → S3Log → Answer Unit
  logAnswer : LogMessage Url → Answer Unit
  /-- `Utc::now`, when the message is made. -/
  now : ℤ

/-- `LoggerService`, without the body of the response, which is collected first. -/
structure LoggerService (Url : Type) where
  authCtx : AuthContext
  startTime : ℤ
  requestBody : Bytes
  targetUrl : Url
  requestHeaders : HeaderMap
  responseStatus : StatusCode
  provider : InferenceProvider
  /-- The model of the `MapperContext`, as text. -/
  model : Option String
  /-- `Uuid::new_v4`. -/
  requestId : String

/-- What logging does. -/
inductive Effect (Url : Type)
  | sign (url : Url) (authorization : String) (requestId : String) (payloadSize : ℕ)
  | put (url : Url) (log : S3Log)
  | tfftDuration (millis : ℕ) (provider model path : String)
  | logRequest (url : Url) (authorization : String) (message : LogMessage Url)
  | errorCount (type : String)

/-! ### The code -/

abbrev Logging (Url α : Type) := Effectful (Effect Url) LoggerError α

/-- `ok_or`. -/
def orFail {α : Type} (e : LoggerError) : Option α → Logging Url α
  | some a => pure a
  | none => ofExcept (.error e)

/-- A request is sent, and an error status is an error. -/
def send {α : Type} (effect : Effect Url) (answer : Answer α) : Logging Url α := do
  perform effect
  match answer with
  | .failed => ofExcept (.error .failedToSendRequest)
  | .errorStatus => ofExcept (.error .responseError)
  | .answered body => pure body

/-- `String::from_utf8`. -/
def fromUtf8 (bytes : Bytes) : Logging Url String :=
  orFail .bodyNotUtf8 (String.fromUTF8? ⟨bytes.toArray⟩)

/-- A header that is text, if it is there. -/
def textHeader (headers : HeaderMap) (name : String) : Logging Url (Option String) :=
  match headers.get name with
  | none => pure none
  | some value => do
    let text ← orFail .invalidHeaderStr (headerToStr value.bytes)
    return some (String.ofList text)

/-- `from_headers`. -/
def HeliconeLogMetadata.fromHeaders (headers : HeaderMap) : Logging Url HeliconeLogMetadata := do
  let modelOverride ← textHeader headers "x-helicone-model-override"
  let posthogApiKey ← textHeader headers "x-helicone-posthog-api-key"
  let posthogHost ← textHeader headers "x-helicone-posthog-host"
  let lytixKey ← textHeader headers "x-helicone-lytix-key"
  return {
    modelOverride
    omitRequestLog := headers.contains "x-helicone-omit-request-log"
    omitResponseLog := headers.contains "x-helicone-omit-response-log"
    webhookEnabled := headers.contains "x-helicone-webhook-enabled"
    posthogApiKey
    posthogHost
    lytixKey }

/-- `format!("Bearer {}", ..)`. -/
def bearerOf (authCtx : AuthContext) : String := "Bearer " ++ authCtx.apiKey

section Code

variable (env : Env Url) (service : LoggerService Url)

/-- The object of a request. -/
def objectPath : String :=
  "organizations/" ++ service.authCtx.orgId ++ "/requests/" ++ service.requestId ++
    "/raw_request_response_body"

/-- `S3Log::new` of the two bodies. -/
def s3Log (responseBody : Bytes) : Logging Url S3Log := do
  let request ← fromUtf8 service.requestBody
  let response ← fromUtf8 responseBody
  return ⟨request, response⟩

/-- The URL that Helicone signs. -/
def signedByJawn (log : S3Log) (signedRequestUrl : Url) : Logging Url Url := do
  let bytes ← orFail .invalidLogMessage (env.toVec log)
  let body ← send
    (.sign signedRequestUrl (bearerOf service.authCtx) service.requestId bytes.length)
    (env.signAnswer service.requestId bytes.length)
  match body with
  | none => ofExcept (.error .responseError)
  | some (.error e) => ofExcept (.error (.unexpectedResponse e))
  | some (.data url) => pure url

/-- The URL to put the bodies to, with the bodies. -/
def signedUrl (responseBody : Bytes) : Logging Url (Url × S3Log) :=
  match env.deploymentTarget with
  | .cloud => do
    let log ← s3Log service responseBody
    return (env.signPut (objectPath service), log)
  | .sidecar => do
    let signedRequestUrl ← orFail .invalidUrl (env.join "/v1/router/control-plane/sign-s3-url")
    let log ← s3Log service responseBody
    let url ← signedByJawn env service log signedRequestUrl
    return (url, log)

/-- `log_bodies`. -/
def logBodies (responseBody : Bytes) : Logging Url Unit := do
  let (url, log) ← signedUrl env service responseBody
  send (.put url log) (env.putAnswer url log)

/-- The provider, as Helicone names it. -/
def providerName : String :=
  match service.provider with
  | .ollama => "CUSTOM"
  | .googleGemini => "GOOGLE"
  | provider => env.toUppercase provider.asStr

/-- The message. -/
def logMessage (responseBody : Bytes) (delayMs : ℕ) (metadata : HeliconeLogMetadata) :
    LogMessage Url where
  authorization := service.authCtx.apiKey
  heliconeMeta := metadata
  log := {
    request := {
      id := service.requestId
      userId := service.authCtx.userId
      properties := []
      targetUrl := service.targetUrl
      provider := providerName env service
      bodySize := service.requestBody.length
      path := env.path service.targetUrl
      requestCreatedAt := service.startTime
      -- whatever the response is
      isStream := false }
    response := {
      id := service.requestId
      status := service.responseStatus.code
      bodySize := responseBody.length
      responseCreatedAt := env.now
      delayMs } }

/-- The time to the first token is recorded. -/
def recordTfft (millis : ℕ) : Logging Url Unit :=
  perform (.tfftDuration millis service.provider.asStr (service.model.getD "unknown")
    (env.path service.targetUrl))

/-- The message is made and sent. -/
def postLog (responseBody : Bytes) (delayMs : ℕ) : Logging Url Unit := do
  let metadata ← HeliconeLogMetadata.fromHeaders service.requestHeaders
  let url ← orFail .invalidUrl (env.join "/v1/log/request")
  let message := logMessage env service responseBody delayMs metadata
  send (.logRequest url (bearerOf service.authCtx) message) (env.logAnswer message)

/-- `log`, once the body is collected and the time to the first token is known. -/
def log (responseBody : Bytes) (tfft : Option ℕ) : Logging Url Unit := do
  let tfftDuration := tfft.getD 0
  logBodies env service responseBody
  recordTfft env service tfftDuration
  postLog env service responseBody tfftDuration

/-- The task that the dispatcher spawns: it counts the error that logging ends in. -/
def task (responseBody : Bytes) (tfft : Option ℕ) : List (Effect Url) :=
  let logged := log env service responseBody tfft
  match logged.result with
  | .ok _ => logged.effects
  | .error e => logged.effects ++ [.errorCount e.asRef]

end Code

/-! ### What the parts do -/

section Parts

variable {env : Env Url} {service : LoggerService Url}

@[simp] theorem effects_orFail {α : Type} (e : LoggerError) (value : Option α) :
    (orFail e value : Logging Url α).effects = [] := by
  cases value <;> rfl

theorem result_orFail_eq_ok_iff {α : Type} {e : LoggerError} {value : Option α} {a : α} :
    (orFail e value : Logging Url α).result = .ok a ↔ value = some a := by
  cases value with
  | none => exact ⟨nofun, nofun⟩
  | some a' =>
    constructor
    · intro h
      exact congrArg some (Except.ok.inj h)
    · rintro ⟨⟩
      rfl

theorem effects_send {α : Type} (effect : Effect Url) (answer : Answer α) :
    (send effect answer).effects = [effect] := by
  cases answer <;> rfl

theorem result_send_eq_ok_iff {α : Type} {effect : Effect Url} {answer : Answer α} {body : α} :
    (send effect answer).result = .ok body ↔ answer = .answered body := by
  cases answer with
  | failed => exact ⟨nofun, nofun⟩
  | errorStatus => exact ⟨nofun, nofun⟩
  | answered body' =>
    constructor
    · intro h
      exact congrArg Answer.answered (Except.ok.inj h)
    · rintro ⟨⟩
      rfl

/-- The text is the one that the bytes are the encoding of. -/
theorem result_fromUtf8_eq_ok_iff {bytes : Bytes} {text : String} :
    (fromUtf8 bytes : Logging Url String).result = .ok text ↔ Cache.utf8 text = bytes := by
  unfold fromUtf8
  rw [result_orFail_eq_ok_iff]
  unfold String.fromUTF8? Cache.utf8
  constructor
  · intro h
    split at h
    · rw [← Option.some.inj h]
      rfl
    · cases h
  · rintro rfl
    exact dif_pos text.isValidUTF8

@[simp] theorem effects_fromHeaders (headers : HeaderMap) :
    (HeliconeLogMetadata.fromHeaders headers : Logging Url HeliconeLogMetadata).effects = [] := by
  have hheader : ∀ name, (textHeader headers name : Logging Url (Option String)).effects = [] := by
    intro name
    unfold textHeader
    split
    · rfl
    · exact effects_bind_eq_nil (effects_orFail _ _) fun _ => rfl
  unfold HeliconeLogMetadata.fromHeaders
  apply effects_bind_eq_nil (hheader _)
  intro _
  apply effects_bind_eq_nil (hheader _)
  intro _
  apply effects_bind_eq_nil (hheader _)
  intro _
  exact effects_bind_eq_nil (hheader _) fun _ => rfl

@[simp] theorem effects_s3Log (responseBody : Bytes) :
    (s3Log service responseBody).effects = [] := by
  apply effects_bind_eq_nil (effects_orFail _ _)
  intro _
  exact effects_bind_eq_nil (effects_orFail _ _) fun _ => rfl

/-- The log has the bodies, as texts. -/
theorem result_s3Log_eq_ok_iff {responseBody : Bytes} {log : S3Log} :
    (s3Log service responseBody).result = .ok log ↔
      Cache.utf8 log.request = service.requestBody ∧ Cache.utf8 log.response = responseBody := by
  obtain ⟨request, response⟩ := log
  unfold s3Log
  rw [result_bind_eq_ok_iff]
  constructor
  · rintro ⟨request', hrequest, hresponse⟩
    obtain ⟨response', hresponse, hlog⟩ := result_bind_eq_ok_iff.mp hresponse
    cases hlog
    exact ⟨result_fromUtf8_eq_ok_iff.mp hrequest, result_fromUtf8_eq_ok_iff.mp hresponse⟩
  · rintro ⟨hrequest, hresponse⟩
    exact ⟨request, result_fromUtf8_eq_ok_iff.mpr hrequest, result_bind_eq_ok_iff.mpr
      ⟨response, result_fromUtf8_eq_ok_iff.mpr hresponse, rfl⟩⟩

end Parts

/-! ### Order -/

/-- The place of an effect among the others. -/
def Effect.stage : Effect Url → ℕ
  | .sign .. => 0
  | .put .. => 1
  | .tfftDuration .. => 2
  | .logRequest .. => 3
  | .errorCount _ => 4

section Order

variable (env : Env Url) (service : LoggerService Url)

theorem upward_send {α : Type} {effect : Effect Url} (answer : Answer α) {low high : ℕ}
    (hlow : low ≤ effect.stage) (hhigh : effect.stage < high) :
    Upward Effect.stage low high (send effect answer) := by
  constructor
  · rw [effects_send]
    exact List.pairwise_singleton _ effect
  · rw [effects_send]
    intro effect' heffect'
    obtain rfl := List.mem_singleton.mp heffect'
    exact ⟨hlow, hhigh⟩

theorem upward_signedByJawn (log : S3Log) (signedRequestUrl : Url) :
    Upward Effect.stage 0 1 (signedByJawn env service log signedRequestUrl) := by
  unfold signedByJawn
  apply Upward.bind (Upward.of_nil (effects_orFail _ _)) _ (Nat.le_refl 0) (Nat.zero_le 1)
  intro bytes _
  apply Upward.bind (upward_send _ (Nat.zero_le 0) Nat.one_pos) _ (Nat.zero_le 1) (Nat.le_refl 1)
  rintro (_ | _ | _) _ <;> exact Upward.of_nil rfl

theorem upward_logBodies (responseBody : Bytes) :
    Upward Effect.stage 0 2 (logBodies env service responseBody) := by
  have hsigned : Upward Effect.stage 0 1 (signedUrl env service responseBody) := by
    unfold signedUrl
    split
    · exact Upward.of_nil (effects_bind_eq_nil (effects_s3Log _) fun _ => rfl)
    · apply Upward.bind (Upward.of_nil (effects_orFail _ _)) _ (Nat.le_refl 0) (Nat.zero_le 1)
      intro signedRequestUrl _
      apply Upward.bind (Upward.of_nil (effects_s3Log _)) _ (Nat.le_refl 0) (Nat.zero_le 1)
      intro log _
      exact (upward_signedByJawn env service log signedRequestUrl).bind
        (fun _ _ => Upward.of_nil rfl) (Nat.zero_le 1) (Nat.le_refl 1)
  apply hsigned.bind _ (Nat.zero_le 1) (Nat.le_succ 1)
  rintro ⟨url, log⟩ _
  exact upward_send _ (Nat.le_refl 1) Nat.one_lt_two

theorem upward_postLog (responseBody : Bytes) (delayMs : ℕ) :
    Upward Effect.stage 3 4 (postLog env service responseBody delayMs) := by
  unfold postLog
  apply Upward.bind (Upward.of_nil (effects_fromHeaders _)) _ (Nat.le_refl 3) (Nat.le_succ 3)
  intro metadata _
  apply Upward.bind (Upward.of_nil (effects_orFail _ _)) _ (Nat.le_refl 3) (Nat.le_succ 3)
  intro url _
  exact upward_send _ (Nat.le_refl 3) (Nat.lt_succ_self 3)

theorem upward_recordTfft (millis : ℕ) :
    Upward Effect.stage 2 3 (recordTfft env service millis) :=
  Upward.perform (Nat.le_refl 2) (Nat.lt_succ_self 2)

theorem upward_log (responseBody : Bytes) (tfft : Option ℕ) :
    Upward Effect.stage 0 4 (log env service responseBody tfft) := by
  apply (upward_logBodies env service responseBody).bind _ (Nat.zero_le 2) (by decide)
  intro _ _
  apply (upward_recordTfft env service _).bind _ (Nat.le_succ 2) (Nat.le_succ 3)
  intro _ _
  exact upward_postLog env service responseBody (tfft.getD 0)

/-- **Each thing once, and in its order.** -/
theorem upward_task (responseBody : Bytes) (tfft : Option ℕ) :
    (task env service responseBody tfft).Pairwise fun effect effect' =>
      effect.stage < effect'.stage := by
  have hlog := upward_log env service responseBody tfft
  unfold task
  dsimp only
  split
  · exact hlog.pairwise
  · rw [List.pairwise_append]
    refine ⟨hlog.pairwise, List.pairwise_singleton _ _, fun effect heffect effect' heffect' => ?_⟩
    obtain rfl := List.mem_singleton.mp heffect'
    exact (hlog.within effect heffect).2

end Order

/-! ### What is sent -/

section Sent

variable (env : Env Url) (service : LoggerService Url)

/-- **An effect is about a request**: it goes under the key of the sender, the bodies are those of
the request and of its response, and the message is made of them. -/
def Effect.About (responseBody : Bytes) (delayMs : ℕ) : Effect Url → Prop
  | .sign _ authorization requestId _ =>
    authorization = bearerOf service.authCtx ∧ requestId = service.requestId
  | .put _ log =>
    Cache.utf8 log.request = service.requestBody ∧ Cache.utf8 log.response = responseBody
  | .tfftDuration millis provider model path =>
    millis = delayMs ∧ provider = service.provider.asStr ∧ model = service.model.getD "unknown" ∧
      path = env.path service.targetUrl
  | .logRequest _ authorization message =>
    authorization = bearerOf service.authCtx ∧
      ∃ metadata, (HeliconeLogMetadata.fromHeaders service.requestHeaders :
          Logging Url HeliconeLogMetadata).result = .ok metadata ∧
        message = logMessage env service responseBody delayMs metadata
  | .errorCount _ => True

/-- Helicone signs a URL for a log; in the cloud the gateway does. -/
def Signs (log : S3Log) (url : Url) : Prop :=
  match env.deploymentTarget with
  | .cloud => url = env.signPut (objectPath service)
  | .sidecar => (env.join "/v1/router/control-plane/sign-s3-url").isSome ∧
    ∃ bytes, env.toVec log = some bytes ∧
      env.signAnswer service.requestId bytes.length = .answered (some (.data url))

/-- The bodies are texts, and they are stored. -/
def Stores (responseBody : Bytes) : Prop :=
  ∃ log url, Cache.utf8 log.request = service.requestBody ∧ Cache.utf8 log.response = responseBody ∧
    Signs env service log url ∧ env.putAnswer url log = .answered ()

/-- **A request can be logged**: its bodies are stored, its headers are text as far as they matter,
and there is a URL for the message. -/
structure Loggable (responseBody : Bytes) (metadata : HeliconeLogMetadata) : Prop where
  stored : Stores env service responseBody
  metadata : (HeliconeLogMetadata.fromHeaders service.requestHeaders :
    Logging Url HeliconeLogMetadata).result = .ok metadata
  url : (env.join "/v1/log/request").isSome

variable {env service}

theorem result_signedByJawn_eq_ok_iff {log : S3Log} {signedRequestUrl url : Url} :
    (signedByJawn env service log signedRequestUrl).result = .ok url ↔
      ∃ bytes, env.toVec log = some bytes ∧
        env.signAnswer service.requestId bytes.length = .answered (some (.data url)) := by
  unfold signedByJawn
  rw [result_bind_eq_ok_iff]
  refine exists_congr fun bytes => ?_
  rw [result_orFail_eq_ok_iff, result_bind_eq_ok_iff]
  refine and_congr_right fun _ => ?_
  constructor
  · rintro ⟨body, hsent, hurl⟩
    match body, hurl with
    | some (.data _), rfl => exact result_send_eq_ok_iff.mp hsent
  · intro hanswer
    exact ⟨some (.data url), result_send_eq_ok_iff.mpr hanswer, rfl⟩

/-- The URL and the log that the bodies are put with. -/
theorem result_signedUrl_eq_ok_iff {responseBody : Bytes} {url : Url} {log : S3Log} :
    (signedUrl env service responseBody).result = .ok (url, log) ↔
      Cache.utf8 log.request = service.requestBody ∧ Cache.utf8 log.response = responseBody ∧
        Signs env service log url := by
  unfold signedUrl Signs
  cases env.deploymentTarget with
  | cloud =>
    dsimp only
    rw [result_bind_eq_ok_iff]
    constructor
    · rintro ⟨log', hlog, hurl⟩
      cases hurl
      -- in the cloud the bucket signs, which cannot fail
      obtain ⟨hrequest, hresponse⟩ := result_s3Log_eq_ok_iff.mp hlog
      exact ⟨hrequest, hresponse, rfl⟩
    · rintro ⟨hrequest, hresponse, rfl⟩
      exact ⟨log, result_s3Log_eq_ok_iff.mpr ⟨hrequest, hresponse⟩, rfl⟩
  | sidecar =>
    dsimp only
    rw [result_bind_eq_ok_iff]
    constructor
    -- a sidecar has its URL signed by Helicone, by a request of its own
    · rintro ⟨signedRequestUrl, hjoin, h⟩
      obtain ⟨log', hlog, h⟩ := result_bind_eq_ok_iff.mp h
      obtain ⟨url', hurl, h⟩ := result_bind_eq_ok_iff.mp h
      cases h
      obtain ⟨hrequest, hresponse⟩ := result_s3Log_eq_ok_iff.mp hlog
      refine ⟨hrequest, hresponse, ?_, result_signedByJawn_eq_ok_iff.mp hurl⟩
      rw [result_orFail_eq_ok_iff.mp hjoin, Option.isSome_some]
    · rintro ⟨hrequest, hresponse, hjoin, hsigned⟩
      obtain ⟨signedRequestUrl, hjoin⟩ := Option.isSome_iff_exists.mp hjoin
      refine ⟨signedRequestUrl, result_orFail_eq_ok_iff.mpr hjoin, ?_⟩
      apply result_bind_eq_ok_iff.mpr
      refine ⟨log, result_s3Log_eq_ok_iff.mpr ⟨hrequest, hresponse⟩, ?_⟩
      apply result_bind_eq_ok_iff.mpr
      exact ⟨url, result_signedByJawn_eq_ok_iff.mpr hsigned, rfl⟩

theorem result_logBodies_eq_ok_iff {responseBody : Bytes} :
    (logBodies env service responseBody).result = .ok () ↔ Stores env service responseBody := by
  unfold logBodies Stores
  rw [result_bind_eq_ok_iff]
  constructor
  · rintro ⟨⟨url, log⟩, hsigned, hput⟩
    obtain ⟨hrequest, hresponse, hsigns⟩ := result_signedUrl_eq_ok_iff.mp hsigned
    exact ⟨log, url, hrequest, hresponse, hsigns, result_send_eq_ok_iff.mp hput⟩
  · rintro ⟨log, url, hrequest, hresponse, hsigns, hput⟩
    exact ⟨(url, log), result_signedUrl_eq_ok_iff.mpr ⟨hrequest, hresponse, hsigns⟩,
      result_send_eq_ok_iff.mpr hput⟩

theorem result_postLog_eq_ok_iff {responseBody : Bytes} {delayMs : ℕ} :
    (postLog env service responseBody delayMs).result = .ok () ↔
      ∃ metadata, (HeliconeLogMetadata.fromHeaders service.requestHeaders :
          Logging Url HeliconeLogMetadata).result = .ok metadata ∧
        (env.join "/v1/log/request").isSome ∧
        env.logAnswer (logMessage env service responseBody delayMs metadata) = .answered () := by
  unfold postLog
  rw [result_bind_eq_ok_iff]
  refine exists_congr fun metadata => and_congr_right fun _ => ?_
  rw [result_bind_eq_ok_iff, Option.isSome_iff_exists]
  constructor
  · rintro ⟨url, hjoin, hsent⟩
    exact ⟨⟨url, result_orFail_eq_ok_iff.mp hjoin⟩, result_send_eq_ok_iff.mp hsent⟩
  · rintro ⟨⟨url, hjoin⟩, hanswer⟩
    exact ⟨url, result_orFail_eq_ok_iff.mpr hjoin, result_send_eq_ok_iff.mpr hanswer⟩

/-- Logging succeeds when the request can be logged, and Helicone takes the message. -/
theorem result_log_eq_ok_iff {responseBody : Bytes} {tfft : Option ℕ} :
    (log env service responseBody tfft).result = .ok () ↔
      ∃ metadata, Loggable env service responseBody metadata ∧
        env.logAnswer (logMessage env service responseBody (tfft.getD 0) metadata) =
          .answered () := by
  unfold log
  rw [result_bind_eq_ok_iff]
  constructor
  · rintro ⟨⟨⟩, hstored, h⟩
    obtain ⟨⟨⟩, -, hposted⟩ := result_bind_eq_ok_iff.mp h
    obtain ⟨metadata, hmetadata, hjoin, hanswer⟩ := result_postLog_eq_ok_iff.mp hposted
    exact ⟨metadata, ⟨result_logBodies_eq_ok_iff.mp hstored, hmetadata, hjoin⟩, hanswer⟩
  · rintro ⟨metadata, ⟨hstored, hmetadata, hjoin⟩, hanswer⟩
    refine ⟨(), result_logBodies_eq_ok_iff.mpr hstored, result_bind_eq_ok_iff.mpr ⟨(), rfl, ?_⟩⟩
    exact result_postLog_eq_ok_iff.mpr ⟨metadata, hmetadata, hjoin, hanswer⟩

/-! ### The effects -/

/-- What signing a URL and putting the bodies does. -/
theorem about_of_mem_logBodies {responseBody : Bytes} {delayMs : ℕ} :
    ∀ effect ∈ (logBodies env service responseBody).effects,
      effect.About env service responseBody delayMs := by
  unfold logBodies
  apply forall_mem_effects_bind
  · unfold signedUrl
    split
    · rw [effects_bind_eq_nil (effects_s3Log _) fun _ => rfl]
      exact fun _ h => absurd h List.not_mem_nil
    · -- of all that a sidecar does before, only the request for a URL is sent
      intro effect heffect
      obtain h | ⟨_, -, heffect⟩ := mem_effects_bind.mp heffect
      · rw [effects_orFail] at h
        cases h
      obtain h | ⟨log, -, heffect⟩ := mem_effects_bind.mp heffect
      · rw [effects_s3Log] at h
        cases h
      obtain heffect | ⟨_, -, h⟩ := mem_effects_bind.mp heffect
      · obtain h | ⟨bytes, -, heffect⟩ := mem_effects_bind.mp heffect
        · rw [effects_orFail] at h
          cases h
        obtain heffect | ⟨body, -, h⟩ := mem_effects_bind.mp heffect
        · rw [effects_send] at heffect
          obtain rfl := List.mem_singleton.mp heffect
          exact ⟨rfl, rfl⟩
        · rcases body with _ | _ | _ <;> cases h
      · cases h
  -- the bodies go to the URL that was signed
  · rintro ⟨url, log⟩ hsigned effect heffect
    rw [effects_send] at heffect
    obtain rfl := List.mem_singleton.mp heffect
    obtain ⟨hrequest, hresponse, -⟩ := result_signedUrl_eq_ok_iff.mp hsigned
    exact ⟨hrequest, hresponse⟩

/-- The message that is sent, if there is one. -/
theorem mem_effects_postLog_iff {responseBody : Bytes} {delayMs : ℕ} {effect : Effect Url} :
    effect ∈ (postLog env service responseBody delayMs).effects ↔
      ∃ metadata url, (HeliconeLogMetadata.fromHeaders service.requestHeaders :
          Logging Url HeliconeLogMetadata).result = .ok metadata ∧
        env.join "/v1/log/request" = some url ∧
        effect = .logRequest url (bearerOf service.authCtx)
          (logMessage env service responseBody delayMs metadata) := by
  unfold postLog
  rw [mem_effects_bind, effects_fromHeaders, or_iff_right List.not_mem_nil]
  refine exists_congr fun metadata => ?_
  rw [mem_effects_bind, effects_orFail, or_iff_right List.not_mem_nil]
  constructor
  · rintro ⟨hmetadata, url, hjoin, heffect⟩
    rw [effects_send] at heffect
    exact ⟨url, hmetadata, result_orFail_eq_ok_iff.mp hjoin, List.mem_singleton.mp heffect⟩
  · rintro ⟨url, hmetadata, hjoin, rfl⟩
    refine ⟨hmetadata, url, result_orFail_eq_ok_iff.mpr hjoin, ?_⟩
    rw [effects_send]
    exact List.mem_singleton_self _

/-- What logging does, apart from the bodies: if these are stored, the time is recorded and the
message sent. -/
theorem mem_effects_log_iff {responseBody : Bytes} {tfft : Option ℕ} {effect : Effect Url} :
    effect ∈ (log env service responseBody tfft).effects ↔
      effect ∈ (logBodies env service responseBody).effects ∨
        Stores env service responseBody ∧
          (effect ∈ (recordTfft env service (tfft.getD 0)).effects ∨
            effect ∈ (postLog env service responseBody (tfft.getD 0)).effects) := by
  unfold log
  rw [mem_effects_bind]
  refine or_congr_right ?_
  constructor
  · rintro ⟨⟨⟩, hstored, heffect⟩
    refine ⟨result_logBodies_eq_ok_iff.mp hstored, ?_⟩
    obtain h | ⟨⟨⟩, -, h⟩ := mem_effects_bind.mp heffect
    · exact Or.inl h
    · exact Or.inr h
  · rintro ⟨hstored, heffect⟩
    refine ⟨(), result_logBodies_eq_ok_iff.mpr hstored, mem_effects_bind.mpr ?_⟩
    exact heffect.imp_right fun h => ⟨(), rfl, h⟩

theorem mem_task_iff {responseBody : Bytes} {tfft : Option ℕ} {effect : Effect Url} :
    effect ∈ task env service responseBody tfft ↔
      effect ∈ (log env service responseBody tfft).effects ∨
        ∃ e, (log env service responseBody tfft).result = .error e ∧
          effect = .errorCount e.asRef := by
  unfold task
  dsimp only
  split
  · next h => simp [h]
  · next e h => simp [h]

/-- **All that is sent is about the request.** -/
theorem about_of_mem_task {responseBody : Bytes} {tfft : Option ℕ} :
    ∀ effect ∈ task env service responseBody tfft,
      effect.About env service responseBody (tfft.getD 0) := by
  intro effect heffect
  obtain heffect | ⟨e, -, rfl⟩ := mem_task_iff.mp heffect
  · obtain h | ⟨-, h | h⟩ := mem_effects_log_iff.mp heffect
    · exact about_of_mem_logBodies effect h
    · obtain rfl := List.mem_singleton.mp h
      exact ⟨rfl, rfl, rfl, rfl⟩
    · obtain ⟨metadata, url, hmetadata, -, rfl⟩ := mem_effects_postLog_iff.mp h
      exact ⟨rfl, metadata, hmetadata, rfl⟩
  · trivial

/-- **When the message is sent.** -/
theorem logRequest_mem_task_iff {responseBody : Bytes} {tfft : Option ℕ} :
    (∃ url authorization message, Effect.logRequest url authorization message ∈
        task env service responseBody tfft) ↔
      ∃ metadata, Loggable env service responseBody metadata := by
  constructor
  · rintro ⟨url, authorization, message, heffect⟩
    obtain heffect | ⟨e, -, hcount⟩ := mem_task_iff.mp heffect
    · obtain h | ⟨hstored, h | h⟩ := mem_effects_log_iff.mp heffect
      · have hlt : 3 < 2 := ((upward_logBodies env service responseBody).within _ h).2
        omega
      · cases List.mem_singleton.mp h
      · obtain ⟨metadata, url, hmetadata, hjoin, -⟩ := mem_effects_postLog_iff.mp h
        exact ⟨metadata, hstored, hmetadata, by rw [hjoin, Option.isSome_some]⟩
    · cases hcount
  · rintro ⟨metadata, hstored, hmetadata, hjoin⟩
    obtain ⟨url, hjoin⟩ := Option.isSome_iff_exists.mp hjoin
    refine ⟨url, bearerOf service.authCtx,
      logMessage env service responseBody (tfft.getD 0) metadata, mem_task_iff.mpr (Or.inl ?_)⟩
    refine mem_effects_log_iff.mpr (Or.inr ⟨hstored, Or.inr ?_⟩)
    exact mem_effects_postLog_iff.mpr ⟨metadata, url, hmetadata, hjoin, rfl⟩

/-- **When an error is counted.** -/
theorem errorCount_mem_task_iff {responseBody : Bytes} {tfft : Option ℕ} :
    (∃ type, Effect.errorCount type ∈ task env service responseBody tfft) ↔
      ¬ ∃ metadata, Loggable env service responseBody metadata ∧
        env.logAnswer (logMessage env service responseBody (tfft.getD 0) metadata) =
          .answered () := by
  rw [← result_log_eq_ok_iff]
  constructor
  · rintro ⟨type, heffect⟩ hok
    obtain heffect | ⟨e, herror, -⟩ := mem_task_iff.mp heffect
    · have hlt : 4 < 4 := ((upward_log env service responseBody tfft).within _ heffect).2
      omega
    · rw [hok] at herror
      cases herror
  · intro hfailed
    cases hresult : (log env service responseBody tfft).result with
    | ok => exact absurd hresult hfailed
    | error e => exact ⟨e.asRef, mem_task_iff.mpr (Or.inr ⟨e, hresult, rfl⟩)⟩

end Sent

end AiGateway.Logger
