import AiGateway.Framework.Runs
import AiGateway.Logger.Service
import AiGateway.Mapper.Relay

/-!
# What is logged of a response

`BodyReader` of `types/body.rs`, `TFFTFuture` of `metrics/tfft.rs` and the task that `dispatch` of
`dispatcher/service.rs` spawns for every response. Whatever reads the body of the response takes
its items at its own pace, and may drop the body at any time; what it is handed is copied into a
channel. The task collects the copy until there are no senders left, and waits for the signal that
the first frame has been read. Then it logs the request or, without observability, only records
the time.

The steps of the reader, of the two futures of the task and of the clock come in any order.

* `DeliveryInv`: where the copies are, and who knows of the first one;
* `logged_of_run`: what is logged is what the reader was handed, all of it, once;
* `finished_of_run`: once the body is dropped, the task comes to an end.
-/

namespace AiGateway.Logger

open Transition ErrorBody

variable {Url : Type}

/-! ### The code -/

/-- What the spawned task does with the copy of a body. -/
inductive Job (Url : Type)
  | log (service : LoggerService Url)
  | time (provider model path : String)

/-- The end of the task, when both of its futures are ready. -/
def Job.run (env : Env Url) (body : Bytes) (tfft : Option ℕ) : Job Url → List (Effect Url)
  | .log service => task env service body tfft
  | .time provider model path =>
    match tfft with
    | some duration => [.tfftDuration duration provider model path]
    -- there was no signal
    | none => []

/-- The task that `dispatch` spawns for a response. -/
def spawnedJob (features : HeliconeFeatures) (authContext : Option AuthContext)
    (service : AuthContext → LoggerService Url) (provider model path : String) :
    Except InternalError (Job Url) :=
  if features.isObservabilityEnabled then
    match authContext with
    | some authCtx => .ok (.log (service authCtx))
    | none => .error (.extensionNotFound "AuthContext")
  else .ok (.time provider model path)

/-- A request that has passed the auth middleware always has its task. -/
theorem exists_spawnedJob {features : HeliconeFeatures} (req : DispatchRequest features)
    (service : AuthContext → LoggerService Url) (provider model path : String) :
    ∃ job, spawnedJob features req.authContext service provider model path = .ok job := by
  unfold spawnedJob
  split
  · next henabled =>
    have hsome := req.authenticated
      (HeliconeFeatures.isAuthEnabled_of_observability henabled)
    obtain ⟨authCtx, hauthCtx⟩ := Option.isSome_iff_exists.mp hsome
    rw [hauthCtx]
    exact ⟨_, rfl⟩
  · exact ⟨_, rfl⟩

/-- The channel of the signal, as its receiver sees it. -/
inductive Signal
  | waiting
  | sent
  | closed
  deriving DecidableEq

/-- A response under way, with the task that was spawned for it. -/
structure Delivery (Url : Type) where
  /-- Milliseconds since the request came in. -/
  now : ℕ
  /-- The bytes the reader of the body has been handed, and when. -/
  handed : List (ℕ × Bytes)
  /-- The body is not dropped yet, and the sender of the copies with it. -/
  body : Bool
  channel : List Bytes
  /-- `tfft_tx` of the `BodyReader`. -/
  tfftTx : Bool
  /-- The frames that are collected. -/
  frames : List Bytes
  /-- `collect` is ready. -/
  collected : Bool
  signal : Signal
  /-- What the `TFFTFuture` is ready with. -/
  tfft : Option (Option ℕ)
  /-- What the task has done at its end. -/
  effects : Option (List (Effect Url))

/-- What a step is about. -/
inductive DeliveryAction
  | tick
  | hand (item : Except ApiError Bytes)
  | drop
  | receive
  | collect
  | time
  | finish

/-- What `wrap_stream` copies of an item. -/
def copied : Except ApiError Bytes → List Bytes
  | .ok bytes => [bytes]
  | .error _ => []

variable (env : Env Url) (job : Job Url) (appendNewlines : Bool)

/-- **The steps of a delivery.** -/
inductive DeliveryStep : Delivery Url → DeliveryAction → Delivery Url → Prop
  | tick (s : Delivery Url) : DeliveryStep s .tick { s with now := s.now + 1 }
  | hand (s : Delivery Url) (item : Except ApiError Bytes) : s.body = true →
      DeliveryStep s (.hand item)
        { s with
          handed := s.handed ++ (copied item).map fun bytes => (s.now, bytes)
          channel := s.channel ++ copied item }
  | drop (s : Delivery Url) : DeliveryStep s .drop { s with body := false }
  /-- `poll_frame`. The first frame gives the signal. -/
  | receive (s : Delivery Url) (bytes : Bytes) (channel : List Bytes) :
      s.channel = bytes :: channel → DeliveryStep s .receive
        { s with
          channel := channel
          frames := s.frames ++ [BodyReader.pollFrame appendNewlines bytes]
          tfftTx := false
          signal := if s.tfftTx then .sent else s.signal }
  /-- The end of the channel. The reader of the copies is dropped, and what it still has. -/
  | collect (s : Delivery Url) : s.channel = [] → s.body = false → s.collected = false →
      DeliveryStep s .collect
        { s with
          collected := true
          tfftTx := false
          signal := if s.tfftTx then .closed else s.signal }
  | timeSent (s : Delivery Url) : s.tfft = none → s.signal = .sent →
      DeliveryStep s .time { s with tfft := some (some s.now) }
  | timeClosed (s : Delivery Url) : s.tfft = none → s.signal = .closed →
      DeliveryStep s .time { s with tfft := some none }
  | finish (s : Delivery Url) (tfft : Option ℕ) : s.collected = true → s.tfft = some tfft →
      s.effects = none →
      DeliveryStep s .finish { s with effects := some (job.run env s.frames.flatten tfft) }

/-- The delivery of a response. -/
def delivery : System (Delivery Url) DeliveryAction where
  init := ⟨0, [], true, [], true, [], false, .waiting, none, none⟩
  step := DeliveryStep env job appendNewlines

/-! ### The copies -/

/-- What the reader was handed, in the frames of the copy. -/
def Delivery.copies (s : Delivery Url) : List Bytes :=
  s.handed.map fun p => BodyReader.pollFrame appendNewlines p.2

/-- **A time of the first item**: there is one exactly when there is an item, and it is no earlier
than the item was handed out, and not in the future. -/
structure TimesFirst (handed : List (ℕ × Bytes)) (now : ℕ) (tfft : Option ℕ) : Prop where
  none_iff : tfft = none ↔ handed = []
  after : ∀ duration ∈ tfft, ∀ first ∈ handed.head?, first.1 ≤ duration
  before : ∀ duration ∈ tfft, duration ≤ now

/-- **Where the copies are.** Those that are collected and those that wait are what was handed out;
and the signal is given with the first of them, or not at all if there is none. -/
structure DeliveryInv (s : Delivery Url) : Prop where
  copies : s.copies appendNewlines =
    s.frames ++ s.channel.map (BodyReader.pollFrame appendNewlines)
  times : ∀ p ∈ s.handed, p.1 ≤ s.now
  collected : s.collected = true → s.channel = [] ∧ s.body = false
  waiting_iff : s.signal = .waiting ↔ s.tfftTx = true
  waiting : s.signal = .waiting → s.frames = [] ∧ s.collected = false
  sent : s.signal = .sent → s.frames ≠ []
  closed : s.signal = .closed → s.frames = [] ∧ s.collected = true
  unsignalled : s.tfft = some none → s.signal = .closed
  tfft : ∀ tfft ∈ s.tfft, TimesFirst s.handed s.now tfft
  effects : ∀ effects ∈ s.effects, s.collected = true ∧
    ∃ tfft, s.tfft = some tfft ∧ effects = job.run env s.frames.flatten tfft

theorem deliveryInv_init :
    DeliveryInv env job appendNewlines (delivery env job appendNewlines).init where
  copies := rfl
  times := by rintro p ⟨⟩
  collected := nofun
  waiting_iff := ⟨fun _ => rfl, fun _ => rfl⟩
  waiting := fun _ => ⟨rfl, rfl⟩
  sent := nofun
  closed := nofun
  unsignalled := nofun
  tfft := by rintro tfft ⟨⟩
  effects := by rintro effects ⟨⟩

variable {env job appendNewlines} {s s' : Delivery Url}

/-- A time stays one when later items are handed out. -/
theorem TimesFirst.append {handed later : List (ℕ × Bytes)} {now : ℕ} {tfft : Option ℕ}
    (h : TimesFirst handed now tfft) (hlater : tfft = none → later = []) :
    TimesFirst (handed ++ later) now tfft where
  none_iff := by
    rw [List.append_eq_nil_iff]
    exact ⟨fun hnone => ⟨h.none_iff.mp hnone, hlater hnone⟩, fun hnil => h.none_iff.mpr hnil.1⟩
  after duration hduration first hfirst := by
    have hsome : handed ≠ [] := by
      intro hnil
      rw [h.none_iff.mpr hnil] at hduration
      cases hduration
    -- the first item is the same
    rw [List.head?_append_of_ne_nil _ hsome] at hfirst
    exact h.after duration hduration first hfirst
  before := h.before

theorem TimesFirst.tick {handed : List (ℕ × Bytes)} {now : ℕ} {tfft : Option ℕ}
    (h : TimesFirst handed now tfft) : TimesFirst handed (now + 1) tfft where
  none_iff := h.none_iff
  after := h.after
  before duration hduration := Nat.le_succ_of_le (h.before duration hduration)

/-- What is collected has been handed out. -/
theorem DeliveryInv.handed_ne_nil (h : DeliveryInv env job appendNewlines s)
    (hframes : s.frames ≠ []) : s.handed ≠ [] := by
  intro hnil
  have hcopies := h.copies
  unfold Delivery.copies at hcopies
  rw [hnil, List.map_nil] at hcopies
  exact hframes (List.append_eq_nil_iff.mp hcopies.symm).1

/-- When everything is collected, it is all that was handed out. -/
theorem DeliveryInv.frames_eq (h : DeliveryInv env job appendNewlines s)
    (hcollected : s.collected = true) : s.frames = s.copies appendNewlines := by
  rw [h.copies, (h.collected hcollected).1, List.map_nil, List.append_nil]

/-- **Every step keeps the copies in place.** -/
theorem DeliveryInv.step (h : DeliveryInv env job appendNewlines s) {a : DeliveryAction}
    (hstep : DeliveryStep env job appendNewlines s a s') :
    DeliveryInv env job appendNewlines s' := by
  cases hstep with
  | tick =>
    exact { h with
      times := fun p hp => Nat.le_succ_of_le (h.times p hp)
      tfft := fun tfft htfft => (h.tfft tfft htfft).tick }
  | hand item hbody =>
    -- the body is there, so that nothing is collected yet
    have hcollected : s.collected ≠ true := by
      intro hcollected
      rw [(h.collected hcollected).2] at hbody
      cases hbody
    refine { h with copies := ?_, times := ?_, collected := ?_, tfft := ?_ }
    · have hcopies := h.copies
      unfold Delivery.copies at hcopies ⊢
      dsimp only
      rw [List.map_append, hcopies, List.map_append, List.map_map, List.append_assoc]
      rfl
    · intro p hp
      rcases List.mem_append.mp hp with hp | hp
      · exact h.times p hp
      · obtain ⟨bytes, -, rfl⟩ := List.mem_map.mp hp
        exact Nat.le_refl s.now
    · exact fun h' => absurd h' hcollected
    · intro tfft htfft
      refine (h.tfft tfft htfft).append fun hnone => ?_
      subst hnone
      exact absurd (h.closed (h.unsignalled htfft)).2 hcollected
  | drop => exact { h with collected := fun hcollected => ⟨(h.collected hcollected).1, rfl⟩ }
  | receive bytes channel hchannel =>
    have hcollected : s.collected ≠ true := by
      intro hcollected
      rw [(h.collected hcollected).1] at hchannel
      cases hchannel
    have hsent : (if s.tfftTx then Signal.sent else s.signal) = .sent := by
      split
      · rfl
      · next htx =>
        cases hsignal : s.signal with
        | waiting => exact absurd (h.waiting_iff.mp hsignal) htx
        | sent => rfl
        | closed => exact absurd (h.closed hsignal).2 hcollected
    refine { h with
      copies := ?_
      collected := fun h' => absurd h' hcollected
      waiting_iff := ?_, waiting := ?_, sent := ?_, closed := ?_, unsignalled := ?_, effects := ?_ }
    · have hcopies := h.copies
      rw [hchannel] at hcopies
      unfold Delivery.copies at hcopies ⊢
      dsimp only
      rw [hcopies, List.map_cons, List.append_assoc, List.singleton_append]
    · dsimp only
      rw [hsent]
      exact ⟨nofun, nofun⟩
    · dsimp only
      rw [hsent]
      exact nofun
    · exact fun _ => List.append_ne_nil_of_right_ne_nil _ (List.cons_ne_nil _ _)
    · dsimp only
      rw [hsent]
      exact nofun
    · intro hnone
      exact absurd (h.closed (h.unsignalled hnone)).2 hcollected
    · intro effects heffects
      exact absurd (h.effects effects heffects).1 hcollected
  | collect hchannel hbody hcollected =>
    have hsignal : (if s.tfftTx then Signal.closed else s.signal) ≠ .waiting := by
      split
      · exact nofun
      · next htx => exact fun hwaiting => htx (h.waiting_iff.mp hwaiting)
    refine { h with
      collected := fun _ => ⟨hchannel, hbody⟩
      waiting_iff := ⟨fun hwaiting => absurd hwaiting hsignal, nofun⟩
      waiting := fun hwaiting => absurd hwaiting hsignal
      sent := ?_, closed := ?_, unsignalled := ?_, effects := ?_ }
    · intro hsent
      dsimp only at hsent
      split at hsent
      · cases hsent
      · exact h.sent hsent
    · intro hclosed
      refine ⟨?_, rfl⟩
      dsimp only at hclosed
      split at hclosed
      · next htx => exact (h.waiting (h.waiting_iff.mpr htx)).1
      · exact (h.closed hclosed).1
    · intro hnone
      exact absurd (h.closed (h.unsignalled hnone)).2 (by rw [hcollected]; decide)
    · intro effects heffects
      exact absurd (h.effects effects heffects).1 (by rw [hcollected]; decide)
  | timeSent htfft hsignal =>
    refine { h with unsignalled := nofun, tfft := ?_, effects := ?_ }
    · rintro _ ⟨⟩
      refine ⟨⟨nofun, fun hnil => absurd hnil (h.handed_ne_nil (h.sent hsignal))⟩, ?_, ?_⟩
      · rintro _ ⟨⟩ first hfirst
        exact h.times first (List.mem_of_mem_head? hfirst)
      · rintro _ ⟨⟩
        exact Nat.le_refl s.now
    · intro effects heffects
      obtain ⟨-, tfft, htfft', -⟩ := h.effects effects heffects
      rw [htfft] at htfft'
      cases htfft'
  | timeClosed htfft hsignal =>
    obtain ⟨hframes, hcollected⟩ := h.closed hsignal
    refine { h with unsignalled := fun _ => hsignal, tfft := ?_, effects := ?_ }
    · rintro _ ⟨⟩
      refine ⟨⟨fun _ => ?_, fun _ => rfl⟩, nofun, nofun⟩
      -- nothing was collected, and everything is
      have hcopies := h.frames_eq hcollected
      rw [hframes] at hcopies
      exact List.map_eq_nil_iff.mp hcopies.symm
    · intro effects heffects
      obtain ⟨-, tfft, htfft', -⟩ := h.effects effects heffects
      rw [htfft] at htfft'
      cases htfft'
  | finish tfft hcollected htfft heffects =>
    refine { h with effects := ?_ }
    rintro _ ⟨⟩
    exact ⟨hcollected, tfft, htfft, rfl⟩

/-! ### What is logged -/

/-- The body of the copies. -/
def Delivery.read (appendNewlines : Bool) (s : Delivery Url) : Bytes :=
  (s.copies appendNewlines).flatten

/-- **A task at its end** has done its job with what was handed out. -/
theorem delivered_of_run {tr : List (DeliveryAction × Delivery Url)}
    (hrun : (delivery env job appendNewlines).Run (delivery env job appendNewlines).init tr) :
    System.AllStates (fun s => ∀ effects ∈ s.effects, s.body = false ∧
      ∃ tfft, TimesFirst s.handed s.now tfft ∧
        effects = job.run env (s.read appendNewlines) tfft)
      (delivery env job appendNewlines).init tr := by
  have hinv := hrun.invariant (fun _ _ _ h hstep => h.step hstep)
    (deliveryInv_init env job appendNewlines)
  refine hinv.imp fun s h effects heffects => ?_
  obtain ⟨hcollected, tfft, htfft, rfl⟩ := h.effects effects heffects
  refine ⟨(h.collected hcollected).2, tfft, h.tfft tfft htfft, ?_⟩
  unfold Delivery.read
  rw [h.frames_eq hcollected]

/-- **Some effects log a request** with a body and a delay: each comes once, and in its order, and
is about the request; the message is sent if the request can be logged; and an error is counted if
it cannot, or Helicone does not take the message. -/
structure Logged (env : Env Url) (service : LoggerService Url) (responseBody : Bytes)
    (delayMs : ℕ) (effects : List (Effect Url)) : Prop where
  ordered : effects.Pairwise fun effect effect' => effect.stage < effect'.stage
  about : ∀ effect ∈ effects, effect.About env service responseBody delayMs
  sent_iff : (∃ url authorization message, Effect.logRequest url authorization message ∈ effects) ↔
    ∃ metadata, Loggable env service responseBody metadata
  counted_iff : (∃ type, Effect.errorCount type ∈ effects) ↔
    ¬ ∃ metadata, Loggable env service responseBody metadata ∧
      env.logAnswer (logMessage env service responseBody delayMs metadata) = .answered ()

/-- **What is logged is what was read.** In every state of a run, whatever has been logged is about
all the bytes that the reader of the response was handed, in their order, and the reader is gone;
the delay that is logged is the time of the first of them, and zero if there was none. -/
theorem logged_of_run {service : LoggerService Url} {tr : List (DeliveryAction × Delivery Url)}
    (hrun : (delivery env (.log service) appendNewlines).Run
      (delivery env (.log service) appendNewlines).init tr) :
    System.AllStates (fun s => ∀ effects ∈ s.effects, s.body = false ∧
      ∃ tfft, TimesFirst s.handed s.now tfft ∧
        Logged env service (s.read appendNewlines) (tfft.getD 0) effects)
      (delivery env (.log service) appendNewlines).init tr := by
  refine (delivered_of_run hrun).imp fun s h effects heffects => ?_
  obtain ⟨hbody, tfft, htimes, rfl⟩ := h effects heffects
  exact ⟨hbody, tfft, htimes, upward_task env service _ tfft, about_of_mem_task,
    logRequest_mem_task_iff, errorCount_mem_task_iff⟩

/-- A cloud in which everything is stored. -/
def cloudEnv : Env String where
  deploymentTarget := .cloud
  signPut object := "http://localhost:9000/request-response-storage/" ++ object
  join path := some ("https://api.helicone.ai" ++ path)
  path _ := "/v1/chat/completions"
  toUppercase := String.toUpper
  toVec _ := some []
  signAnswer _ _ := .failed
  putAnswer _ _ := .answered ()
  logAnswer _ := .answered ()
  now := 0

def chatLogger : LoggerService String where
  authCtx := ⟨"sk-helicone", "user", "organization"⟩
  startTime := 0
  requestBody := []
  targetUrl := "https://api.openai.com/v1/chat/completions"
  requestHeaders := []
  responseStatus := .ok
  provider := .openAI
  model := some "gpt-4o"
  requestId := "request"

/-- One item, and then the body is dropped before the copy is read. -/
theorem logged_of_run_dropped : ∃ tr : List (DeliveryAction × Delivery String), tr.length = 7 ∧
    (System.finalState (delivery cloudEnv (.log chatLogger) true).init tr).effects.isSome ∧
    System.AllStates (fun s => ∀ effects ∈ s.effects, s.body = false ∧
      ∃ tfft, TimesFirst s.handed s.now tfft ∧
        Logged cloudEnv chatLogger (s.read true) (tfft.getD 0) effects)
      (delivery cloudEnv (.log chatLogger) true).init tr :=
  ⟨_, rfl, rfl, logged_of_run <|
    .cons (.tick _) <| .cons (.hand _ (.ok [72, 105]) rfl) <| .cons (.drop _) <|
    .cons (.receive _ [72, 105] [] rfl) <| .cons (.collect _ rfl rfl rfl) <|
    .cons (.timeSent _ rfl rfl) <| .cons (.finish _ (some 1) rfl rfl rfl) <| .nil _⟩

/-! ### The end of the task -/

/-- The steps of the task alone. -/
def DeliveryAction.IsTask : DeliveryAction → Prop
  | .receive | .collect | .time | .finish => True
  | _ => False

variable (env job appendNewlines) in
/-- The delivery when only the task takes steps. -/
def settling : System (Delivery Url) DeliveryAction where
  init := (delivery env job appendNewlines).init
  step s a s' := a.IsTask ∧ DeliveryStep env job appendNewlines s a s'

/-- What the task has still to do. -/
def Delivery.workLeft (s : Delivery Url) : ℕ :=
  s.channel.length + (!s.collected).toNat + s.tfft.isNone.toNat + s.effects.isNone.toNat

/-- Each step of the task leaves it less to do, and what was handed out as it is. -/
theorem settling_step {a : DeliveryAction} (hstep : (settling env job appendNewlines).step s a s') :
    s'.workLeft < s.workLeft ∧ s'.handed = s.handed ∧ s'.body = s.body := by
  obtain ⟨htask, hstep⟩ := hstep
  unfold Delivery.workLeft
  -- the clock and the reader are not the task; each of its own steps is counted in `workLeft`
  cases hstep with
  | tick => cases htask
  | hand item hbody => cases htask
  | drop => cases htask
  | receive bytes channel hchannel =>
    refine ⟨?_, rfl, rfl⟩
    dsimp only
    rw [hchannel, List.length_cons]
    omega
  | collect hchannel hbody hcollected =>
    refine ⟨?_, rfl, rfl⟩
    dsimp only
    simp only [hcollected, Bool.not_true, Bool.not_false, Bool.toNat_true, Bool.toNat_false]
    omega
  | timeSent htfft hsignal =>
    refine ⟨?_, rfl, rfl⟩
    dsimp only
    simp only [htfft, Option.isNone_none, Option.isNone_some, Bool.toNat_true, Bool.toNat_false]
    omega
  | timeClosed htfft hsignal =>
    refine ⟨?_, rfl, rfl⟩
    dsimp only
    simp only [htfft, Option.isNone_none, Option.isNone_some, Bool.toNat_true, Bool.toNat_false]
    omega
  | finish tfft hcollected htfft heffects =>
    refine ⟨?_, rfl, rfl⟩
    dsimp only
    simp only [heffects, Option.isNone_none, Option.isNone_some, Bool.toNat_true, Bool.toNat_false]
    omega

/-- **The task can go on** as long as it is not at its end, once the body is dropped. -/
theorem exists_settling_step (h : DeliveryInv env job appendNewlines s) (hbody : s.body = false)
    (heffects : s.effects = none) : ∃ a s', (settling env job appendNewlines).step s a s' := by
  cases hchannel : s.channel with
  | cons bytes channel => exact ⟨.receive, _, trivial, .receive s bytes channel hchannel⟩
  | nil =>
    cases hcollected : s.collected with
    | false => exact ⟨.collect, _, trivial, .collect s hchannel hbody hcollected⟩
    | true =>
      cases htfft : s.tfft with
      | some tfft => exact ⟨.finish, _, trivial, .finish s tfft hcollected htfft heffects⟩
      | none =>
        -- by now the signal has been sent, or its sender is gone
        cases hsignal : s.signal with
        | waiting =>
          have hnot := (h.waiting hsignal).2
          rw [hcollected] at hnot
          cases hnot
        | sent => exact ⟨.time, _, trivial, .timeSent s htfft hsignal⟩
        | closed => exact ⟨.time, _, trivial, .timeClosed s htfft hsignal⟩

/-- **The task comes to an end.** However a run got there: once the body is dropped, the task takes
at most as many steps as copies wait, and three more, in whatever order; and when it cannot take
another one, it has done its job with all that was handed out. -/
theorem finished_of_run {tr tr' : List (DeliveryAction × Delivery Url)}
    (hrun : (delivery env job appendNewlines).Run (delivery env job appendNewlines).init tr)
    (hbody : (System.finalState (delivery env job appendNewlines).init tr).body = false)
    (hsettling : (settling env job appendNewlines).Run
      (System.finalState (delivery env job appendNewlines).init tr) tr') :
    let s := System.finalState (delivery env job appendNewlines).init tr
    let s' := System.finalState s tr'
    tr'.length ≤ s.channel.length + 3 ∧
      ((∀ a s'', ¬ (settling env job appendNewlines).step s' a s'') →
        ∃ tfft, s'.effects = some (job.run env (s.read appendNewlines) tfft) ∧
          (tfft = none ↔ s.handed = [])) := by
  dsimp only
  have hinv := (hrun.invariant (fun _ _ _ h hstep => h.step hstep)
    (deliveryInv_init env job appendNewlines)).finalState
  generalize System.finalState (delivery env job appendNewlines).init tr = s at *
  have hprogress : ∀ s a s', True → (settling env job appendNewlines).step s a s' →
      True ∧ s'.workLeft < s.workLeft := fun _ _ _ _ hstep => ⟨trivial, (settling_step hstep).1⟩
  have hlength := hsettling.length_add_le Delivery.workLeft hprogress trivial
  have hwork : s.workLeft ≤ s.channel.length + 3 := by
    unfold Delivery.workLeft
    have hcollected := Bool.toNat_le (!s.collected)
    have htfft := Bool.toNat_le s.tfft.isNone
    have heffects := Bool.toNat_le s.effects.isNone
    omega
  refine ⟨by omega, fun hquiet => ?_⟩
  -- the task leaves the invariant, and what was handed out, as they are
  have hkeeps : ∀ s₁ a s₂,
      DeliveryInv env job appendNewlines s₁ ∧ s₁.handed = s.handed ∧ s₁.body = false →
      (settling env job appendNewlines).step s₁ a s₂ →
      DeliveryInv env job appendNewlines s₂ ∧ s₂.handed = s.handed ∧ s₂.body = false := by
    rintro s₁ a s₂ ⟨h, hhanded, hbody⟩ hstep
    obtain ⟨-, hkept, hdropped⟩ := settling_step hstep
    exact ⟨h.step hstep.2, hkept.trans hhanded, hdropped.trans hbody⟩
  obtain ⟨hinv', hhanded, hbody'⟩ := (hsettling.invariant hkeeps ⟨hinv, rfl, hbody⟩).finalState
  cases heffects : (System.finalState s tr').effects with
  | none =>
    obtain ⟨a, s'', hstep⟩ := exists_settling_step hinv' hbody' heffects
    exact absurd hstep (hquiet a s'')
  | some effects =>
    obtain ⟨hcollected, tfft, htfft, rfl⟩ := hinv'.effects effects heffects
    refine ⟨tfft, ?_, ?_⟩
    · unfold Delivery.read Delivery.copies
      rw [← hhanded, hinv'.frames_eq hcollected]
      rfl
    · rw [← hhanded]
      exact (hinv'.tfft tfft htfft).none_iff

theorem finished_of_run_dropped : ∃ tr tr' : List (DeliveryAction × Delivery String),
    tr.length = 2 ∧ tr'.length = 4 ∧
    let s := System.finalState (delivery cloudEnv (.log chatLogger) true).init tr
    let s' := System.finalState s tr'
    tr'.length ≤ s.channel.length + 3 ∧
      ((∀ a s'', ¬ (settling cloudEnv (.log chatLogger) true).step s' a s'') →
        ∃ tfft, s'.effects = some ((Job.log chatLogger).run cloudEnv (s.read true) tfft) ∧
          (tfft = none ↔ s.handed = [])) := by
  have htask : DeliveryAction.receive.IsTask ∧ DeliveryAction.time.IsTask ∧
      DeliveryAction.collect.IsTask ∧ DeliveryAction.finish.IsTask :=
    ⟨trivial, trivial, trivial, trivial⟩
  obtain ⟨hreceive, htime, hcollect, hfinish⟩ := htask
  refine ⟨_, _, ?hlength, ?hlength', finished_of_run
    (.cons (.hand _ (.ok [72, 105]) rfl) <| .cons (.drop _) <| .nil _) rfl
    (.cons ⟨hreceive, .receive _ [72, 105] [] rfl⟩ <| .cons ⟨htime, .timeSent _ rfl rfl⟩ <|
      .cons ⟨hcollect, .collect _ rfl rfl rfl⟩ <|
      .cons ⟨hfinish, .finish _ (some 0) rfl rfl rfl⟩ <| .nil _)⟩
  case hlength => rfl
  case hlength' => rfl

end AiGateway.Logger
