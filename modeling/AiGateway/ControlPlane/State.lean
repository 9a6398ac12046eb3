import AiGateway.Framework.BoundedLog

/-!
# The state of the control plane client

`control_plane_state.rs` and the messages of `control_plane/types.rs`: what the gateway
keeps of the messages the control plane sends it. The configuration holds the hashes of the
keys that clients authenticate with, so a client that stops following the messages serves
keys that may have been revoked.

An update either takes effect or panics; the task that reads the messages ends with a
panic.

* `updateAll_of_not_isAck`: without acknowledgements, all messages are taken in;
* `updateAll_ack`: an acknowledgement ends the task;
* `faithful_iff`: the sequences of messages that the state follows.
-/

namespace AiGateway.ControlPlane

/-! ### Messages -/

structure AuthData where
  userId : String
  organizationId : String
  deriving DecidableEq, Repr

structure Key where
  keyHash : String
  ownerId : String
  deriving DecidableEq, Repr

structure Config where
  auth : AuthData
  keys : List Key
  routerId : String
  routerConfig : String
  deriving DecidableEq, Repr

inductive Update
  | authData (data : AuthData)
  | config (data : Config)
  | keys (data : List Key)
  deriving DecidableEq, Repr

inductive Status
  | success
  | error (message : String)
  deriving DecidableEq, Repr

inductive Ack
  | heartbeat (status : Status)
  | sendLog (status : Status)
  deriving DecidableEq, Repr

inductive ControlPlaneError
  | unauthorized (message : String)
  deriving DecidableEq, Repr

/-- A message from the control plane. -/
inductive MessageTypeRX
  | ack (ack : Ack)
  | update (update : Update)
  | error (e : ControlPlaneError)
  deriving DecidableEq, Repr

/-! ### The code -/

/-- `MAX_HISTORY_SIZE`. -/
def maxHistorySize : ℕ := 100

/-- `ControlPlaneState`. -/
structure ControlPlaneState where
  config : Config
  history : BoundedLog MessageTypeRX maxHistorySize

/-- How an update ends. A panic leaves the state as it is by then. -/
inductive UpdateResult
  | done (state : ControlPlaneState)
  | panicked (state : ControlPlaneState)

/-- The `match` of `update`; `none` is the panic of its `todo!()`. -/
def Config.receive (config : Config) : MessageTypeRX → Option Config
  | .update (.keys data) => some { config with keys := data }
  | .update (.authData data) => some { config with auth := data }
  | .update (.config data) => some data
  | .ack _ => none
  | .error (.unauthorized _) => some config

/-- `update`. The message is in the history before it is looked at. -/
def ControlPlaneState.update (state : ControlPlaneState) (m : MessageTypeRX) : UpdateResult :=
  let logged : ControlPlaneState := { state with history := state.history.push m }
  match logged.config.receive m with
  | some config => .done { logged with config := config }
  | none => .panicked logged

/-- The messages of a connection, one after the other. -/
def ControlPlaneState.updateAll (state : ControlPlaneState) : List MessageTypeRX → UpdateResult
  | [] => .done state
  | m :: ms =>
    match state.update m with
    | .done state => state.updateAll ms
    | .panicked state => .panicked state

section Receiving

variable {Message : Type} (fromSlice : Message → Option MessageTypeRX)

/-- `handle_message`: a message that does not parse is an error, which is only logged. -/
def handleMessage (state : ControlPlaneState) (message : Message) : UpdateResult :=
  match fromSlice message with
  | some m => state.update m
  | none => .done state

/-- The loop of `run_control_plane_forever`, as far as the state is concerned. -/
def handleAll (state : ControlPlaneState) : List Message → UpdateResult
  | [] => .done state
  | message :: messages =>
    match handleMessage fromSlice state message with
    | .done state => handleAll state messages
    | .panicked state => .panicked state

/-- **Only what parses counts.** The loop is the update by the messages that parse. -/
theorem handleAll_eq (state : ControlPlaneState) (messages : List Message) :
    handleAll fromSlice state messages = state.updateAll (messages.filterMap fromSlice) := by
  induction messages generalizing state with
  | nil => rfl
  | cons message messages ih =>
    unfold handleAll handleMessage
    cases hparsed : fromSlice message with
    | none =>
      rw [List.filterMap_cons_none hparsed]
      exact ih state
    | some m =>
      rw [List.filterMap_cons_some hparsed]
      unfold ControlPlaneState.updateAll
      dsimp only
      cases state.update m with
      | done state' => exact ih state'
      | panicked state' => rfl

end Receiving

/-! ### The updates alone -/

/-- What an update asks for. -/
def Config.apply (config : Config) : Update → Config
  | .authData data => { config with auth := data }
  | .config data => data
  | .keys data => { config with keys := data }

/-- The update a message carries. -/
def MessageTypeRX.update? : MessageTypeRX → Option Update
  | .update u => some u
  | _ => none

/-- The configuration after the updates among some messages. -/
def Config.applyAll (config : Config) (ms : List MessageTypeRX) : Config :=
  (ms.filterMap MessageTypeRX.update?).foldl Config.apply config

/-! ### One message -/

def MessageTypeRX.IsAck : MessageTypeRX → Prop
  | .ack _ => True
  | _ => False

/-- Every message but an acknowledgement is taken in, and does what its update says. -/
theorem receive_of_not_isAck (config : Config) {m : MessageTypeRX} (h : ¬m.IsAck) :
    config.receive m = some (config.applyAll [m]) := by
  cases m with
  | ack a => exact absurd trivial h
  | update u => cases u <;> rfl
  | error e => cases e; rfl

theorem receive_ack (config : Config) {m : MessageTypeRX} (h : m.IsAck) :
    config.receive m = none := by
  cases m with
  | ack a => rfl
  | update u => exact h.elim
  | error e => exact h.elim

/-- **A step that does not panic.** -/
theorem update_of_not_isAck (state : ControlPlaneState) {m : MessageTypeRX} (h : ¬m.IsAck) :
    state.update m = .done ⟨state.config.applyAll [m], state.history.push m⟩ := by
  unfold ControlPlaneState.update
  dsimp only
  rw [receive_of_not_isAck state.config h]

/-- **A step that does.** It has written the history, and leaves the configuration. -/
theorem update_ack (state : ControlPlaneState) {m : MessageTypeRX} (h : m.IsAck) :
    state.update m = .panicked ⟨state.config, state.history.push m⟩ := by
  unfold ControlPlaneState.update
  dsimp only
  rw [receive_ack state.config h]

/-! ### Many messages -/

theorem applyAll_cons (config : Config) (m : MessageTypeRX) (ms : List MessageTypeRX) :
    config.applyAll (m :: ms) = (config.applyAll [m]).applyAll ms := by
  unfold Config.applyAll
  rw [← List.singleton_append, List.filterMap_append, List.foldl_append]

/-- Without acknowledgements every message is taken in, and the state is what the updates
and the log make of it. -/
theorem updateAll_of_not_isAck (state : ControlPlaneState) {ms : List MessageTypeRX}
    (h : ∀ m ∈ ms, ¬m.IsAck) :
    state.updateAll ms = .done ⟨state.config.applyAll ms, state.history.pushAll ms⟩ := by
  induction ms generalizing state with
  | nil => rfl
  | cons m ms ih =>
    obtain ⟨hm, hms⟩ := List.forall_mem_cons.mp h
    unfold ControlPlaneState.updateAll
    rw [update_of_not_isAck state hm]
    dsimp only
    rw [ih _ hms, applyAll_cons state.config m ms, BoundedLog.pushAll_cons]

/-- An acknowledgement ends the task, wherever it comes. -/
theorem updateAll_ack (state : ControlPlaneState) {ms : List MessageTypeRX}
    (h : ∃ m ∈ ms, m.IsAck) : ∃ state', state.updateAll ms = .panicked state' := by
  induction ms generalizing state with
  | nil => simp at h
  | cons m ms ih =>
    unfold ControlPlaneState.updateAll
    by_cases hm : m.IsAck
    · rw [update_ack state hm]
      exact ⟨_, rfl⟩
    -- this message is taken in, so the acknowledgement is further on
    · obtain ⟨m', hmem, hack⟩ := h
      have hrest : m' ∈ ms := by
        rcases List.mem_cons.mp hmem with rfl | hmem
        · exact absurd hack hm
        · exact hmem
      rw [update_of_not_isAck state hm]
      exact ih _ ⟨m', hrest, hack⟩

/-! ### Following the messages -/

/-- **The state follows some messages.** None of them panics, the configuration is the fold
of the updates alone, and the history is the end of all that was received. -/
def Faithful (state : ControlPlaneState) (ms : List MessageTypeRX) : Prop :=
  ∃ state', state.updateAll ms = .done state' ∧
    state'.config = (ms.filterMap MessageTypeRX.update?).foldl Config.apply state.config ∧
    state'.history.entries = (state.history.entries ++ ms).rtake maxHistorySize

/-- **When the state follows its messages.** It does exactly when none of them is an
acknowledgement. -/
theorem faithful_iff (state : ControlPlaneState) (ms : List MessageTypeRX) :
    Faithful state ms ↔ ∀ ack, MessageTypeRX.ack ack ∉ ms := by
  constructor
  · rintro ⟨state', hdone, -⟩ ack hmem
    obtain ⟨state'', hpanicked⟩ := updateAll_ack state ⟨.ack ack, hmem, trivial⟩
    rw [hpanicked] at hdone
    cases hdone
  · intro h
    have hnot : ∀ m ∈ ms, ¬m.IsAck := by
      intro m hmem hack
      cases m with
      | ack a => exact h a hmem
      | update u => exact hack
      | error e => exact hack
    exact ⟨_, updateAll_of_not_isAck state hnot, rfl,
      BoundedLog.entries_pushAll state.history ms⟩

/-- The state a client starts with. -/
def ControlPlaneState.new : ControlPlaneState where
  config := ⟨⟨"", ""⟩, [], "", ""⟩
  history := ⟨[], Nat.zero_le _⟩

/-- **The answer to a heartbeat panics.** -/
theorem faithful_fails : ¬ ∀ (state : ControlPlaneState) (ms : List MessageTypeRX),
    Faithful state ms := by
  intro h
  obtain ⟨state', hdone, -⟩ := h .new [.ack (.heartbeat .success)]
  cases hdone

end AiGateway.ControlPlane
