import AiGateway.ControlPlane.Auth
import AiGateway.Framework.Runs

/-!
# The control plane client

`control_plane/websocket.rs`: the task that follows the control plane. It reads messages from a
websocket for ever. Whatever ends a connection leads to another one: the connecting is tried again
without an end, so that no error of a connection ever ends the task.

Messages between two connections are lost, and what does not parse is only logged. Between reading
a message and the update the task waits for the lock of the state. If the token is triggered there,
the message that was read is lost. What is true of every run, however often it reconnects:

* `state_of_run`: the state is what the messages that were taken in make of it, in the order they
  were read; that is all that were read but for the last, if the lock is still waited for or the
  task was stopped there; and only an acknowledgement makes the task panic;
* `passes_of_run_iff`: a request is authenticated by the last list of keys that was taken in, of
  which the first entry of a hash counts. A key that is missing there is no longer accepted,
  whatever came before.
-/

namespace AiGateway.ControlPlane

open Transition Http Cache

/-! ### The task -/

section Client

variable {Message : Type}

/-- `tungstenite::Error`, as far as the task tells one from another. -/
inductive WsError
  | alreadyClosed
  | other

/-- Where the task stands. -/
inductive ClientStage
  /-- At `msg_rx.next()`. -/
  | reading
  /-- At `state.write()`, with a message to update the state with. -/
  | writing (m : MessageTypeRX)
  /-- In `reconnect_websocket`; `ended` if the stream has ended, and a pause follows. -/
  | reconnecting (ended : Bool)
  /-- The second after the stream has ended. -/
  | sleeping
  /-- An update has panicked. -/
  | panicked
  /-- The token was triggered, and a message that was read is dropped with the task. -/
  | stopped (lost : Option MessageTypeRX)
  deriving DecidableEq

structure ClientState where
  state : ControlPlaneState
  stage : ClientStage

/-- What happens to the task. -/
inductive ClientAction (Message : Type)
  /-- `msg_rx.next()` is ready; `none` is the end of the stream. -/
  | next (item : Option (Except WsError Message))
  /-- The lock is there, and `update` is called. -/
  | write (m : MessageTypeRX)
  /-- An attempt to connect. Every error is a `WebsocketConnection`, which is retried. -/
  | connect (connected : Bool)
  | wake
  | shutdown

/-- The message that waits for the lock, or was lost there. -/
def ClientStage.unwritten : ClientStage → Option MessageTypeRX
  | .writing m => some m
  | .stopped lost => lost
  | _ => none

variable (fromSlice : Message → Option MessageTypeRX)

/-- One round of the loop of `run_control_plane_forever`, as far as `handle_message` waits for
nothing. -/
def ClientState.handleNext (s : ClientState) : Option (Except WsError Message) → ClientState
  | some (.ok message) =>
    match fromSlice message with
    | some m => { s with stage := .writing m }
    | none => s
  | some (.error .alreadyClosed) => { s with stage := .reconnecting false }
  | some (.error .other) => s
  | none => { s with stage := .reconnecting true }

/-- The rest of `handle_message`. -/
def ClientState.update (s : ClientState) (m : MessageTypeRX) : ClientState :=
  match s.state.update m with
  | .done state => ⟨state, .reading⟩
  | .panicked state => ⟨state, .panicked⟩

/-- The end of an attempt of `connect_with_retry`. -/
def ClientState.tryConnect (s : ClientState) (ended connected : Bool) : ClientState :=
  if connected then { s with stage := if ended then .sleeping else .reading } else s

/-- **The steps of the task.** -/
inductive ClientStep : ClientState → ClientAction Message → ClientState → Prop
  | next (s : ClientState) (item : Option (Except WsError Message)) : s.stage = .reading →
      ClientStep s (.next item) (s.handleNext fromSlice item)
  | write (s : ClientState) (m : MessageTypeRX) : s.stage = .writing m →
      ClientStep s (.write m) (s.update m)
  | connect (s : ClientState) (ended connected : Bool) : s.stage = .reconnecting ended →
      ClientStep s (.connect connected) (s.tryConnect ended connected)
  | wake (s : ClientState) : s.stage = .sleeping →
      ClientStep s .wake { s with stage := .reading }
  /-- The token is polled between any two of the other steps. -/
  | shutdown (s : ClientState) : s.stage ≠ .panicked → (∀ lost, s.stage ≠ .stopped lost) →
      ClientStep s .shutdown { s with stage := .stopped s.stage.unwritten }

/-- The task of a client that has just connected. -/
def client (state : ControlPlaneState) : System ClientState (ClientAction Message) where
  init := ⟨state, .reading⟩
  step := ClientStep fromSlice

/-- The message that an action reads. -/
def ClientAction.read : ClientAction Message → Option MessageTypeRX
  | .next (some (.ok message)) => fromSlice message
  | _ => none

/-- The message that an action takes in. -/
def ClientAction.taken : ClientAction Message → Option MessageTypeRX
  | .write m => some m
  | _ => none

/-- The messages that a run reads. -/
def readIn (tr : List (ClientAction Message × ClientState)) : List MessageTypeRX :=
  (tr.map Prod.fst).filterMap (ClientAction.read fromSlice)

/-- The messages that a run takes in. -/
def takenIn (tr : List (ClientAction Message × ClientState)) : List MessageTypeRX :=
  (tr.map Prod.fst).filterMap ClientAction.taken

end Client

/-! ### Following the messages -/

section Following

variable {Message : Type} {fromSlice : Message → Option MessageTypeRX}

/-- What a message that was taken in makes of the state, if there is one. -/
def ControlPlaneState.follow (state : ControlPlaneState) : Option MessageTypeRX → ControlPlaneState
  | some m => ⟨state.config.applyAll [m], state.history.push m⟩
  | none => state

/-- An acknowledgement carries no update. -/
theorem applyAll_ack (config : Config) {m : MessageTypeRX} (h : m.IsAck) :
    config.applyAll [m] = config := by
  cases m with
  | ack ack => rfl
  | update u => exact h.elim
  | error e => exact h.elim

/-- A message does to the state what its update says, also if the task panics at it. -/
theorem update_message (s : ClientState) (m : MessageTypeRX) :
    (s.update m).state = s.state.follow (some m) ∧ ((s.update m).stage = .panicked ↔ m.IsAck) ∧
      (s.update m).stage.unwritten = none := by
  unfold ClientState.update
  by_cases hack : m.IsAck
  · rw [update_ack s.state hack]
    refine ⟨?_, iff_of_true rfl hack, rfl⟩
    exact congrArg (ControlPlaneState.mk · _) (applyAll_ack s.state.config hack).symm
  · rw [update_of_not_isAck s.state hack]
    exact ⟨rfl, iff_of_false nofun hack, rfl⟩

/-- What is read waits for the lock. -/
theorem handleNext_item (s : ClientState) (hstage : s.stage = .reading)
    (item : Option (Except WsError Message)) :
    (s.handleNext fromSlice item).state = s.state ∧
      (s.handleNext fromSlice item).stage ≠ .panicked ∧
      (s.handleNext fromSlice item).stage.unwritten =
        (ClientAction.next item : ClientAction Message).read fromSlice := by
  rcases item with _ | error | message
  · exact ⟨rfl, nofun, rfl⟩
  · cases error with
    | alreadyClosed => exact ⟨rfl, nofun, rfl⟩
    | other =>
      have hsame : s.handleNext fromSlice (some (.error .other)) = s := rfl
      rw [hsame, hstage]
      exact ⟨rfl, nofun, rfl⟩
  · unfold ClientState.handleNext ClientAction.read
    dsimp only
    cases fromSlice message with
    | none => exact ⟨rfl, hstage ▸ nofun, hstage ▸ rfl⟩
    | some m => exact ⟨rfl, nofun, rfl⟩

/-- **What a step does.** It takes a message in, which is the one that waits, or it leaves the state
as it is; it panics at an acknowledgement only; and what it reads is what waits then. -/
theorem ClientStep.spec {s s' : ClientState} {a : ClientAction Message}
    (h : ClientStep fromSlice s a s') :
    s'.state = s.state.follow a.taken ∧
      (s'.stage = .panicked ↔ s.stage = .panicked ∨ ∃ m ∈ a.taken, m.IsAck) ∧
      s.stage.unwritten.toList ++ (a.read fromSlice).toList =
        a.taken.toList ++ s'.stage.unwritten.toList := by
  -- only a write changes the state, and only a message waits for one
  cases h with
  | next item hstage =>
    obtain ⟨hstate, hpanicked, hunwritten⟩ := @handleNext_item _ fromSlice s hstage item
    refine ⟨hstate, iff_of_false hpanicked (by simp [ClientAction.taken, hstage]), ?_⟩
    rw [hunwritten, hstage]
    rfl
  | write m hstage =>
    obtain ⟨hstate, hpanicked, hunwritten⟩ := update_message s m
    refine ⟨hstate, ?_, ?_⟩
    · rw [hpanicked]
      simp [ClientAction.taken, hstage]
    · rw [hunwritten, hstage]
      rfl
  | connect ended connected hstage =>
    cases connected <;> cases ended <;>
      simp [ClientState.tryConnect, ClientAction.taken, ClientAction.read, hstage,
        ClientStage.unwritten, ControlPlaneState.follow]
  | wake hstage =>
    simp [ClientAction.taken, ClientAction.read, hstage, ClientStage.unwritten,
      ControlPlaneState.follow]
  | shutdown hlive _ =>
    refine ⟨rfl, by simp [ClientAction.taken, hlive], ?_⟩
    exact List.append_nil _

/-- The messages one after the other. -/
theorem foldl_follow (state : ControlPlaneState) (items : List (Option MessageTypeRX)) :
    items.foldl ControlPlaneState.follow state =
      ⟨state.config.applyAll (items.filterMap id), state.history.pushAll (items.filterMap id)⟩ := by
  induction items generalizing state with
  | nil => rfl
  | cons item items ih =>
    rw [List.foldl_cons, ih]
    cases item with
    | none => rfl
    | some m =>
      have hcons : (some m :: items).filterMap id = m :: items.filterMap id := rfl
      rw [hcons, applyAll_cons state.config m, BoundedLog.pushAll_cons]
      rfl

theorem takenIn_cons (a : ClientAction Message) (s : ClientState)
    (tr : List (ClientAction Message × ClientState)) :
    takenIn ((a, s) :: tr) = a.taken.toList ++ takenIn tr := by
  unfold takenIn
  rw [List.map_cons, List.filterMap_cons]
  cases a.taken <;> rfl

theorem readIn_cons (a : ClientAction Message) (s : ClientState)
    (tr : List (ClientAction Message × ClientState)) :
    readIn fromSlice ((a, s) :: tr) = (a.read fromSlice).toList ++ readIn fromSlice tr := by
  unfold readIn
  rw [List.map_cons, List.filterMap_cons]
  cases a.read fromSlice <;> rfl

/-- The state after a run. -/
theorem followed_of_run {state : ControlPlaneState} {s : ClientState}
    {tr : List (ClientAction Message × ClientState)} (hrun : (client fromSlice state).Run s tr) :
    (System.finalState s tr).state =
      ⟨s.state.config.applyAll (takenIn tr), s.state.history.pushAll (takenIn tr)⟩ := by
  rw [hrun.foldl_labels ClientState.state (fun state a => state.follow a.taken)
    fun s a s' hstep => (ClientStep.spec hstep).1]
  have hfold := foldl_follow s.state ((tr.map Prod.fst).map ClientAction.taken)
  rw [List.foldl_map, List.filterMap_map] at hfold
  exact hfold

/-- The panic of a run, from any state. -/
theorem panicked_of_run {state : ControlPlaneState} {s : ClientState}
    {tr : List (ClientAction Message × ClientState)} (hrun : (client fromSlice state).Run s tr) :
    (System.finalState s tr).stage = .panicked ↔
      s.stage = .panicked ∨ ∃ m ∈ takenIn tr, m.IsAck := by
  induction hrun with
  | nil s => simp [takenIn]
  | @cons s s' a tr hstep _ ih =>
    rw [System.finalState_cons, ih, (ClientStep.spec hstep).2.1, takenIn_cons]
    cases a.taken with
    | none => simp
    | some m => simp [or_assoc]

/-- **Messages are taken in in the order they are read**, but for what waits in the end. -/
theorem read_of_run {state : ControlPlaneState} {s : ClientState}
    {tr : List (ClientAction Message × ClientState)} (hrun : (client fromSlice state).Run s tr) :
    s.stage.unwritten.toList ++ readIn fromSlice tr =
      takenIn tr ++ (System.finalState s tr).stage.unwritten.toList := by
  induction hrun with
  | nil s => exact List.append_nil _
  | @cons s s' a tr hstep _ ih =>
    rw [System.finalState_cons, readIn_cons, takenIn_cons, ← List.append_assoc,
      (ClientStep.spec hstep).2.2, List.append_assoc, ih, List.append_assoc]

/-- **The state follows the messages that are read.** In every run, however often the connection is
lost and made again: the messages that were taken in are the ones that were read, in their order,
but for one that waits for the lock or was lost there when the token was triggered; the
configuration is what their updates make of the first one; the history is the end of them; and the
task has panicked if and only if one of them is an acknowledgement. -/
theorem state_of_run {state : ControlPlaneState} {tr : List (ClientAction Message × ClientState)}
    (hrun : (client fromSlice state).Run (client fromSlice state).init tr) :
    let s := System.finalState (client fromSlice state).init tr
    readIn fromSlice tr = takenIn tr ++ s.stage.unwritten.toList ∧
      s.state.config =
        ((takenIn tr).filterMap MessageTypeRX.update?).foldl Config.apply state.config ∧
      s.state.history.entries = (state.history.entries ++ takenIn tr).rtake maxHistorySize ∧
      (s.stage = .panicked ↔ ∃ ack, MessageTypeRX.ack ack ∈ takenIn tr) := by
  dsimp only
  refine ⟨read_of_run hrun, ?_⟩
  rw [followed_of_run hrun, panicked_of_run hrun, BoundedLog.entries_pushAll]
  refine ⟨rfl, rfl, ?_⟩
  have hreading : (client fromSlice state).init.stage ≠ .panicked := nofun
  -- the task starts alive, so a message has stopped it
  rw [or_iff_right hreading]
  constructor
  · rintro ⟨m, hm, hack⟩
    cases m with
    | ack ack => exact ⟨ack, hm⟩
    | update u => exact hack.elim
    | error e => exact hack.elim
  · rintro ⟨ack, hm⟩
    exact ⟨_, hm, trivial⟩

end Following

/-- Keys are read, the connection is lost and made again, and then the answer to a heartbeat is
read. -/
theorem state_of_run_heartbeat :
    ∃ tr : List (ClientAction MessageTypeRX × ClientState), tr.length = 7 ∧
      (System.finalState (client some .new).init tr).state.config.keys = [⟨"", ""⟩] ∧
      (System.finalState (client some .new).init tr).stage = .panicked := by
  have hrun : (client some .new).Run (client some .new).init _ :=
    .cons (.next _ (some (.ok (.update (.keys [⟨"", ""⟩])))) rfl) <|
    .cons (.write _ _ rfl) <|
    .cons (.next _ (some (.error .alreadyClosed)) rfl) <|
    .cons (.connect _ false false rfl) <|
    .cons (.connect _ false true rfl) <|
    .cons (.next _ (some (.ok (.ack (.heartbeat .success)))) rfl) <|
    .cons (.write _ _ rfl) <|
    .nil _
  obtain ⟨-, hconfig, -, hpanicked⟩ := state_of_run hrun
  exact ⟨_, rfl, congrArg Config.keys hconfig,
    hpanicked.mpr ⟨.heartbeat .success, List.mem_cons_of_mem _ List.mem_cons_self⟩⟩

/-! ### The keys that count -/

/-- The list of keys that a message brings. -/
def MessageTypeRX.keys? : MessageTypeRX → Option (List Key)
  | .update (.keys data) => some data
  | .update (.config data) => some data.keys
  | _ => none

/-- The organization that a message brings. -/
def MessageTypeRX.organizationId? : MessageTypeRX → Option String
  | .update (.authData data) => some data.organizationId
  | .update (.config data) => some data.auth.organizationId
  | _ => none

/-- What the last of some messages that brings anything brings, or else what was there. -/
def lastOf {α : Type} (brings : MessageTypeRX → Option α) (before : α)
    (ms : List MessageTypeRX) : α := (ms.filterMap brings).getLast?.getD before

theorem lastOf_cons {α : Type} (brings : MessageTypeRX → Option α) (before : α)
    (m : MessageTypeRX) (ms : List MessageTypeRX) :
    lastOf brings before (m :: ms) = lastOf brings ((brings m).getD before) ms := by
  unfold lastOf
  cases hm : brings m with
  | none =>
    rw [List.filterMap_cons_none hm]
    rfl
  | some a =>
    rw [List.filterMap_cons_some hm, List.getLast?_cons, Option.getD_some, Option.getD_some]

/-- The keys are the last ones that were sent. -/
theorem keys_applyAll (config : Config) (ms : List MessageTypeRX) :
    (config.applyAll ms).keys = lastOf MessageTypeRX.keys? config.keys ms := by
  induction ms generalizing config with
  | nil => rfl
  | cons m ms ih =>
    rw [applyAll_cons, ih, lastOf_cons]
    congr 1
    cases m with
    | update u => cases u <;> rfl
    | ack ack => rfl
    | error e => rfl

/-- So is the organization. -/
theorem organizationId_applyAll (config : Config) (ms : List MessageTypeRX) :
    (config.applyAll ms).auth.organizationId =
      lastOf MessageTypeRX.organizationId? config.auth.organizationId ms := by
  induction ms generalizing config with
  | nil => rfl
  | cons m ms ih =>
    rw [applyAll_cons, ih, lastOf_cons]
    congr 1
    cases m with
    | update u => cases u <;> rfl
    | ack ack => rfl
    | error e => rfl

section Requests

variable {Message : Type} {fromSlice : Message → Option MessageTypeRX} {sha256 : Bytes → Bytes}
  {parseUuid : String → Option String} {features : HeliconeFeatures} {headers : HeaderMap}

/-- **The last list of keys decides.** After any run, a request passes if and only if the hash of
its key is in the last list that was taken in, the owner in the first entry of this hash is a UUID,
and so is the organization that was taken in last; it then passes as that owner. -/
theorem passes_of_run_iff (henabled : features.isAuthEnabled = true) {state : ControlPlaneState}
    {tr : List (ClientAction Message × ClientState)}
    (hrun : (client fromSlice state).Run (client fromSlice state).init tr) (ctx : AuthContext) :
    Passes sha256 parseUuid features
        (System.finalState (client fromSlice state).init tr).state.config headers ctx ↔
      ∃ apiKey, apiKeyOf headers = some apiKey ∧
        (∃ key, (lastOf MessageTypeRX.keys? state.config.keys (takenIn tr)).find?
            (fun k => k.keyHash = hashKey sha256 (Text.remove bearer apiKey)) = some key ∧
          parseUuid key.ownerId = some ctx.userId) ∧
        parseUuid (lastOf MessageTypeRX.organizationId? state.config.auth.organizationId
          (takenIn tr)) = some ctx.orgId ∧
        ctx.apiKey = String.ofList (Text.remove bearer apiKey) := by
  -- the state is what the messages taken in make of the first one
  rw [followed_of_run hrun]
  have hkeys := keys_applyAll state.config (takenIn tr)
  have horg := organizationId_applyAll state.config (takenIn tr)
  rw [← hkeys, ← horg]
  constructor
  · intro h
    obtain ⟨apiKey, ctx', hkey, heq, hinner⟩ := (authorize_eq_ok_iff henabled).mp (h ⟨0, 0⟩)
    obtain rfl := Option.some.inj heq
    exact ⟨apiKey, hkey, authenticateRequestInner_eq_ok_iff.mp hinner⟩
  · rintro ⟨apiKey, hkey, hinner⟩ metrics
    exact (authorize_eq_ok_iff henabled).mpr
      ⟨apiKey, ctx, hkey, rfl, authenticateRequestInner_eq_ok_iff.mpr hinner⟩

end Requests

/-- **A key is revoked.** An empty list of keys is read after a reconnection. -/
theorem passes_of_run_iff_revoked :
    ∃ tr : List (ClientAction MessageTypeRX × ClientState), tr.length = 5 ∧
      ¬ ∃ ctx, Passes testSha256 testParseUuid .auth (System.finalState
        (client some ⟨testConfig, ⟨[], Nat.zero_le _⟩⟩).init tr).state.config testHeaders ctx := by
  obtain ⟨tr, hlength, htaken, hrun⟩ : ∃ tr : List (ClientAction MessageTypeRX × ClientState),
      tr.length = 5 ∧ takenIn tr = [.update (.keys [])] ∧
        (client some ⟨testConfig, ⟨[], Nat.zero_le _⟩⟩).Run
          (client some ⟨testConfig, ⟨[], Nat.zero_le _⟩⟩).init tr :=
    ⟨_, rfl, rfl,
      .cons (.next _ none rfl) <|
      .cons (.connect _ true true rfl) <|
      .cons (.wake _ rfl) <|
      .cons (.next _ (some (.ok (.update (.keys [])))) rfl) <|
      .cons (.write _ _ rfl) <|
      .nil _⟩
  refine ⟨tr, hlength, ?_⟩
  rintro ⟨ctx, hpasses⟩
  obtain ⟨apiKey, -, ⟨key, hfound, -⟩, -⟩ := (passes_of_run_iff rfl hrun ctx).mp hpasses
  rw [htaken] at hfound
  cases hfound

end AiGateway.ControlPlane
