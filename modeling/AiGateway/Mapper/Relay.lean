import AiGateway.Dispatcher.Stream
import AiGateway.Framework.Bytes
import AiGateway.Mapper.Response

/-!
# Relaying an event stream

A streamed response on its way to the client: the task of `sse_stream` has the event source
send the request, and forwards the events of the provider to a channel; the body of the
dispatcher reads that channel, and hands a copy of what it reads to the body the request logger
reads (`wrap_stream` of `types/body.rs`); and the mapper converts each frame of the body on its
way out. The three of them take their steps in any order.

* `RelayInv`: nothing is lost on the way, and nothing overtakes anything else;
* `client_of_finished`: when all is done, the client has the body that `mapResponse` makes
  of the items of `sseStream`;
* `relay_exact`: the bytes of a stream of messages, for the client and for the logger.
-/

namespace AiGateway

open Transition

namespace ErrorBody

/-! ### The code -/

/-- `BodyReader::poll_frame`: a frame of the body the request logger reads. -/
def BodyReader.pollFrame (appendNewlines : Bool) (bytes : Bytes) : Bytes :=
  if appendNewlines then sseData "data: " ++ bytes ++ sseData "\n\n" else bytes

/-- What `wrap_stream` hands to the reader of the logger when an item is read. -/
def tee : Except EventSourceError Bytes → List Bytes
  | .ok bytes => [bytes]
  | .error _ => []

/-- A streamed response under way. -/
structure Relay where
  /-- The items the event source has not yielded yet. -/
  events : List SseItem
  /-- `sse_stream` and the task it spawns. -/
  task : SseTask
  /-- The channel of `sse_stream`. -/
  channel : List (Except EventSourceError Bytes)
  /-- The channel of `wrap_stream`. -/
  forLogger : List Bytes
  /-- The frames of the body the client has received. -/
  client : List (Except MapError Bytes)
  /-- The frames the logger has read. -/
  logged : List Bytes

/-- What a step of a relay is about. -/
inductive RelayAction
  | send
  | poll
  | read
  | log

variable (lib : Libraries) (converter : BodyConverter) (target : ApiEndpoint)

/-- What the client is sent of an item: the conversion of its frame, if there is one. -/
def relayItem (item : Except EventSourceError Bytes) : Option (Except MapError Bytes) :=
  mapFrame lib converter target .ok item.toOption

/-- **The steps of a relay.** -/
inductive RelayStep : Relay → RelayAction → Relay → Prop
  /-- The task polls the event source, which sends the request. -/
  | send (s : Relay) (task : SseTask) : SseStep s.task .send task →
      RelayStep s .send { s with task := task }
  /-- The task polls the event source, and sends what there is to be sent. -/
  | poll (s : Relay) (task : SseTask) (sent : List (Except EventSourceError Bytes)) :
      SseStep s.task (.read ⟨s.events.head?, false⟩) task → task.out = s.task.out ++ sent →
      RelayStep s .poll
        { s with events := s.events.tail, task := task, channel := s.channel ++ sent }
  /-- The body is polled: an item is received, copied and converted. -/
  | read (s : Relay) (item : Except EventSourceError Bytes)
      (channel : List (Except EventSourceError Bytes)) : s.channel = item :: channel →
      RelayStep s .read
        { s with
          channel := channel
          forLogger := s.forLogger ++ tee item
          client := s.client ++ (relayItem lib converter target item).toList }
  /-- The logger polls its body. The dispatcher has it append newlines. -/
  | log (s : Relay) (bytes : Bytes) (forLogger : List Bytes) : s.forLogger = bytes :: forLogger →
      RelayStep s .log
        { s with
          forLogger := forLogger, logged := s.logged ++ [BodyReader.pollFrame true bytes] }

/-- The relay of a response whose event source yields `events`. -/
def relay (events : List SseItem) : System Relay RelayAction where
  init := ⟨events, sseTask.init, [], [], [], []⟩
  step := RelayStep lib converter target

/-! ### Nothing is lost -/

/-- The items that are still to be sent to the channel. -/
def Relay.toSend (s : Relay) : List (Except EventSourceError Bytes) :=
  match s.task.stage with
  | .starting => (sseStream s.events).toOption.getD []
  | .forwarding => forwardEvents s.events
  | _ => []

/-- **Where the items are**: some have been read, the next ones are in the channel, and the others
are still to be sent. The client and the logger have of those that were read what is theirs, and
the last of these may still be on their way to the logger. -/
def RelayInv (items : List (Except EventSourceError Bytes)) (s : Relay) : Prop :=
  (s.task.stage = .starting → s.task.out = [] ∧ sseStream s.events = .ok items) ∧
    ∃ taken, items = taken ++ s.channel ++ s.toSend ∧
      s.client = taken.filterMap (relayItem lib converter target) ∧
      (taken.flatMap tee).map (BodyReader.pollFrame true) =
        s.logged ++ s.forLogger.map (BodyReader.pollFrame true)

variable {lib converter target}

theorem relayInv_init {events : List SseItem} {items : List (Except EventSourceError Bytes)}
    (h : sseStream events = .ok items) :
    RelayInv lib converter target items (relay lib converter target events).init := by
  refine ⟨fun _ => ⟨rfl, h⟩, [], ?_, rfl, rfl⟩
  show items = (sseStream events).toOption.getD []
  rw [h]
  rfl

/-- The first item of a source that starts without an error. -/
theorem startWith_sends {events : List SseItem} {items : List (Except EventSourceError Bytes)}
    (h : sseStream events = .ok items) (source : EventSource) :
    (startWith source events.head?).stage = .forwarding ∧
      items = (startWith source events.head?).out ++ forwardEvents events.tail := by
  cases events with
  | nil => exact ⟨rfl, (Except.ok.inj h).symm⟩
  | cons item rest =>
    cases item with
    | error e => cases h
    | ok event =>
      cases event with
      | opened => exact ⟨rfl, (Except.ok.inj h).symm⟩
      | message data =>
        -- a message that comes before the stream is open is sent as well
        refine ⟨rfl, (Except.ok.inj h).symm.trans ?_⟩
        show _ = (if data = "[DONE]" then [] else [.ok (sseData data)]) ++ forwardEvents rest
        split
        · rfl
        · rfl

/-- The task polls: what it sends was the next to be sent. -/
theorem Relay.toSend_poll {s : Relay} {task : SseTask}
    {sent items : List (Except EventSourceError Bytes)}
    (hstart : s.task.stage = .starting → s.task.out = [] ∧ sseStream s.events = .ok items)
    (hstep : SseStep s.task (.read ⟨s.events.head?, false⟩) task)
    (hout : task.out = s.task.out ++ sent) (channel : List (Except EventSourceError Bytes)) :
    task.stage ≠ .starting ∧
      s.toSend = sent ++ ({ s with events := s.events.tail, task := task, channel := channel } :
        Relay).toSend := by
  cases hstep with
  | start _ source hstage hpoll =>
    -- nothing has been sent yet, and the first item decides what `sseStream` does with the others
    obtain ⟨hempty, hstream⟩ := hstart hstage
    obtain ⟨hforwarding, hitems⟩ := startWith_sends hstream source
    rw [hempty, List.nil_append] at hout
    refine ⟨by rw [hforwarding]; simp, ?_⟩
    simp only [Relay.toSend, hstage, hforwarding, hstream, ← hout]
    exact hitems
  | forward _ source hstage hpoll =>
    -- one item is forwarded, which may be the last one
    obtain ⟨sent', hout', hcases⟩ := forwardItem_out s.task.out source s.events.head?
    obtain rfl : sent' = sent := List.append_cancel_left (hout'.symm.trans hout)
    have hsplit : s.events.head?.toList ++ s.events.tail = s.events := by
      cases s.events with
      | nil => rfl
      | cons item rest => rfl
    rcases hcases with ⟨hforwarding, hforward⟩ | ⟨hended, hforward⟩
    · -- the task goes on with the other items
      refine ⟨by rw [hforwarding]; simp, ?_⟩
      simp only [Relay.toSend, hstage, hforwarding, ← hforward, hsplit]
    · -- the task ends, and what is left of the source would not be sent
      refine ⟨by rw [hended]; simp, ?_⟩
      have hnone : s.events.head? = none → s.events.tail = [] := by
        intro hhead
        rw [List.head?_eq_none_iff.mp hhead]
        rfl
      have hall := hforward s.events.tail hnone
      rw [hsplit] at hall
      simp only [Relay.toSend, hstage, hended, List.append_nil]
      exact hall

/-- **One step** loses nothing. -/
theorem RelayInv.step {items : List (Except EventSourceError Bytes)} {s s' : Relay}
    {a : RelayAction} (h : RelayInv lib converter target items s)
    (hstep : RelayStep lib converter target s a s') : RelayInv lib converter target items s' := by
  obtain ⟨hstart, taken, hitems, hclient, hlogged⟩ := h
  cases hstep with
  | send task htask =>
    -- the request is none of the items
    cases htask with
    | send hpolls hidle => exact ⟨hstart, taken, hitems, hclient, hlogged⟩
  | poll task sent htask hout =>
    obtain ⟨hstage, hsend⟩ := Relay.toSend_poll hstart htask hout (s.channel ++ sent)
    -- what is sent moves from the source into the channel
    refine ⟨fun heq => absurd heq hstage, taken, ?_, hclient, hlogged⟩
    rw [hitems, hsend]
    simp only [List.append_assoc]
  | read item channel hchannel =>
    -- the first item of the channel is taken, its copy waits for the logger
    refine ⟨hstart, taken ++ [item], ?_, ?_, ?_⟩
    · rw [hitems, hchannel, List.append_assoc taken, List.append_assoc taken,
        List.append_assoc taken]
      rfl
    · rw [List.filterMap_append, ← hclient, List.filterMap_cons, List.filterMap_nil]
      cases relayItem lib converter target item with
      | none => rfl
      | some frame => rfl
    · rw [List.flatMap_append, List.map_append, hlogged, List.flatMap_singleton, List.map_append,
        List.append_assoc]
  | log bytes forLogger hforLogger =>
    -- the copy was counted when its item was taken
    refine ⟨hstart, taken, hitems, hclient, ?_⟩
    rw [hlogged, hforLogger, List.map_cons, List.append_assoc]
    rfl

/-- In every state, what was read is the first part of the items. -/
theorem relayInv_of_run {events : List SseItem} {items : List (Except EventSourceError Bytes)}
    (h : sseStream events = .ok items) {tr : List (RelayAction × Relay)}
    (hrun : (relay lib converter target events).Run (relay lib converter target events).init tr) :
    System.AllStates (RelayInv lib converter target items)
      (relay lib converter target events).init tr :=
  hrun.invariant (fun _ _ _ hs hstep => hs.step hstep) (relayInv_init h)

/-- All is done: the task has ended, and the channels are empty. -/
def Relay.Finished (s : Relay) : Prop :=
  s.task.stage = .ended ∧ s.channel = [] ∧ s.forLogger = []

/-- What is left when all is done. -/
theorem RelayInv.of_finished {items : List (Except EventSourceError Bytes)} {s : Relay}
    (h : RelayInv lib converter target items s) (hdone : s.Finished) :
    s.client = items.filterMap (relayItem lib converter target) ∧
      s.logged = (items.flatMap tee).map (BodyReader.pollFrame true) := by
  obtain ⟨-, taken, hitems, hclient, hlogged⟩ := h
  obtain ⟨hstage, hchannel, hforLogger⟩ := hdone
  have hsend : s.toSend = [] := by simp only [Relay.toSend, hstage]
  rw [hchannel, hsend, List.append_nil, List.append_nil] at hitems
  rw [hforLogger, List.map_nil, List.append_nil] at hlogged
  rw [hitems]
  exact ⟨hclient, hlogged.symm⟩

/-- **The relay is `mapResponse`.** When all is done, the client has received the body that
`mapResponse` makes of the items of `sseStream`. -/
theorem client_of_finished {events : List SseItem} {items : List (Except EventSourceError Bytes)}
    (h : sseStream events = .ok items) {tr : List (RelayAction × Relay)}
    (hrun : (relay lib converter target events).Run (relay lib converter target events).init tr)
    (hdone : (System.finalState (relay lib converter target events).init tr).Finished) :
    mapResponse lib converter target true ⟨.ok, none, .recorded items⟩ =
      .ok ⟨.ok, (System.finalState (relay lib converter target events).init tr).client⟩ := by
  have hinv := (relayInv_of_run h hrun).finalState
  rw [(hinv.of_finished hdone).1]
  unfold mapResponse
  rw [if_pos rfl]
  simp only [UserBody.frames, List.filterMap_map]
  rfl

/-! ### A stream of messages -/

/-- The messages, and the end. -/
def messageItems (messages : List String) (ending : SseItem) : List SseItem :=
  messages.map (fun m => .ok (.message m)) ++ [ending]

/-- What an event source yields of a stream of messages that goes well. -/
def messageStream (messages : List String) (ending : SseItem) : List SseItem :=
  .ok .opened :: messageItems messages ending

/-- A stream ends with a message, or with the end of the response. -/
def IsEnding (ending : SseItem) : Prop :=
  ending = .ok (.message "[DONE]") ∨ ending = .error .streamEnded

/-- The messages are sent, and nothing else. -/
theorem forwardEvents_messages {ending : SseItem} (hending : IsEnding ending)
    {messages : List String} (hdone : "[DONE]" ∉ messages) :
    forwardEvents (messageItems messages ending) = messages.map fun m => .ok (sseData m) := by
  induction messages with
  | nil =>
    rcases hending with rfl | rfl
    · rfl
    · rfl
  | cons m messages ih =>
    obtain ⟨hne, hdone⟩ := List.ne_and_not_mem_of_not_mem_cons hdone
    show (if m = "[DONE]" then []
      else .ok (sseData m) :: forwardEvents (messageItems messages ending)) = _
    rw [if_neg (Ne.symm hne), ih hdone]
    rfl

theorem sseStream_messageStream {ending : SseItem} (hending : IsEnding ending)
    {messages : List String} (hdone : "[DONE]" ∉ messages) :
    sseStream (messageStream messages ending) = .ok (messages.map fun m => .ok (sseData m)) :=
  congrArg Except.ok (forwardEvents_messages hending hdone)

/-- Where the task stands in such a stream. -/
inductive Underway (ending : SseItem) : List SseItem → SseTask → Prop
  | starting (messages : List String) : "[DONE]" ∉ messages →
      Underway ending (messageStream messages ending) sseTask.init
  | awaiting (messages : List String) : "[DONE]" ∉ messages →
      Underway ending (messageStream messages ending) ⟨EventSource.new.send, .starting, []⟩
  | forwarding (messages : List String) (source : EventSource)
      (out : List (Except EventSourceError Bytes)) : "[DONE]" ∉ messages →
      source.isClosed = false → source.connection = .opened →
      Underway ending (messageItems messages ending) ⟨source, .forwarding, out⟩
  | ended (source : EventSource) (out : List (Except EventSourceError Bytes)) :
      Underway ending [] ⟨source, .ended, out⟩

/-- The request is sent once, at the start. -/
theorem Underway.send {ending : SseItem} {events : List SseItem} {task task' : SseTask}
    (h : Underway ending events task) (hstep : SseStep task .send task') :
    Underway ending events task' ∧ task.source.sent = 0 ∧ task'.source.sent = 1 := by
  cases hstep with
  | send hpolls hidle =>
    cases h with
    | starting messages hdone => exact ⟨.awaiting messages hdone, rfl, rfl⟩
    | awaiting messages hdone => exact absurd hidle (EventSource.not_isIdle_send _)
    | forwarding messages source out hdone hclosed hopened => cases hopened.symm.trans hidle.2
    | ended source out => exact absurd hpolls (not_polls_of_ended rfl)

/-- An item of the task: it is used up, and at most one is sent. -/
theorem Underway.step {ending : SseItem} (hending : IsEnding ending) {events : List SseItem}
    {task task' : SseTask} (h : Underway ending events task)
    (hstep : SseStep task (.read ⟨events.head?, false⟩) task') :
    Underway ending events.tail task' ∧ events ≠ [] ∧
      task'.out.length ≤ task.out.length + 1 := by
  cases h with
  | starting messages hdone =>
    -- the source has not been polled yet, so nothing can be read from it
    cases hstep with
    | start _ source hstage hpoll => cases (hpoll.of_isIdle ⟨rfl, rfl⟩).1
    | forward _ source hstage hpoll => cases hstage
  | awaiting messages hdone =>
    cases hstep with
    | start _ source hstage hpoll =>
      cases hpoll with
      | opened hclosed hawaiting =>
        exact ⟨.forwarding messages _ [] hdone rfl rfl, by simp [messageStream], Nat.zero_le _⟩
    | forward _ source hstage hpoll => cases hstage
  | forwarding messages source out hdone hclosed hopened =>
    cases hstep with
    | start _ source' hstage hpoll => cases hstage
    | forward _ source' hstage hpoll =>
      cases messages with
      | nil =>
        -- both endings close the source
        rcases hending with rfl | rfl
        · exact ⟨.ended _ out, by simp [messageItems], Nat.le_succ _⟩
        · exact ⟨.ended _ out, by simp [messageItems], Nat.le_succ _⟩
      | cons m messages =>
        -- a message that is not `[DONE]` is framed and sent
        obtain ⟨hne, hdone⟩ := List.ne_and_not_mem_of_not_mem_cons hdone
        have hitem : forwardItem out source' false (some (.ok (.message m))) =
            ⟨source', .forwarding, out ++ [.ok (sseData m)]⟩ := by
          simp only [forwardItem, if_neg (Ne.symm hne)]
          rfl
        show Underway ending (messageItems messages ending)
          (forwardItem out source' false (some (.ok (.message m)))) ∧ _ ∧
          (forwardItem out source' false (some (.ok (.message m)))).out.length ≤ out.length + 1
        rw [hitem]
        refine ⟨?_, by simp [messageItems], by rw [List.length_append, List.length_singleton]⟩
        cases hpoll with
        | message data hclosed' hopened' => exact .forwarding messages _ _ hdone hclosed hopened
  | ended source out =>
    cases hstep with
    | start _ source' hstage hpoll => cases hstage
    | forward _ source' hstage hpoll => cases hstage

/-- A task that has not ended can be polled. -/
theorem Underway.exists_step {ending : SseItem} (hending : IsEnding ending) {events : List SseItem}
    {task : SseTask} (h : Underway ending events task) (hne : task.stage ≠ .ended) :
    (∃ task', SseStep task .send task') ∨
      ∃ task' sent, SseStep task (.read ⟨events.head?, false⟩) task' ∧
        task'.out = task.out ++ sent := by
  cases h with
  | starting messages hdone => exact Or.inl ⟨_, .send _ (Or.inl rfl) ⟨rfl, rfl⟩⟩
  | awaiting messages hdone => exact Or.inr ⟨_, [], .start _ _ _ rfl (.opened _ rfl rfl), rfl⟩
  | forwarding messages source out hdone hclosed hopened =>
    obtain ⟨source', hpoll⟩ : ∃ source',
        source.Poll (messageItems messages ending).head? source' := by
      cases messages with
      | nil =>
        rcases hending with rfl | rfl
        · exact ⟨_, .message source "[DONE]" hclosed hopened⟩
        · exact ⟨_, .broken source .streamEnded hclosed hopened (Or.inr (Or.inr (Or.inr rfl)))⟩
      | cons m messages => exact ⟨_, .message source m hclosed hopened⟩
    obtain ⟨sent, hout, -⟩ := forwardItem_out out source' (messageItems messages ending).head?
    exact Or.inr ⟨_, sent, .forward _ _ source' rfl hpoll, hout⟩
  | ended source out => exact absurd rfl hne

/-- What is left to be done, in steps: the request is to be sent, and an item of the source counts
for three, since it may come up again in each of the channels. -/
def Relay.todo (s : Relay) : ℕ :=
  1 - s.task.source.sent + 3 * s.events.length + 2 * s.channel.length + s.forLogger.length

/-- Every step of such a relay does some of it. -/
theorem Underway.relayStep {ending : SseItem} (hending : IsEnding ending) {s s' : Relay}
    {a : RelayAction} (h : Underway ending s.events s.task)
    (hstep : RelayStep lib converter target s a s') :
    Underway ending s'.events s'.task ∧ s'.todo < s.todo := by
  cases hstep with
  | send task htask =>
    obtain ⟨hunderway, hzero, hone⟩ := h.send htask
    refine ⟨hunderway, ?_⟩
    simp only [Relay.todo, hzero, hone]
    omega
  | poll task sent htask hout =>
    obtain ⟨hunderway, hne, hlength⟩ := h.step hending htask
    -- a poll takes an event away and sends at most one item, which counts for less
    have hsent := htask.sent_eq
    have hevents : s.events.tail.length + 1 = s.events.length := by
      rw [List.length_tail]
      exact Nat.sub_add_cancel (List.length_pos_iff.mpr hne)
    rw [hout, List.length_append] at hlength
    refine ⟨hunderway, ?_⟩
    simp only [Relay.todo, List.length_append, hsent]
    omega
  | read item channel hchannel =>
    -- the item goes to the client, and at most one copy to the logger
    have htee : (tee item).length ≤ 1 := by
      cases item with
      | ok bytes => exact le_rfl
      | error e => exact Nat.zero_le 1
    refine ⟨h, ?_⟩
    simp only [Relay.todo, hchannel, List.length_append, List.length_cons]
    omega
  | log bytes forLogger hforLogger =>
    refine ⟨h, ?_⟩
    simp only [Relay.todo, hforLogger, List.length_cons]
    omega

/-- Where nothing can be done any more, all is done. -/
theorem Underway.finished {ending : SseItem} (hending : IsEnding ending) {s : Relay}
    (h : Underway ending s.events s.task)
    (hstuck : ¬ ∃ a s', RelayStep lib converter target s a s') : s.Finished := by
  refine ⟨?_, ?_, ?_⟩
  · by_contra hne
    rcases h.exists_step hending hne with ⟨task, htask⟩ | ⟨task, sent, htask, hout⟩
    · exact hstuck ⟨_, _, .send s task htask⟩
    · exact hstuck ⟨_, _, .poll s task sent htask hout⟩
  · cases hchannel : s.channel with
    | nil => rfl
    | cons item channel => exact absurd ⟨_, _, .read s item channel hchannel⟩ hstuck
  · cases hforLogger : s.forLogger with
    | nil => rfl
    | cons bytes forLogger => exact absurd ⟨_, _, .log s bytes forLogger hforLogger⟩ hstuck

/-! ### The bytes -/

/-- The bytes of a body; there are none if it breaks off with an error. -/
def bodyBytes (items : List (Except MapError Bytes)) : Option Bytes :=
  (items.mapM Except.toOption).map List.flatten

/-- An event on the wire: the ASCII of `data: `, the data, and two newlines. -/
def eventBytes (data : Bytes) : Bytes := [100, 97, 116, 97, 58, 32] ++ data ++ [10, 10]

/-- What the client is to receive: an event for each message that is converted to something. -/
def clientBytes (c : String → Option Bytes) (messages : List String) : Bytes :=
  (messages.filterMap c).flatMap eventBytes

/-- What the logger is to read: an event for each message, which is in UTF-8. -/
def loggerBytes (messages : List String) : Bytes :=
  messages.flatMap fun m => eventBytes m.toUTF8.toList

/-- The frames of the mapper are such events. -/
theorem sseFrame_eq (data : Bytes) : sseFrame data = eventBytes data := by
  have hdata : sseData "data: " = [100, 97, 116, 97, 58, 32] :=
    Text.toUTF8_toList ['d', 'a', 't', 'a', ':', ' ']
  have hend : sseData "\n\n" = [10, 10] := Text.toUTF8_toList ['\n', '\n']
  unfold sseFrame eventBytes
  rw [hdata, hend]

/-- So are those of the logger. -/
theorem pollFrame_eq (data : Bytes) : BodyReader.pollFrame true data = eventBytes data :=
  sseFrame_eq data

theorem bodyBytes_map_ok (frames : List Bytes) :
    bodyBytes (frames.map Except.ok) = some frames.flatten := by
  have hall : (frames.map (Except.ok : Bytes → Except MapError Bytes)).mapM Except.toOption =
      some frames := by
    induction frames with
    | nil => rfl
    | cons frame frames ih =>
      rw [List.map_cons, List.mapM_cons, ih]
      rfl
  unfold bodyBytes
  rw [hall]
  rfl

/-- The bytes that the messages which have been read are converted to. -/
theorem bodyBytes_relayItem {c : String → Option Bytes} {messages : List String}
    (hconvert : ∀ m ∈ messages, converter.chunk m.toUTF8.toList = .ok (c m)) :
    bodyBytes ((messages.map fun m => .ok (sseData m)).filterMap
      (relayItem lib converter target)) = some (clientBytes c messages) := by
  have hframes : (messages.map fun m => .ok (sseData m)).filterMap
      (relayItem lib converter target) = ((messages.filterMap c).map eventBytes).map
        Except.ok := by
    rw [List.filterMap_map, List.map_map, List.map_filterMap]
    refine List.filterMap_congr ?_
    intro m hm
    have hchunk : convertRespBody lib converter target .ok (sseData m) true = .ok (c m) :=
      hconvert m hm
    show mapFrame lib converter target .ok (some (sseData m)) = _
    simp only [mapFrame, hchunk]
    cases c m with
    | none => rfl
    | some bytes =>
      show some (Except.ok (sseFrame bytes)) = some (Except.ok (eventBytes bytes))
      rw [sseFrame_eq]
  rw [hframes, bodyBytes_map_ok]
  rfl

theorem flatten_tee (messages : List String) :
    (((messages.map fun m => .ok (sseData m)).flatMap tee).map
      (BodyReader.pollFrame true)).flatten = loggerBytes messages := by
  rw [List.flatMap_map, List.map_flatMap]
  show (messages.flatMap fun m => [BodyReader.pollFrame true (sseData m)]).flatten = _
  rw [← List.map_eq_flatMap, ← List.flatMap_def]
  exact List.flatMap_congr fun m _ => pollFrame_eq (sseData m)

/-- What was read of the messages so far is what the first of them give. -/
theorem RelayInv.exists_prefix {c : String → Option Bytes} {messages : List String} {s : Relay}
    (h : RelayInv lib converter target (messages.map fun m => .ok (sseData m)) s)
    (hconvert : ∀ m ∈ messages, converter.chunk m.toUTF8.toList = .ok (c m)) :
    ∃ bytes, bodyBytes s.client = some bytes ∧ bytes <+: clientBytes c messages ∧
      s.logged.flatten <+: loggerBytes messages := by
  obtain ⟨-, taken, hitems, hclient, hlogged⟩ := h
  rw [List.append_assoc] at hitems
  -- the messages of the items that were taken
  obtain ⟨first, others, rfl, rfl, -⟩ := List.map_eq_append_iff.mp hitems
  have hfirst : ∀ m ∈ first, converter.chunk m.toUTF8.toList = .ok (c m) :=
    fun m hm => hconvert m (List.mem_append_left others hm)
  refine ⟨clientBytes c first, ?_, ?_, ?_⟩
  · rw [hclient]
    exact bodyBytes_relayItem hfirst
  · unfold clientBytes
    rw [List.filterMap_append, List.flatMap_append]
    exact List.prefix_append _ _
  · have hread : loggerBytes first = s.logged.flatten ++
        (s.forLogger.map (BodyReader.pollFrame true)).flatten := by
      rw [← flatten_tee, hlogged, List.flatten_append]
    have hall : loggerBytes (first ++ others) = loggerBytes first ++ loggerBytes others :=
      List.flatMap_append
    rw [hall, hread, List.append_assoc]
    exact List.prefix_append _ _

/-- **An event stream passes through the gateway.** The event source opens, yields messages, and
ends; none of the messages fails to be converted. Then in every state of the relay, in
whatever order its parts take their steps, the client has received the first bytes of the
conversions and the logger those of the messages; there are only so many steps; and
where nothing can be done any more, both have all the bytes. -/
theorem relay_exact (lib : Libraries) (converter : BodyConverter) (target : ApiEndpoint)
    {messages : List String} (hdone : "[DONE]" ∉ messages) {ending : SseItem}
    (hending : IsEnding ending) {c : String → Option Bytes}
    (hconvert : ∀ m ∈ messages, converter.chunk m.toUTF8.toList = .ok (c m))
    {tr : List (RelayAction × Relay)}
    (hrun : (relay lib converter target (messageStream messages ending)).Run
      (relay lib converter target (messageStream messages ending)).init tr) :
    System.AllStates
        (fun s => ∃ bytes, bodyBytes s.client = some bytes ∧ bytes <+: clientBytes c messages ∧
          s.logged.flatten <+: loggerBytes messages)
        (relay lib converter target (messageStream messages ending)).init tr ∧
      tr.length ≤ 3 * (messages.length + 2) + 1 ∧
      ((¬ ∃ a s', RelayStep lib converter target (System.finalState
            (relay lib converter target (messageStream messages ending)).init tr) a s') →
        bodyBytes (System.finalState
            (relay lib converter target (messageStream messages ending)).init tr).client =
          some (clientBytes c messages) ∧
        (System.finalState
            (relay lib converter target (messageStream messages ending)).init tr).logged.flatten =
          loggerBytes messages) := by
  have hstream := sseStream_messageStream hending hdone
  -- what is on the way is in order, by `RelayInv`; what is yet to come is a stream of messages
  have hinv : System.AllStates
      (RelayInv lib converter target (messages.map fun m => .ok (sseData m)))
      (relay lib converter target (messageStream messages ending)).init tr :=
    relayInv_of_run hstream hrun
  have hunderway : System.AllStates (fun s => Underway ending s.events s.task)
      (relay lib converter target (messageStream messages ending)).init tr :=
    hrun.invariant (fun _ _ _ hs hstep => (hs.relayStep hending hstep).1) (.starting messages hdone)
  refine ⟨hinv.imp fun s hs => hs.exists_prefix hconvert, ?_, ?_⟩
  · -- the request is sent, and then three steps for each item: it is polled, read and logged
    have hsteps := hrun.length_add_le Relay.todo
      (fun _ _ _ hs hstep => Underway.relayStep hending hs hstep) (.starting messages hdone)
    have hinit : (relay lib converter target (messageStream messages ending)).init.todo =
        3 * (messages.length + 2) + 1 := by
      simp [relay, Relay.todo, sseTask, EventSource.new, messageStream, messageItems]
      omega
    omega
  · intro hstuck
    obtain ⟨hclient, hlogged⟩ :=
      hinv.finalState.of_finished (hunderway.finalState.finished hending hstuck)
    rw [hclient, hlogged]
    exact ⟨bodyBytes_relayItem hconvert, flatten_tee messages⟩

/-- A converter that drops the messages without a text. -/
def dropsEmpty : BodyConverter where
  chunk bytes := .ok (if bytes = [] then none else some bytes)
  body bytes := .ok bytes

/-- The text of a message, if it has one. -/
def someText (m : String) : Option Bytes :=
  if m.toUTF8.toList = [] then none else some m.toUTF8.toList

/-- The relay of two messages, of which the second has no text. -/
def twoMessages : System Relay RelayAction :=
  relay emptyObjectLibraries dropsEmpty .openAI
    (messageStream ["a", ""] (.ok (.message "[DONE]")))

/-- The client gets the first one, and the logger both. -/
theorem relay_exact_dropped :
    ∃ tr : List (RelayAction × Relay), tr.length = 9 ∧
      bodyBytes (System.finalState twoMessages.init tr).client =
        some (clientBytes someText ["a", ""]) ∧
      (System.finalState twoMessages.init tr).logged.flatten = loggerBytes ["a", ""] := by
  have hrun : twoMessages.Run twoMessages.init _ :=
    .cons (.send _ _ (.send _ (Or.inl rfl) ⟨rfl, rfl⟩)) <|
    .cons (.poll _ _ [] (.start _ _ _ rfl (.opened _ rfl rfl)) rfl) <|
    .cons (.poll _ _ [_] (.forward _ _ _ rfl (.message _ "a" rfl rfl)) rfl) <|
    .cons (.read _ _ _ rfl) <|
    .cons (.poll _ _ [_] (.forward _ _ _ rfl (.message _ "" rfl rfl)) rfl) <|
    .cons (.log _ _ _ rfl) <|
    .cons (.poll _ _ [] (.forward _ _ _ rfl (.message _ "[DONE]" rfl rfl)) rfl) <|
    .cons (.read _ _ _ rfl) <|
    .cons (.log _ _ _ rfl) <|
    .nil _
  refine ⟨_, ?_, (relay_exact emptyObjectLibraries dropsEmpty .openAI (by decide) (Or.inl rfl)
    (fun m _ => rfl) hrun).2.2 ?_⟩
  · rfl
  · rintro ⟨a, s', hstep⟩
    cases hstep with
    | send task htask =>
      cases htask with
      | send hpolls hidle => exact absurd hpolls (not_polls_of_ended rfl)
    | poll task sent htask hout =>
      cases htask with
      | start _ source hstage hpoll => cases hstage
      | forward _ source hstage hpoll => cases hstage
    | read item channel hchannel => cases hchannel
    | log bytes forLogger hforLogger => cases hforLogger

end ErrorBody

end AiGateway
