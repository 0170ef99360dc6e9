import KernelClient.Proofs.Connection.Outcomes
import KernelClient.Proofs.Connection.Run

/-!
# What an event is composed of

Every event changes a connection by a few kinds of parts, one after the other. A part that is made
aside touches neither the status, the disposal, the socket and the phase of its life, the queue nor
the requests; each of the others is one operation on these. The state of the socket, which is what
the connection tells of it, changes only in the steps of its life. What all parts keep is therefore
kept by every event.
-/

namespace KernelClient.Connection

/-- Whether an event is a step in the life of the socket, which changes its phase. -/
def Event.movesSocket : Event → Bool
  | .beginConnecting | .connected _ | .connectFailed _ | .inputEnded | .stop => true
  | _ => false

/-- Whether an event can change the status. -/
def Event.setsStatus : Event → Bool
  | .restartAnswered true | .shutDown | .shutDownAnswered true | .connected _ | .connectFailed _
  | .frameArrived _ _ | .inputEnded => true
  | _ => false

/-- Whether an event can dispose the connection. -/
def Event.disposes : Event → Bool
  | .shutDown | .shutDownAnswered true | .dispose => true
  | _ => false

/-- A socket is read from while it is written to, and no message waits for it. A disposed connection
has none. -/
structure SocketSound (connection : Connection) : Prop where
  reading : ∀ socket, connection.socket = some socket →
    connection.phase = .reading socket.number socket.protocol
  drained : ∀ socket, connection.socket = some socket → connection.queue = []
  disposed : connection.isDisposed = true → connection.socket = none

/-- Two connections that agree in status, disposal, socket, phase, queue and requests, and of which
the second goes on with the numbers of the first. -/
structure Aside (before after : Connection) : Prop where
  status : after.status = before.status
  isDisposed : after.isDisposed = before.isDisposed
  socket : after.socket = before.socket
  phase : after.phase = before.phase
  queue : after.queue = before.queue
  pending : after.pending = before.pending
  nextKey : before.nextKey ≤ after.nextKey

/-- A connection agrees with itself. -/
theorem Aside.refl (connection : Connection) : Aside connection connection :=
  ⟨rfl, rfl, rfl, rfl, rfl, rfl, Nat.le_refl _⟩

/-- Whether an effect tells nothing of status, disposal, accepted messages, frames or requests. -/
def Effect.isAside : Effect → Bool
  | .status _ | .disposed | .accepted _ | .sent _ _ | .settled _ _ => false
  | _ => true

/-- The parts of which an occurrence can be composed, with the requests that they make. -/
inductive Part (occurrence : Occurrence) :
    Connection → Change → List RequestLabel → Prop where
  | aside {before after : Connection} {effects : List Effect} (kept : Aside before after)
      (plain : ∀ effect ∈ effects, effect.isAside)
      (told : occurrence.event.movesSocket = true ∨
        after.connectionStatus = before.connectionStatus) :
      Part occurrence before (after, effects) []
  | send {message : Message} {expectsReply : Bool} {before : Connection} {call : Call Nat}
      (sending : Sending message expectsReply before call) :
      Part occurrence before call.2 (labelOf message.msgId call.1)
  | sendRaw {message : Message} {before : Connection} {call : Call Unit}
      (transmission : Transmission message before call)
      (accepts : call.1.isOk = true → before.checkOpen = .ok ()) :
      Part occurrence before call.2 []
  | setStatus {status : KernelStatus} {before : Connection} {change : Change}
      (sets : occurrence.event.setsStatus = true) (changed : StatusChange before status change) :
      Part occurrence before change []
  | enter {before : Connection} (moves : occurrence.event.movesSocket = true)
      (free : before.socket = none) (phase : SocketPhase) (attempt : Nat) :
      Part occurrence before ({ before with phase := phase, attempt := attempt }, []) []
  | dropSocket {before : Connection} {effects : List Effect}
      (plain : ∀ effect ∈ effects, effect.isAside) :
      Part occurrence before ({ before with socket := none }, effects) []
  | dispose (ends : occurrence.event.disposes = true) (before : Connection) :
      Part occurrence before (dispose before) []
  | clear {before : Connection} (answered : occurrence.event = .restartAnswered true)
      (alive : occurrence.before.connection.isDisposed = false) :
      Part occurrence before (clear .disposed before) []
  | answer {before : Connection} {message : Message} {msgId : String} {waiting : PendingReply}
      {change : Change} (read : occurrence.message? = some message)
      (asked : message.parentMsgId? = some msgId)
      (held : (msgId, waiting) ∈ occurrence.before.connection.pending)
      (waits : before.pending.lookup msgId = some waiting)
      (answered : Answering msgId waiting message before change) : Part occurrence before change []
  | flush {before : Connection} {socket : ActiveSocket}
      (opened : occurrence.event = .connected socket) (free : before.socket = none) :
      Part occurrence before
        ({ before with queue := (flush socket before.queue).left },
          (flush socket before.queue).effects) []
  | install {before : Connection} {socket written : ActiveSocket}
      (opened : occurrence.event = .connected socket)
      (number : written.number = socket.number) (protocol : written.protocol = socket.protocol)
      (flushed : before.queue = []) (alive : before.isDisposed = false) :
      Part occurrence before ({ before with
        socket := some written
        phase := .reading written.number written.protocol
        attempt := 0 }, []) []
  | outputBroken (socket : Nat) (before : Connection) :
      Part occurrence before (unchanged (outputBroken socket before)) []

/-- Parts one after the other. -/
inductive Composed (occurrence : Occurrence) :
    Connection → Change → List RequestLabel → Prop where
  | part {before : Connection} {change : Change} {requests : List RequestLabel}
      (part : Part occurrence before change requests) : Composed occurrence before change requests
  | append {before middle after : Connection} {first second : List Effect}
      {requested requests : List RequestLabel}
      (start : Composed occurrence before (middle, first) requested)
      (rest : Composed occurrence middle (after, second) requests) :
      Composed occurrence before (after, first ++ second) (requested ++ requests)

variable {occurrence : Occurrence} {connection : Connection}

namespace Composed

theorem aside {before after : Connection} {effects : List Effect} (kept : Aside before after)
    (told : after.connectionStatus = before.connectionStatus)
    (plain : ∀ effect ∈ effects, effect.isAside) :
    Composed occurrence before (after, effects) [] :=
  .part (.aside kept plain (.inr told))

theorem refl (connection : Connection) : Composed occurrence connection (unchanged connection) [] :=
  aside ⟨rfl, rfl, rfl, rfl, rfl, rfl, Nat.le_refl _⟩ rfl (by simp)

theorem andThen {before : Connection} {change : Change} {next : Connection → Change}
    {requested requests : List RequestLabel}
    (start : Composed occurrence before change requested)
    (rest : Composed occurrence change.1 (next change.1) requests) :
    Composed occurrence before (change.andThen next) (requested ++ requests) :=
  append start rest

/-- What shows nothing and makes no request can be put before all others. -/
theorem thenSilently {before middle : Connection} {change : Change} {requests : List RequestLabel}
    (start : Composed occurrence before (unchanged middle) [])
    (rest : Composed occurrence middle change requests) :
    Composed occurrence before change requests :=
  append start rest

/-- A part that is made aside and shows nothing can be put before all others. -/
theorem afterAside {before middle : Connection} {change : Change} {requests : List RequestLabel}
    (kept : Aside before middle) (told : middle.connectionStatus = before.connectionStatus)
    (rest : Composed occurrence middle change requests) :
    Composed occurrence before change requests :=
  (aside kept told (by simp)).thenSilently rest

/-- What makes no request can be put after all others. -/
theorem followedBy {before : Connection} {change : Change} {next : Connection → Change}
    {requests : List RequestLabel} (start : Composed occurrence before change requests)
    (rest : Composed occurrence change.1 (next change.1) []) :
    Composed occurrence before (change.andThen next) requests := by
  have composed := start.andThen rest
  rwa [List.append_nil] at composed

end Composed

theorem isAside_of_mem_releases {comms : List (String × Nat)} :
    ∀ effect ∈ releases comms, effect.isAside := by
  intro effect member
  obtain ⟨entry, -, rfl⟩ := List.mem_map.mp member
  rfl

theorem isAside_of_mem_targetReleases {targets : List (String × CommTarget)} :
    ∀ effect ∈ targetReleases targets, effect.isAside := by
  intro effect member
  obtain ⟨entry, -, rfl⟩ := List.mem_map.mp member
  rfl

theorem composed_registerTarget (name : String) :
    Composed occurrence connection (registerTarget name connection).2 [] := by
  unfold registerTarget
  split
  · exact .refl connection
  · exact .aside ⟨rfl, rfl, rfl, rfl, rfl, rfl, Nat.le_succ _⟩ rfl isAside_of_mem_targetReleases

theorem composed_removeTarget (name : String) :
    Composed occurrence connection (removeTarget name connection) [] :=
  .aside ⟨rfl, rfl, rfl, rfl, rfl, rfl, Nat.le_refl _⟩ rfl isAside_of_mem_targetReleases

theorem composed_receiverGone (receiver : Nat) :
    Composed occurrence connection (unchanged (receiverGone receiver connection)) [] :=
  .aside ⟨rfl, rfl, rfl, rfl, rfl, rfl, Nat.le_refl _⟩ rfl (by simp)

theorem aside_registerComm (commId targetName : String) (connection : Connection) :
    Aside connection (registerComm commId targetName connection).2 :=
  ⟨rfl, rfl, rfl, rfl, rfl, rfl, Nat.le_succ _⟩

theorem composed_unregisterComm (commId : String) :
    Composed occurrence connection (unregisterComm commId connection) [] :=
  .aside ⟨rfl, rfl, rfl, rfl, rfl, rfl, Nat.le_refl _⟩ rfl isAside_of_mem_releases

theorem composed_createComm (targetName commId : String) :
    Composed occurrence connection (createComm targetName commId connection).2 [] := by
  unfold createComm
  split
  · exact .refl connection
  · split
    · exact .refl connection
    · exact .aside (aside_registerComm commId targetName connection) rfl (by simp)

theorem composed_dropComm (comm : Comm) :
    Composed occurrence connection (dropComm comm connection) [] := by
  unfold dropComm
  split
  · exact .refl connection
  · exact composed_unregisterComm comm.commId

theorem aside_newMessage (now : Instant) (channel : Channel) (msgType : String) (content : Json)
    (connection : Connection) :
    Aside connection (newMessage now channel msgType content connection).2 :=
  ⟨rfl, rfl, rfl, rfl, rfl, rfl, Nat.le_refl _⟩

theorem composed_makeMessage (now : Instant) (channel : Channel) (msgType : String)
    (content : Json) :
    Composed occurrence connection
      (unchanged (newMessage now channel msgType content connection).2) [] :=
  .aside (aside_newMessage now channel msgType content connection) rfl (by simp)

theorem composed_request (now : Instant) (wanted : KernelRequest) :
    Composed occurrence connection (request now wanted connection).2.2
      (labelOf (request now wanted connection).1 (request now wanted connection).2.1) :=
  .afterAside (aside_newMessage now .shell wanted.msgType wanted.content connection) rfl
    (.part (.send (send_sending _ true _)))

theorem aside_inputReply (now : Instant) (value : String) (parent : Option Message)
    (connection : Connection) : Aside connection (inputReply now value parent connection).2 :=
  ⟨rfl, rfl, rfl, rfl, rfl, rfl, Nat.le_refl _⟩

theorem composed_sendRaw (message : Message) :
    Composed occurrence connection (sendRaw message connection).2 [] :=
  .part (.sendRaw (sendRaw_transmission message connection) checkOpen_of_sendRaw)

theorem composed_sendInput (now : Instant) (value : String) (parent : Option Message) :
    Composed occurrence connection (sendInput now value parent connection).2 [] :=
  .afterAside (aside_inputReply now value parent connection) rfl (composed_sendRaw _)

theorem aside_commMessage (now : Instant) (outgoing : CommMessage) (connection : Connection) :
    Aside connection (commMessage now outgoing connection).2 :=
  ⟨rfl, rfl, rfl, rfl, rfl, rfl, Nat.le_refl _⟩

theorem labelOfComm_map (msgId : String) (result : Except ServiceError Nat) :
    labelOfComm (result.map fun key => (msgId, key)) = labelOf msgId result := by
  cases result <;> rfl

theorem composed_sendComm (now : Instant) (comm : Comm) (outgoing : CommMessage) :
    Composed occurrence connection (sendComm now comm outgoing connection).2
      (labelOfComm (sendComm now comm outgoing connection).1) := by
  unfold sendComm
  split
  · exact .refl connection
  · rw [labelOfComm_map]
    exact .afterAside (aside_commMessage now outgoing connection) rfl
      (.part (.send (send_sending _ false _)))

theorem composed_closeComm (now : Instant) (comm : Comm) (data : Json) (metadata : Option Json) :
    Composed occurrence connection (closeComm now comm data metadata connection).2
      (labelOfComm ((closeComm now comm data metadata connection).1.map Prod.snd)) := by
  have composed : Composed occurrence connection _ _ :=
    composed_sendComm now comm (.closing comm data metadata)
  unfold closeComm
  split
  case h_1 error change sent =>
    rw [sent] at composed
    exact composed
  case h_2 msgId key change sent =>
    rw [sent] at composed
    exact composed.followedBy (composed_unregisterComm comm.commId)

theorem composed_setStatus (sets : occurrence.event.setsStatus = true) (status : KernelStatus) :
    Composed occurrence connection (setStatus status connection) [] :=
  .part (.setStatus sets (setStatus_statusChange status connection))

theorem composed_applyStatus (sets : occurrence.event.setsStatus = true) (message : Message) :
    Composed occurrence connection (applyStatus message connection) [] := by
  obtain ⟨status, changed⟩ := applyStatus_statusChange message connection
  exact .part (.setStatus sets changed)

theorem aside_refusal (now : Instant) (commId : String) (opening : Message)
    (connection : Connection) : Aside connection (refusal now commId opening connection).2 :=
  ⟨rfl, rfl, rfl, rfl, rfl, rfl, Nat.le_refl _⟩

theorem composed_rejectComm (now : Instant) (commId : String) (opening : Message) :
    Composed occurrence connection (rejectComm now commId opening connection) [] :=
  .afterAside (aside_refusal now commId opening connection) rfl (composed_sendRaw _)

theorem composed_log (line : LogLine) :
    Composed occurrence connection (connection, [.log line]) [] :=
  .aside (.refl _) rfl (by simp [Effect.isAside])

theorem composed_acceptComm (now : Instant) (commId : String) (opening : Message) :
    Composed occurrence connection (acceptComm now commId opening connection) [] := by
  unfold acceptComm
  split
  · exact composed_log _
  · split
    · exact (composed_log _).andThen (composed_rejectComm now commId opening)
    · split
      rename_i registration
      have registered := aside_registerComm commId (targetOf opening) connection
      have told : (registerComm commId (targetOf opening) connection).2.connectionStatus =
          connection.connectionStatus := rfl
      rw [registration] at registered told
      split
      · exact .aside registered told (by simp [Effect.isAside])
      · apply Composed.afterAside registered told
        apply (composed_unregisterComm commId).andThen
        apply (composed_log _).andThen
        exact (composed_removeTarget _).andThen (composed_rejectComm now commId opening)

theorem composed_routeComm (now : Instant) (message : Message) :
    Composed occurrence connection (routeComm now message connection) [] := by
  unfold routeComm
  split
  · exact .refl connection
  · split
    · exact composed_acceptComm now _ message
    · split <;> split
      · exact .aside (.refl _) rfl (by simp [Effect.isAside])
      · exact .refl connection
      · exact .aside ⟨rfl, rfl, rfl, rfl, rfl, rfl, Nat.le_refl _⟩ rfl (by simp [Effect.isAside])
      · exact .refl connection

theorem applyStatus_pending (message : Message) (connection : Connection) :
    (applyStatus message connection).1.pending.Sublist connection.pending := by
  obtain ⟨status, changed⟩ := applyStatus_statusChange message connection
  exact changed.pending_sublist

theorem composed_deliver {message : Message} (read : occurrence.message? = some message)
    (held : connection.pending ⊆ occurrence.before.connection.pending) :
    Composed occurrence connection (deliver message connection) [] := by
  unfold deliver
  split
  case h_1 msgId pending answered =>
    obtain ⟨parent, asked, found⟩ := Option.bind_eq_some_iff.mp answered
    obtain ⟨waiting, waits, labelled⟩ := Option.map_eq_some_iff.mp found
    obtain ⟨rfl, rfl⟩ := Prod.mk.injEq .. ▸ labelled
    obtain ⟨earlier, later, split, -⟩ := List.lookup_eq_some_iff.mp waits
    have member : (parent, waiting) ∈ connection.pending := by
      rw [split]
      exact List.mem_append_right earlier (List.mem_cons_self ..)
    exact .part (.answer read asked (held member) waits (answer_answering ..))
  case h_2 => exact .refl connection

theorem composed_pass (now : Instant) (message : Message) (isClaimed : Bool) :
    Composed occurrence connection (pass now message isClaimed connection) [] := by
  unfold pass
  split
  · exact composed_routeComm now message
  · split
    · exact .refl connection
    · exact .aside (.refl _) rfl (by simp [Effect.isAside])

theorem composed_dispatch (sets : occurrence.event.setsStatus = true) {message : Message}
    (read : occurrence.message? = some message) (now : Instant) :
    Composed occurrence occurrence.before.connection
      (dispatch now message occurrence.before.connection) [] := by
  unfold dispatch
  split
  · exact .refl _
  · have announced : Composed occurrence occurrence.before.connection
        (occurrence.before.connection, [.received message]) [] :=
      .aside (.refl _) rfl (by simp [Effect.isAside])
    apply announced.andThen
    apply (composed_applyStatus sets message).andThen
    have held := (applyStatus_pending message occurrence.before.connection).subset
    exact (composed_deliver read held).andThen (composed_pass now message _)

theorem composed_frameArrived {now : Instant} {frame : Frame}
    (arrived : occurrence.event = .frameArrived now frame) :
    Composed occurrence occurrence.before.connection
      (frameArrived now frame occurrence.before.connection) [] := by
  unfold frameArrived
  split
  case h_1 socket protocol reading =>
    unfold receive
    split
    case h_1 message decoded =>
      refine composed_dispatch (by simp [arrived, Event.setsStatus]) ?_ now
      simp [Occurrence.message?, arrived, reading, decoded, Except.toOption]
    case h_2 => exact composed_log _
  case h_2 => exact .refl _

theorem composed_setConnectionStatus (moves : occurrence.event.movesSocket = true)
    (status : ConnectionStatus) :
    Composed occurrence connection (setConnectionStatus status connection) [] := by
  unfold setConnectionStatus
  split
  · exact .refl connection
  · refine .part (.aside ⟨rfl, rfl, rfl, rfl, rfl, rfl, Nat.le_refl _⟩ ?_ (.inl moves))
    simp [Effect.isAside]

theorem composed_enter (moves : occurrence.event.movesSocket = true)
    (free : connection.socket = none) (phase : SocketPhase) :
    Composed occurrence connection (unchanged { connection with phase := phase }) [] :=
  .part (.enter moves free phase connection.attempt)

theorem composed_beginConnecting (moves : occurrence.event.movesSocket = true)
    (free : connection.socket = none) :
    Composed occurrence connection (beginConnecting connection) [] := by
  unfold beginConnecting
  split
  · exact composed_enter moves free .ended
  · refine (composed_enter moves free .connecting).thenSilently ?_
    refine Composed.andThen (composed_setConnectionStatus moves .connecting) ?_
    exact .aside (.refl _) rfl (by simp [Effect.isAside])

theorem composed_retry (moves : occurrence.event.movesSocket = true)
    (sets : occurrence.event.setsStatus = true) (free : connection.socket = none) :
    Composed occurrence connection (retry connection) [] := by
  unfold retry
  split
  · unfold giveUp
    refine Composed.followedBy ?_ (composed_setStatus sets .dead)
    exact (composed_enter moves free .ended).thenSilently (composed_log _)
  · apply (composed_enter moves free .waiting).thenSilently
    exact .aside (.refl _) rfl (by simp [Effect.isAside])

theorem composed_dropSocket : Composed occurrence connection (dropSocket connection) [] := by
  have dropped : dropSocket connection =
      ({ connection with socket := none }, (dropSocket connection).2) := by
    rw [← dropSocket_frame]
  rw [dropped]
  refine .part (.dropSocket ?_)
  unfold dropSocket
  split <;> simp [Effect.isAside]

theorem composed_lose (moves : occurrence.event.movesSocket = true)
    (sets : occurrence.event.setsStatus = true) (sound : SocketSound connection) :
    Composed occurrence connection (lose connection) [] := by
  unfold lose
  split
  case isTrue disposed => exact composed_enter moves (sound.disposed disposed) .ended
  case isFalse =>
    have dropped : (dropSocket connection).1.socket = none := dropSocket_socket connection
    have lost : (setConnectionStatus .disconnected (dropSocket connection).1).1.socket = none := by
      rw [setConnectionStatus_socket, dropped]
    apply composed_dropSocket.andThen
    apply (composed_setConnectionStatus moves .disconnected).andThen
    apply (Composed.part (.enter moves lost _ _)).thenSilently
    exact composed_retry moves sets lost

theorem composed_loseUnopened (moves : occurrence.event.movesSocket = true)
    (sets : occurrence.event.setsStatus = true) (sound : SocketSound connection) :
    Composed occurrence connection (loseUnopened connection) [] := by
  unfold loseUnopened
  split
  · exact composed_lose moves sets sound
  · exact .refl connection

theorem composed_connectFailed (moves : occurrence.event.movesSocket = true)
    (free : connection.socket = none) (error : ServiceError) :
    Composed occurrence connection (connectFailed error connection) [] := by
  unfold connectFailed
  split
  · exact composed_enter moves free .ended
  · exact composed_log _

theorem composed_install {socket written : ActiveSocket}
    (opened : occurrence.event = .connected socket)
    (number : written.number = socket.number) (protocol : written.protocol = socket.protocol)
    (flushed : connection.queue = []) (alive : connection.isDisposed = false) :
    Composed occurrence connection (install written connection) [] :=
  .thenSilently (.part (.install opened number protocol flushed alive))
    (composed_setConnectionStatus (by rw [opened]; rfl) .connected)

theorem composed_giveBack (moves : occurrence.event.movesSocket = true)
    (free : connection.socket = none) (socket : ActiveSocket) :
    Composed occurrence connection (giveBack socket connection) [] := by
  refine Composed.followedBy ?_ (composed_connectFailed moves free _)
  exact .aside (.refl _) rfl (by simp [closing, Effect.isAside])

theorem composed_connected {socket : ActiveSocket}
    (opened : occurrence.event = .connected socket) (free : connection.socket = none) :
    Composed occurrence connection (connected socket connection) [] := by
  have moves : occurrence.event.movesSocket = true := by rw [opened]; rfl
  unfold connected
  split
  · apply (composed_enter moves free .ended).thenSilently
    exact .aside (.refl _) rfl (by simp [closing, Effect.isAside])
  case isFalse alive =>
    apply Composed.followedBy (.part (.flush opened free))
    split
    case isTrue emptied =>
      obtain ⟨number, protocol⟩ := flush_socket_eq socket connection.queue
      exact composed_install opened number protocol (List.isEmpty_iff.mp emptied)
        (by simpa using alive)
    case isFalse =>
      refine composed_giveBack moves ?_ socket
      exact free

theorem composed_inputEnded (moves : occurrence.event.movesSocket = true)
    (sets : occurrence.event.setsStatus = true) (sound : SocketSound connection) :
    Composed occurrence connection (inputEnded connection) [] := by
  unfold inputEnded
  split
  · refine Composed.followedBy ?_ (composed_lose moves sets sound)
    exact .aside (.refl _) rfl (by simp [Effect.isAside])
  · exact .refl connection

theorem composed_stop (moves : occurrence.event.movesSocket = true)
    (free : connection.socket = none) :
    Composed occurrence connection (stop connection) [] := by
  unfold stop
  split
  · apply (composed_enter moves free .ended).thenSilently
    exact .aside (.refl _) rfl (by simp [Effect.isAside])
  · exact composed_enter moves free .ended

theorem composed_shutDown (sets : occurrence.event.setsStatus = true)
    (ends : occurrence.event.disposes = true) :
    Composed occurrence connection (shutDown connection) [] :=
  (composed_setStatus sets .dead).andThen (.part (.dispose ends _))

theorem composed_restartAnswered (answered : occurrence.event = .restartAnswered true) :
    Composed occurrence occurrence.before.connection
      (Event.change (.restartAnswered true) occurrence.before.connection) [] := by
  simp only [Event.change, restarted]
  split
  case h_1 change restarts =>
    split at restarts
    · cases restarts
    · rename_i alive
      cases restarts
      apply (composed_setStatus (by rw [answered]; rfl) .restarting).andThen
      exact .part (.clear answered (by simpa using alive))
  case h_2 => exact .refl _

theorem dispose_socket (connection : Connection) (sound : SocketSound connection) :
    (dispose connection).1.socket = none := by
  unfold dispose
  split
  case isTrue disposed => exact sound.disposed disposed
  case isFalse => exact dropSocket_socket _

/-- A connection without a socket is sound. -/
theorem SocketSound.ofFree (free : connection.socket = none) : SocketSound connection where
  reading socket present := by cases free.symm.trans present
  drained socket present := by cases free.symm.trans present
  disposed _ := free

/-- A socket that was there before keeps a connection sound. -/
theorem SocketSound.ofInherited {before after : Connection} (sound : SocketSound before)
    (isDisposed : after.isDisposed = before.isDisposed) (phase : after.phase = before.phase)
    (inherits : InheritsSocket before after) : SocketSound after := by
  refine ⟨fun socket present => ?_, fun socket present => ?_, fun disposed => ?_⟩
  · obtain ⟨earlier, before, number, protocol, -⟩ := inherits socket present
    rw [phase, number, protocol]
    exact sound.reading earlier before
  · obtain ⟨earlier, before, -, -, queue⟩ := inherits socket present
    exact queue (sound.drained earlier before)
  · have free := sound.disposed (isDisposed ▸ disposed)
    cases present : after.socket with
    | none => rfl
    | some socket =>
        obtain ⟨earlier, before, -⟩ := inherits socket present
        cases free.symm.trans before

theorem SocketSound.ofSame {before after : Connection} (sound : SocketSound before)
    (isDisposed : after.isDisposed = before.isDisposed) (socket : after.socket = before.socket)
    (phase : after.phase = before.phase) (queue : before.queue = [] → after.queue = []) :
    SocketSound after :=
  sound.ofInherited isDisposed phase fun _ present => ⟨_, socket ▸ present, rfl, rfl, queue⟩

theorem Transmission.sound {message : Message} {before : Connection} {call : Call Unit}
    (transmission : Transmission message before call) (sound : SocketSound before) :
    SocketSound call.2.1 := by
  obtain ⟨-, isDisposed, phase, -, -⟩ := transmission.kept
  exact sound.ofInherited isDisposed phase transmission.inherits

theorem outputBroken_inherits (broken : Nat) :
    InheritsSocket connection (outputBroken broken connection) := by
  intro socket present
  obtain ⟨earlier, before, changed⟩ := Option.map_eq_some_iff.mp present
  refine ⟨earlier, before, ?_⟩
  rw [← changed]
  split <;> exact ⟨rfl, rfl, id⟩

theorem Part.sound {before : Connection} {change : Change} {requests : List RequestLabel}
    (part : Part occurrence before change requests) (sound : SocketSound before) :
    SocketSound change.1 := by
  cases part with
  | aside kept plain => exact sound.ofSame kept.isDisposed kept.socket kept.phase kept.queue.trans
  | send sending =>
      cases sending with
      | refused error => exact sound
      | kept accepts fresh transmitted => exact (transmitted.sound sound).ofSame rfl rfl rfl id
  | sendRaw transmission => exact transmission.sound sound
  | setStatus sets changed =>
      cases changed with
      | same | plain => exact sound.ofSame rfl rfl rfl id
      | died | autoRestarted => exact sound.ofSame rfl rfl rfl fun _ => rfl
  | enter moves free phase attempt => exact .ofFree free
  | dropSocket => exact .ofFree rfl
  | dispose => exact .ofFree (dispose_socket before sound)
  | clear answered alive => exact sound.ofSame rfl rfl rfl fun _ => rfl
  | answer read asked held waits answered => cases answered <;> exact sound.ofSame rfl rfl rfl id
  | flush opened free => exact .ofFree free
  | install opened number protocol flushed alive =>
      refine ⟨fun active present => ?_, fun _ _ => flushed, fun ended => ?_⟩
      · cases present
        rfl
      · cases alive.symm.trans ended
  | outputBroken socket => exact sound.ofInherited rfl rfl (outputBroken_inherits socket)

theorem Composed.sound {before : Connection} {change : Change} {requests : List RequestLabel}
    (composed : Composed occurrence before change requests) (sound : SocketSound before) :
    SocketSound change.1 := by
  induction composed with
  | part part => exact part.sound sound
  | append start rest startSound restSound => exact restSound (startSound sound)

/-- A connection whose socket is not read from has none. -/
theorem SocketSound.free (sound : SocketSound connection)
    (idle : connection.phase.isReading = false) : connection.socket = none := by
  cases present : connection.socket with
  | none => rfl
  | some socket =>
      rw [sound.reading socket present] at idle
      cases idle

theorem SocketSound.freeWhileConnecting (sound : SocketSound connection)
    (phase : connection.phase = .connecting) : connection.socket = none :=
  sound.free (by rw [phase]; rfl)

/-- Every event is composed of parts, if a socket is read from while it is written to. -/
theorem Occurrence.composed (occurrence : Occurrence)
    (sound : SocketSound occurrence.before.connection)
    (possible : occurrence.event.isPossible occurrence.before = true) :
    Composed occurrence occurrence.before.connection
      (occurrence.event.change occurrence.before.connection) occurrence.requests := by
  unfold Occurrence.requests
  cases happened : occurrence.event with
  | makeMessage now channel msgType content =>
      exact composed_makeMessage now channel msgType content
  | send message expectsReply => exact .part (.send (send_sending message expectsReply _))
  | sendRaw message => exact composed_sendRaw message
  | request now wanted => exact composed_request now wanted
  | sendInput now value parent => exact composed_sendInput now value parent
  | registerTarget name => exact composed_registerTarget name
  | removeTarget name => exact composed_removeTarget name
  | receiverGone receiver => exact composed_receiverGone receiver
  | createComm targetName commId => exact composed_createComm targetName commId
  | sendComm now comm outgoing => exact composed_sendComm now comm outgoing
  | closeComm now comm data metadata => exact composed_closeComm now comm data metadata
  | dropComm comm => exact composed_dropComm comm
  | interrupt | restart => exact .refl _
  | restartAnswered succeeded =>
      cases succeeded with
      | false => exact .refl _
      | true => exact composed_restartAnswered happened
  | shutDown =>
      simp only [Event.change]
      split
      · exact composed_shutDown (by rw [happened]; rfl) (by rw [happened]; rfl)
      · exact .refl _
  | shutDownAnswered succeeded =>
      cases succeeded with
      | false => exact .refl _
      | true => exact composed_shutDown (by rw [happened]; rfl) (by rw [happened]; rfl)
  | dispose => exact .part (.dispose (by rw [happened]; rfl) _)
  | beginConnecting =>
      rw [happened] at possible
      have idle : occurrence.before.connection.phase.isReading = false := by
        rcases of_decide_eq_true possible with phase | phase <;> rw [phase] <;> rfl
      exact composed_beginConnecting (by rw [happened]; rfl) (sound.free idle)
  | connected socket =>
      rw [happened] at possible
      have free := sound.freeWhileConnecting (of_decide_eq_true possible).1
      have opened := composed_connected happened free
      exact opened.followedBy
        (composed_loseUnopened (by rw [happened]; rfl) (by rw [happened]; rfl) (opened.sound sound))
  | connectFailed error =>
      have moves : occurrence.event.movesSocket = true := by rw [happened]; rfl
      rw [happened] at possible
      have free := sound.freeWhileConnecting (of_decide_eq_true possible)
      have failed := composed_connectFailed moves free error
      exact failed.followedBy
        (composed_loseUnopened moves (by rw [happened]; rfl) (failed.sound sound))
  | frameArrived now frame => exact composed_frameArrived happened
  | inputEnded => exact composed_inputEnded (by rw [happened]; rfl) (by rw [happened]; rfl) sound
  | outputBroken socket => exact .part (.outputBroken socket _)
  | stop =>
      rw [happened] at possible
      have disposed := (of_decide_eq_true possible).1
      exact composed_stop (by rw [happened]; rfl) (sound.disposed disposed)

variable {start situation : Situation} {history : List Occurrence}

/-- In a run a socket is read from while it is written to. -/
theorem Run.sound (run : Run start history situation) (sound : SocketSound start.connection) :
    SocketSound situation.connection := by
  induction run with
  | start => exact sound
  | @next history before run event possible earlier =>
      exact (Occurrence.composed ⟨before, event⟩ earlier possible).sound earlier

end KernelClient.Connection
