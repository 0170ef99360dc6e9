import KernelClient.Proofs.Connection.Inbound
import KernelClient.Proofs.Connection.Outbound
import KernelClient.Proofs.Message.RoundTrip

/-!
# Messages that arrive

A frame holds a message or it does not. One that holds none is noted in the log, so that inserting
such frames into a sequence of events changes nothing else. A message is announced first; its status
is applied before the request that it answers is looked up, since that status may have cleared all
requests; then it goes to the comms or, if it is not one of a comm and no request claimed it, is
announced as unclaimed.

What is handed on of one message is a single equation, from which what is announced, streamed and
unclaimed is read. Every other event hands on nothing, so that the equation extends to runs.
-/

namespace KernelClient.Connection

variable {connection : Connection}

theorem isOutward_applyStatus (message : Message) (connection : Connection) :
    IsOutward (applyStatus message connection) := by
  obtain ⟨status, changed⟩ := applyStatus_statusChange message connection
  exact changed.isOutward

theorem Answering.inboundIn_eq {msgId : String} {waiting : PendingReply} {message : Message}
    {change : Change} (answered : Answering msgId waiting message connection change) :
    inboundIn change.2 = [.streamed waiting.key message] := by
  cases answered <;> rfl

theorem answered?_eq_some {message : Message} {answered : String × PendingReply}
    (answers : answered? message connection = some answered) :
    message.parentMsgId? = some answered.1 ∧
      connection.pending.lookup answered.1 = some answered.2 := by
  obtain ⟨parent, asked, found⟩ := Option.bind_eq_some_iff.mp answers
  obtain ⟨other, waits, rfl⟩ := Option.map_eq_some_iff.mp found
  exact ⟨asked, waits⟩

/-- A message answers the request that waits under the identifier of its parent. -/
theorem map_answered? (message : Message) (connection : Connection) :
    (answered? message connection).map Prod.snd =
      message.parentMsgId?.bind fun msgId => connection.pending.lookup msgId := by
  unfold answered?
  cases message.parentMsgId? with
  | none => rfl
  | some msgId => simp [Function.comp_def]

/-- A message is streamed to the request that it answers, and to no other. -/
theorem inboundIn_deliver (message : Message) (connection : Connection) :
    inboundIn (deliver message connection).2 =
      (message.parentMsgId?.bind fun msgId => connection.pending.lookup msgId).toList.map
        fun waiting => .streamed waiting.key message := by
  rw [← map_answered?]
  unfold deliver
  split
  case h_1 msgId waiting answers =>
    rw [answers]
    exact (answer_answering msgId waiting message connection).inboundIn_eq
  case h_2 unanswered =>
    rw [unanswered]
    rfl

theorem isOutward_rejectComm (now : Instant) (commId : String) (opening : Message)
    (connection : Connection) : IsOutward (rejectComm now commId opening connection) :=
  isOutward_sendRaw _ _

/-- Whether a change hands on nothing but to comms and to receivers of targets. -/
def IsForComms (change : Change) : Prop := inboundIn change.2 = commsIn change.2

theorem IsOutward.isForComms {change : Change} (outward : IsOutward change) :
    IsForComms change := by
  rw [IsForComms, ← commsIn_inboundIn, outward]
  rfl

theorem isForComms_acceptComm (now : Instant) (commId : String) (opening : Message)
    (connection : Connection) : IsForComms (acceptComm now commId opening connection) := by
  unfold acceptComm
  split
  · rfl
  · split
    · refine IsOutward.isForComms (IsOutward.andThen ?_ (isOutward_rejectComm ..))
      rfl
    · split
      split
      · rfl
      · refine ((isOutward_unregisterComm commId _).andThen ?_).isForComms
        refine IsOutward.andThen ?_ ?_
        · rfl
        · exact (isOutward_removeTarget _ _).andThen (isOutward_rejectComm ..)

theorem isForComms_routeComm (now : Instant) (message : Message) (connection : Connection) :
    IsForComms (routeComm now message connection) := by
  unfold routeComm
  split
  · rfl
  · split
    · exact isForComms_acceptComm now _ message connection
    · split <;> split <;> rfl

/-- A message of a comm goes to the comms; any other is announced as unclaimed if no request claimed
it. -/
theorem inboundIn_pass (now : Instant) (message : Message) (isClaimed : Bool)
    (connection : Connection) :
    inboundIn (pass now message isClaimed connection).2 =
      if message.isComm then commsIn (routeComm now message connection).2
      else if isClaimed then [] else [.unclaimed message] := by
  unfold pass
  split
  · exact isForComms_routeComm now message connection
  · split <;> rfl

/-- The connection after the status that a message reports. -/
def current (message : Message) (connection : Connection) : Connection :=
  (applyStatus message connection).1

/-- The connection after a message reached the request that it answers. -/
def delivered (message : Message) (connection : Connection) : Connection :=
  (deliver message (current message connection)).1

theorem dispatch_eq (alive : connection.isDisposed = false) (now : Instant) (message : Message) :
    dispatch now message connection =
      let isClaimed := (answered? message (current message connection)).isSome
      let passed := pass now message isClaimed (delivered message connection)
      (passed.1, .received message :: ((applyStatus message connection).2 ++
        ((deliver message (current message connection)).2 ++ passed.2))) := by
  rw [dispatch, if_neg (by simp [alive])]
  rfl

/-- What is handed on of a message. -/
theorem inboundIn_dispatch (alive : connection.isDisposed = false) (now : Instant)
    (message : Message) :
    inboundIn (dispatch now message connection).2 =
      .received message ::
        ((message.parentMsgId?.bind fun msgId =>
            (current message connection).pending.lookup msgId).toList.map
            (fun waiting => .streamed waiting.key message) ++
          if message.isComm then commsIn (routeComm now message (delivered message connection)).2
          else if (message.parentMsgId?.bind fun msgId =>
            (current message connection).pending.lookup msgId).isSome then []
          else [.unclaimed message]) := by
  have status : inboundIn (applyStatus message connection).2 = [] :=
    isOutward_applyStatus message connection
  have announced (rest : List Effect) :
      inboundIn (.received message :: rest) = .received message :: inboundIn rest := rfl
  rw [dispatch_eq alive, ← Option.isSome_map, map_answered?]
  simp only [announced, inboundIn_append, status, List.nil_append, inboundIn_deliver,
    inboundIn_pass]

/-- A message that is not one of a comm concerns only the status and the request that it answers;
one of a comm is handed on to the comms after that. -/
theorem dispatch_fst (alive : connection.isDisposed = false) (now : Instant) (message : Message) :
    (dispatch now message connection).1 =
      if message.isComm then (routeComm now message (delivered message connection)).1
      else delivered message connection := by
  rw [dispatch_eq alive]
  dsimp only [pass]
  split
  · rfl
  · split <;> rfl

/-- What becomes of a message that arrives: it is announced, streamed to the request that waits
under the identifier of its parent once its status was applied, and either handed on to the comms
or, if no request claimed it, announced as unclaimed. -/
structure Dispatched (now : Instant) (message : Message) (before : Connection) (change : Change) :
    Prop where
  received : receivedIn change.2 = [message]
  streamed : streamedIn change.2 =
    (message.parentMsgId?.bind fun msgId =>
      (current message before).pending.lookup msgId).toList.map fun waiting =>
        (waiting.key, message)
  comm : message.isComm = true →
    change.1 = (routeComm now message (delivered message before)).1 ∧
      commsIn change.2 = commsIn (routeComm now message (delivered message before)).2
  other : message.isComm = false → change.1 = delivered message before ∧ commsIn change.2 = []
  unclaimed : unclaimedIn change.2 =
    if message.isComm = false ∧ (message.parentMsgId?.bind fun msgId =>
      (current message before).pending.lookup msgId) = none then [message] else []

theorem dispatch_dispatched (alive : connection.isDisposed = false) (now : Instant)
    (message : Message) :
    Dispatched now message connection (dispatch now message connection) := by
  have handed := inboundIn_dispatch alive now message
  have left := dispatch_fst alive now message
  have received := (receivedIn_inboundIn _).symm.trans (congrArg receivedIn handed)
  have streamed := (streamedIn_inboundIn _).symm.trans (congrArg streamedIn handed)
  have unclaimed := (unclaimedIn_inboundIn _).symm.trans (congrArg unclaimedIn handed)
  have comms := (commsIn_inboundIn _).symm.trans (congrArg commsIn handed)
  -- All is determined by whether the message is one of a comm and whether it answers a request.
  cases comm : message.isComm <;>
    cases answers : (message.parentMsgId?.bind fun msgId =>
      (current message connection).pending.lookup msgId) <;>
    rw [comm] at left received streamed unclaimed comms <;>
    rw [answers] at received streamed unclaimed comms <;>
    constructor
  all_goals simp [received, streamed, unclaimed, comms, left, comm, answers, Effect.received?,
    Effect.streamed?, Effect.unclaimed?, Effect.isForComms]

/-- The message that is handed on. A disposed connection hands on nothing. -/
def Occurrence.dispatched? (occurrence : Occurrence) : Option Message :=
  if occurrence.before.connection.isDisposed then none else occurrence.message?

/-- A message that is handed on came in a frame of the socket that is read. -/
theorem Occurrence.dispatched?_eq_some {occurrence : Occurrence} {message : Message}
    (arrives : occurrence.dispatched? = some message) :
    occurrence.before.connection.isDisposed = false ∧
      ∃ now frame socket protocol, occurrence.event = .frameArrived now frame ∧
        occurrence.before.connection.phase = .reading socket protocol ∧
        frame.decode protocol = .ok message := by
  unfold dispatched? at arrives
  split at arrives
  · cases arrives
  case isFalse alive =>
    refine ⟨by simpa using alive, ?_⟩
    unfold message? at arrives
    split at arrives
    case h_1 now frame socket protocol happened reading =>
      cases decoded : frame.decode protocol with
      | ok found =>
          rw [decoded] at arrives
          cases arrives
          exact ⟨now, frame, socket, protocol, happened, reading, decoded⟩
      | error error =>
          rw [decoded] at arrives
          cases arrives
    case h_2 => cases arrives

theorem Occurrence.dispatched?_of_decode {occurrence : Occurrence} {now : Instant} {frame : Frame}
    {socket : Nat} {protocol : WireProtocol} {message : Message}
    (alive : occurrence.before.connection.isDisposed = false)
    (happened : occurrence.event = .frameArrived now frame)
    (reading : occurrence.before.connection.phase = .reading socket protocol)
    (decoded : frame.decode protocol = .ok message) : occurrence.dispatched? = some message := by
  simp [dispatched?, message?, alive, happened, reading, decoded, Except.toOption]

/-- A frame that holds a message hands it on. -/
theorem frameArrived_of_decode {now : Instant} {frame : Frame} {socket : Nat}
    {protocol : WireProtocol} {message : Message}
    (reading : connection.phase = .reading socket protocol)
    (decoded : frame.decode protocol = .ok message) :
    frameArrived now frame connection = dispatch now message connection := by
  simp only [frameArrived, reading, receive, decoded]

theorem Occurrence.change_of_dispatched {occurrence : Occurrence} {message : Message}
    (arrives : occurrence.dispatched? = some message) :
    ∃ now frame, occurrence.event = .frameArrived now frame ∧
      occurrence.event.change occurrence.before.connection =
        dispatch now message occurrence.before.connection := by
  obtain ⟨-, now, frame, socket, protocol, happened, reading, decoded⟩ :=
    dispatched?_eq_some arrives
  refine ⟨now, frame, happened, ?_⟩
  rw [happened]
  exact frameArrived_of_decode reading decoded

/-- What becomes of a message that is handed on. -/
theorem Occurrence.dispatched {occurrence : Occurrence} {message : Message}
    (arrives : occurrence.dispatched? = some message) :
    ∃ now frame, occurrence.event = .frameArrived now frame ∧
      Dispatched now message occurrence.before.connection
        (occurrence.after.connection, occurrence.effects) := by
  obtain ⟨alive, -⟩ := dispatched?_eq_some arrives
  obtain ⟨now, frame, happened, change⟩ := change_of_dispatched arrives
  have dispatched := dispatch_dispatched alive now message
  rw [← change] at dispatched
  exact ⟨now, frame, happened, dispatched⟩

/-- Where no message is handed on, nothing is handed on. -/
theorem Occurrence.inboundIn_eq_nil {occurrence : Occurrence}
    (silent : occurrence.dispatched? = none) : inboundIn occurrence.effects = [] := by
  unfold effects
  by_cases framed : ∃ now frame, occurrence.event = .frameArrived now frame
  case neg =>
    exact Event.isOutward_change _ _ fun now frame happened => framed ⟨now, frame, happened⟩
  case pos =>
    obtain ⟨now, frame, happened⟩ := framed
    rw [happened]
    change inboundIn (frameArrived now frame _).2 = []
    unfold frameArrived
    split
    case h_1 socket protocol reading =>
      unfold receive
      split
      case h_1 message decoded =>
        have read : occurrence.message? = some message := by
          simp [message?, happened, reading, decoded, Except.toOption]
        cases disposed : occurrence.before.connection.isDisposed with
        | true =>
            rw [dispatch, if_pos disposed]
            rfl
        | false => simp [dispatched?, disposed, read] at silent
      case h_2 => rfl
    case h_2 => rfl

/-- The socket that is read is the last one that was opened, with its protocol. -/
def ReadsLast (sockets : List WireProtocol) (connection : Connection) : Prop :=
  ∀ socket protocol, connection.phase = .reading socket protocol → IsLast sockets socket protocol

theorem ReadsLast.ofIdle {sockets : List WireProtocol}
    (idle : connection.phase.isReading = false) : ReadsLast sockets connection := by
  intro socket protocol reading
  rw [reading] at idle
  cases idle

variable {start situation : Situation} {history : List Occurrence}

/-- Events with some more among them, which are frames that hold no message. -/
inductive Padded : Situation → List Event → List Event → Prop where
  | done (situation : Situation) : Padded situation [] []
  | keep {situation : Situation} (event : Event) {events more : List Event}
      (rest : Padded (situation.after event) events more) :
      Padded situation (event :: events) (event :: more)
  | insert {situation : Situation} {socket : Nat} {protocol : WireProtocol} {error : MessageError}
      (now : Instant) (frame : Frame)
      (reading : situation.connection.phase = .reading socket protocol)
      (refused : frame.decode protocol = .error error) {events more : List Event}
      (rest : Padded situation events more) :
      Padded situation events (.frameArrived now frame :: more)

def Effect.isLog : Effect → Bool
  | .log _ => true
  | _ => false

/-- All that becomes visible but in the log. -/
def visibleIn (effects : List Effect) : List Effect := effects.filter fun effect => !effect.isLog

@[simp]
theorem visibleIn_append (first second : List Effect) :
    visibleIn (first ++ second) = visibleIn first ++ visibleIn second :=
  List.filter_append ..

/-- A frame that holds no message is noted in the log, and that is all. -/
theorem frameArrived_of_refused {socket : Nat} {protocol : WireProtocol} {error : MessageError}
    (now : Instant) {frame : Frame} (reading : connection.phase = .reading socket protocol)
    (refused : frame.decode protocol = .error error) :
    ∃ line, frameArrived now frame connection = (connection, [.log line]) := by
  simp only [frameArrived, reading, receive, refused]
  exact ⟨_, rfl⟩

theorem Situation.after_of_refused {socket : Nat} {protocol : WireProtocol} {error : MessageError}
    (now : Instant) {frame : Frame}
    (reading : situation.connection.phase = .reading socket protocol)
    (refused : frame.decode protocol = .error error) :
    situation.after (.frameArrived now frame) = situation := by
  obtain ⟨line, change⟩ := frameArrived_of_refused now reading refused
  simp only [Situation.after, Event.change, change]
  rfl

/-- Frames that hold no message make no difference, except in the log. -/
theorem Padded.same {events more : List Event} (padded : Padded situation events more) :
    situation.allows more = situation.allows events ∧
      situation.afterAll more = situation.afterAll events ∧
      visibleIn (effectsOf (situation.occurrences more)) =
        visibleIn (effectsOf (situation.occurrences events)) := by
  induction padded with
  | done => exact ⟨rfl, rfl, rfl⟩
  | @keep situation event events more rest same =>
      obtain ⟨allows, afterAll, visible⟩ := same
      refine ⟨?_, afterAll, ?_⟩
      · rw [Situation.allows, Situation.allows, allows]
      · simp only [Situation.occurrences, effectsOf, List.flatMap_cons,
          visibleIn_append] at visible ⊢
        rw [visible]
  | @insert situation socket protocol error now frame reading refused events more rest same =>
      obtain ⟨allows, afterAll, visible⟩ := same
      have stays := Situation.after_of_refused now reading refused
      obtain ⟨line, change⟩ := frameArrived_of_refused now reading refused
      refine ⟨?_, ?_, ?_⟩
      · have possible : (Event.frameArrived now frame).isPossible situation = true := by
          simp [Event.isPossible, reading, SocketPhase.isReading]
        rw [Situation.allows, possible, stays, Bool.true_and, allows]
      · rw [← afterAll, Situation.afterAll, List.foldl_cons, stays]
        rfl
      · have shown : Occurrence.effects ⟨situation, .frameArrived now frame⟩ = [.log line] := by
          simp only [Occurrence.effects, Event.change, change]
        simp only [Situation.occurrences, effectsOf, List.flatMap_cons, visibleIn_append, shown,
          stays] at visible ⊢
        rw [visible]
        rfl

end KernelClient.Connection
