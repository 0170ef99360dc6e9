import KernelClient.Proofs.Connection.Routes
import Mathlib.Data.List.Nodup

/-!
# Numbers of messages

Every message that a connection builds takes the next number of a counter, which stands behind the
name of the client in its identifier. It is built for whoever asks for one, for a request, an input
or a comm, or to refuse a comm that the kernel opens, and its number is used up even if it is not
sent. So the messages of a history are numbered in their order, and whatever else a connection
accepts was passed to it.
-/

namespace KernelClient.Connection

/-- The identifier of the message of a client with a number. -/
def identifier (clientId : String) (number : Nat) : String := s!"{clientId}_{number}"

theorem identifier_injective (clientId : String) : Function.Injective (identifier clientId) := by
  intro first second same
  have digits : Nat.toDigits 10 first = Nat.toDigits 10 second := by
    simpa [identifier, Nat.repr_eq_ofList_toDigits, String.ofList_inj] using same
  calc first = Nat.ofDigitChars 10 (Nat.toDigits 10 first) 0 := by simp
    _ = Nat.ofDigitChars 10 (Nat.toDigits 10 second) 0 := by rw [digits]
    _ = second := by simp

/-- Whether a comm that the kernel opens is refused: its identifier is not taken, and no receiver
listens for its target. -/
def refuses (connection : Connection) (commId : String) (opening : Message) : Bool :=
  !connection.hasComm commId &&
    !(connection.targets.lookup (targetOf opening)).any CommTarget.isOpen

/-- The message that refuses a comm, if a message opens one that is refused. -/
def refusals (now : Instant) (message : Message) (connection : Connection) : List Message :=
  match message.commId? with
  | some commId =>
    if message.msgType = "comm_open" ∧ connection.refuses commId message then
      [(refusal now commId message connection).1]
    else []
  | none => []

namespace Occurrence

/-- The messages that are built for whoever asks for one. -/
def made (occurrence : Occurrence) : List Message :=
  match occurrence.event with
  | .makeMessage now channel msgType content =>
      [(newMessage now channel msgType content occurrence.before.connection).1]
  | _ => []

/-- The messages that the connection builds to send them. Nothing is built for a closed comm. -/
def own (occurrence : Occurrence) : List Message :=
  let connection := occurrence.before.connection
  match occurrence.event with
  | .request now wanted =>
      [(newMessage now .shell wanted.msgType wanted.content connection).1]
  | .sendInput now value parent => [(inputReply now value parent connection).1]
  | .sendComm now comm outgoing =>
      if comm.isClosed then [] else [(commMessage now outgoing connection).1]
  | .closeComm now comm data metadata =>
      if comm.isClosed then []
      else [(commMessage now (.closing comm data metadata) connection).1]
  | .frameArrived now _ => occurrence.dispatched?.toList.flatMap (refusals now · connection)
  | _ => []

/-- All messages that are built. -/
def built (occurrence : Occurrence) : List Message := occurrence.made ++ occurrence.own

/-- The message that a caller passes to be sent. -/
def passed (occurrence : Occurrence) : List Message :=
  match occurrence.event with
  | .send message _ | .sendRaw message => [message]
  | _ => []

end Occurrence

/-- What a change does to the numbers of messages when some are built in it: each takes the next
one. What is accepted was built or passed. -/
structure Numbering (before : Connection) (change : Change) (built passed : List Message) :
    Prop where
  clientId : change.1.clientId = before.clientId
  counted : change.1.nextMessage = before.nextMessage + built.length
  named : built.map Message.msgId =
    (List.range' before.nextMessage built.length).map (identifier before.clientId)
  accepted : acceptedIn change.2 ⊆ built ++ passed

variable {before middle after connection : Connection} {change : Change}
  {effects first second : List Effect} {built more passed others : List Message}

namespace Numbering

/-- Nothing is built or accepted. -/
theorem idle (clientId : change.1.clientId = before.clientId)
    (counted : change.1.nextMessage = before.nextMessage)
    (quiet : change.2.all Effect.isQuiet = true) : Numbering before change [] [] where
  clientId := clientId
  counted := counted
  named := rfl
  accepted := by rw [acceptedIn_of_isQuiet quiet]; exact List.nil_subset _

theorem refl (connection : Connection) : Numbering connection (unchanged connection) [] [] :=
  idle rfl rfl rfl

theorem append (start : Numbering before (middle, first) built passed)
    (rest : Numbering middle (after, second) more others) :
    Numbering before (after, first ++ second) (built ++ more) (passed ++ others) where
  clientId := rest.clientId.trans start.clientId
  counted := by
    have early : middle.nextMessage = before.nextMessage + built.length := start.counted
    have late : after.nextMessage = middle.nextMessage + more.length := rest.counted
    simp only [List.length_append]
    omega
  named := by
    have counted : middle.nextMessage = before.nextMessage + built.length := start.counted
    have named : middle.clientId = before.clientId := start.clientId
    rw [List.map_append, start.named, rest.named, List.length_append, named, counted,
      ← List.range'_append_1, List.map_append]
  accepted := by
    intro message member
    have early := @start.accepted message
    have late := @rest.accepted message
    simp only [acceptedIn_append, List.mem_append] at member early late ⊢
    tauto

theorem andThen {next : Connection → Change} (start : Numbering before change built passed)
    (rest : Numbering change.1 (next change.1) more others) :
    Numbering before (change.andThen next) (built ++ more) (passed ++ others) :=
  append start rest

/-- A change may as well start from a connection with the same numbers. -/
theorem startsFrom (numbering : Numbering middle change built passed)
    (clientId : middle.clientId = before.clientId)
    (counted : middle.nextMessage = before.nextMessage) :
    Numbering before change built passed where
  clientId := numbering.clientId.trans clientId
  counted := numbering.counted.trans (by rw [counted])
  named := by rw [numbering.named, clientId, counted]
  accepted := numbering.accepted

/-- A message takes the next number. -/
theorem ofNew {message : Message} {created : Connection}
    (named : message.msgId = identifier before.clientId before.nextMessage)
    (counts : created = { before with nextMessage := before.nextMessage + 1 }) :
    Numbering before (unchanged created) [message] [] where
  clientId := by rw [counts]; rfl
  counted := by rw [counts]; rfl
  named := by simp [named]
  accepted := List.nil_subset _

/-- A message that is built and then passed is only built. -/
theorem sends {message : Message} {created : Connection}
    (named : message.msgId = identifier before.clientId before.nextMessage)
    (counts : created = { before with nextMessage := before.nextMessage + 1 })
    (numbering : Numbering created change [] [message]) :
    Numbering before change [message] [] := by
  have whole : Numbering before change [message] [message] := (ofNew named counts).append numbering
  refine ⟨whole.clientId, whole.counted, whole.named, fun accepted member => ?_⟩
  simpa using whole.accepted member

end Numbering

theorem Transmission.numbering {message : Message} {call : Call Unit}
    (transmission : Transmission message connection call) :
    Numbering connection call.2 [] [message] := by
  have accepted := transmission.accepted
  refine ⟨?_, ?_, rfl, fun taken member => ?_⟩
  · cases transmission <;> rfl
  · cases transmission <;> rfl
  · rw [accepted] at member
    split at member
    · exact member
    · cases member

theorem Sending.numbering {message : Message} {expectsReply : Bool} {call : Call Nat}
    (sending : Sending message expectsReply connection call) :
    Numbering connection call.2 [] [message] := by
  cases sending with
  | refused error => exact ⟨rfl, rfl, rfl, List.nil_subset _⟩
  | kept accepts fresh transmitted =>
      obtain ⟨clientId, counted, named, accepted⟩ := transmitted.numbering
      exact ⟨clientId, counted, named, accepted⟩

theorem numbering_sendRaw (message : Message) (connection : Connection) :
    Numbering connection (sendRaw message connection).2 [] [message] :=
  (sendRaw_transmission message connection).numbering

theorem numbering_send (message : Message) (expectsReply : Bool) (connection : Connection) :
    Numbering connection (send message expectsReply connection).2 [] [message] :=
  (send_sending message expectsReply connection).numbering

theorem numbering_sendComm {comm : Comm} (isOpen : comm.isClosed = false) (now : Instant)
    (outgoing : CommMessage) (connection : Connection) :
    Numbering connection (sendComm now comm outgoing connection).2
      [(commMessage now outgoing connection).1] [] := by
  rw [sendComm, if_neg (by simp [isOpen])]
  have named : (commMessage now outgoing connection).1.msgId =
      identifier connection.clientId connection.nextMessage := by
    cases metadata : outgoing.metadata <;> simp only [commMessage, metadata] <;> rfl
  exact .sends named rfl (numbering_send _ false _)

theorem numbering_unregisterComm (commId : String) (connection : Connection) :
    Numbering connection (unregisterComm commId connection) [] [] :=
  .idle rfl rfl (all_isQuiet_releases _)

theorem numbering_closeComm {comm : Comm} (isOpen : comm.isClosed = false) (now : Instant)
    (data : Json) (metadata : Option Json) (connection : Connection) :
    Numbering connection (closeComm now comm data metadata connection).2
      [(commMessage now (.closing comm data metadata) connection).1] [] := by
  have sent := numbering_sendComm isOpen now (.closing comm data metadata) connection
  unfold closeComm
  split
  case h_1 error change failed =>
    rw [failed] at sent
    exact sent
  case h_2 msgId key change succeeded =>
    rw [succeeded] at sent
    exact sent.andThen (numbering_unregisterComm comm.commId _)

/-- A closed comm sends nothing. -/
theorem closeComm_of_isClosed {comm : Comm} (closed : comm.isClosed = true) (now : Instant)
    (data : Json) (metadata : Option Json) (connection : Connection) :
    (closeComm now comm data metadata connection).2 = unchanged connection := by
  rw [closeComm, sendComm, if_pos closed]
  rfl

theorem numbering_registerTarget (name : String) (connection : Connection) :
    Numbering connection (registerTarget name connection).2 [] [] := by
  unfold registerTarget
  split
  · exact .refl connection
  · exact .idle rfl rfl (all_isQuiet_targetReleases _)

theorem numbering_createComm (targetName commId : String) (connection : Connection) :
    Numbering connection (createComm targetName commId connection).2 [] [] := by
  unfold createComm
  split
  · exact .refl connection
  · split <;> exact .idle rfl rfl rfl

theorem numbering_dropComm (comm : Comm) (connection : Connection) :
    Numbering connection (dropComm comm connection) [] [] := by
  unfold dropComm
  split
  · exact .refl connection
  · exact numbering_unregisterComm comm.commId connection

theorem StatusChange.numbering {status : KernelStatus}
    (changed : StatusChange connection status change) : Numbering connection change [] [] := by
  cases changed with
  | same | plain => exact .idle rfl rfl rfl
  | died | autoRestarted => exact .idle rfl rfl (by simp [Effect.isQuiet])

theorem numbering_setStatus (status : KernelStatus) (connection : Connection) :
    Numbering connection (setStatus status connection) [] [] :=
  (setStatus_statusChange status connection).numbering

theorem numbering_setConnectionStatus (status : ConnectionStatus) (connection : Connection) :
    Numbering connection (setConnectionStatus status connection) [] [] := by
  unfold setConnectionStatus
  split
  · exact .refl connection
  · exact .idle rfl rfl rfl

theorem numbering_dropSocket (connection : Connection) :
    Numbering connection (dropSocket connection) [] [] := by
  have left := dropSocket_frame connection
  exact .idle (by rw [left]) (by rw [left]) (all_isQuiet_dropSocket connection)

theorem numbering_dispose (connection : Connection) :
    Numbering connection (dispose connection) [] [] := by
  cases disposed : connection.isDisposed with
  | true =>
      rw [dispose_again disposed]
      exact .refl connection
  | false =>
      rw [dispose_first disposed]
      exact .idle rfl rfl (by simp [Effect.isQuiet])

theorem numbering_shutDown (connection : Connection) :
    Numbering connection (shutDown connection) [] [] :=
  (numbering_setStatus .dead connection).andThen (numbering_dispose _)

theorem numbering_restartAnswered (connection : Connection) :
    Numbering connection (Event.change (.restartAnswered true) connection) [] [] := by
  simp only [Event.change, restarted]
  split
  case h_1 change restarts =>
    split at restarts
    · cases restarts
    · cases restarts
      exact (numbering_setStatus .restarting connection).andThen
        (.idle rfl rfl (by simp [clear]))
  case h_2 => exact .refl connection

theorem numbering_retry (connection : Connection) :
    Numbering connection (retry connection) [] [] := by
  unfold retry
  split
  · have noted (ended : Connection) (line : LogLine) : Numbering ended (ended, [.log line]) [] [] :=
      .idle rfl rfl rfl
    exact ((noted _ _).andThen (numbering_setStatus .dead _)).startsFrom rfl rfl
  · exact .idle rfl rfl rfl

theorem numbering_lose (connection : Connection) :
    Numbering connection (lose connection) [] [] := by
  unfold lose
  split
  · exact .idle rfl rfl rfl
  · refine (numbering_dropSocket connection).andThen ?_
    refine (numbering_setConnectionStatus .disconnected _).andThen ?_
    exact (numbering_retry _).startsFrom rfl rfl

theorem numbering_loseUnopened (connection : Connection) :
    Numbering connection (loseUnopened connection) [] [] := by
  unfold loseUnopened
  split
  · exact numbering_lose connection
  · exact .refl connection

theorem numbering_beginConnecting (connection : Connection) :
    Numbering connection (beginConnecting connection) [] [] := by
  unfold beginConnecting
  split
  · exact .idle rfl rfl rfl
  · have announced (connecting : Connection) :
        Numbering connecting (connecting, [.connect]) [] [] := .idle rfl rfl rfl
    exact ((numbering_setConnectionStatus .connecting _).andThen (announced _)).startsFrom rfl rfl

theorem numbering_connectFailed (error : ServiceError) (connection : Connection) :
    Numbering connection (connectFailed error connection) [] [] := by
  unfold connectFailed
  split <;> exact .idle rfl rfl rfl

theorem numbering_connected (socket : ActiveSocket) (connection : Connection) :
    Numbering connection (connected socket connection) [] [] := by
  unfold connected
  split
  · exact .idle rfl rfl rfl
  · have flushed : Numbering connection ({ connection with
        queue := (flush socket connection.queue).left },
        (flush socket connection.queue).effects) [] [] :=
      ⟨rfl, rfl, rfl, by simp [acceptedIn_flush]⟩
    refine flushed.andThen ?_
    split
    · exact (numbering_setConnectionStatus .connected _).startsFrom rfl rfl
    · have closed (waiting : Connection) :
          Numbering waiting (waiting, closing socket) [] [] := .idle rfl rfl rfl
      exact (closed _).andThen (numbering_connectFailed _ _)

theorem numbering_inputEnded (connection : Connection) :
    Numbering connection (inputEnded connection) [] [] := by
  unfold inputEnded
  split
  · have closed (socket : Nat) :
        Numbering connection (connection, [.inputClosed socket]) [] [] := .idle rfl rfl rfl
    exact (closed _).andThen (numbering_lose connection)
  · exact .refl connection

theorem numbering_stop (connection : Connection) :
    Numbering connection (stop connection) [] [] := by
  unfold stop
  split <;> exact .idle rfl rfl rfl

theorem numbering_applyStatus (message : Message) (connection : Connection) :
    Numbering connection (applyStatus message connection) [] [] := by
  obtain ⟨status, changed⟩ := applyStatus_statusChange message connection
  exact changed.numbering

/-- What a message tells requests concerns nothing else. -/
theorem deliver_fst (message : Message) (connection : Connection) :
    ∃ pending, (deliver message connection).1 = { connection with pending := pending } := by
  unfold deliver
  split
  · unfold answer
    dsimp only
    split <;> exact ⟨_, rfl⟩
  · exact ⟨_, rfl⟩

theorem numbering_deliver (message : Message) (connection : Connection) :
    Numbering connection (deliver message connection) [] [] := by
  obtain ⟨pending, left⟩ := deliver_fst message connection
  refine .idle (by rw [left]) (by rw [left]) ?_
  unfold deliver
  split
  · unfold answer
    dsimp only
    split <;> rfl
  · rfl

/-- A refusal takes the next number, whatever else is different. -/
theorem numbering_rejectComm (now : Instant) (commId : String) (opening : Message)
    (connection : Connection) :
    Numbering connection (rejectComm now commId opening connection)
      [(refusal now commId opening connection).1] [] :=
  .sends rfl rfl (numbering_sendRaw _ _)

theorem numbering_acceptComm (now : Instant) (commId : String) (opening : Message)
    (connection : Connection) :
    Numbering connection (acceptComm now commId opening connection)
      (if connection.refuses commId opening then [(refusal now commId opening connection).1]
        else []) [] := by
  unfold acceptComm refuses
  split
  case isTrue known =>
    rw [if_neg (by simp [known])]
    exact .idle rfl rfl rfl
  case isFalse unknown =>
    have noted (warned : Connection) (line : LogLine) :
        Numbering warned (warned, [.log line]) [] [] := .idle rfl rfl rfl
    split
    case h_1 untargeted =>
      rw [if_pos (by simp [unknown, untargeted])]
      exact (noted _ _).andThen (numbering_rejectComm now commId opening connection)
    case h_2 target found =>
      dsimp only
      split
      case isTrue isOpen =>
        rw [if_neg (by simp [found, isOpen])]
        exact .idle rfl rfl rfl
      case isFalse isGone =>
        rw [if_pos (by simp [unknown, found, isGone])]
        -- The comm is registered and let go of, and the target taken away, before it is refused.
        have removed (warned : Connection) :
            Numbering warned (removeTarget (targetOf opening) warned) [] [] :=
          .idle rfl rfl (all_isQuiet_targetReleases _)
        have refused (warned : Connection) :=
          (removed warned).andThen (numbering_rejectComm now commId opening _)
        exact ((numbering_unregisterComm commId _).andThen
          ((noted _ _).andThen (refused _))).startsFrom rfl rfl

theorem numbering_routeComm (now : Instant) (message : Message) (connection : Connection) :
    Numbering connection (routeComm now message connection)
      (refusals now message connection) [] := by
  unfold routeComm refusals
  cases message.commId? with
  | none => exact .refl connection
  | some commId =>
      dsimp only
      by_cases opening : message.msgType = "comm_open"
      · simp only [opening, if_true, true_and]
        exact numbering_acceptComm now commId message connection
      · simp only [opening, if_false, false_and]
        split <;> split <;> exact .idle rfl rfl rfl

/-- What is refused depends on what a message finds when it arrives. -/
theorem refusals_delivered (now : Instant) {message : Message} (comm : message.isComm = true)
    (connection : Connection) :
    refusals now message (delivered message connection) = refusals now message connection := by
  obtain ⟨pending, left⟩ := deliver_fst message connection
  have same : delivered message connection = { connection with pending := pending } := by
    rw [delivered, current, applyStatus_of_isComm comm]
    exact left
  rw [same]
  rfl

theorem refusals_of_not_isComm (now : Instant) {message : Message} (other : message.isComm = false)
    (connection : Connection) : refusals now message connection = [] := by
  have unnamed : message.commId? = none := if_neg (by simp [other])
  simp only [refusals, unnamed]

theorem numbering_dispatch (alive : connection.isDisposed = false) (now : Instant)
    (message : Message) :
    Numbering connection (dispatch now message connection) (refusals now message connection)
      [] := by
  have received : Numbering connection (connection, [.received message]) [] [] :=
    .idle rfl rfl rfl
  have passes (claimed : Bool) : Numbering (delivered message connection)
      (pass now message claimed (delivered message connection))
      (refusals now message connection) [] := by
    unfold pass
    split
    case isTrue comm =>
      rw [← refusals_delivered now comm]
      exact numbering_routeComm now message _
    case isFalse other =>
      rw [refusals_of_not_isComm now (by simpa using other)]
      split <;> exact .idle rfl rfl rfl
  rw [dispatch, if_neg (by simp [alive])]
  refine received.andThen ((numbering_applyStatus message connection).andThen ?_)
  exact (numbering_deliver message _).andThen (passes _)

theorem Occurrence.numbering_frameArrived {occurrence : Occurrence} {now : Instant} {frame : Frame}
    (happened : occurrence.event = .frameArrived now frame) :
    Numbering occurrence.before.connection
      (frameArrived now frame occurrence.before.connection)
      (occurrence.dispatched?.toList.flatMap (refusals now · occurrence.before.connection)) [] := by
  cases arrives : occurrence.dispatched? with
  | some message =>
      obtain ⟨alive, -⟩ := dispatched?_eq_some arrives
      obtain ⟨_, _, same, change⟩ := change_of_dispatched arrives
      rw [happened] at same change
      cases same
      have dispatched := numbering_dispatch alive now message
      rw [← change] at dispatched
      have alone : (some message).toList.flatMap (refusals now · occurrence.before.connection) =
          refusals now message occurrence.before.connection := by simp
      rw [alone]
      exact dispatched
  | none =>
      unfold frameArrived
      split
      case h_1 socket protocol reading =>
        unfold receive
        split
        case h_1 message decoded =>
          cases disposed : occurrence.before.connection.isDisposed with
          | true =>
              rw [dispatch, if_pos disposed]
              exact .refl _
          | false =>
              rw [dispatched?_of_decode disposed happened reading decoded] at arrives
              cases arrives
        case h_2 => exact .idle rfl rfl rfl
      case h_2 => exact .refl _

/-- What every event does to the numbers of messages. -/
theorem Occurrence.numbering (occurrence : Occurrence) :
    Numbering occurrence.before.connection
      (occurrence.event.change occurrence.before.connection) occurrence.built
      occurrence.passed := by
  unfold built made own passed
  cases happened : occurrence.event with
  | makeMessage now channel msgType content => exact .ofNew rfl rfl
  | send message expectsReply => exact numbering_send message expectsReply _
  | sendRaw message => exact numbering_sendRaw message _
  | request now wanted => exact .sends rfl rfl (numbering_send _ true _)
  | sendInput now value parent =>
      have named : (inputReply now value parent occurrence.before.connection).1.msgId =
          identifier occurrence.before.connection.clientId
            occurrence.before.connection.nextMessage := by
        cases parent <;> rfl
      exact .sends named rfl (numbering_sendRaw _ _)
  | sendComm now comm outgoing =>
      cases closed : comm.isClosed with
      | false =>
          simp only [List.nil_append, closed, Bool.false_eq_true, if_false]
          exact numbering_sendComm closed now outgoing _
      | true =>
          simp only [List.nil_append, closed, if_true, Event.change, sendComm]
          exact .refl _
  | closeComm now comm data metadata =>
      cases closed : comm.isClosed with
      | false =>
          simp only [List.nil_append, closed, Bool.false_eq_true, if_false]
          exact numbering_closeComm closed now data metadata _
      | true =>
          simp only [List.nil_append, closed, if_true, Event.change, closeComm_of_isClosed closed]
          exact .refl _
  | frameArrived now frame => exact numbering_frameArrived happened
  | registerTarget name => exact numbering_registerTarget name _
  | removeTarget name => exact .idle rfl rfl (all_isQuiet_targetReleases _)
  | createComm targetName commId => exact numbering_createComm targetName commId _
  | dropComm comm => exact numbering_dropComm comm _
  | receiverGone | interrupt | restart | outputBroken => exact .idle rfl rfl rfl
  | restartAnswered succeeded =>
      cases succeeded with
      | false => exact .refl _
      | true => exact numbering_restartAnswered _
  | shutDown =>
      rcases change_shutDown occurrence.before.connection with same | shut
      · rw [same]
        exact .refl _
      · rw [shut]
        exact numbering_shutDown _
  | shutDownAnswered succeeded =>
      cases succeeded with
      | false => exact .refl _
      | true => exact numbering_shutDown _
  | dispose => exact numbering_dispose _
  | beginConnecting => exact numbering_beginConnecting _
  | connected socket =>
      exact (numbering_connected socket _).andThen (numbering_loseUnopened _)
  | connectFailed error =>
      exact (numbering_connectFailed error _).andThen (numbering_loseUnopened _)
  | inputEnded => exact numbering_inputEnded _
  | stop => exact numbering_stop _

/-- The messages that are built for whoever asks for one in a history. -/
def madeIn (history : List Occurrence) : List Message := history.flatMap Occurrence.made

/-- The messages that the connection builds to send them in a history. -/
def ownIn (history : List Occurrence) : List Message := history.flatMap Occurrence.own

/-- All messages that are built in a history. -/
def builtIn (history : List Occurrence) : List Message := history.flatMap Occurrence.built

/-- The messages that callers pass in a history. -/
def passedIn (history : List Occurrence) : List Message := history.flatMap Occurrence.passed

variable {start situation : Situation} {history : List Occurrence}

/-- What a history does to the numbers of messages. -/
theorem Run.numbering (run : Run start history situation) :
    Numbering start.connection (situation.connection, effectsOf history) (builtIn history)
      (passedIn history) := by
  induction run with
  | start => exact .refl start.connection
  | @next history before run event possible earlier =>
      have last := Occurrence.numbering ⟨before, event⟩
      have built : builtIn (history ++ [⟨before, event⟩]) =
          builtIn history ++ Occurrence.built ⟨before, event⟩ := by simp [builtIn]
      have passed : passedIn (history ++ [⟨before, event⟩]) =
          passedIn history ++ Occurrence.passed ⟨before, event⟩ := by simp [passedIn]
      rw [built, passed, effectsOf_snoc]
      exact earlier.append last

/-- The messages of a new connection are numbered from the first one on. -/
theorem Run.built_msgIds {model : KernelModel} {clientId : String} {options : ConnectionOptions}
    (run : Run (.initial model clientId options) history situation) :
    (builtIn history).map Message.msgId =
      (List.range (builtIn history).length).map (identifier clientId) := by
  have named := run.numbering.named
  rw [List.range_eq_range']
  exact named

/-- No two messages of a new connection have one identifier. -/
theorem Run.built_msgIds_nodup {model : KernelModel} {clientId : String}
    {options : ConnectionOptions} (run : Run (.initial model clientId options) history situation) :
    ((builtIn history).map Message.msgId).Nodup := by
  rw [run.built_msgIds]
  exact List.Nodup.map (identifier_injective clientId) List.nodup_range

end KernelClient.Connection
