import KernelClient.Proofs.Connection.Composition

/-!
# The way of messages to the kernel

A message that a connection accepts waits in the queue until it leaves it: it is handed to a socket,
or it has no frame under the protocol of a socket that takes what waits, or the connection is
cleared. Messages leave in the order in which they were accepted, so that a ledger of departures and
the queue together are all that was accepted, and what the sockets took is read off the ledger.
-/

namespace KernelClient.Connection

def Effect.accepted? : Effect → Option Message
  | .accepted message => some message
  | _ => none

def Effect.handed? : Effect → Option (Nat × Frame)
  | .sent socket frame => some (socket, frame)
  | _ => none

/-- The messages that are accepted. -/
def acceptedIn (effects : List Effect) : List Message := effects.filterMap Effect.accepted?

/-- The frames that are handed to sockets, with the numbers of these. -/
def handedIn (effects : List Effect) : List (Nat × Frame) := effects.filterMap Effect.handed?

/-- The frames that are handed to one socket. -/
def handedTo (socket : Nat) (effects : List Effect) : List (Nat × Frame) :=
  (handedIn effects).filter fun handed => handed.1 = socket

@[simp]
theorem acceptedIn_append (first second : List Effect) :
    acceptedIn (first ++ second) = acceptedIn first ++ acceptedIn second :=
  List.filterMap_append

@[simp]
theorem handedIn_append (first second : List Effect) :
    handedIn (first ++ second) = handedIn first ++ handedIn second :=
  List.filterMap_append

/-- Whether an effect tells nothing of messages to the kernel. -/
def Effect.isQuiet : Effect → Bool
  | .accepted _ | .sent _ _ => false
  | _ => true

theorem acceptedIn_of_isQuiet {effects : List Effect} (quiet : effects.all Effect.isQuiet) :
    acceptedIn effects = [] := by
  refine List.filterMap_eq_nil_iff.mpr fun effect member => ?_
  have silent := List.all_eq_true.mp quiet effect member
  cases effect with
  | accepted | sent => cases silent
  | _ => rfl

theorem handedIn_of_isQuiet {effects : List Effect} (quiet : effects.all Effect.isQuiet) :
    handedIn effects = [] := by
  refine List.filterMap_eq_nil_iff.mpr fun effect member => ?_
  have silent := List.all_eq_true.mp quiet effect member
  cases effect with
  | accepted | sent => cases silent
  | _ => rfl

theorem all_isQuiet_of_isAside {effects : List Effect}
    (plain : ∀ effect ∈ effects, effect.isAside) : effects.all Effect.isQuiet := by
  refine List.all_eq_true.mpr fun effect member => ?_
  have aside := plain effect member
  cases effect with
  | accepted | sent => cases aside
  | _ => rfl

@[simp]
theorem all_isQuiet_rejections (error : ServiceError) (pending : List (String × PendingReply)) :
    (rejections error pending).all Effect.isQuiet = true := by
  simp [rejections, Effect.isQuiet]

@[simp]
theorem all_isQuiet_releases (comms : List (String × Nat)) :
    (releases comms).all Effect.isQuiet = true :=
  all_isQuiet_of_isAside isAside_of_mem_releases

@[simp]
theorem all_isQuiet_targetReleases (targets : List (String × CommTarget)) :
    (targetReleases targets).all Effect.isQuiet = true :=
  all_isQuiet_of_isAside isAside_of_mem_targetReleases

@[simp]
theorem all_isQuiet_dropSocket (connection : Connection) :
    (dropSocket connection).2.all Effect.isQuiet = true := by
  unfold dropSocket
  split <;> rfl

/-- The message that a call hands over, and whether the call succeeds. -/
def Event.offer? (event : Event) (connection : Connection) : Option (Message × Bool) :=
  match event with
  | .send message expectsReply =>
      some (message, (Connection.send message expectsReply connection).1.isOk)
  | .sendRaw message => some (message, (Connection.sendRaw message connection).1.isOk)
  | .request now wanted =>
      some ((newMessage now .shell wanted.msgType wanted.content connection).1,
        (Connection.request now wanted connection).2.1.isOk)
  | .sendInput now value parent =>
      some ((inputReply now value parent connection).1,
        (Connection.sendInput now value parent connection).1.isOk)
  | .sendComm now comm outgoing =>
      some ((commMessage now outgoing connection).1,
        (Connection.sendComm now comm outgoing connection).1.isOk)
  | .closeComm now comm data metadata =>
      some ((commMessage now (.closing comm data metadata) connection).1,
        (Connection.closeComm now comm data metadata connection).1.isOk)
  | _ => none

theorem Transmission.accepted {message : Message} {before : Connection} {call : Call Unit}
    (transmission : Transmission message before call) :
    acceptedIn call.2.2 = if call.1.isOk then [message] else [] := by
  cases transmission <;> rfl

theorem Sending.accepted {message : Message} {expectsReply : Bool} {before : Connection}
    {call : Call Nat} (sending : Sending message expectsReply before call) :
    acceptedIn call.2.2 = if call.1.isOk then [message] else [] := by
  cases sending with
  | refused error => rfl
  | kept accepts fresh transmitted => exact transmitted.accepted

theorem accepted_sendComm (now : Instant) (comm : Comm) (outgoing : CommMessage)
    (connection : Connection) :
    acceptedIn (sendComm now comm outgoing connection).2.2 =
      if (sendComm now comm outgoing connection).1.isOk then
        [(commMessage now outgoing connection).1]
      else [] := by
  unfold sendComm
  split
  · rfl
  · have accepted := (send_sending (commMessage now outgoing connection).1 false
      (commMessage now outgoing connection).2).accepted
    have same : ∀ result : Except ServiceError Nat, (result.map fun key =>
        ((commMessage now outgoing connection).1.msgId, key)).isOk = result.isOk := by
      intro result
      cases result <;> rfl
    dsimp only
    rw [accepted, same]

theorem accepted_closeComm (now : Instant) (comm : Comm) (data : Json) (metadata : Option Json)
    (connection : Connection) :
    acceptedIn (closeComm now comm data metadata connection).2.2 =
      if (closeComm now comm data metadata connection).1.isOk then
        [(commMessage now (.closing comm data metadata) connection).1]
      else [] := by
  have accepted := accepted_sendComm now comm (.closing comm data metadata) connection
  unfold closeComm
  split
  case h_1 error change sent =>
    rw [sent] at accepted
    exact accepted
  case h_2 msgId key change sent =>
    rw [sent] at accepted
    have released : acceptedIn (unregisterComm comm.commId change.1).2 = [] :=
      acceptedIn_of_isQuiet (all_isQuiet_releases _)
    calc acceptedIn (change.2 ++ (unregisterComm comm.commId change.1).2)
        = acceptedIn change.2 := by rw [acceptedIn_append, released, List.append_nil]
      _ = [(commMessage now (.closing comm data metadata) connection).1] := accepted

/-- The message of a call is accepted exactly if the call succeeds. -/
theorem Event.acceptedIn_of_offer (event : Event) (connection : Connection) {message : Message}
    {succeeds : Bool} (offer : event.offer? connection = some (message, succeeds)) :
    acceptedIn (event.change connection).2 = if succeeds then [message] else [] := by
  cases event with
  | send message expectsReply =>
      cases offer
      exact (send_sending message expectsReply connection).accepted
  | sendRaw message =>
      cases offer
      exact (sendRaw_transmission message connection).accepted
  | request now wanted =>
      cases offer
      exact (send_sending _ true _).accepted
  | sendInput now value parent =>
      cases offer
      exact (sendRaw_transmission _ _).accepted
  | sendComm now comm outgoing =>
      cases offer
      exact accepted_sendComm now comm outgoing connection
  | closeComm now comm data metadata =>
      cases offer
      exact accepted_closeComm now comm data metadata connection
  | _ => cases offer

/-- How a message leaves the queue. -/
inductive Fate where
  | handed (socket : Nat) (frame : Frame)
  | unencodable (socket : Nat)
  | cleared (cause : Clearing)
deriving Inhabited

/-- A message that was accepted and does not wait any more. -/
structure Departure where
  message : Message
  fate : Fate
deriving Inhabited

/-- The frame that a departure hands to a socket. -/
def Departure.handed? (departure : Departure) : Option (Nat × Frame) :=
  match departure.fate with
  | .handed socket frame => some (socket, frame)
  | _ => none

/-- Whether a number and a protocol are those of the last socket. -/
def IsLast (sockets : List WireProtocol) (socket : Nat) (protocol : WireProtocol) : Prop :=
  ∃ earlier, sockets = earlier ++ [protocol] ∧ earlier.length = socket

/-- Whether a departure has a reason in an event. Frames go to the last socket, and are those of
their messages under its protocol. Only a socket that was just opened leaves messages out. -/
inductive Departure.IsDue (event : Event) (sockets : List WireProtocol) (effects : List Effect) :
    Departure → Prop where
  | handed {message : Message} {socket : Nat} {protocol : WireProtocol} {frame : Frame}
      (last : IsLast sockets socket protocol) (encoded : message.encode protocol = .ok frame) :
      IsDue event sockets effects ⟨message, .handed socket frame⟩
  | unencodable {message : Message} {socket : ActiveSocket} {fault : FrameFault}
      (opened : event = .connected socket) (last : IsLast sockets socket.number socket.protocol)
      (faulty : message.encode socket.protocol = .error fault) :
      IsDue event sockets effects ⟨message, .unencodable socket.number⟩
  | cleared {message : Message} {cause : Clearing} (clears : Clears event effects cause) :
      IsDue event sockets effects ⟨message, .cleared cause⟩

theorem Departure.IsDue.mono {event : Event} {sockets : List WireProtocol}
    {few many : List Effect} {departure : Departure} (due : departure.IsDue event sockets few)
    (included : few ⊆ many) : departure.IsDue event sockets many := by
  cases due with
  | handed last encoded => exact .handed last encoded
  | unencodable opened last faulty => exact .unencodable opened last faulty
  | cleared clears => exact .cleared (clears.mono included)

/-- What a change does to messages, when some leave the queue in it. What was waiting and what is
accepted is what leaves and what waits then, in this order. -/
structure Passage (event : Event) (sockets : List WireProtocol) (before : Connection)
    (change : Change) (gone : List Departure) : Prop where
  accounts : before.queue ++ acceptedIn change.2 = gone.map Departure.message ++ change.1.queue
  handed : handedIn change.2 = gone.filterMap Departure.handed?
  due : ∀ departure ∈ gone, departure.IsDue event sockets change.2

namespace Passage

variable {event : Event} {sockets : List WireProtocol} {before middle after : Connection}
  {change : Change} {first second : List Effect} {gone left : List Departure}

/-- Nothing leaves the queue. -/
theorem idle (queue : change.1.queue = before.queue) (quiet : change.2.all Effect.isQuiet) :
    Passage event sockets before change [] where
  accounts := by simp [acceptedIn_of_isQuiet quiet, queue]
  handed := handedIn_of_isQuiet quiet
  due := by simp

/-- Everything leaves the queue. -/
theorem clear (cause : Clearing) (queue : change.1.queue = [])
    (quiet : change.2.all Effect.isQuiet) (clears : Clears event change.2 cause) :
    Passage event sockets before change
      (before.queue.map fun message => ⟨message, .cleared cause⟩) where
  accounts := by simp [acceptedIn_of_isQuiet quiet, queue, Function.comp_def]
  handed := by
    rw [handedIn_of_isQuiet quiet, List.filterMap_map]
    exact (List.filterMap_eq_nil_iff.mpr fun _ _ => rfl).symm
  due := by
    intro departure member
    obtain ⟨message, -, rfl⟩ := List.mem_map.mp member
    exact .cleared clears

theorem append (start : Passage event sockets before (middle, first) gone)
    (rest : Passage event sockets middle (after, second) left) :
    Passage event sockets before (after, first ++ second) (gone ++ left) where
  accounts := by
    calc before.queue ++ acceptedIn (first ++ second)
        = (before.queue ++ acceptedIn first) ++ acceptedIn second := by simp
      _ = gone.map Departure.message ++ (middle.queue ++ acceptedIn second) := by
          rw [start.accounts, List.append_assoc]
      _ = (gone ++ left).map Departure.message ++ after.queue := by
          rw [rest.accounts, List.map_append, List.append_assoc]
  handed := by
    rw [handedIn_append, List.filterMap_append, start.handed, rest.handed]
  due := by
    intro departure member
    rcases List.mem_append.mp member with early | late
    · exact (start.due departure early).mono (List.subset_append_left first second)
    · exact (rest.due departure late).mono (List.subset_append_right first second)

end Passage

/-- Whether the socket that is written to is the last one that was opened. -/
def WritesLast (sockets : List WireProtocol) (connection : Connection) : Prop :=
  ∀ socket, connection.socket = some socket → IsLast sockets socket.number socket.protocol

theorem Transmission.passage {event : Event} {sockets : List WireProtocol} {message : Message}
    {before : Connection} {call : Call Unit} (transmission : Transmission message before call)
    (sound : SocketSound before) (writes : WritesLast sockets before) :
    ∃ gone, Passage event sockets before call.2 gone := by
  cases transmission with
  | refused error => exact ⟨[], .idle rfl rfl⟩
  | queued free => exact ⟨[], rfl, rfl, by simp⟩
  | @written socket written frame present encoded wrote =>
      have drained := sound.drained socket present
      refine ⟨[⟨message, .handed socket.number frame⟩], ?_, rfl, ?_⟩
      · simp [drained, acceptedIn, Effect.accepted?]
      · intro departure member
        cases List.mem_singleton.mp member
        exact .handed (writes socket present) encoded
  | broken present isFull => exact ⟨[], rfl, rfl, by simp⟩

/-- Writing what waits hands over the frames of those messages that have one, up to the first that
the socket does not take. -/
theorem flush_accounts {event : Event} {sockets : List WireProtocol} {opened : ActiveSocket}
    (connects : event = .connected opened)
    (last : IsLast sockets opened.number opened.protocol) (effects : List Effect)
    (queue : List Message) (socket : ActiveSocket) (number : socket.number = opened.number)
    (protocol : socket.protocol = opened.protocol) :
    ∃ gone : List Departure, queue = gone.map Departure.message ++ (flush socket queue).left ∧
      handedIn (flush socket queue).effects = gone.filterMap Departure.handed? ∧
      ∀ departure ∈ gone, departure.IsDue event sockets effects := by
  induction queue generalizing socket with
  | nil => exact ⟨[], rfl, rfl, by simp⟩
  | cons message rest later =>
      unfold flush
      split
      case h_1 fault faulty =>
        obtain ⟨gone, accounts, handed, due⟩ := later socket number protocol
        refine ⟨⟨message, .unencodable opened.number⟩ :: gone, ?_, handed, ?_⟩
        · rw [List.map_cons, List.cons_append, ← accounts]
        · intro departure member
          rcases List.mem_cons.mp member with rfl | other
          · exact .unencodable connects last (protocol ▸ faulty)
          · exact due departure other
      case h_2 frame encoded =>
        split
        case h_1 written wrote =>
          obtain ⟨sameNumber, sameProtocol⟩ := ActiveSocket.write?_eq wrote
          obtain ⟨gone, accounts, handed, due⟩ :=
            later written (sameNumber.trans number) (sameProtocol.trans protocol)
          refine ⟨⟨message, .handed socket.number frame⟩ :: gone, ?_, ?_, ?_⟩
          · rw [List.map_cons, List.cons_append, ← accounts]
          · exact congrArg (List.cons (socket.number, frame)) handed
          · intro departure member
            rcases List.mem_cons.mp member with rfl | other
            · exact .handed (number ▸ last) (protocol ▸ encoded)
            · exact due departure other
        case h_2 => exact ⟨[], rfl, rfl, by simp⟩

theorem acceptedIn_flush (socket : ActiveSocket) (queue : List Message) :
    acceptedIn (flush socket queue).effects = [] := by
  refine List.filterMap_eq_nil_iff.mpr fun effect member => ?_
  rcases flush_effects socket queue effect member with ⟨_, _, rfl⟩ | ⟨_, rfl⟩ <;> rfl

theorem StatusChange.passage {event : Event} {sockets : List WireProtocol} {before : Connection}
    {status : KernelStatus} {change : Change} (changed : StatusChange before status change) :
    ∃ gone, Passage event sockets before change gone := by
  cases changed with
  | same => exact ⟨[], .idle rfl rfl⟩
  | plain => exact ⟨[], .idle rfl rfl⟩
  | died =>
      exact ⟨_, .clear .death rfl (by simp [Effect.isQuiet]) (by simp [Clears])⟩
  | autoRestarted =>
      exact ⟨_, .clear .autoRestart rfl (by simp [Effect.isQuiet]) (by simp [Clears])⟩

theorem dispose_passage (event : Event) (sockets : List WireProtocol) (before : Connection) :
    ∃ gone, Passage event sockets before (dispose before) gone := by
  cases disposed : before.isDisposed with
  | true =>
      rw [dispose_again disposed]
      exact ⟨[], .idle rfl rfl⟩
  | false =>
      rw [dispose_first disposed]
      exact ⟨_, .clear .disposal rfl (by simp [Effect.isQuiet]) (by simp [Clears])⟩

/-- A socket that was just opened is the last one. -/
theorem isLast_of_connected {occurrence : Occurrence} {socket : ActiveSocket}
    (opened : occurrence.event = .connected socket)
    (possible : occurrence.event.isPossible occurrence.before = true) :
    IsLast occurrence.after.sockets socket.number socket.protocol := by
  rw [opened] at possible
  refine ⟨occurrence.before.sockets, ?_, (of_decide_eq_true possible).2.symm⟩
  simp [Occurrence.after, Situation.after, Situation.socketsAfter, opened]

/-- Each part of an event does to messages what a passage allows. -/
theorem Part.passage {occurrence : Occurrence} {before : Connection} {change : Change}
    {requests : List RequestLabel} (part : Part occurrence before change requests)
    (possible : occurrence.event.isPossible occurrence.before = true)
    (sound : SocketSound before) (writes : WritesLast occurrence.after.sockets before) :
    ∃ gone, Passage occurrence.event occurrence.after.sockets before change gone := by
  cases part with
  | aside kept plain => exact ⟨[], .idle kept.queue (all_isQuiet_of_isAside plain)⟩
  | send sending =>
      cases sending with
      | refused error => exact ⟨[], .idle rfl rfl⟩
      | kept accepts fresh transmitted =>
          obtain ⟨gone, passage⟩ := transmitted.passage sound writes
          exact ⟨gone, passage.accounts, passage.handed, passage.due⟩
  | sendRaw transmission => exact transmission.passage sound writes
  | setStatus sets changed => exact changed.passage
  | enter => exact ⟨[], .idle rfl rfl⟩
  | dropSocket plain => exact ⟨[], .idle rfl (all_isQuiet_of_isAside plain)⟩
  | dispose => exact dispose_passage _ _ before
  | clear answered alive =>
      exact ⟨_, .clear .restart rfl (by simp [Connection.clear]) answered⟩
  | answer read asked held waits answered => cases answered <;> exact ⟨[], .idle rfl rfl⟩
  | @flush _ socket opened free =>
      obtain ⟨gone, accounts, handed, due⟩ := flush_accounts opened
        (isLast_of_connected opened possible) (Connection.flush socket before.queue).effects
        before.queue socket rfl rfl
      refine ⟨gone, ?_, handed, due⟩
      rw [acceptedIn_flush, List.append_nil]
      exact accounts
  | install => exact ⟨[], .idle rfl rfl⟩
  | outputBroken => exact ⟨[], .idle rfl rfl⟩

/-- A socket that was there before is still the last one. -/
theorem WritesLast.ofInherited {sockets : List WireProtocol} {before after : Connection}
    (writes : WritesLast sockets before) (inherits : InheritsSocket before after) :
    WritesLast sockets after := by
  intro socket present
  obtain ⟨earlier, before, number, protocol, -⟩ := inherits socket present
  rw [number, protocol]
  exact writes earlier before

/-- Each part of an event writes to the last socket if the parts before did. -/
theorem Part.writesLast {occurrence : Occurrence} {before : Connection} {change : Change}
    {requests : List RequestLabel} (part : Part occurrence before change requests)
    (possible : occurrence.event.isPossible occurrence.before = true)
    (writes : WritesLast occurrence.after.sockets before) :
    WritesLast occurrence.after.sockets change.1 := by
  cases part with
  | aside kept => exact fun socket present => writes socket (kept.socket ▸ present)
  | send sending =>
      cases sending with
      | refused error => exact writes
      | kept accepts fresh transmitted => exact writes.ofInherited transmitted.inherits
  | sendRaw transmission => exact writes.ofInherited transmission.inherits
  | setStatus sets changed => cases changed <;> exact writes
  | enter => exact writes
  | dropSocket =>
      intro socket present
      cases present
  | dispose =>
      cases disposed : before.isDisposed with
      | true => exact dispose_again disposed ▸ writes
      | false =>
          rw [dispose_first disposed]
          intro socket present
          cases present
  | clear => exact writes
  | answer read asked held waits answered => cases answered <;> exact writes
  | flush => exact writes
  | install opened number protocol =>
      intro socket present
      cases present
      rw [number, protocol]
      exact isLast_of_connected opened possible
  | outputBroken socket => exact writes.ofInherited (outputBroken_inherits socket)

/-- Parts one after the other do to messages what a passage allows. -/
theorem Composed.passage {occurrence : Occurrence} {before : Connection} {change : Change}
    {requests : List RequestLabel} (composed : Composed occurrence before change requests)
    (possible : occurrence.event.isPossible occurrence.before = true)
    (sound : SocketSound before) (writes : WritesLast occurrence.after.sockets before) :
    (∃ gone, Passage occurrence.event occurrence.after.sockets before change gone) ∧
      WritesLast occurrence.after.sockets change.1 := by
  induction composed with
  | part part => exact ⟨part.passage possible sound writes, part.writesLast possible writes⟩
  | append start rest first second =>
      obtain ⟨⟨gone, passage⟩, middle⟩ := first sound writes
      obtain ⟨⟨left, further⟩, last⟩ := second (start.sound sound) middle
      exact ⟨⟨gone ++ left, passage.append further⟩, last⟩

/-- Each event does to messages what a passage allows. -/
theorem Occurrence.passage (occurrence : Occurrence)
    (possible : occurrence.event.isPossible occurrence.before = true)
    (sound : SocketSound occurrence.before.connection)
    (writes : WritesLast occurrence.before.sockets occurrence.before.connection) :
    (∃ gone, Passage occurrence.event occurrence.after.sockets occurrence.before.connection
        (occurrence.event.change occurrence.before.connection) gone) ∧
      WritesLast occurrence.after.sockets occurrence.after.connection := by
  refine (occurrence.composed sound possible).passage possible sound ?_
  cases happened : occurrence.event with
  | connected socket =>
      -- There was no socket, so that the new one in the list harms nobody.
      rw [happened] at possible
      have free := sound.freeWhileConnecting (of_decide_eq_true possible).1
      intro earlier present
      cases free.symm.trans present
  | _ => simpa [Occurrence.after, Situation.after, Situation.socketsAfter, happened] using writes

/-- What leaves the queue in the events of a history, one event after the other. -/
inductive Ledger : List Occurrence → List Departure → Prop where
  | start : Ledger [] []
  | next {history : List Occurrence} {departures gone : List Departure} {occurrence : Occurrence}
      (ledger : Ledger history departures)
      (passage : Passage occurrence.event occurrence.after.sockets occurrence.before.connection
        (occurrence.event.change occurrence.before.connection) gone) :
      Ledger (history ++ [occurrence]) (departures ++ gone)

/-- The ledger of a history that starts with an empty queue, with what it tells: what was accepted
is what left and what waits, and the sockets took what left for them. -/
structure Balanced (history : List Occurrence) (queue : List Message)
    (departures : List Departure) : Prop where
  ledger : Ledger history departures
  accepted : acceptedIn (effectsOf history) = departures.map Departure.message ++ queue
  handed : handedIn (effectsOf history) = departures.filterMap Departure.handed?

theorem Balanced.next {history : List Occurrence} {departures gone : List Departure}
    {occurrence : Occurrence}
    (balanced : Balanced history occurrence.before.connection.queue departures)
    (passage : Passage occurrence.event occurrence.after.sockets occurrence.before.connection
      (occurrence.event.change occurrence.before.connection) gone) :
    Balanced (history ++ [occurrence]) occurrence.after.connection.queue
      (departures ++ gone) where
  ledger := .next balanced.ledger passage
  accepted := by
    have accounts := passage.accounts
    calc acceptedIn (effectsOf (history ++ [occurrence]))
        = departures.map Departure.message ++
            (occurrence.before.connection.queue ++ acceptedIn occurrence.effects) := by
          rw [effectsOf_snoc, acceptedIn_append, balanced.accepted, List.append_assoc]
      _ = (departures ++ gone).map Departure.message ++ occurrence.after.connection.queue := by
          rw [List.map_append, List.append_assoc]
          exact congrArg _ accounts
  handed := by
    rw [effectsOf_snoc, handedIn_append, List.filterMap_append, balanced.handed]
    exact congrArg _ passage.handed

variable {start situation : Situation} {history : List Occurrence} {departures : List Departure}

/-- The run of a connection that starts without a socket and without messages is balanced. -/
theorem Run.balanced (run : Run start history situation) (free : start.connection.socket = none)
    (empty : start.connection.queue = []) :
    (∃ departures, Balanced history situation.connection.queue departures) ∧
      WritesLast situation.sockets situation.connection := by
  induction run with
  | start =>
      refine ⟨⟨[], .start, ?_, rfl⟩, fun socket present => ?_⟩
      · rw [empty]
        rfl
      · cases free.symm.trans present
  | @next history before run event possible earlier =>
      obtain ⟨⟨departures, balanced⟩, writes⟩ := earlier
      obtain ⟨⟨gone, passage⟩, last⟩ :=
        Occurrence.passage ⟨before, event⟩ possible (run.sound (.ofFree free)) writes
      exact ⟨⟨departures ++ gone, balanced.next passage⟩, last⟩

/-- Every departure has a reason in an event of the history. -/
theorem Ledger.due (ledger : Ledger history departures) :
    ∀ departure ∈ departures, ∃ occurrence ∈ history,
      departure.IsDue occurrence.event occurrence.after.sockets occurrence.effects := by
  induction ledger with
  | start => simp
  | @next history departures gone occurrence ledger passage earlier =>
      intro departure member
      rcases List.mem_append.mp member with early | late
      · obtain ⟨reason, happened, due⟩ := earlier departure early
        exact ⟨reason, List.mem_append_left _ happened, due⟩
      · exact ⟨occurrence, by simp, passage.due departure late⟩

/-- Among pairs in ascending order that are at most a bound, those below it come first. -/
theorem filter_below_append_filter_at {α : Type} (bound : Nat) (pairs : List (Nat × α))
    (sorted : pairs.Pairwise fun first second => first.1 ≤ second.1)
    (bounded : ∀ pair ∈ pairs, pair.1 ≤ bound) :
    (pairs.filter fun pair => pair.1 < bound) ++ (pairs.filter fun pair => pair.1 = bound) =
      pairs := by
  induction pairs with
  | nil => rfl
  | cons pair rest ih =>
      rw [List.pairwise_cons] at sorted
      have others := ih sorted.2 fun other member => bounded other (List.mem_cons_of_mem _ member)
      by_cases below : pair.1 < bound
      · simp [below, Nat.ne_of_lt below, others]
      · have atBound : pair.1 = bound :=
          Nat.le_antisymm (bounded pair (List.mem_cons_self ..)) (Nat.le_of_not_lt below)
        have none (other : Nat × α) (member : other ∈ rest) : ¬other.1 < bound := by
          have ordered := sorted.1 other member
          omega
        have empty : (rest.filter fun pair => pair.1 < bound) = [] := by
          simpa [List.filter_eq_nil_iff] using none
        rw [empty, List.nil_append] at others
        simp [atBound, empty, others]

/-- Pairs in ascending order are read group after group. -/
theorem flatMap_range_filter {α : Type} (count : Nat) (pairs : List (Nat × α))
    (sorted : pairs.Pairwise fun first second => first.1 ≤ second.1)
    (bounded : ∀ pair ∈ pairs, pair.1 < count) :
    ((List.range count).flatMap fun number => pairs.filter fun pair => pair.1 = number) =
      pairs := by
  induction count generalizing pairs with
  | zero =>
      have empty : pairs = [] :=
        List.eq_nil_iff_forall_not_mem.mpr fun pair member => by simpa using bounded pair member
      rw [empty]
      rfl
  | succ count ih =>
      have below : ((List.range count).flatMap fun number =>
          pairs.filter fun pair => pair.1 = number) = pairs.filter fun pair => pair.1 < count := by
        rw [← ih (pairs.filter fun pair => pair.1 < count) (sorted.filter _)
          (fun pair member => by simpa using (List.mem_filter.mp member).2)]
        rw [List.flatMap_def, List.flatMap_def]
        refine congrArg List.flatten (List.map_congr_left fun number member => ?_)
        rw [List.filter_filter]
        refine List.filter_congr fun pair _ => ?_
        have small : number < count := List.mem_range.mp member
        by_cases same : pair.1 = number <;> simp [same, small]
      rw [List.range_succ, List.flatMap_append, below, List.flatMap_cons, List.flatMap_nil,
        List.append_nil]
      exact filter_below_append_filter_at count pairs sorted fun pair member =>
        Nat.le_of_lt_succ (bounded pair member)

/-- Frames that are handed over one socket after the other, to sockets that were opened. -/
structure HandedInTurn (sockets : List WireProtocol) (handed : List (Nat × Frame)) : Prop where
  sorted : handed.Pairwise fun first second => first.1 ≤ second.1
  opened : ∀ pair ∈ handed, pair.1 < sockets.length

theorem Passage.handed_last {event : Event} {sockets : List WireProtocol} {before : Connection}
    {change : Change} {gone : List Departure} (passage : Passage event sockets before change gone) :
    ∀ pair ∈ handedIn change.2, pair.1 + 1 = sockets.length := by
  intro pair member
  rw [passage.handed] at member
  obtain ⟨departure, left, shown⟩ := List.mem_filterMap.mp member
  cases passage.due departure left with
  | handed last encoded =>
      obtain ⟨earlier, rfl, rfl⟩ := last
      cases shown
      simp
  | unencodable | cleared => cases shown

/-- In a run the sockets take frames one after the other. -/
theorem Run.handedInTurn (run : Run start history situation)
    (free : start.connection.socket = none) (empty : start.connection.queue = []) :
    HandedInTurn situation.sockets (handedIn (effectsOf history)) := by
  induction run with
  | start => exact ⟨.nil, by simp [handedIn]⟩
  | @next history before run event possible earlier =>
      obtain ⟨⟨gone, passage⟩, -⟩ := Occurrence.passage ⟨before, event⟩ possible
        (run.sound (.ofFree free)) (run.balanced free empty).2
      have last := passage.handed_last
      have grown := (sockets_isPrefix_after event before).length_le
      rw [effectsOf_snoc, handedIn_append]
      refine ⟨List.pairwise_append.mpr ⟨earlier.sorted, ?_, ?_⟩, ?_⟩
      · rw [List.pairwise_iff_forall_sublist]
        intro first second sublist
        have firstLast := last first (sublist.subset (by simp))
        have secondLast := last second (sublist.subset (by simp))
        omega
      · intro first early second late
        have opened := earlier.opened first early
        have secondLast := last second late
        change second.1 + 1 = (before.after event).sockets.length at secondLast
        omega
      · intro pair member
        rcases List.mem_append.mp member with early | late
        · have opened := earlier.opened pair early
          exact Nat.lt_of_lt_of_le opened grown
        · have pairLast := last pair late
          exact Nat.lt_of_succ_le (Nat.le_of_eq pairLast)

/-- The sockets that were opened up to some event of a history are among those that were opened up
to its end. -/
theorem Run.sockets_isPrefix (run : Run start history situation) :
    ∀ occurrence ∈ history, occurrence.after.sockets <+: situation.sockets := by
  induction run with
  | start => simp
  | @next history before run event possible earlier =>
      intro occurrence member
      rcases List.mem_append.mp member with early | late
      · exact (earlier occurrence early).trans (sockets_isPrefix_after event before)
      · cases List.mem_singleton.mp late
        exact List.prefix_refl _

theorem IsLast.getElem? {sockets later : List WireProtocol} {socket : Nat}
    {protocol : WireProtocol} (last : IsLast sockets socket protocol)
    (opened : sockets <+: later) : later[socket]? = some protocol := by
  obtain ⟨earlier, rfl, rfl⟩ := last
  obtain ⟨rest, rfl⟩ := opened
  simp

/-- What was handed to a socket is a frame under its protocol, and what was left out has none. -/
theorem Run.fate_of_mem (run : Run start history situation) (ledger : Ledger history departures)
    {departure : Departure} (left : departure ∈ departures) :
    (∃ socket protocol frame, departure.fate = .handed socket frame ∧
      situation.sockets[socket]? = some protocol ∧
      departure.message.encode protocol = .ok frame) ∨
    (∃ socket protocol fault, departure.fate = .unencodable socket ∧
      situation.sockets[socket]? = some protocol ∧
      departure.message.encode protocol = .error fault) ∨
    ∃ cause, departure.fate = .cleared cause ∧
      ∃ occurrence ∈ history, Clears occurrence.event occurrence.effects cause := by
  obtain ⟨occurrence, happened, due⟩ := ledger.due departure left
  have opened := run.sockets_isPrefix occurrence happened
  cases due with
  | handed last encoded =>
      exact .inl ⟨_, _, _, rfl, last.getElem? opened, encoded⟩
  | unencodable connects last faulty =>
      exact .inr (.inl ⟨_, _, _, rfl, last.getElem? opened, faulty⟩)
  | cleared clears => exact .inr (.inr ⟨_, rfl, occurrence, happened, clears⟩)

/-- In every run the sockets take accepted messages in the order of their acceptance, each at most
once, as frames under the protocols of their sockets. What was accepted and not taken waits, or it
left the queue because the connection was cleared or because it has no frame under the protocol of a
socket that was opened. -/
theorem Run.messages_in_order {model : KernelModel} {clientId : String}
    {options : ConnectionOptions} (run : Run (.initial model clientId options) history situation) :
    (∀ occurrence ∈ history, ∀ message succeeds,
        occurrence.event.offer? occurrence.before.connection = some (message, succeeds) →
        acceptedIn occurrence.effects = if succeeds then [message] else []) ∧
      ((List.range situation.sockets.length).flatMap fun socket =>
        handedTo socket (effectsOf history)) = handedIn (effectsOf history) ∧
      ∃ departures, Ledger history departures ∧
        acceptedIn (effectsOf history) =
          departures.map Departure.message ++ situation.connection.queue ∧
        handedIn (effectsOf history) = departures.filterMap Departure.handed? ∧
        ∀ departure ∈ departures,
          (∃ socket protocol frame, departure.fate = .handed socket frame ∧
            situation.sockets[socket]? = some protocol ∧
            departure.message.encode protocol = .ok frame) ∨
          (∃ socket protocol fault, departure.fate = .unencodable socket ∧
            situation.sockets[socket]? = some protocol ∧
            departure.message.encode protocol = .error fault) ∨
          ∃ cause, departure.fate = .cleared cause ∧
            ∃ occurrence ∈ history, Clears occurrence.event occurrence.effects cause := by
  obtain ⟨⟨departures, balanced⟩, -⟩ := run.balanced rfl rfl
  have inTurn := run.handedInTurn rfl rfl
  refine ⟨?_, flatMap_range_filter _ _ inTurn.sorted inTurn.opened, departures, balanced.ledger,
    balanced.accepted, balanced.handed, fun _ left => run.fate_of_mem balanced.ledger left⟩
  intro occurrence _ message succeeds offer
  exact occurrence.event.acceptedIn_of_offer occurrence.before.connection offer

/-- A message that waits for the socket, one that the socket takes at once, and one that its end
leaves waiting. -/
def acrossLoss : List Event :=
  let message (msgId : String) : Message :=
    .create .shell "ping" msgId "client" "" .emptyObject .epoch
  [.beginConnecting, .sendRaw (message "1"), .connected ⟨0, .v1, none⟩, .sendRaw (message "2"),
    .inputEnded, .sendRaw (message "3")]

theorem messages_in_order_across_loss :
    Situation.usual.allows acrossLoss = true ∧
      (handedIn (effectsOf (Situation.usual.occurrences acrossLoss))).length = 2 ∧
      (Situation.usual.afterAll acrossLoss).connection.queue.length = 1 ∧
      ∃ departures, Ledger (Situation.usual.occurrences acrossLoss) departures ∧
        acceptedIn (effectsOf (Situation.usual.occurrences acrossLoss)) =
          departures.map Departure.message ++
            (Situation.usual.afterAll acrossLoss).connection.queue ∧
        handedIn (effectsOf (Situation.usual.occurrences acrossLoss)) =
          departures.filterMap Departure.handed? := by
  have allowed : Situation.usual.allows acrossLoss = true := rfl
  obtain ⟨-, -, departures, ledger, accepted, handed, -⟩ :=
    Run.messages_in_order (run_of_allows acrossLoss allowed)
  exact ⟨allowed, rfl, rfl, departures, ledger, accepted, handed⟩

end KernelClient.Connection
