import KernelClient.Proofs.Connection.SocketLife
import KernelClient.Simulation.Calls

/-!
# Disposal

A connection is disposed once and for all. There is no list of what may still happen to it: its
holders keep calling it, its socket may have been opening or may still be read from, and the server
answers calls that were under way. Each of these meets a connection that has nothing left and does
nothing to it but log and close sockets.

That a connection has nothing left is a consequence of how it was disposed, so it is an invariant of
runs. That nothing happens any more holds for every event, possible or not.
-/

namespace KernelClient.Connection

open Simulation (World)

/-- A connection that is disposed and has nothing left. -/
structure IsOver (connection : Connection) : Prop where
  isDisposed : connection.isDisposed = true
  socket : connection.socket = none
  queue : connection.queue = []
  pending : connection.pending = []
  comms : connection.comms = []
  targets : connection.targets = []

/-- Whether an effect is heard of by nobody who uses a connection: a line of the log, or the end of
a socket. -/
def Effect.isUnheard : Effect → Bool
  | .log _ | .inputClosed _ | .outputClosed _ => true
  | _ => false

/-- Whether all calls on a connection are refused because it is disposed, and change nothing. Calls
that ask the server are those of a connection in some world. -/
structure RefusesCalls (connection : Connection) : Prop where
  send : ∀ message expectsReply,
    Connection.send message expectsReply connection = refuse connection disposedError
  sendRaw : ∀ message, Connection.sendRaw message connection = refuse connection disposedError
  registerTarget : ∀ name,
    Connection.registerTarget name connection = refuse connection disposedError
  createComm : ∀ targetName commId,
    Connection.createComm targetName commId connection = refuse connection disposedError
  interrupt : ∀ (world : World) kernel object, world.kernel? kernel = some object →
    object.connection = connection →
      world.beginInterrupt kernel = (.finished (.error disposedError), world)
  restart : ∀ (world : World) kernel object, world.kernel? kernel = some object →
    object.connection = connection →
      world.beginRestart kernel = (.finished (.error disposedError), world)
  shutDown : ∀ (world : World) kernel object, world.kernel? kernel = some object →
    object.connection = connection →
      world.beginShutdownKernel kernel = (.finished (.error disposedError), world)

/-- What may become of a connection that is over. -/
structure StaysOver (before : Connection) (change : Change) : Prop where
  isOver : IsOver change.1
  status : change.1.status = before.status
  connectionStatus : change.1.connectionStatus = before.connectionStatus
  unheard : ∀ effect ∈ change.2, effect.isUnheard

variable {connection : Connection}

theorem StaysOver.unchanged (ended : IsOver connection) :
    StaysOver connection (unchanged connection) :=
  ⟨ended, rfl, rfl, by simp [Connection.unchanged]⟩

theorem StaysOver.andThen {change : Change} {next : Connection → Change}
    (first : StaysOver connection change) (second : StaysOver change.1 (next change.1)) :
    StaysOver connection (change.andThen next) where
  isOver := second.isOver
  status := second.status.trans first.status
  connectionStatus := second.connectionStatus.trans first.connectionStatus
  unheard := by
    intro effect member
    rcases List.mem_append.mp member with early | late
    · exact first.unheard effect early
    · exact second.unheard effect late

/-- What shows nothing can be put before all others. -/
theorem StaysOver.thenSilently {middle : Connection} {change : Change}
    (first : StaysOver connection (Connection.unchanged middle))
    (second : IsOver middle → StaysOver middle change) : StaysOver connection change :=
  have later := second first.isOver
  ⟨later.isOver, later.status.trans first.status,
    later.connectionStatus.trans first.connectionStatus, later.unheard⟩

namespace IsOver

theorem checkOpen (ended : IsOver connection) : connection.checkOpen = .error disposedError := by
  rw [Connection.checkOpen, if_pos ended.isDisposed]

theorem send (ended : IsOver connection) (message : Message) (expectsReply : Bool) :
    Connection.send message expectsReply connection = refuse connection disposedError := by
  simp only [Connection.send, ended.checkOpen]

theorem sendRaw (ended : IsOver connection) (message : Message) :
    Connection.sendRaw message connection = refuse connection disposedError := by
  simp only [Connection.sendRaw, ended.checkOpen]

theorem registerTarget (ended : IsOver connection) (name : String) :
    Connection.registerTarget name connection = refuse connection disposedError := by
  simp only [Connection.registerTarget, ended.checkOpen]

theorem createComm (ended : IsOver connection) (targetName commId : String) :
    Connection.createComm targetName commId connection = refuse connection disposedError := by
  simp only [Connection.createComm, ended.checkOpen]

theorem checkShutdown (ended : IsOver connection) :
    connection.checkShutdown = .error disposedError := by
  rw [Connection.checkShutdown, if_pos ended.isDisposed]

/-- A connection that is over refuses calls, and the server is not asked. -/
theorem refusesCalls (ended : IsOver connection) : RefusesCalls connection where
  send := ended.send
  sendRaw := ended.sendRaw
  registerTarget := ended.registerTarget
  createComm := ended.createComm
  interrupt := by
    rintro world kernel object found rfl
    simp only [Simulation.World.beginInterrupt, found, ended.checkOpen]
  restart := by
    rintro world kernel object found rfl
    simp only [Simulation.World.beginRestart, found, ended.checkOpen]
  shutDown := by
    rintro world kernel object found rfl
    simp only [Simulation.World.beginShutdownKernel, found, ended.checkShutdown]

theorem setStatus (ended : IsOver connection) (status : KernelStatus) :
    Connection.setStatus status connection = Connection.unchanged connection := by
  rw [Connection.setStatus, if_pos (.inl ended.isDisposed)]

theorem shutDown (ended : IsOver connection) :
    Connection.shutDown connection = Connection.unchanged connection := by
  have disposed : dispose connection = Connection.unchanged connection :=
    dispose_again ended.isDisposed
  rw [Connection.shutDown, ended.setStatus]
  exact disposed

/-- The life of the socket may go on, and numbers may be given out. -/
theorem withPhase (ended : IsOver connection) (phase : SocketPhase) (nextMessage : Nat) :
    IsOver { connection with phase := phase, nextMessage := nextMessage } :=
  ⟨ended.isDisposed, ended.socket, ended.queue, ended.pending, ended.comms, ended.targets⟩

theorem staysOver_enter (ended : IsOver connection) (phase : SocketPhase) {effects : List Effect}
    (unheard : ∀ effect ∈ effects, effect.isUnheard) :
    StaysOver connection ({ connection with phase := phase }, effects) :=
  ⟨ended.withPhase phase connection.nextMessage, rfl, rfl, unheard⟩

/-- To make a message takes no more than a number. -/
theorem staysOver_newMessage (ended : IsOver connection) :
    StaysOver connection (Connection.unchanged
      { connection with nextMessage := connection.nextMessage + 1 }) :=
  ⟨ended.withPhase connection.phase (connection.nextMessage + 1), rfl, rfl, by
    simp [Connection.unchanged]⟩

/-- What is done to empty tables leaves them empty, and lets go of nothing. -/
theorem staysOver_tables (ended : IsOver connection) {comms : List (String × Nat)}
    {targets : List (String × CommTarget)} {effects : List Effect} (noComms : comms = [])
    (noTargets : targets = []) (silent : effects = []) :
    StaysOver connection ({ connection with comms := comms, targets := targets }, effects) :=
  ⟨⟨ended.isDisposed, ended.socket, ended.queue, ended.pending, noComms, noTargets⟩, rfl, rfl, by
    simp [silent]⟩

theorem staysOver_unregisterComm (ended : IsOver connection) (commId : String) :
    StaysOver connection (unregisterComm commId connection) :=
  ended.staysOver_tables (by rw [ended.comms]; rfl) ended.targets (by rw [ended.comms]; rfl)

theorem staysOver_removeTarget (ended : IsOver connection) (name : String) :
    StaysOver connection (removeTarget name connection) :=
  ended.staysOver_tables ended.comms (by rw [ended.targets]; rfl) (by rw [ended.targets]; rfl)

theorem staysOver_receiverGone (ended : IsOver connection) (receiver : Nat) :
    StaysOver connection (Connection.unchanged (receiverGone receiver connection)) :=
  ended.staysOver_tables ended.comms (by rw [ended.targets]; rfl) rfl

theorem staysOver_outputBroken (ended : IsOver connection) (broken : Nat) :
    StaysOver connection (Connection.unchanged (outputBroken broken connection)) := by
  have free : (outputBroken broken connection).socket = none := by
    rw [outputBroken, ended.socket]
    rfl
  refine ⟨⟨ended.isDisposed, free, ended.queue, ended.pending, ended.comms, ended.targets⟩, rfl,
    rfl, ?_⟩
  simp [Connection.unchanged]

theorem staysOver_send (ended : IsOver connection) (message : Message) (expectsReply : Bool) :
    StaysOver connection (Connection.send message expectsReply connection).2 := by
  rw [ended.send]
  exact .unchanged ended

theorem staysOver_sendRaw (ended : IsOver connection) (message : Message) :
    StaysOver connection (Connection.sendRaw message connection).2 := by
  rw [ended.sendRaw]
  exact .unchanged ended

theorem staysOver_request (ended : IsOver connection) (now : Instant) (wanted : KernelRequest) :
    StaysOver connection (request now wanted connection).2.2 :=
  ended.staysOver_newMessage.thenSilently fun created => created.staysOver_send _ true

theorem staysOver_sendInput (ended : IsOver connection) (now : Instant) (value : String)
    (parent : Option Message) : StaysOver connection (sendInput now value parent connection).2 :=
  ended.staysOver_newMessage.thenSilently fun created => created.staysOver_sendRaw _

theorem sendComm (ended : IsOver connection) (now : Instant) (comm : Comm)
    (outgoing : CommMessage) :
    (∃ error, (Connection.sendComm now comm outgoing connection).1 = .error error) ∧
      StaysOver connection (Connection.sendComm now comm outgoing connection).2 := by
  unfold Connection.sendComm
  split
  · exact ⟨⟨_, rfl⟩, .unchanged ended⟩
  · have made := ended.staysOver_newMessage
    have created : IsOver (commMessage now outgoing connection).2 := made.isOver
    refine ⟨?_, made.thenSilently fun created => created.staysOver_send _ false⟩
    dsimp only
    rw [created.send]
    exact ⟨_, rfl⟩

theorem staysOver_closeComm (ended : IsOver connection) (now : Instant) (comm : Comm) (data : Json)
    (metadata : Option Json) :
    StaysOver connection (closeComm now comm data metadata connection).2 := by
  obtain ⟨⟨error, refused⟩, stays⟩ := ended.sendComm now comm (.closing comm data metadata)
  unfold closeComm
  split
  case h_1 sent =>
    rw [sent] at stays
    exact stays
  case h_2 sent =>
    rw [sent] at refused
    cases refused

theorem staysOver_dropComm (ended : IsOver connection) (comm : Comm) :
    StaysOver connection (dropComm comm connection) := by
  unfold dropComm
  split
  · exact .unchanged ended
  · exact ended.staysOver_unregisterComm comm.commId

theorem staysOver_log (ended : IsOver connection) (line : LogLine) :
    StaysOver connection (connection, [.log line]) :=
  ⟨ended, rfl, rfl, by simp [Effect.isUnheard]⟩

theorem staysOver_lose (ended : IsOver connection) : StaysOver connection (lose connection) := by
  rw [lose, if_pos ended.isDisposed]
  exact ended.staysOver_enter .ended (by simp)

theorem staysOver_loseUnopened (ended : IsOver connection) :
    StaysOver connection (loseUnopened connection) := by
  unfold loseUnopened
  split
  · exact ended.staysOver_lose
  · exact .unchanged ended

theorem staysOver_beginConnecting (ended : IsOver connection) :
    StaysOver connection (beginConnecting connection) := by
  rw [beginConnecting, if_pos ended.isDisposed]
  exact ended.staysOver_enter .ended (by simp)

theorem staysOver_connected (ended : IsOver connection) (socket : ActiveSocket) :
    StaysOver connection (connected socket connection) := by
  rw [connected, if_pos ended.isDisposed]
  exact ended.staysOver_enter .ended (by simp [closing, Effect.isUnheard])

theorem staysOver_connectFailed (ended : IsOver connection) (error : ServiceError) :
    StaysOver connection (connectFailed error connection) := by
  unfold connectFailed
  split
  · exact ended.staysOver_enter .ended (by simp)
  · exact ended.staysOver_log _

theorem staysOver_frameArrived (ended : IsOver connection) (now : Instant) (frame : Frame) :
    StaysOver connection (frameArrived now frame connection) := by
  unfold frameArrived
  split
  · unfold receive
    split
    · rw [dispatch, if_pos ended.isDisposed]
      exact .unchanged ended
    · exact ended.staysOver_log _
  · exact .unchanged ended

theorem staysOver_inputEnded (ended : IsOver connection) :
    StaysOver connection (inputEnded connection) := by
  unfold inputEnded
  split
  case h_1 socket protocol reading =>
    have closed : StaysOver connection (connection, [.inputClosed socket]) :=
      ⟨ended, rfl, rfl, by simp [Effect.isUnheard]⟩
    exact closed.andThen ended.staysOver_lose
  case h_2 => exact .unchanged ended

theorem staysOver_stop (ended : IsOver connection) : StaysOver connection (stop connection) := by
  unfold stop
  split
  · exact ended.staysOver_enter .ended (by simp [Effect.isUnheard])
  · exact ended.staysOver_enter .ended (by simp)

/-- Nothing happens any more to a connection that is over, whatever the event. -/
theorem staysOver_change (ended : IsOver connection) (event : Event) :
    StaysOver connection (event.change connection) := by
  cases event with
  | makeMessage => exact ended.staysOver_newMessage
  | send message expectsReply => exact ended.staysOver_send message expectsReply
  | sendRaw message => exact ended.staysOver_sendRaw message
  | request now wanted => exact ended.staysOver_request now wanted
  | sendInput now value parent => exact ended.staysOver_sendInput now value parent
  | registerTarget name =>
      simp only [Event.change, ended.registerTarget]
      exact .unchanged ended
  | removeTarget name => exact ended.staysOver_removeTarget name
  | receiverGone receiver => exact ended.staysOver_receiverGone receiver
  | createComm targetName commId =>
      simp only [Event.change, ended.createComm]
      exact .unchanged ended
  | sendComm now comm outgoing => exact (ended.sendComm now comm outgoing).2
  | closeComm now comm data metadata => exact ended.staysOver_closeComm now comm data metadata
  | dropComm comm => exact ended.staysOver_dropComm comm
  | interrupt | restart => exact .unchanged ended
  | restartAnswered succeeded =>
      cases succeeded with
      | false => exact .unchanged ended
      | true =>
          simp only [Event.change, restarted, if_pos ended.isDisposed]
          exact .unchanged ended
  | shutDown =>
      simp only [Event.change, ended.checkShutdown]
      exact .unchanged ended
  | shutDownAnswered succeeded =>
      cases succeeded with
      | false => exact .unchanged ended
      | true =>
          simp only [Event.change, ended.shutDown]
          exact .unchanged ended
  | dispose =>
      simp only [Event.change, dispose_again ended.isDisposed]
      exact .unchanged ended
  | beginConnecting => exact ended.staysOver_beginConnecting
  | connected socket =>
      have opened := ended.staysOver_connected socket
      exact opened.andThen opened.isOver.staysOver_loseUnopened
  | connectFailed error =>
      have failed := ended.staysOver_connectFailed error
      exact failed.andThen failed.isOver.staysOver_loseUnopened
  | frameArrived now frame => exact ended.staysOver_frameArrived now frame
  | inputEnded => exact ended.staysOver_inputEnded
  | outputBroken socket => exact ended.staysOver_outputBroken socket
  | stop => exact ended.staysOver_stop

end IsOver

def Effect.isDisposal : Effect → Bool
  | .disposed => true
  | _ => false

/-- How often a disposal is announced. -/
def disposalsIn (effects : List Effect) : Nat := effects.countP Effect.isDisposal

@[simp]
theorem disposalsIn_append (first second : List Effect) :
    disposalsIn (first ++ second) = disposalsIn first + disposalsIn second :=
  List.countP_append

theorem disposalsIn_eq_zero {effects : List Effect} (none : .disposed ∉ effects) :
    disposalsIn effects = 0 := by
  refine List.countP_eq_zero.mpr fun effect member => ?_
  cases effect with
  | disposed => exact absurd member none
  | _ => simp [Effect.isDisposal]

/-- What a change has to do with disposal: it announces one exactly if it is one, and only some
events are. -/
structure AnnouncesDisposal (occurrence : Occurrence) (before : Connection) (change : Change) :
    Prop where
  announced : disposalsIn change.2 + before.isDisposed.toNat = change.1.isDisposed.toNat
  kept : occurrence.event.disposes = false → change.1.isDisposed = before.isDisposed

variable {occurrence : Occurrence} {before : Connection} {change : Change}

/-- What leaves the disposal alone and announces none. -/
theorem AnnouncesDisposal.ofSame (same : change.1.isDisposed = before.isDisposed)
    (silent : .disposed ∉ change.2) : AnnouncesDisposal occurrence before change where
  announced := by rw [disposalsIn_eq_zero silent, same, Nat.zero_add]
  kept _ := same

theorem Transmission.disposed_notMem {message : Message} {call : Call Unit}
    (transmission : Transmission message before call) : .disposed ∉ call.2.2 := by
  cases transmission <;> simp [refuse, unchanged, enqueue]

/-- Disposal is announced once, after everything else. -/
theorem disposalsIn_dispose (alive : before.isDisposed = false) :
    disposalsIn (dispose before).2 = 1 := by
  have dropped : disposalsIn (dropSocket before).2 = 0 := by
    refine disposalsIn_eq_zero ?_
    unfold dropSocket
    split <;> simp
  have released : disposalsIn (targetReleases before.targets ++
      rejections .disposed before.pending ++ releases before.comms) = 0 :=
    disposalsIn_eq_zero (by simp [targetReleases, rejections, releases])
  rw [dispose_first alive, disposalsIn_append, disposalsIn_append, dropped, released]
  rfl

theorem dispose_announces (ends : occurrence.event.disposes = true) :
    AnnouncesDisposal occurrence before (dispose before) where
  announced := by
    cases disposed : before.isDisposed with
    | true =>
        rw [dispose_again disposed]
        simp [unchanged, disposed, disposalsIn]
    | false =>
        rw [disposalsIn_dispose disposed, isDisposed_dispose]
        rfl
  kept leaves := by cases ends.symm.trans leaves

theorem Part.announcesDisposal {requests : List RequestLabel}
    (part : Part occurrence before change requests) :
    AnnouncesDisposal occurrence before change := by
  cases part with
  | aside kept plain =>
      refine .ofSame kept.isDisposed fun member => ?_
      cases plain _ member
  | send sending =>
      cases sending with
      | refused error => exact .ofSame rfl (by simp [refuse, unchanged])
      | kept accepts fresh transmitted =>
          obtain ⟨-, isDisposed, -⟩ := transmitted.kept
          exact .ofSame isDisposed transmitted.disposed_notMem
  | sendRaw transmission =>
      obtain ⟨-, isDisposed, -⟩ := transmission.kept
      exact .ofSame isDisposed transmission.disposed_notMem
  | setStatus sets changed =>
      refine .ofSame changed.isDisposed_eq ?_
      cases changed <;> simp [unchanged, rejections, releases]
  | enter => exact .ofSame rfl (by simp)
  | dropSocket plain =>
      refine .ofSame rfl fun member => ?_
      cases plain _ member
  | dispose ends => exact dispose_announces ends
  | clear => exact .ofSame rfl (by simp [Connection.clear, rejections, releases])
  | answer read asked held waits answered => cases answered <;> exact .ofSame rfl (by simp)
  | flush opened =>
      refine .ofSame rfl fun member => ?_
      rcases flush_effects _ _ _ member with ⟨_, _, same⟩ | ⟨_, same⟩ <;> cases same
  | install => exact .ofSame rfl (by simp)
  | outputBroken => exact .ofSame rfl (by simp [unchanged])

theorem Composed.announcesDisposal {requests : List RequestLabel}
    (composed : Composed occurrence before change requests) :
    AnnouncesDisposal occurrence before change := by
  induction composed with
  | part part => exact part.announcesDisposal
  | @append before middle after first second _ _ start rest early late =>
      refine ⟨?_, fun leaves => (late.kept leaves).trans (early.kept leaves)⟩
      have announcedEarly := early.announced
      have announcedLate := late.announced
      dsimp only at announcedEarly announcedLate ⊢
      rw [disposalsIn_append]
      omega

/-- A connection is over once it is disposed. -/
theorem isOver_dispose (ended : connection.isDisposed = true → IsOver connection) :
    IsOver (dispose connection).1 := by
  cases disposed : connection.isDisposed with
  | true =>
      rw [dispose_again disposed]
      exact ended disposed
  | false =>
      rw [dispose_first disposed]
      exact ⟨rfl, rfl, rfl, rfl, rfl, rfl⟩

theorem isOver_shutDown (ended : connection.isDisposed = true → IsOver connection) :
    IsOver (shutDown connection).1 := by
  refine isOver_dispose fun disposed => ?_
  have before : connection.isDisposed = true :=
    (setStatus_statusChange .dead connection).isDisposed_eq ▸ disposed
  rw [(ended before).setStatus]
  exact ended before

variable {start situation : Situation} {history : List Occurrence}

/-- An event that disposes a connection leaves nothing of it. -/
theorem Event.isOver_after {event : Event} (possible : event.isPossible situation = true)
    (sound : SocketSound situation.connection)
    (ended : situation.connection.isDisposed = true → IsOver situation.connection)
    (disposed : (situation.after event).connection.isDisposed = true) :
    IsOver (situation.after event).connection := by
  by_cases before : situation.connection.isDisposed = true
  · exact ((ended before).staysOver_change event).isOver
  have composed := Occurrence.composed ⟨situation, event⟩ sound possible
  cases ends : event.disposes with
  | false =>
      have same := composed.announcesDisposal.kept ends
      exact absurd (same.symm.trans disposed) before
  | true =>
      unfold Situation.after at disposed ⊢
      cases event with
      | shutDown =>
          rcases change_shutDown situation.connection with same | shut
          · rw [same] at disposed
            exact absurd disposed before
          · rw [shut]
            exact isOver_shutDown ended
      | shutDownAnswered succeeded =>
          cases succeeded with
          | true => exact isOver_shutDown ended
          | false => cases ends
      | dispose => exact isOver_dispose ended
      | _ => cases ends

/-- In a run a disposed connection has nothing left. -/
theorem Run.isOver (run : Run start history situation) (free : start.connection.socket = none)
    (ended : start.connection.isDisposed = true → IsOver start.connection)
    (disposed : situation.connection.isDisposed = true) : IsOver situation.connection := by
  induction run with
  | start => exact ended disposed
  | next run event possible earlier =>
      exact Event.isOver_after possible (run.sound (.ofFree free)) earlier disposed

/-- In a run as many disposals are announced as there are. -/
theorem Run.disposalsIn_eq (run : Run start history situation)
    (free : start.connection.socket = none) :
    disposalsIn (effectsOf history) + start.connection.isDisposed.toNat =
      situation.connection.isDisposed.toNat := by
  induction run with
  | start => rw [effectsOf_nil, disposalsIn, List.countP_nil, Nat.zero_add]
  | @next history before run event possible earlier =>
      have composed := Occurrence.composed ⟨before, event⟩ (run.sound (.ofFree free)) possible
      have announced := composed.announcesDisposal.announced
      have later : (before.after event).connection =
          (event.change before.connection).1 := rfl
      rw [effectsOf_snoc, disposalsIn_append, later]
      unfold Occurrence.effects
      dsimp only at announced ⊢
      omega

/-- What runs from a connection that is over lead to. -/
theorem Run.staysOver (run : Run start history situation) (ended : IsOver start.connection) :
    StaysOver start.connection (situation.connection, effectsOf history) := by
  induction run with
  | start => exact .unchanged ended
  | @next history before run event possible earlier =>
      rw [effectsOf_snoc]
      exact @StaysOver.andThen _ _ event.change earlier (earlier.isOver.staysOver_change event)

/-- In every run disposal is announced once if the connection is disposed, and not before. To
dispose a connection, or to shut its kernel down, leaves nothing of it. Whatever happens later, a
disposed connection has nothing, keeps its status and the state of its socket, shows nothing but
lines of the log and the ends of sockets, and refuses calls. -/
theorem Run.disposal_is_final {model : KernelModel} {clientId : String}
    {options : ConnectionOptions} (run : Run (.initial model clientId options) history situation) :
    disposalsIn (effectsOf history) = (if situation.connection.isDisposed then 1 else 0) ∧
      IsOver (dispose situation.connection).1 ∧
      IsOver (shutDown situation.connection).1 ∧
      (situation.connection.isDisposed = true →
        IsOver situation.connection ∧ RefusesCalls situation.connection ∧
        ∀ later final, Run situation later final →
          IsOver final.connection ∧ RefusesCalls final.connection ∧
          final.connection.status = situation.connection.status ∧
          final.connection.connectionStatus = situation.connection.connectionStatus ∧
          ∀ effect ∈ effectsOf later, effect.isUnheard) := by
  have ended : situation.connection.isDisposed = true → IsOver situation.connection :=
    run.isOver rfl fun disposed => by cases disposed
  refine ⟨?_, isOver_dispose ended, isOver_shutDown ended, fun disposed =>
    ⟨ended disposed, (ended disposed).refusesCalls, fun later final goesOn => ?_⟩⟩
  · have announced := run.disposalsIn_eq rfl
    cases disposed : situation.connection.isDisposed <;> rw [disposed] at announced <;>
      exact announced
  · have stays := goesOn.staysOver (ended disposed)
    exact ⟨stays.isOver, stays.isOver.refusesCalls, stays.status, stays.connectionStatus,
      stays.unheard⟩

/-- A connection that is disposed while a restart and a shutdown wait for the server and a socket is
read from. -/
def disposedWhileCalling : List Event :=
  [.beginConnecting, .connected ⟨0, .v1, none⟩, .createComm "target" "comm",
    .registerTarget "target", .restart, .shutDown, .dispose]

/-- What is still possible then: answers, messages, another disposal. -/
def afterDisposal : List Event :=
  [.restartAnswered true, .createComm "target" "other", .frameArrived .epoch (.text "null"),
    .shutDownAnswered true, .dispose, .inputEnded]

theorem disposal_is_final_while_calling :
    Situation.usual.allows disposedWhileCalling = true ∧
      (Situation.usual.afterAll disposedWhileCalling).allows afterDisposal = true ∧
      (Situation.usual.afterAll disposedWhileCalling).connection.isDisposed = true ∧
      disposalsIn (effectsOf (Situation.usual.occurrences disposedWhileCalling)) = 1 ∧
      IsOver
        ((Situation.usual.afterAll disposedWhileCalling).afterAll afterDisposal).connection := by
  have allowed : Situation.usual.allows disposedWhileCalling = true := rfl
  have disposed :
      (Situation.usual.afterAll disposedWhileCalling).connection.isDisposed = true := rfl
  have allowedLater :
      (Situation.usual.afterAll disposedWhileCalling).allows afterDisposal = true := rfl
  obtain ⟨once, -, -, final⟩ := Run.disposal_is_final (run_of_allows disposedWhileCalling allowed)
  obtain ⟨-, -, later⟩ := final disposed
  obtain ⟨ended, -⟩ := later _ _ (run_of_allows afterDisposal allowedLater)
  exact ⟨allowed, allowedLater, disposed, once.trans (if_pos disposed), ended⟩

end KernelClient.Connection
