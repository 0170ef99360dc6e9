import KernelClient.Kernel.Connection.Control
import KernelClient.Kernel.Connection.Lifetime

/-!
# Runs of a connection

What happens to a connection comes one event after the other: calls of those who hold it, answers of
the server to calls that wait for it, and steps in the life of the socket. Each event is taken
without interruption, and somebody holds the connection all the time. A run is a sequence of events
each of which is possible in its situation, and its history keeps every event with the situation
that it met.
-/

namespace KernelClient

/-- Whether a socket is read from. -/
def SocketPhase.isReading : SocketPhase → Bool
  | .reading _ _ => true
  | _ => false

namespace Connection

/-- What can happen to a connection. -/
inductive Event where
  | makeMessage (now : Instant) (channel : Channel) (msgType : String) (content : Json)
  | send (message : Message) (expectsReply : Bool)
  | sendRaw (message : Message)
  | request (now : Instant) (wanted : KernelRequest)
  | sendInput (now : Instant) (value : String) (parent : Option Message)
  | registerTarget (name : String)
  | removeTarget (name : String)
  | receiverGone (receiver : Nat)
  | createComm (targetName commId : String)
  | sendComm (now : Instant) (comm : Comm) (outgoing : CommMessage)
  | closeComm (now : Instant) (comm : Comm) (data : Json) (metadata : Option Json)
  | dropComm (comm : Comm)
  | interrupt
  | restart
  | restartAnswered (succeeded : Bool)
  | shutDown
  | shutDownAnswered (succeeded : Bool)
  | dispose
  | beginConnecting
  | connected (socket : ActiveSocket)
  | connectFailed (error : ServiceError)
  | frameArrived (now : Instant) (frame : Frame)
  | inputEnded
  | outputBroken (socket : Nat)
  | stop
deriving Inhabited

/-- Go on after an attempt to open a socket. One that failed counts as a loss. -/
def loseUnopened (connection : Connection) : Change :=
  if connection.phase = .connecting then lose connection else unchanged connection

/-- What an event does to a connection. Of an interrupt only the server takes note, and a restart or
a shutdown changes nothing before the server has answered, unless the kernel is dead already. -/
def Event.change (event : Event) (connection : Connection) : Change :=
  match event with
  | .makeMessage now channel msgType content =>
      unchanged (newMessage now channel msgType content connection).2
  | .send message expectsReply => (Connection.send message expectsReply connection).2
  | .sendRaw message => (Connection.sendRaw message connection).2
  | .request now wanted => (Connection.request now wanted connection).2.2
  | .sendInput now value parent => (Connection.sendInput now value parent connection).2
  | .registerTarget name => (Connection.registerTarget name connection).2
  | .removeTarget name => Connection.removeTarget name connection
  | .receiverGone receiver => unchanged (Connection.receiverGone receiver connection)
  | .createComm targetName commId => (Connection.createComm targetName commId connection).2
  | .sendComm now comm outgoing => (Connection.sendComm now comm outgoing connection).2
  | .closeComm now comm data metadata => (Connection.closeComm now comm data metadata connection).2
  | .dropComm comm => Connection.dropComm comm connection
  | .interrupt | .restart | .restartAnswered false | .shutDownAnswered false =>
      unchanged connection
  | .restartAnswered true =>
    match restarted connection with
    | .ok change => change
    | .error _ => unchanged connection
  | .shutDown =>
    match checkShutdown connection with
    | .ok false => Connection.shutDown connection
    | _ => unchanged connection
  | .shutDownAnswered true => Connection.shutDown connection
  | .dispose => Connection.dispose connection
  | .beginConnecting => Connection.beginConnecting connection
  | .connected socket => (Connection.connected socket connection).andThen loseUnopened
  | .connectFailed error => (Connection.connectFailed error connection).andThen loseUnopened
  | .frameArrived now frame => Connection.frameArrived now frame connection
  | .inputEnded => Connection.inputEnded connection
  | .outputBroken socket => unchanged (Connection.outputBroken socket connection)
  | .stop => Connection.stop connection

/-- A request that was made: the identifier of its message and its number. -/
structure RequestLabel where
  msgId : String
  key : Nat
deriving DecidableEq, Inhabited

/-- The request that was made if a call gave it a number. -/
def labelOf (msgId : String) : Except ServiceError Nat → List RequestLabel
  | .ok key => [⟨msgId, key⟩]
  | .error _ => []

/-- The request that was made if a call gave an identifier and a number. -/
def labelOfComm : Except ServiceError (String × Nat) → List RequestLabel
  | .ok (msgId, key) => [⟨msgId, key⟩]
  | .error _ => []

/-- The request that an event makes. -/
def Event.requests (event : Event) (connection : Connection) : List RequestLabel :=
  match event with
  | .send message expectsReply =>
      labelOf message.msgId (Connection.send message expectsReply connection).1
  | .request now wanted =>
      let (msgId, call) := Connection.request now wanted connection
      labelOf msgId call.1
  | .sendComm now comm outgoing =>
      labelOfComm (Connection.sendComm now comm outgoing connection).1
  | .closeComm now comm data metadata =>
      labelOfComm ((Connection.closeComm now comm data metadata connection).1.map Prod.snd)
  | _ => []

/-- A connection with the numbers of its restarts and shutdowns that wait for the server, and with
the protocols of all sockets that were opened for it, by their numbers. -/
structure Situation where
  connection : Connection
  restarts : Nat
  shutdowns : Nat
  sockets : List WireProtocol
deriving Inhabited

/-- A new connection. -/
def Situation.initial (model : KernelModel) (clientId : String) (options : ConnectionOptions) :
    Situation where
  connection := .create model clientId options
  restarts := 0
  shutdowns := 0
  sockets := []

/-- Whether an event can happen. Answers come for calls that wait for them, and each phase in the
life of the socket has events of its own. The socket learns of the end of the connection by its
disposal. -/
def Event.isPossible (event : Event) (situation : Situation) : Bool :=
  let phase := situation.connection.phase
  match event with
  | .restartAnswered _ => 0 < situation.restarts
  | .shutDownAnswered _ => 0 < situation.shutdowns
  | .beginConnecting => phase = .starting ∨ phase = .waiting
  | .connected socket => phase = .connecting ∧ socket.number = situation.sockets.length
  | .connectFailed _ => phase = .connecting
  | .frameArrived _ _ | .inputEnded => phase.isReading
  | .stop => situation.connection.isDisposed ∧ phase ≠ .starting ∧ phase ≠ .ended
  | _ => true

/-- The restarts that wait after an event. One that is refused does not wait. -/
def Situation.restartsAfter (event : Event) (situation : Situation) : Nat :=
  match event with
  | .restart => if situation.connection.checkOpen.isOk then situation.restarts + 1
      else situation.restarts
  | .restartAnswered _ => situation.restarts - 1
  | _ => situation.restarts

/-- The shutdowns that wait after an event. That of a dead kernel does not wait. -/
def Situation.shutdownsAfter (event : Event) (situation : Situation) : Nat :=
  match event with
  | .shutDown =>
    match checkShutdown situation.connection with
    | .ok true => situation.shutdowns + 1
    | _ => situation.shutdowns
  | .shutDownAnswered _ => situation.shutdowns - 1
  | _ => situation.shutdowns

/-- The sockets that were opened up to the end of an event. -/
def Situation.socketsAfter (event : Event) (situation : Situation) : List WireProtocol :=
  match event with
  | .connected socket => situation.sockets ++ [socket.protocol]
  | _ => situation.sockets

/-- The situation after an event. -/
def Situation.after (event : Event) (situation : Situation) : Situation where
  connection := (event.change situation.connection).1
  restarts := situation.restartsAfter event
  shutdowns := situation.shutdownsAfter event
  sockets := situation.socketsAfter event

/-- An event in the situation that it met. -/
structure Occurrence where
  before : Situation
  event : Event
deriving Inhabited

namespace Occurrence

/-- What becomes visible of an event. -/
def effects (occurrence : Occurrence) : List Effect :=
  (occurrence.event.change occurrence.before.connection).2

def after (occurrence : Occurrence) : Situation := occurrence.before.after occurrence.event

/-- The request that is made. -/
def requests (occurrence : Occurrence) : List RequestLabel :=
  occurrence.event.requests occurrence.before.connection

/-- The message that is read. -/
def message? (occurrence : Occurrence) : Option Message :=
  match occurrence.event, occurrence.before.connection.phase with
  | .frameArrived _ frame, .reading _ protocol => (frame.decode protocol).toOption
  | _, _ => none

end Occurrence

/-- Sequences of possible events, with the situation to which they lead. -/
inductive Run (start : Situation) : List Occurrence → Situation → Prop where
  | start : Run start [] start
  | next {history : List Occurrence} {situation : Situation} (run : Run start history situation)
      (event : Event) (possible : event.isPossible situation) :
      Run start (history ++ [⟨situation, event⟩]) (situation.after event)

/-- All that becomes visible in a history. -/
def effectsOf (history : List Occurrence) : List Effect := history.flatMap Occurrence.effects

@[simp]
theorem effectsOf_nil : effectsOf [] = [] :=
  rfl

@[simp]
theorem effectsOf_snoc (history : List Occurrence) (occurrence : Occurrence) :
    effectsOf (history ++ [occurrence]) = effectsOf history ++ occurrence.effects := by
  simp [effectsOf]

theorem effectsOf_append (first second : List Occurrence) :
    effectsOf (first ++ second) = effectsOf first ++ effectsOf second :=
  List.flatMap_append

/-- An event only ever adds a socket to those that were opened. -/
theorem sockets_isPrefix_after (event : Event) (situation : Situation) :
    situation.sockets <+: (situation.after event).sockets := by
  cases event <;> simp [Situation.after, Situation.socketsAfter]

/-- A new connection with the usual options. -/
def Situation.usual : Situation := .initial default "client" .usual

/-- The situation after some events. -/
def Situation.afterAll (situation : Situation) (events : List Event) : Situation :=
  events.foldl (fun before event => before.after event) situation

/-- Some events, each with the situation that it meets. -/
def Situation.occurrences (situation : Situation) : List Event → List Occurrence
  | [] => []
  | event :: rest => ⟨situation, event⟩ :: (situation.after event).occurrences rest

theorem Situation.event_mem_of_mem_occurrences {situation : Situation} {events : List Event} :
    ∀ occurrence ∈ situation.occurrences events, occurrence.event ∈ events := by
  induction events generalizing situation with
  | nil => simp [Situation.occurrences]
  | cons event rest later =>
      intro occurrence member
      rcases List.mem_cons.mp member with rfl | other
      · exact List.mem_cons_self ..
      · exact List.mem_cons_of_mem _ (later occurrence other)

/-- Whether some events are possible one after the other. -/
def Situation.allows (situation : Situation) : List Event → Bool
  | [] => true
  | event :: rest => event.isPossible situation && (situation.after event).allows rest

/-- Events that are possible one after the other go on with a run. -/
theorem Run.go_on {start situation : Situation} {history : List Occurrence}
    (run : Run start history situation) (events : List Event)
    (allowed : situation.allows events) :
    Run start (history ++ situation.occurrences events) (situation.afterAll events) := by
  induction events generalizing history situation with
  | nil =>
      rw [Situation.occurrences, List.append_nil]
      exact run
  | cons event rest later =>
      obtain ⟨possible, others⟩ := Bool.and_eq_true_iff.mp allowed
      have extended := later (run.next event possible) others
      rwa [List.append_assoc] at extended

/-- Events that are possible one after the other make a run. -/
theorem run_of_allows {start : Situation} (events : List Event) (allowed : start.allows events) :
    Run start (start.occurrences events) (start.afterAll events) :=
  Run.start.go_on events allowed

section Parts

variable {start middle situation : Situation} {history later : List Occurrence}

theorem Run.append (first : Run start history middle) (second : Run middle later situation) :
    Run start (history ++ later) situation := by
  induction second with
  | start =>
      rw [List.append_nil]
      exact first
  | next run event possible earlier =>
      rw [← List.append_assoc]
      exact earlier.next event possible

/-- A run goes on from where its first part led. -/
theorem Run.split (run : Run start history situation) :
    ∀ first second, history = first ++ second →
      ∃ middle, Run start first middle ∧ Run middle second situation := by
  induction run with
  | start =>
      intro first second parts
      obtain ⟨rfl, rfl⟩ := List.append_eq_nil_iff.mp parts.symm
      exact ⟨start, .start, .start⟩
  | @next history before run event possible earlier =>
      intro first second parts
      rcases List.eq_nil_or_concat second with rfl | ⟨rest, last, rfl⟩
      · rw [List.append_nil] at parts
        rw [← parts]
        exact ⟨_, run.next event possible, .start⟩
      · rw [List.concat_eq_append, ← List.append_assoc] at parts
        rw [List.concat_eq_append]
        obtain ⟨parts, same⟩ := List.append_inj' parts rfl
        obtain ⟨middle, early, late⟩ := earlier first rest parts
        rw [← same]
        exact ⟨middle, early, late.next event possible⟩

theorem Run.eq_of_nil (run : Run start history situation) (empty : history = []) :
    situation = start := by
  cases run with
  | start => rfl
  | next => simp at empty

/-- A run that begins with an event goes on after it. -/
theorem Run.of_cons {occurrence : Occurrence} (run : Run start (occurrence :: later) situation) :
    occurrence.before = start ∧ occurrence.event.isPossible occurrence.before = true ∧
      Run occurrence.after later situation := by
  obtain ⟨middle, first, second⟩ := run.split [occurrence] later rfl
  generalize alone : [occurrence] = only at first
  cases first with
  | start => cases alone
  | @next history before earlier event possible =>
      have alone : [] ++ [occurrence] = history ++ [⟨before, event⟩] := alone
      obtain ⟨empty, same⟩ := List.append_inj' alone rfl
      cases List.head_eq_of_cons_eq same
      exact ⟨earlier.eq_of_nil empty.symm, possible, second⟩

end Parts

/-- Why a connection rejects its requests and forgets its queued messages. -/
inductive Clearing where
  | death
  | autoRestart
  | restart
  | disposal
deriving DecidableEq, Inhabited

/-- The error of the requests that are rejected. -/
def Clearing.error : Clearing → ServiceError
  | .death => .kernelDead
  | .autoRestart | .restart | .disposal => .disposed

/-- Whether an event that shows some effects clears a connection for a reason. -/
def Clears (event : Event) (effects : List Effect) : Clearing → Prop
  | .death => .status .dead ∈ effects
  | .autoRestart => .status .autoRestarting ∈ effects
  | .restart => event = .restartAnswered true
  | .disposal => .disposed ∈ effects

theorem Clears.mono {event : Event} {few many : List Effect} {cause : Clearing}
    (clears : Clears event few cause) (included : few ⊆ many) : Clears event many cause := by
  cases cause with
  | restart => exact clears
  | death | autoRestart | disposal => exact included clears

end Connection

end KernelClient
