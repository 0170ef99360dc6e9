import KernelClient.Simulation.Operation

/-!
# Reports

What can be seen after a step of a script: the result of its operation, the calls that ended, what
was sent to the server, what the holders of objects received, the states that changed, and the log.
Receivers are served in a fixed order: targets, comms, replies, and then signals.
-/

namespace KernelClient.Simulation

/-- What the server sees of a socket. -/
inductive SocketReport where
  | sent (socket : Nat) (frame : Frame) (message : Except MessageError Message)
  | closed (socket : Nat)
deriving Inhabited

structure KernelEvents where
  status : List (Received KernelStatus)
  connectionStatus : List (Received ConnectionStatus)
  received : List (Received Message)
  unclaimed : List (Received Message)
  disposed : List (Received Unit)
deriving Inhabited

structure SessionEvents where
  property : List (Received SessionProperty)
  kernel : List (Received (Option KernelModel))
  terminated : List (Received Unit)
  disposed : List (Received Unit)
deriving Inhabited

structure ManagerEvents where
  running : List (Received (List Json))
  specs : List (Received KernelSpecs)
  failure : List (Received ServiceError)
  disposed : List (Received Unit)
deriving Inhabited

structure ReplyEvents where
  messages : List Message
  isEnded : Bool
  outcome : Option (Except ServiceError (Option Message))
deriving Inhabited

structure CommEvents where
  events : List CommEvent
  isEnded : Bool
deriving Inhabited

structure TargetEvents where
  comms : List (String × Message)
  isEnded : Bool
deriving Inhabited

/-- What was received by name. -/
structure Events where
  targets : List (String × TargetEvents)
  comms : List (String × CommEvents)
  replies : List (String × ReplyEvents)
  kernels : List (String × KernelEvents)
  sessions : List (String × SessionEvents)
  managers : List (String × ManagerEvents)
deriving Inhabited

structure KernelState where
  status : KernelStatus
  connectionStatus : ConnectionStatus
  pending : Nat
  isDisposed : Bool
deriving DecidableEq, Inhabited

structure SessionState where
  model : SessionModel
  kernelId : Option String
  isDisposed : Bool
deriving DecidableEq, Inhabited

structure ManagerState where
  isReady : Bool
  isDisposed : Bool
  running : List Json
  defaultSpec : Option String
  connections : Nat
deriving DecidableEq, Inhabited

/-- The states of what has names. -/
structure States where
  kernels : List (String × KernelState)
  sessions : List (String × SessionState)
  managers : List (String × ManagerState)
deriving Inhabited

structure Report where
  result : Result
  trace : Trace
  sockets : List SocketReport
  events : Events
  states : States
deriving Inhabited

namespace World

/-- What the client wrote to a socket, as far as the server still reads it. -/
def socketReports (number : Nat) (socket : ServerSocket) : List SocketReport :=
  if socket.isReading then
    socket.fromClient.map (fun frame => .sent number frame (frame.decode socket.protocol)) ++
      if socket.isClientGone && !socket.isGoneReported then [.closed number] else []
  else []

/-- Take what the client wrote to all sockets. -/
def takeSockets (world : World) : List SocketReport × World :=
  let taken (socket : ServerSocket) : ServerSocket :=
    { socket with fromClient := [], isGoneReported := socket.isClientGone }
  ((world.server.sockets.mapIdx socketReports).flatten,
    world.changeServer fun server => { server with sockets := server.sockets.map taken })

/-- Take all comms that a target has received, at most as many as given. -/
def takeComms (name : String) : (most : Nat) → World → List (String × Message) × World
  | 0, world => ([], world)
  | most + 1, world =>
      match world.takeComm name with
      | none => ([], world)
      | some (commName, opening, world) =>
          let (rest, world) := takeComms name most world
          ((commName, opening) :: rest, world)

/-- Take what a target has received. The end is told once. -/
def takeTarget (name : String) (world : World) : TargetEvents × World :=
  match world.names.targets.lookup name with
  | none => (⟨[], false⟩, world)
  | some held =>
    if held.isManual then (⟨[], false⟩, world)
    else
      let (waiting, isReleased) := match world.target? held.id with
        | some box => (box.inbox.length, box.isReleased)
        | none => (0, true)
      let (comms, world) := world.takeComms name waiting
      let isEnded := isReleased && !held.isEndTold
      let world := world.modifyNames fun names =>
        { names with targets := names.targets.map fun (other, kept) =>
            (other, if other = name then { kept with isEndTold := isReleased } else kept) }
      (⟨comms, isEnded⟩, world)

/-- Take what a comm has received. The end is told once. -/
def takeCommEvents (name : String) (world : World) : CommEvents × World :=
  match world.names.comms.lookup name with
  | none => (⟨[], false⟩, world)
  | some held =>
    match world.comm? held.id with
    | none => (⟨[], false⟩, world)
    | some box =>
      if held.isManual then (⟨[], false⟩, world)
      else
        let isClosing := box.inbox.any fun event =>
          match event with
          | .close _ => true
          | .message _ => false
        let isEnded := box.isReleased && !held.isEndTold
        let world := world.modifyComm held.id fun box =>
          { box with
            inbox := []
            comm := { box.comm with
              isClosed := box.comm.isClosed || isClosing || box.isReleased } }
        let world := world.modifyNames fun names =>
          { names with
            comms := Connection.assign name { held with isEndTold := box.isReleased }
              names.comms }
        (⟨box.inbox, isEnded⟩, world)

/-- Take what has arrived for a request. The end and the outcome are told once. -/
def takeReply (name : String) (world : World) : ReplyEvents × World :=
  match world.names.replies.lookup name with
  | none => (⟨[], false, none⟩, world)
  | some held =>
    match world.replies.find? fun box => box.id = held.id with
    | none => (⟨[], false, none⟩, world)
    | some box =>
      if held.isManual then (⟨[], false, none⟩, world)
      else
        let isEnded := box.isEnded && !held.isEndTold
        let outcome := if held.isOutcomeTold then none else box.outcome
        let world := world.modifyReply held.id fun box =>
          { box with inbox := [], isTaken := box.isTaken || box.outcome.isSome }
        let world := world.modifyNames fun names =>
          { names with
            replies := Connection.assign name
              { held with isEndTold := box.isEnded, isOutcomeTold := box.outcome.isSome }
              names.replies }
        (⟨box.inbox, isEnded, outcome⟩, world)

def takeKernel (observer : KernelObserver) (world : World) : KernelEvents × World :=
  match world.kernel? observer.kernel with
  | none => (⟨[], [], [], [], []⟩, world)
  | some object =>
      let (status, statusSignal) := object.status.drain observer.status
      let (connectionStatus, connectionSignal) :=
        object.connectionStatus.drain observer.connectionStatus
      let (received, receivedSignal) := object.received.drain observer.received
      let (unclaimed, unclaimedSignal) := object.unclaimed.drain observer.unclaimed
      let (disposed, disposedSignal) := object.disposed.drain observer.disposed
      (⟨status, connectionStatus, received, unclaimed, disposed⟩,
        world.modifyKernel observer.kernel fun object =>
          { object with
            status := statusSignal
            connectionStatus := connectionSignal
            received := receivedSignal
            unclaimed := unclaimedSignal
            disposed := disposedSignal })

def takeSession (observer : SessionObserver) (world : World) : SessionEvents × World :=
  match world.session? observer.session with
  | none => (⟨[], [], [], []⟩, world)
  | some object =>
      let (property, propertySignal) := object.property.drain observer.property
      let (kernel, kernelSignal) := object.kernel.drain observer.kernel
      let (terminated, terminatedSignal) := object.terminated.drain observer.terminated
      let (disposed, disposedSignal) := object.disposed.drain observer.disposed
      (⟨property, kernel, terminated, disposed⟩,
        world.modifySession observer.session fun object =>
          { object with
            property := propertySignal
            kernel := kernelSignal
            terminated := terminatedSignal
            disposed := disposedSignal })

/-- The same with every value changed. -/
def mapReceived {α β : Type} (change : α → β) : Received α → Received β
  | .value value => .value (change value)
  | .lagged lost => .lagged lost
  | .empty => .empty
  | .closed => .closed

/-- Take what an observer of a manager has received. -/
def drainManager {Model Connection : Type} (toJson : Model → Json) (observer : ManagerObserver)
    (object : ManagerObject Model Connection) :
    ManagerEvents × ManagerObject Model Connection :=
  let (running, runningSignal) := object.running.drain observer.running
  let (specs, specsSignal) := object.specs.drain observer.specs
  let (failure, failureSignal) := object.failure.drain observer.failure
  let (disposed, disposedSignal) := object.disposed.drain observer.disposed
  (⟨running.map (mapReceived (List.map toJson)), specs, failure, disposed⟩,
    { object with
      running := runningSignal
      specs := specsSignal
      failure := failureSignal
      disposed := disposedSignal })

def takeManager (observer : ManagerObserver) (world : World) : ManagerEvents × World :=
  match observer.manager with
  | .kernels number =>
    match world.kernelManager? number with
    | none => (⟨[], [], [], []⟩, world)
    | some object =>
        let (events, drained) := drainManager KernelModel.toJson observer object
        (events, world.modifyKernelManager number fun _ => drained)
  | .sessions number =>
    match world.sessionManager? number with
    | none => (⟨[], [], [], []⟩, world)
    | some object =>
        let (events, drained) := drainManager SessionModel.toJson observer object
        (events, world.modifySessionManager number fun _ => drained)

/-- Take what everything with a name has received, one after the other. -/
def takeAll {κ ε : Type} (take : κ → World → ε × World) :
    List (String × κ) → World → List (String × ε) × World
  | [], world => ([], world)
  | (name, key) :: rest, world =>
      let (events, world) := take key world
      let (others, world) := takeAll take rest world
      ((name, events) :: others, world)

/-- The names of entries with themselves. -/
def namesOf {α : Type} (entries : List (String × α)) : List (String × String) :=
  entries.map fun entry => (entry.1, entry.1)

def takeEvents (world : World) : Events × World :=
  let (targets, world) := takeAll takeTarget (namesOf world.names.targets) world
  let (comms, world) := takeAll takeCommEvents (namesOf world.names.comms) world
  let (replies, world) := takeAll takeReply (namesOf world.names.replies) world
  let (kernels, world) := takeAll takeKernel world.names.kernelObservers world
  let (sessions, world) := takeAll takeSession world.names.sessionObservers world
  let (managers, world) := takeAll takeManager world.names.managerObservers world
  (⟨targets, comms, replies, kernels, sessions, managers⟩, world)

def kernelState? (world : World) (kernel : Nat) : Option KernelState :=
  (world.kernel? kernel).map fun object => {
    status := object.connection.status
    connectionStatus := object.connection.connectionStatus
    pending := object.connection.pending.length
    isDisposed := object.connection.isDisposed }

def sessionState? (world : World) (session : Nat) : Option SessionState :=
  (world.session? session).map fun object => {
    model := object.session.model
    kernelId := object.session.kernel.map fun kernel => (world.info kernel).model.id
    isDisposed := object.session.isDisposed }

def managerState? (world : World) (id : ManagerId) : Option ManagerState :=
  (world.manager? id).map fun view => {
    isReady := view.isReady
    isDisposed := view.isDisposed
    running := view.running
    defaultSpec := view.specs.map KernelSpecs.default
    connections := view.connections }

/-- The states of entries. -/
def statesOf {κ σ : Type} (state? : κ → Option σ) (entries : List (String × κ)) :
    List (String × σ) :=
  entries.filterMap fun (name, key) => (state? key).map fun state => (name, state)

def states (world : World) : States where
  kernels := statesOf world.kernelState? world.names.kernels
  sessions := statesOf world.sessionState? world.names.sessions
  managers := statesOf world.managerState? world.names.managers

end World

namespace States

/-- The states that differ from those last told. -/
def changes {σ : Type} [DecidableEq σ] (told states : List (String × σ)) : List (String × σ) :=
  states.filter fun (name, state) => told.lookup name ≠ some state

/-- Remember what is told. -/
def remember {σ : Type} (told changed : List (String × σ)) : List (String × σ) :=
  changed.foldl (fun told (name, state) => Connection.assign name state told) told

end States

/-- A step of a script. The background does not go on after one that is deferred. -/
structure ScriptStep where
  operation : Operation
  isDeferred : Bool
deriving Inhabited

/-- A world and the states that were told last. -/
structure Run where
  world : World
  told : States
deriving Inhabited

namespace Run

def create (settings : Settings) (protocol : Option String) : Run where
  world := .create settings protocol
  told := ⟨[], [], []⟩

/-- Take a step and report it. -/
def step (step : ScriptStep) (run : Run) : Report × Run :=
  let (result, world) := run.world.performWithin step.operation
  let world := if step.isDeferred then world.release else world.release.rest
  let world := world.nameArrivals.release
  let (sockets, world) := world.takeSockets
  let (events, world) := world.takeEvents
  let world := world.release
  let states := world.states
  let changed : States := {
    kernels := States.changes run.told.kernels states.kernels
    sessions := States.changes run.told.sessions states.sessions
    managers := States.changes run.told.managers states.managers }
  let told : States := {
    kernels := States.remember run.told.kernels changed.kernels
    sessions := States.remember run.told.sessions changed.sessions
    managers := States.remember run.told.managers changed.managers }
  (⟨result, world.trace, sockets, events, changed⟩,
    ⟨{ world with trace := .nothing }, told⟩)

/-- Take steps and report each. -/
def steps : List ScriptStep → Run → List Report
  | [], _ => []
  | step :: rest, run =>
      let (report, run) := run.step step
      report :: steps rest run

end Run

end KernelClient.Simulation
