import KernelClient.Simulation.Task
import KernelClient.Text.RandomId

/-!
# The world of a simulation

A clock, a scripted server, all objects of the client, what their holders have received, and the
tasks in the background. A task is in one of three lists: it waits for something, it can go on and
waits for its turn, or it has gone on for so long that it lets the others go first.
-/

namespace KernelClient.Simulation

/-- What has arrived for the holder of a request. -/
structure ReplyBox where
  id : RequestId
  inbox : List Message
  isEnded : Bool
  outcome : Option (Except ServiceError (Option Message))
  isTaken : Bool
deriving Inhabited

/-- The outcome of a request, unless it was taken before. -/
def ReplyBox.comingOutcome? (box : ReplyBox) : Option (Except ServiceError (Option Message)) :=
  if box.isTaken then none else box.outcome

/-- A comm with what has arrived for its holder. -/
structure CommBox where
  kernel : Nat
  comm : Comm
  inbox : List CommEvent
  isReleased : Bool
deriving Inhabited

/-- A comm by its connection and its number. -/
structure CommId where
  kernel : Nat
  key : Nat
deriving DecidableEq, Inhabited

def CommBox.id (box : CommBox) : CommId := ⟨box.kernel, box.comm.key⟩

/-- The receiver of a target by its connection and its number. -/
structure TargetId where
  kernel : Nat
  receiver : Nat
deriving DecidableEq, Inhabited

/-- What has arrived for the receiver of a target. -/
structure TargetBox where
  id : TargetId
  inbox : List (CommId × Message)
  isReleased : Bool
deriving Inhabited

/-- What happens when a socket is opened. -/
inductive ConnectEvent where
  | attempt (url : Url) (protocols : List String) (headers : Headers)
  | opened (socket : Nat) (protocol : WireProtocol)
deriving Inhabited

/-- A reply with its name, and whether its messages wait to be asked for. -/
structure NamedReply where
  id : RequestId
  isManual : Bool
  isEndTold : Bool
  isOutcomeTold : Bool
deriving Inhabited

structure NamedComm where
  id : CommId
  isManual : Bool
  isEndTold : Bool
deriving Inhabited

structure NamedTarget where
  id : TargetId
  isManual : Bool
  isEndTold : Bool
  taken : Nat
deriving Inhabited

/-- The subscriptions of one who watches a connection. -/
structure KernelObserver where
  kernel : Nat
  status : Nat
  connectionStatus : Nat
  received : Nat
  unclaimed : Nat
  disposed : Nat
deriving Inhabited

structure SessionObserver where
  session : Nat
  property : Nat
  kernel : Nat
  terminated : Nat
  disposed : Nat
deriving Inhabited

structure ManagerObserver where
  manager : ManagerId
  running : Nat
  specs : Nat
  failure : Nat
  disposed : Nat
deriving Inhabited

/-- Everything that has a name. -/
structure Names where
  kernels : List (String × Nat)
  sessions : List (String × Nat)
  managers : List (String × ManagerId)
  replies : List (String × NamedReply)
  comms : List (String × NamedComm)
  targets : List (String × NamedTarget)
  kernelObservers : List (String × KernelObserver)
  sessionObservers : List (String × SessionObserver)
  managerObservers : List (String × ManagerObserver)
deriving Inhabited

/-- What a task has made for a name, with the subscriptions of the one who will watch it. -/
inductive Arrival where
  | kernel (name : String) (observer : KernelObserver)
  | session (name : String) (observer : SessionObserver)
deriving Inhabited

/-- What happened since the last report. -/
structure Trace where
  done : List (String × CallOutcome)
  requests : List Request
  connects : List ConnectEvent
  log : List LogLine
deriving Inhabited

def Trace.nothing : Trace := ⟨[], [], [], []⟩

/-- The state of a simulation. The tasks that wait come in the order in which they began to wait,
those that can go on in the order in which they will, and of those that let others go first the last
one is the first. -/
structure World where
  clock : Nat
  nextTimer : Nat
  nextClient : Nat
  settings : Settings
  server : Server
  kernels : List KernelObject
  sessions : List SessionObject
  kernelManagers : List (ManagerObject KernelModel KernelHandle)
  sessionManagers : List (ManagerObject SessionModel SessionHandle)
  replies : List ReplyBox
  comms : List CommBox
  targets : List TargetBox
  names : Names
  arrivals : List Arrival
  waiting : List Task
  ready : List Task
  paused : List Task
  trace : Trace
deriving Inhabited

namespace World

/-- A world in which nothing has happened. -/
def create (settings : Settings) (protocol : Option String) : World where
  clock := 0
  nextTimer := 0
  nextClient := 0
  settings := settings
  server := .create protocol
  kernels := []
  sessions := []
  kernelManagers := []
  sessionManagers := []
  replies := []
  comms := []
  targets := []
  names := ⟨[], [], [], [], [], [], [], [], []⟩
  arrivals := []
  waiting := []
  ready := []
  paused := []
  trace := .nothing

/-- The instant that the clock shows. -/
def now (world : World) : Instant :=
  ⟨world.clock / 1000, world.clock % 1000 * 1000000⟩

def logLines (lines : List LogLine) (world : World) : World :=
  { world with trace := { world.trace with log := world.trace.log ++ lines } }

/-- Start a task, which runs once it is its turn. -/
def spawn (task : Task) (world : World) : World :=
  { world with ready := world.ready ++ [task] }

/-- A timer for a number of milliseconds from now. -/
def timer (delay : Nat) (world : World) : Timer × World :=
  (⟨some (world.clock + delay), world.nextTimer⟩,
    { world with nextTimer := world.nextTimer + 1 })

/-- A timer that is never over. -/
def endless (world : World) : Timer × World :=
  (⟨none, world.nextTimer⟩, { world with nextTimer := world.nextTimer + 1 })

/-- A client that no other connection has, written as a random identifier. -/
def freshClient (world : World) : String × World :=
  (RandomId.ofNat world.nextClient, { world with nextClient := world.nextClient + 1 })

/-- Settle an exchange. -/
def settle {α : Type} (exchange : Exchange α) (answer : Except ServiceError Response)
    (world : World) : Slot α × World :=
  let (result, log) := exchange.settle answer
  (.settled result, world.logLines log)

/-- Send the request of an exchange. -/
def ask {α : Type} (exchange : Exchange α) (world : World) : Slot α × World :=
  match exchange.request with
  | .error error => (.settled (.error error), world)
  | .ok request =>
      let (answer, server) := world.server.answer request
      let world := { world with
        server := server
        trace := { world.trace with requests := world.trace.requests ++ [request] } }
      if answer.isHanging then
        let (timer, world) := world.endless
        (.waiting exchange timer answer.outcome, world)
      else if answer.delay = 0 then world.settle exchange answer.outcome
      else
        let (timer, world) := world.timer answer.delay
        (.waiting exchange timer answer.outcome, world)

/-- Send the requests of exchanges, in order. -/
def askEach {α : Type} : List (Exchange α) → World → List (Slot α) × World
  | [], world => ([], world)
  | exchange :: rest, world =>
      let (slot, world) := world.ask exchange
      let (slots, world) := askEach rest world
      (slot :: slots, world)

/-- Settle an exchange whose answer has arrived. -/
def check {α : Type} (slot : Slot α) (world : World) : Slot α × World :=
  match slot with
  | .waiting exchange timer answer =>
      if timer.isDue world.clock then world.settle exchange answer else (slot, world)
  | .settled _ => (slot, world)

def checkEach {α : Type} : List (Slot α) → World → List (Slot α) × World
  | [], world => ([], world)
  | slot :: rest, world =>
      let (slot, world) := world.check slot
      let (slots, world) := checkEach rest world
      (slot :: slots, world)

def kernel? (number : Nat) (world : World) : Option KernelObject := world.kernels[number]?

def modifyKernel (number : Nat) (change : KernelObject → KernelObject) (world : World) : World :=
  { world with kernels := world.kernels.modify number change }

def modifyReply (id : RequestId) (change : ReplyBox → ReplyBox) (world : World) : World :=
  { world with
    replies := world.replies.map fun box => if box.id = id then change box else box }

def modifyComm (id : CommId) (change : CommBox → CommBox) (world : World) : World :=
  { world with
    comms := world.comms.map fun box => if box.id = id then change box else box }

def modifyTarget (id : TargetId) (change : TargetBox → TargetBox) (world : World) : World :=
  { world with
    targets := world.targets.map fun box => if box.id = id then change box else box }

def session? (number : Nat) (world : World) : Option SessionObject := world.sessions[number]?

def modifySession (number : Nat) (change : SessionObject → SessionObject) (world : World) :
    World :=
  { world with sessions := world.sessions.modify number change }

def kernelManager? (number : Nat) (world : World) :
    Option (ManagerObject KernelModel KernelHandle) :=
  world.kernelManagers[number]?

def sessionManager? (number : Nat) (world : World) :
    Option (ManagerObject SessionModel SessionHandle) :=
  world.sessionManagers[number]?

def modifyKernelManager (number : Nat)
    (change : ManagerObject KernelModel KernelHandle → ManagerObject KernelModel KernelHandle)
    (world : World) : World :=
  { world with kernelManagers := world.kernelManagers.modify number change }

def modifySessionManager (number : Nat)
    (change : ManagerObject SessionModel SessionHandle → ManagerObject SessionModel SessionHandle)
    (world : World) : World :=
  { world with sessionManagers := world.sessionManagers.modify number change }

/-- What is to be known of a manager of either kind. -/
structure ManagerView where
  isDisposed : Bool
  isStopped : Bool
  isVisible : Bool
  isReady : Bool
  outcome : Option (Except ServiceError Unit)
  running : List Json
  specs : Option KernelSpecs
  connections : Nat
  listing : String
  description : String
deriving Inhabited

def viewOf {Model Connection : Type} [Resource Model] (toJson : Model → Json)
    (describe : Manager Model Connection → String) (object : ManagerObject Model Connection) :
    ManagerView where
  isDisposed := object.manager.isDisposed
  isStopped := object.isStopped
  isVisible := object.isVisible
  isReady := object.manager.isReady
  outcome := object.manager.readyOutcome?
  running := object.manager.running.map toJson
  specs := object.manager.specs
  connections := object.manager.connections.length
  listing := Resource.listing Model
  description := describe object.manager

/-- Look at a manager of either kind. -/
def manager? (id : ManagerId) (world : World) : Option ManagerView :=
  match id with
  | .kernels number =>
      (world.kernelManager? number).map (viewOf KernelModel.toJson KernelManager.describe)
  | .sessions number =>
      (world.sessionManager? number).map (viewOf SessionModel.toJson SessionManager.describe)

/-- Whether a manager is held by nobody, or its polls are to end for another reason. -/
def isManagerStopped (id : ManagerId) (world : World) : Bool :=
  match world.manager? id with
  | some view => view.isStopped
  | none => true

/-- Whether a manager of kernels still exists. -/
def isKernelManagerAlive (manager : Nat) (world : World) : Bool :=
  match world.kernelManager? manager with
  | some object => object.isAlive
  | none => false

def isSessionManagerAlive (manager : Nat) (world : World) : Bool :=
  match world.sessionManager? manager with
  | some object => object.isAlive
  | none => false

end World

end KernelClient.Simulation
