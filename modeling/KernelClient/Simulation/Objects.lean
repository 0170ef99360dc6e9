import KernelClient.Kernel.Connection.Control
import KernelClient.Kernel.Connection.Lifetime
import KernelClient.Manager.Kernels
import KernelClient.Manager.Poll
import KernelClient.Manager.Sessions
import KernelClient.Session.Connection
import KernelClient.Signal

/-!
# Objects with signals

Connections, sessions and managers together with their signals. An object lives as long as somebody
holds it; when it is gone its signals are closed.
-/

namespace KernelClient.Simulation

structure KernelObject where
  connection : Connection
  status : Signal KernelStatus
  connectionStatus : Signal ConnectionStatus
  received : Signal Message
  unclaimed : Signal Message
  disposed : Signal Unit
  isAlive : Bool
deriving Inhabited

namespace KernelObject

def create (connection : Connection) : KernelObject where
  connection := connection
  status := .usual
  connectionStatus := .usual
  received := .create connection.options.messageCapacity
  unclaimed := .create connection.options.messageCapacity
  disposed := .usual
  isAlive := true

/-- Emit what an effect announces. -/
def emit (object : KernelObject) : Connection.Effect → KernelObject
  | .status status => { object with status := object.status.emit status }
  | .connectionStatus status =>
      { object with connectionStatus := object.connectionStatus.emit status }
  | .received message => { object with received := object.received.emit message }
  | .unclaimed message => { object with unclaimed := object.unclaimed.emit message }
  | .disposed => { object with disposed := object.disposed.emit () }
  | _ => object

def close (object : KernelObject) : KernelObject :=
  { object with
    status := object.status.close
    connectionStatus := object.connectionStatus.close
    received := object.received.close
    unclaimed := object.unclaimed.close
    disposed := object.disposed.close
    isAlive := false }

/-- Whether the socket of a connection is to be given up. -/
def isStopped (object : KernelObject) : Bool := object.connection.isDisposed || !object.isAlive

end KernelObject

structure SessionObject where
  session : Session
  options : ConnectionOptions
  property : Signal SessionProperty
  kernel : Signal (Option KernelModel)
  terminated : Signal Unit
  disposed : Signal Unit
  isAlive : Bool
deriving Inhabited

namespace SessionObject

def create (session : Session) (options : ConnectionOptions) : SessionObject where
  session := session
  options := options
  property := .usual
  kernel := .usual
  terminated := .usual
  disposed := .usual
  isAlive := true

/-- Emit what an effect announces. -/
def emit (object : SessionObject) : Session.Effect → SessionObject
  | .property property => { object with property := object.property.emit property }
  | .kernel kernel => { object with kernel := object.kernel.emit kernel }
  | .terminated => { object with terminated := object.terminated.emit () }
  | .disposed => { object with disposed := object.disposed.emit () }
  | _ => object

def close (object : SessionObject) : SessionObject :=
  { object with
    property := object.property.close
    kernel := object.kernel.close
    terminated := object.terminated.close
    disposed := object.disposed.close
    session := { object.session with kernel := none }
    isAlive := false }

end SessionObject

/-- How a manager is set up. -/
structure ManagerOptions where
  poll : PollOptions
  kernel : ConnectionOptions
deriving Inhabited

structure ManagerObject (Model Connection : Type) where
  manager : Manager Model Connection
  options : ManagerOptions
  isVisible : Bool
  running : Signal (List Model)
  specs : Signal KernelSpecs
  failure : Signal ServiceError
  disposed : Signal Unit
  isAlive : Bool
deriving Inhabited

namespace ManagerObject

variable {Model Connection : Type}

def create (options : ManagerOptions) (isVisible : Bool) : ManagerObject Model Connection where
  manager := .create
  options := options
  isVisible := isVisible
  running := .usual
  specs := .usual
  failure := .usual
  disposed := .usual
  isAlive := true

/-- Emit what an effect announces. -/
def emit (object : ManagerObject Model Connection) :
    Manager.Effect Model Connection → ManagerObject Model Connection
  | .running models => { object with running := object.running.emit models }
  | .specs specs => { object with specs := object.specs.emit specs }
  | .failure error => { object with failure := object.failure.emit error }
  | .disposed => { object with disposed := object.disposed.emit () }
  | _ => object

def close (object : ManagerObject Model Connection) : ManagerObject Model Connection :=
  { object with
    manager := { object.manager with connections := [] }
    running := object.running.close
    specs := object.specs.close
    failure := object.failure.close
    disposed := object.disposed.close
    isAlive := false }

/-- Whether the polls of a manager are to end. -/
def isStopped (object : ManagerObject Model Connection) : Bool :=
  object.manager.isDisposed || !object.isAlive

end ManagerObject

/-- A manager of either kind, by its number. -/
inductive ManagerId where
  | kernels (number : Nat)
  | sessions (number : Nat)
deriving DecidableEq, Inhabited

end KernelClient.Simulation
