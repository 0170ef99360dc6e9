import KernelClient.Kernel.Spec

/-!
# Managers

A manager keeps a copy of the list of running resources and of the kernelspecs of a server, and
tracks the connections that it handed out. Signals tell when a copy changes by value. Connections
whose resource is gone from the list are disposed. Kernels and sessions are both managed in this
way; what a manager needs to know of them is their identifiers.
-/

namespace KernelClient

/-- Resources that a server lists. -/
class Resource (Model : Type) where
  id : Model → String
  /-- How the log calls their manager. -/
  manager : String
  /-- How the log calls their list. -/
  listing : String

/-- Connections to resources. -/
class Handle (Connection : Type) where
  resource : Connection → String

structure Manager (Model Connection : Type) where
  running : List Model
  connections : List Connection
  specs : Option KernelSpecs
  isRunningLoaded : Bool
  areSpecsLoaded : Bool
  readiness : Option (Except ServiceError Unit)
  isDisposed : Bool
deriving Inhabited

namespace Manager

variable {Model Connection : Type}

/-- What becomes visible of a change. -/
inductive Effect (Model Connection : Type) where
  | running (models : List Model)
  | specs (specs : KernelSpecs)
  | failure (error : ServiceError)
  | disposed
  | disposeConnection (connection : Connection)
  | updateConnection (connection : Connection) (model : Model)
  | log (line : LogLine)
deriving Inhabited

/-- A manager after a change, and what becomes visible of it, in order. -/
abbrev Change (Model Connection : Type) :=
  Manager Model Connection × List (Effect Model Connection)

def create : Manager Model Connection where
  running := []
  connections := []
  specs := none
  isRunningLoaded := false
  areSpecsLoaded := false
  readiness := none
  isDisposed := false

/-- Whether a manager accepts calls. -/
def checkOpen (manager : Manager Model Connection) : Except ServiceError Unit :=
  if manager.isDisposed then .error .disposed else .ok ()

def isReady (manager : Manager Model Connection) : Bool :=
  match manager.readiness with
  | some (.ok ()) => true
  | _ => false

/-- A manager is ready once both copies were loaded. -/
def updateReadiness (manager : Manager Model Connection) : Manager Model Connection :=
  if manager.isRunningLoaded && manager.areSpecsLoaded then
    { manager with readiness := some (.ok ()) }
  else manager

/-- What is told to those who wait for a manager to be ready, or nothing yet. -/
def readyOutcome? (manager : Manager Model Connection) : Option (Except ServiceError Unit) :=
  match manager.readiness with
  | some outcome => some outcome
  | none => if manager.isDisposed then some (.error .disposed) else none

/-- Report that a copy could not be loaded. -/
def reportFailure [Resource Model] (what : String) (error : ServiceError)
    (manager : Manager Model Connection) : Change Model Connection :=
  if error.isDisposed then (manager, [])
  else
    (manager, [
      .log (.warning ("[" ++ Resource.manager Model ++ "] Failed to refresh " ++ what ++ ": " ++
        error.message)),
      .failure error])

/-- Report that a copy could not be loaded the first time. The first such failure settles the
readiness until a later load succeeds. -/
def reportInitialFailure [Resource Model] (what : String) (error : ServiceError)
    (manager : Manager Model Connection) : Change Model Connection :=
  if error.isDisposed ∨ manager.readiness.isSome then reportFailure what error manager
  else reportFailure what error { manager with readiness := some (.error error) }

/-- The first running resource of which a condition holds. -/
def find? (isWanted : Model → Bool) (manager : Manager Model Connection) : Option Model :=
  manager.running.find? isWanted

/-- Replace the list. Connections to resources that are not in it are disposed, and the others
hear of the first entry for their resource. -/
def applyRunning [DecidableEq Model] [Resource Model] [Handle Connection] (models : List Model)
    (manager : Manager Model Connection) : Change Model Connection :=
  if manager.isDisposed then (manager, [])
  else
    let listed? (connection : Connection) : Option Model :=
      models.find? fun model => Resource.id model = Handle.resource connection
    let stale := manager.connections.filter fun connection => (listed? connection).isNone
    let live := manager.connections.filter fun connection => (listed? connection).isSome
    let changed := if manager.running = models then [] else [Effect.running models]
    let updates := live.filterMap fun connection =>
      (listed? connection).map fun model => Effect.updateConnection connection model
    (updateReadiness { manager with
        running := models, connections := live, isRunningLoaded := true },
      stale.map Effect.disposeConnection ++ changed ++ updates)

/-- Replace the kernelspecs. -/
def applySpecs (specs : KernelSpecs) (manager : Manager Model Connection) :
    Change Model Connection :=
  if manager.isDisposed then (manager, [])
  else
    let loaded := updateReadiness { manager with areSpecsLoaded := true }
    let isSame := match manager.specs with
      | some known => known.agrees specs
      | none => false
    if isSame then (loaded, []) else ({ loaded with specs := some specs }, [.specs specs])

/-- Add a resource unless there is one with its identifier. -/
def add [Resource Model] (model : Model) (manager : Manager Model Connection) :
    Change Model Connection :=
  if manager.isDisposed ∨ manager.running.any (fun known => Resource.id known = Resource.id model)
  then (manager, [])
  else
    let running := manager.running ++ [model]
    ({ manager with running := running }, [.running running])

/-- Put a resource in the place of the first one with its identifier. -/
def replace [Resource Model] (model : Model) : List Model → List Model
  | [] => [model]
  | known :: rest =>
      if Resource.id known = Resource.id model then model :: rest else known :: replace model rest

/-- Put a resource into the list, in the place of the one with its identifier. -/
def put [DecidableEq Model] [Resource Model] (model : Model) (manager : Manager Model Connection) :
    Change Model Connection :=
  let known := manager.find? fun known => Resource.id known = Resource.id model
  if manager.isDisposed ∨ known = some model then (manager, [])
  else
    let running := replace model manager.running
    ({ manager with running := running }, [.running running])

/-- Leave out a resource that ended. -/
def terminated [Resource Model] (id : String) (manager : Manager Model Connection) :
    Change Model Connection :=
  let running := manager.running.filter fun model => Resource.id model != id
  if manager.isDisposed ∨ running.length = manager.running.length then (manager, [])
  else ({ manager with running := running }, [.running running])

/-- Forget connections without disposing them. -/
def forget (isForgotten : Connection → Bool) (manager : Manager Model Connection) :
    Manager Model Connection :=
  { manager with connections := manager.connections.filter fun kept => !isForgotten kept }

/-- Forget connections and dispose them. -/
def release (isReleased : Connection → Bool) (manager : Manager Model Connection) :
    Change Model Connection :=
  (forget isReleased manager,
    (manager.connections.filter isReleased).map Effect.disposeConnection)

/-- Track a connection; a disposed manager disposes it. -/
def track (connection : Connection) (manager : Manager Model Connection) :
    Change Model Connection :=
  if manager.isDisposed then (manager, [.disposeConnection connection])
  else ({ manager with connections := manager.connections ++ [connection] }, [])

/-- Leave out the first resource with an identifier, before the server is asked to delete it.
There may be none. -/
def beginShutdown [Resource Model] (id : String) (manager : Manager Model Connection) :
    Except ServiceError (Option (Change Model Connection)) :=
  if manager.isDisposed then .error .disposed
  else
    let isWanted (model : Model) : Bool := Resource.id model = id
    if manager.running.any isWanted then
      let running := manager.running.eraseP isWanted
      .ok (some ({ manager with running := running }, [.running running]))
    else .ok none

/-- Dispose the connections to a resource that was deleted. -/
def endShutdown [Handle Connection] (id : String) (manager : Manager Model Connection) :
    Change Model Connection :=
  release (fun connection => Handle.resource connection = id) manager

/-- Leave out all resources, before the server is asked to delete them, and say which they are. -/
def beginShutdownAll [Resource Model] (manager : Manager Model Connection) :
    Except ServiceError (List String × Change Model Connection) :=
  if manager.isDisposed then .error .disposed
  else if manager.running.isEmpty then .ok ([], manager, [])
  else
    .ok (manager.running.map Resource.id, { manager with running := [] }, [.running []])

/-- Dispose the connections to resources whose deletion was asked for. -/
def endShutdownAll [Handle Connection] (ids : List String) (manager : Manager Model Connection) :
    Change Model Connection :=
  release (fun connection => ids.contains (Handle.resource connection)) manager

/-- Dispose a manager and its connections. A second time nothing happens. -/
def dispose (manager : Manager Model Connection) : Change Model Connection :=
  if manager.isDisposed then (manager, [])
  else
    ({ manager with isDisposed := true, connections := [] },
      manager.connections.map Effect.disposeConnection ++ [.disposed])

end Manager

end KernelClient
