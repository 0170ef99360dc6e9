import KernelClient.Simulation.Readiness

/-!
# Changes of objects

What the pure steps of connections, sessions and managers announce is carried out one after the
other, and each time the tasks that waited for it are woken.
-/

namespace KernelClient.Simulation.World

/-- Change the server. -/
def changeServer (change : Server → Server) (world : World) : World :=
  { world with server := change world.server }.wake

/-- Let the clock show a time. -/
def setClock (time : Nat) (world : World) : World := { world with clock := time }.wake

/-- Carry out what a change of a connection announces. -/
def carryKernel (kernel : Nat) (effect : Connection.Effect) (world : World) : World :=
  match effect with
  | .sent socket frame => { world with server := world.server.take socket frame }
  | .outputClosed socket =>
      { world with server := world.server.modifySocket socket fun held =>
          { held with isClientGone := true } }
  | .inputClosed socket =>
      { world with server := world.server.modifySocket socket fun held =>
          { held with isClientReading := false, toClient := [] } }
  | .streamed request message =>
      world.modifyReply ⟨kernel, request⟩ fun box =>
        { box with inbox := box.inbox ++ [message] }
  | .settled request outcome =>
      world.modifyReply ⟨kernel, request⟩ fun box =>
        { box with isEnded := true, outcome := some outcome }
  | .delivered comm event =>
      world.modifyComm ⟨kernel, comm⟩ fun box => { box with inbox := box.inbox ++ [event] }
  | .released comm => world.modifyComm ⟨kernel, comm⟩ fun box => { box with isReleased := true }
  | .offered receiver comm opening =>
      let world : World := { world with comms := world.comms ++ [⟨kernel, comm, [], false⟩] }
      world.modifyTarget ⟨kernel, receiver⟩ fun box =>
        { box with inbox := box.inbox ++ [(⟨kernel, comm.key⟩, opening)] }
  | .targetReleased receiver =>
      world.modifyTarget ⟨kernel, receiver⟩ fun box => { box with isReleased := true }
  | .log line => world.logLines [line]
  | .accepted _ | .connect | .wait _ => world
  | announced => world.modifyKernel kernel fun object => object.emit announced

/-- Put a changed connection in its place and carry out what the change announces. -/
def applyKernel (kernel : Nat) (change : Connection.Change) (world : World) : World :=
  let placed := world.modifyKernel kernel fun object => { object with connection := change.1 }
  change.2.foldl (fun world effect => (world.carryKernel kernel effect).wake) placed.wake

/-- Change a connection. -/
def changeKernel (kernel : Nat) (step : Connection → Connection.Change) (world : World) : World :=
  match world.kernel? kernel with
  | some object => world.applyKernel kernel (step object.connection)
  | none => world

/-- Connect to a kernel. The number of the connection is the next one. -/
def connectKernel (model : KernelModel) (options : ConnectionOptions) (world : World) : World :=
  let (client, world) := match options.clientId with
    | some client => (client, world)
    | none => world.freshClient
  let object := KernelObject.create (.create model client options)
  { world with kernels := world.kernels ++ [object] }.spawn (.socket world.kernels.length .begin)

/-- Carry out what a change of a session announces. -/
def carrySession (session : Nat) (options : ConnectionOptions) (effect : Session.Effect)
    (world : World) : World :=
  match effect with
  | .connectKernel _ model => world.connectKernel model options
  | .disposeKernel kernel => world.changeKernel kernel Connection.dispose
  | announced => world.modifySession session fun object => object.emit announced

/-- Put a changed session in its place and carry out what the change announces. -/
def applySession (session : Nat) (options : ConnectionOptions) (change : Session.Change)
    (world : World) : World :=
  let placed := world.modifySession session fun object => { object with session := change.1 }
  change.2.foldl (fun world effect => (world.carrySession session options effect).wake)
    placed.wake

/-- Change a session. -/
def changeSession (session : Nat) (step : Session → Session.Change) (world : World) : World :=
  match world.session? session with
  | some object => world.applySession session object.options (step object.session)
  | none => world

/-- Apply a fresh model to a session. -/
def updateSession (session : Nat) (model : SessionModel) (world : World) : World :=
  world.changeSession session (Session.update model world.kernels.length)

/-- Connect to a session. The number of the connection is the next one. -/
def connectSession (model : SessionModel) (options : ConnectionOptions) (world : World) : World :=
  let change := Session.create model world.kernels.length
  let object := SessionObject.create change.1 options
  { world with sessions := world.sessions ++ [object] }.applySession
    world.sessions.length options change

/-- Carry out what a change of a manager of kernels announces. -/
def carryKernelManager (manager : Nat) (effect : Manager.Effect KernelModel KernelHandle)
    (world : World) : World :=
  match effect with
  | .disposeConnection handle => world.changeKernel handle.connection Connection.dispose
  | .updateConnection _ _ => world
  | .log line => world.logLines [line]
  | announced => world.modifyKernelManager manager fun object => object.emit announced

/-- Carry out what a change of a manager of sessions announces. -/
def carrySessionManager (manager : Nat) (effect : Manager.Effect SessionModel SessionHandle)
    (world : World) : World :=
  match effect with
  | .disposeConnection handle => world.changeSession handle.connection Session.dispose
  | .updateConnection handle model => world.updateSession handle.connection model
  | .log line => world.logLines [line]
  | announced => world.modifySessionManager manager fun object => object.emit announced

/-- Change a manager of kernels. -/
def changeKernelManager (manager : Nat)
    (step : KernelManager → Manager.Change KernelModel KernelHandle) (world : World) : World :=
  match world.kernelManager? manager with
  | some object =>
      let (changed, effects) := step object.manager
      let placed := world.modifyKernelManager manager fun object =>
        { object with manager := changed }
      effects.foldl (fun world effect => (world.carryKernelManager manager effect).wake)
        placed.wake
  | none => world

/-- Change a manager of sessions. -/
def changeSessionManager (manager : Nat)
    (step : SessionManager → Manager.Change SessionModel SessionHandle) (world : World) : World :=
  match world.sessionManager? manager with
  | some object =>
      let (changed, effects) := step object.manager
      let placed := world.modifySessionManager manager fun object =>
        { object with manager := changed }
      effects.foldl (fun world effect => (world.carrySessionManager manager effect).wake)
        placed.wake
  | none => world

/-- A change that managers of both kinds make in the same way. -/
structure AnyChange where
  kernels : KernelManager → Manager.Change KernelModel KernelHandle
  sessions : SessionManager → Manager.Change SessionModel SessionHandle

/-- Change a manager of either kind. -/
def changeManager (id : ManagerId) (change : AnyChange) (world : World) : World :=
  match id with
  | .kernels manager => world.changeKernelManager manager change.kernels
  | .sessions manager => world.changeSessionManager manager change.sessions

/-- Track a connection to a kernel and watch it. -/
def registerKernel (manager kernel : Nat) (world : World) : World :=
  match world.kernelManager? manager, world.kernel? kernel with
  | some managing, some object =>
      let (status, statusSignal) := object.status.subscribe
      let (disposed, disposedSignal) := object.disposed.subscribe
      let handle : KernelHandle :=
        ⟨kernel, object.connection.model.id, object.connection.clientId⟩
      let world := world.modifyKernel kernel fun object =>
        { object with status := statusSignal, disposed := disposedSignal }
      let world := world.changeKernelManager manager
        (KernelManager.register handle object.connection.model)
      if managing.manager.isDisposed then world
      else world.spawn (.watchKernel manager kernel status disposed)
  | _, _ => world

/-- Track a connection to a session and watch it. -/
def registerSession (manager session : Nat) (world : World) : World :=
  match world.sessionManager? manager, world.session? session with
  | some managing, some object =>
      let (terminated, terminatedSignal) := object.terminated.subscribe
      let (property, propertySignal) := object.property.subscribe
      let (kernel, kernelSignal) := object.kernel.subscribe
      let (disposed, disposedSignal) := object.disposed.subscribe
      let handle : SessionHandle := ⟨session, object.session.model.id⟩
      let world := world.modifySession session fun object =>
        { object with
          terminated := terminatedSignal
          property := propertySignal
          kernel := kernelSignal
          disposed := disposedSignal }
      let world := world.changeSessionManager manager
        (SessionManager.register handle object.session.model)
      if managing.manager.isDisposed then world
      else world.spawn (.watchSession manager session terminated property kernel disposed)
  | _, _ => world

/-- Connect to a kernel through a manager. The number of the connection is the next one. -/
def connectThroughKernels (manager : Nat) (model : KernelModel) (world : World) :
    Except ServiceError World :=
  match world.kernelManager? manager with
  | some object => do
      object.manager.checkOpen
      return (world.connectKernel model object.options.kernel).registerKernel manager
        world.kernels.length
  | none => .error .disposed

/-- Connect to a session through a manager. The number of the connection is the next one. -/
def connectThroughSessions (manager : Nat) (model : SessionModel) (world : World) :
    Except ServiceError World :=
  match world.sessionManager? manager with
  | some object => do
      object.manager.checkOpen
      return (world.connectSession model object.options.kernel).registerSession manager
        world.sessions.length
  | none => .error .disposed

end KernelClient.Simulation.World
