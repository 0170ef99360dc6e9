import KernelClient.Simulation.Holding

/-!
# Names

What a script names it holds: a connection, session or manager under a name is observed from then
on, also after its name is dropped. A name that is given again lets go of what it named before. What
a task makes is observed at once, but has its name only when the next report is made.
-/

namespace KernelClient.Simulation.World

open Connection (assign erase)

def modifyNames (change : Names → Names) (world : World) : World :=
  { world with names := change world.names }

/-- Subscribe to the signals of a connection. -/
def watchKernel (kernel : Nat) (world : World) : Option (KernelObserver × World) :=
  (world.kernel? kernel).map fun object =>
    let (status, statusSignal) := object.status.subscribe
    let (connectionStatus, connectionSignal) := object.connectionStatus.subscribe
    let (received, receivedSignal) := object.received.subscribe
    let (unclaimed, unclaimedSignal) := object.unclaimed.subscribe
    let (disposed, disposedSignal) := object.disposed.subscribe
    (⟨kernel, status, connectionStatus, received, unclaimed, disposed⟩,
      world.modifyKernel kernel fun object =>
        { object with
          status := statusSignal
          connectionStatus := connectionSignal
          received := receivedSignal
          unclaimed := unclaimedSignal
          disposed := disposedSignal })

/-- Give a name to the connection that an observer watches. -/
def assignKernel (name : String) (observer : KernelObserver) (world : World) : World :=
  world.modifyNames fun names =>
    { names with
      kernels := assign name observer.kernel names.kernels
      kernelObservers := assign name observer names.kernelObservers }

/-- Name a connection. -/
def nameKernel (name : String) (kernel : Nat) (world : World) : World :=
  match world.watchKernel kernel with
  | some (observer, world) => world.assignKernel name observer
  | none => world

/-- Keep a connection that a task has made, which has its name from the next report on. -/
def bringKernel (name : String) (kernel : Nat) (world : World) : World :=
  match world.watchKernel kernel with
  | some (observer, world) =>
      { world with arrivals := world.arrivals ++ [.kernel name observer] }
  | none => world

/-- Subscribe to the signals of a session. -/
def watchSession (session : Nat) (world : World) : Option (SessionObserver × World) :=
  (world.session? session).map fun object =>
    let (property, propertySignal) := object.property.subscribe
    let (kernel, kernelSignal) := object.kernel.subscribe
    let (terminated, terminatedSignal) := object.terminated.subscribe
    let (disposed, disposedSignal) := object.disposed.subscribe
    (⟨session, property, kernel, terminated, disposed⟩,
      world.modifySession session fun object =>
        { object with
          property := propertySignal
          kernel := kernelSignal
          terminated := terminatedSignal
          disposed := disposedSignal })

/-- Give a name to the session that an observer watches. -/
def assignSession (name : String) (observer : SessionObserver) (world : World) : World :=
  world.modifyNames fun names =>
    { names with
      sessions := assign name observer.session names.sessions
      sessionObservers := assign name observer names.sessionObservers }

/-- Name a session. -/
def nameSession (name : String) (session : Nat) (world : World) : World :=
  match world.watchSession session with
  | some (observer, world) => world.assignSession name observer
  | none => world

/-- Keep a session that a task has made, which has its name from the next report on. -/
def bringSession (name : String) (session : Nat) (world : World) : World :=
  match world.watchSession session with
  | some (observer, world) =>
      { world with arrivals := world.arrivals ++ [.session name observer] }
  | none => world

/-- Give what tasks have made its names, in the order in which it came. -/
def nameArrivals (world : World) : World :=
  world.arrivals.foldl (fun world arrival =>
    match arrival with
    | .kernel name observer => world.assignKernel name observer
    | .session name observer => world.assignSession name observer)
    { world with arrivals := [] }

/-- Subscribe to all signals of a manager. -/
def subscribeAll {Model Connection : Type} (id : ManagerId)
    (object : ManagerObject Model Connection) :
    ManagerObserver × ManagerObject Model Connection :=
  let (running, runningSignal) := object.running.subscribe
  let (specs, specsSignal) := object.specs.subscribe
  let (failure, failureSignal) := object.failure.subscribe
  let (disposed, disposedSignal) := object.disposed.subscribe
  (⟨id, running, specs, failure, disposed⟩,
    { object with
      running := runningSignal
      specs := specsSignal
      failure := failureSignal
      disposed := disposedSignal })

/-- Observe the signals of a manager. -/
def observeManager (name : String) (id : ManagerId) (world : World) : World :=
  let keep (observer : ManagerObserver) (world : World) : World :=
    world.modifyNames fun names =>
      { names with managerObservers := assign name observer names.managerObservers }
  match id with
  | .kernels number =>
      match world.kernelManager? number with
      | some object =>
          let (observer, observed) := subscribeAll id object
          keep observer (world.modifyKernelManager number fun _ => observed)
      | none => world
  | .sessions number =>
      match world.sessionManager? number with
      | some object =>
          let (observer, observed) := subscribeAll id object
          keep observer (world.modifySessionManager number fun _ => observed)
      | none => world

/-- Name a manager. -/
def nameManager (name : String) (id : ManagerId) (world : World) : World :=
  (world.modifyNames fun names =>
    { names with managers := assign name id names.managers }).observeManager name id

/-- Let go of a reply. -/
def dropReply (name : String) (world : World) : World :=
  match world.names.replies.lookup name with
  | none => world
  | some held =>
      { world with
        replies := world.replies.filter fun box => box.id != held.id
        names := { world.names with replies := erase name world.names.replies } }

/-- Hold the reply to a request under a name. -/
def nameReply (name : String) (id : RequestId) (isManual : Bool) (world : World) : World :=
  let world := world.dropReply name
  { world with
    replies := world.replies ++ [⟨id, [], false, none, false⟩]
    names := { world.names with
      replies := assign name ⟨id, isManual, false, false⟩ world.names.replies } }

def comm? (id : CommId) (world : World) : Option CommBox :=
  world.comms.find? fun box => box.id = id

/-- Let go of a comm, which is unregistered if its connection still exists. -/
def releaseComm (id : CommId) (world : World) : World :=
  match world.comm? id with
  | none => world
  | some box =>
      let world := { world with comms := world.comms.filter fun box => box.id != id }
      match world.kernel? id.kernel with
      | some object =>
          if object.isAlive then world.changeKernel id.kernel (Connection.dropComm box.comm)
          else world
      | none => world

def dropComm (name : String) (world : World) : World :=
  match world.names.comms.lookup name with
  | none => world
  | some held =>
      (world.modifyNames fun names => { names with comms := erase name names.comms }).releaseComm
        held.id

/-- Hold a comm under a name. -/
def nameComm (name : String) (id : CommId) (isManual : Bool) (world : World) : World :=
  (world.dropComm name).modifyNames fun names =>
    { names with comms := assign name ⟨id, isManual, false⟩ names.comms }

def target? (id : TargetId) (world : World) : Option TargetBox :=
  world.targets.find? fun box => box.id = id

/-- Let go of the receiver of a target and of the comms that it has not taken. -/
def dropTarget (name : String) (world : World) : World :=
  match world.names.targets.lookup name with
  | none => world
  | some held =>
      let waiting := match world.target? held.id with
        | some box => box.inbox.map Prod.fst
        | none => []
      let world := { world with
        targets := world.targets.filter fun box => box.id != held.id
        names := { world.names with targets := erase name world.names.targets } }
      let world := world.modifyKernel held.id.kernel fun object =>
        { object with connection := object.connection.receiverGone held.id.receiver }
      waiting.foldl (fun world id => world.releaseComm id) world

/-- Hold the receiver of a target under a name. -/
def nameTarget (name : String) (id : TargetId) (isManual : Bool) (world : World) : World :=
  let world := world.dropTarget name
  { world with
    targets := world.targets ++ [⟨id, [], false⟩]
    names := { world.names with
      targets := assign name ⟨id, isManual, false, 0⟩ world.names.targets } }

/-- Take the next comm that a target has received. It is held under the name of the target with a
number. -/
def takeComm (name : String) (world : World) : Option (String × Message × World) :=
  match world.names.targets.lookup name with
  | none => none
  | some held =>
    match world.target? held.id with
    | some box =>
      match box.inbox with
      | (id, opening) :: rest =>
          let count := held.taken + 1
          let commName := s!"{name}#{count}"
          let world := world.modifyTarget held.id fun box => { box with inbox := rest }
          let world := world.modifyNames fun names =>
            { names with targets := assign name { held with taken := count } names.targets }
          some (commName, opening, world.nameComm commName id held.isManual)
      | [] => none
    | none => none

end KernelClient.Simulation.World
