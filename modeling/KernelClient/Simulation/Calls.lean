import KernelClient.Simulation.Background

/-!
# Calls

The calls that go on in the background until they have a result. Each function runs a call until it
has to wait, and gives its stage or its result.
-/

namespace KernelClient.Simulation.World

/-- A call that waits, or its result. -/
inductive Progress where
  | waiting (stage : CallStage)
  | finished (outcome : CallOutcome)
deriving Inhabited

/-- The result of a call without a value. -/
def bare (result : Except ServiceError Unit) : Progress :=
  .finished (result.map fun () => .nothing)

def runValue (slot : Slot CallValue) (world : World) : Progress × World :=
  match slot.result? with
  | some outcome => (.finished outcome, world)
  | none => (.waiting (.value slot), world)

/-- Go on once all deletions have a result. -/
def runDeleting (slots : List (Slot Unit)) (world : World) : Progress × World :=
  match slots.mapM Slot.result? with
  | some results => (bare (Exchange.allOk results), world)
  | none => (.waiting (.deleting slots), world)

/-- Delete everything in a list once it has arrived. -/
def runListing (slot : Slot (List (Exchange Unit))) (world : World) : Progress × World :=
  match slot with
  | .settled (.ok exchanges) =>
      let (slots, world) := world.askEach exchanges
      world.runDeleting slots
  | .settled (.error error) => (.finished (.error error), world)
  | .waiting _ _ _ => (.waiting (.listing slot), world)

def runInterrupting (kernel : Nat) (slot : Slot Unit) (world : World) : Progress × World :=
  match slot.result? with
  | some result => (bare result, world)
  | none => (.waiting (.interrupting kernel slot), world)

/-- Let go of the subscriptions of a restart. -/
def endRestart (kernel status disposed : Nat) (world : World) : World :=
  world.modifyKernel kernel fun object =>
    { object with
      status := object.status.unsubscribe status
      disposed := object.disposed.unsubscribe disposed }

/-- Wait until the kernel says that it is starting. -/
def runAwaitingStart (kernel status disposed : Nat) (timer : Timer) (world : World) :
    Progress × World :=
  match world.kernel? kernel with
  | none => (.finished (.error .disposed), world)
  | some object =>
      let (statuses, statusSignal) := object.status.drain status
      let (endings, disposedSignal) := object.disposed.drain disposed
      let world := world.modifyKernel kernel fun object =>
        { object with status := statusSignal, disposed := disposedSignal }
      let outcome? : Option (Except ServiceError Unit) :=
        (statuses.findSome? Connection.restartOutcome?).or <|
          if !endings.isEmpty then some (.error .disposed)
          else if timer.isDue world.clock then some (.error Connection.restartTimeout)
          else none
      match outcome? with
      | some outcome => (bare outcome, world.endRestart kernel status disposed)
      | none => (.waiting (.awaitingStart kernel status disposed timer), world)

/-- Wait for the kernel once the server has restarted it. -/
def runRestarting (kernel status disposed : Nat) (slot : Slot KernelModel) (world : World) :
    Progress × World :=
  match slot with
  | .waiting _ _ _ => (.waiting (.restarting kernel status disposed slot), world)
  | .settled (.error error) =>
      (.finished (.error error), world.endRestart kernel status disposed)
  | .settled (.ok _) =>
    match world.kernel? kernel with
    | none => (.finished (.error .disposed), world)
    | some object =>
      match object.connection.restarted with
      | .error error => (.finished (.error error), world.endRestart kernel status disposed)
      | .ok change =>
          let world := world.applyKernel kernel change
          let (timer, world) := world.timer object.connection.options.restartTimeout.milliseconds
          world.runAwaitingStart kernel status disposed timer

def beginRestart (kernel : Nat) (world : World) : Progress × World :=
  match world.kernel? kernel with
  | none => (.finished (.error .disposed), world)
  | some object =>
    match object.connection.checkOpen with
    | .error error => (.finished (.error error), world)
    | .ok () =>
        let (status, statusSignal) := object.status.subscribe
        let (disposed, disposedSignal) := object.disposed.subscribe
        let world := world.modifyKernel kernel fun object =>
          { object with status := statusSignal, disposed := disposedSignal }
        let (slot, world) :=
          world.ask (Rest.Kernels.restart world.settings object.connection.model.id)
        world.runRestarting kernel status disposed slot

def beginInterrupt (kernel : Nat) (world : World) : Progress × World :=
  match world.kernel? kernel with
  | none => (.finished (.error .disposed), world)
  | some object =>
    match object.connection.checkOpen with
    | .error error => (.finished (.error error), world)
    | .ok () =>
        let (slot, world) :=
          world.ask (Rest.Kernels.interrupt world.settings object.connection.model.id)
        world.runInterrupting kernel slot

/-- Dispose a connection once its kernel was shut down. -/
def runEndingKernel (kernel : Nat) (slot : Slot Unit) (world : World) : Progress × World :=
  match slot with
  | .waiting _ _ _ => (.waiting (.endingKernel kernel slot), world)
  | .settled (.error error) => (.finished (.error error), world)
  | .settled (.ok ()) => (bare (.ok ()), world.changeKernel kernel Connection.shutDown)

def beginShutdownKernel (kernel : Nat) (world : World) : Progress × World :=
  match world.kernel? kernel with
  | none => (.finished (.error .disposed), world)
  | some object =>
    match object.connection.checkShutdown with
    | .error error => (.finished (.error error), world)
    | .ok false => world.runEndingKernel kernel (.settled (.ok ()))
    | .ok true =>
        let (slot, world) :=
          world.ask (Rest.Kernels.shutdown world.settings object.connection.model.id)
        world.runEndingKernel kernel slot

/-- Go on once a request was answered or given up. An outcome that was taken before does not come
again. -/
def runAwaitingReply (request : RequestId) (world : World) : Progress × World :=
  match world.replies.find? fun box => box.id = request with
  | none => (.finished (.error .disposed), world)
  | some box =>
    match box.comingOutcome? with
    | some outcome =>
        (.finished (outcome.map .reply),
          { world with replies := world.replies.filter fun box => box.id != request })
    | none => (.waiting (.awaitingReply request), world)

/-- Apply the model that a patch resulted in. -/
def runPatching (session : Nat) (slot : Slot SessionModel) (world : World) : Progress × World :=
  match slot with
  | .waiting _ _ _ => (.waiting (.patching session slot), world)
  | .settled (.error error) => (.finished (.error error), world)
  | .settled (.ok model) => (bare (.ok ()), world.updateSession session model)

/-- Apply the model that a change of the kernel resulted in, and give the kernel. -/
def runChangingKernel (session : Nat) (name : Option String) (slot : Slot SessionModel)
    (world : World) : Progress × World :=
  match slot with
  | .waiting _ _ _ => (.waiting (.changingKernel session name slot), world)
  | .settled (.error error) => (.finished (.error error), world)
  | .settled (.ok model) =>
      let world := world.updateSession session model
      match (world.session? session).bind fun object => object.session.kernel with
      | none => (.finished (.ok (.json .null)), world)
      | some kernel =>
          let world := match name with
            | some name => world.bringKernel name kernel
            | none => world
          let model := match world.kernel? kernel with
            | some object => object.connection.model.toJson
            | none => .null
          (.finished (.ok (.json model)), world)

/-- Dispose a session once it was shut down. -/
def runEndingSession (session : Nat) (slot : Slot Unit) (world : World) : Progress × World :=
  match slot with
  | .waiting _ _ _ => (.waiting (.endingSession session slot), world)
  | .settled (.error error) => (.finished (.error error), world)
  | .settled (.ok ()) => (bare (.ok ()), world.changeSession session Session.shutDown)

/-- Call the server about a session that is not disposed. -/
def aboutSession {α : Type} (session : Nat) (exchange : Settings → String → Exchange α)
    (run : Slot α → World → Progress × World) (world : World) : Progress × World :=
  match world.session? session with
  | none => (.finished (.error .disposed), world)
  | some object =>
    match object.session.checkOpen with
    | .error error => (.finished (.error error), world)
    | .ok id =>
        let (slot, world) := world.ask (exchange world.settings id)
        run slot world

def runAwaitingReady (manager : ManagerId) (world : World) : Progress × World :=
  match (world.manager? manager).bind ManagerView.outcome with
  | some outcome => (bare outcome, world)
  | none => (.waiting (.awaitingReady manager), world)

def runRefreshing (manager : ManagerId) (refresh : Refresh) (world : World) : Progress × World :=
  match refresh.result? with
  | some result => (bare result, world)
  | none => (.waiting (.refreshing manager refresh), world)

/-- The model of a resource in the list of a manager. -/
def cached? (manager : ManagerId) (wanted : Wanted) (world : World) : Option Json :=
  match manager with
  | .kernels number =>
      (world.kernelManager? number).bind fun object =>
        (object.manager.find? fun model =>
          match wanted with
          | .id id => model.id = id
          | .path _ => false).map KernelModel.toJson
  | .sessions number =>
      (world.sessionManager? number).bind fun object =>
        (object.manager.find? fun model =>
          match wanted with
          | .id id => model.id = id
          | .path path => model.path = path).map SessionModel.toJson

/-- Look again once the list was loaded. -/
def runFinding (manager : ManagerId) (wanted : Wanted) (refresh : Refresh) (world : World) :
    Progress × World :=
  match refresh.result? with
  | none => (.waiting (.finding manager wanted refresh), world)
  | some (.error error) => (.finished (.error error), world)
  | some (.ok ()) =>
      (.finished (.ok (.json ((world.cached? manager wanted).getD .null))), world)

def beginFinding (manager : ManagerId) (wanted : Wanted) (world : World) : Progress × World :=
  match world.cached? manager wanted with
  | some model => (.finished (.ok (.json model)), world)
  | none =>
      let (refresh, world) := world.beginRefresh manager .running
      world.runFinding manager wanted refresh

/-- The exchange that deletes a resource of a manager. -/
def deleteExchange (manager : ManagerId) (id : String) (world : World) : Exchange Unit :=
  match manager with
  | .kernels _ => Rest.Kernels.shutdown world.settings id
  | .sessions _ => Rest.Sessions.shutdown world.settings id

def endShutdown (id : String) : AnyChange where
  kernels := Manager.endShutdown id
  sessions := Manager.endShutdown id

/-- Dispose the connections to a resource once it was deleted. A quiet call has no error. -/
def runDeletingOne (manager : ManagerId) (id : String) (isQuiet : Bool) (slot : Slot Unit)
    (world : World) : Progress × World :=
  match slot with
  | .waiting _ _ _ => (.waiting (.deletingOne manager id isQuiet slot), world)
  | .settled (.error error) => (bare (if isQuiet then .ok () else .error error), world)
  | .settled (.ok ()) => (bare (.ok ()), world.changeManager manager (endShutdown id))

/-- Begin to shut down a resource, and say whether the server is to be asked. -/
def beginManagerShutdown (manager : ManagerId) (id : String) (world : World) :
    Except ServiceError Bool × World :=
  match manager with
  | .kernels number =>
    match world.kernelManager? number with
    | none => (.error .disposed, world)
    | some object =>
      match object.manager.beginShutdown id with
      | .error error => (.error error, world)
      | .ok none => (.ok false, world)
      | .ok (some change) => (.ok true, world.changeKernelManager number fun _ => change)
  | .sessions number =>
    match world.sessionManager? number with
    | none => (.error .disposed, world)
    | some object =>
      match object.manager.beginShutdown id with
      | .error error => (.error error, world)
      | .ok none => (.ok false, world)
      | .ok (some change) => (.ok true, world.changeSessionManager number fun _ => change)

def beginShutdown (manager : ManagerId) (id : String) (isQuiet : Bool) (world : World) :
    Progress × World :=
  match world.beginManagerShutdown manager id with
  | (.error error, world) => (bare (if isQuiet then .ok () else .error error), world)
  | (.ok false, world) => (bare (.ok ()), world)
  | (.ok true, world) =>
      let (slot, world) := world.ask (world.deleteExchange manager id)
      world.runDeletingOne manager id isQuiet slot

def endShutdownAll (ids : List String) : AnyChange where
  kernels := Manager.endShutdownAll ids
  sessions := Manager.endShutdownAll ids

/-- Dispose the connections to all resources once each deletion has a result. -/
def runDeletingAll (manager : ManagerId) (ids : List String) (slots : List (Slot Unit))
    (world : World) : Progress × World :=
  match slots.mapM Slot.result? with
  | none => (.waiting (.deletingAll manager ids slots), world)
  | some results =>
      (bare (Exchange.allOk results), world.changeManager manager (endShutdownAll ids))

/-- Begin to shut down all resources, and say which they are. -/
def beginManagerShutdownAll (manager : ManagerId) (world : World) :
    Except ServiceError (List String) × World :=
  match manager with
  | .kernels number =>
    match world.kernelManager? number with
    | none => (.error .disposed, world)
    | some object =>
      match object.manager.beginShutdownAll with
      | .error error => (.error error, world)
      | .ok (ids, change) => (.ok ids, world.changeKernelManager number fun _ => change)
  | .sessions number =>
    match world.sessionManager? number with
    | none => (.error .disposed, world)
    | some object =>
      match object.manager.beginShutdownAll with
      | .error error => (.error error, world)
      | .ok (ids, change) => (.ok ids, world.changeSessionManager number fun _ => change)

def beginShutdownAll (manager : ManagerId) (world : World) : Progress × World :=
  match world.beginManagerShutdownAll manager with
  | (.error error, world) => (.finished (.error error), world)
  | (.ok [], world) => (bare (.ok ()), world)
  | (.ok ids, world) =>
      let (slots, world) := world.askEach (ids.map fun id => world.deleteExchange manager id)
      world.runDeletingAll manager ids slots

/-- Shut down the only session of a path once the list has arrived. -/
def runStopping (manager : Nat) (path : String) (slot : Slot (List SessionModel))
    (world : World) : Progress × World :=
  match slot with
  | .waiting _ _ _ => (.waiting (.stopping manager path slot), world)
  | .settled (.error _) => (bare (.ok ()), world)
  | .settled (.ok models) =>
    match SessionManager.onlyAt? path models with
    | none => (bare (.ok ()), world)
    | some id =>
        (world.applyListing (.sessions manager) (.sessions models)).beginShutdown
          (.sessions manager) id true

/-- Connect to a kernel that was started. -/
def runStartingKernel (manager : Nat) (name : String) (slot : Slot KernelModel) (world : World) :
    Progress × World :=
  match slot with
  | .waiting _ _ _ => (.waiting (.startingKernel manager name slot), world)
  | .settled (.error error) => (.finished (.error error), world)
  | .settled (.ok model) =>
    match world.connectThroughKernels manager model with
    | .error error => (.finished (.error error), world)
    | .ok connected =>
        (.finished (.ok (.json model.toJson)), connected.bringKernel name world.kernels.length)

/-- Connect to a session that was started. -/
def runStartingSession (manager : Nat) (name : String) (slot : Slot SessionModel)
    (world : World) : Progress × World :=
  match slot with
  | .waiting _ _ _ => (.waiting (.startingSession manager name slot), world)
  | .settled (.error error) => (.finished (.error error), world)
  | .settled (.ok model) =>
    match world.connectThroughSessions manager model with
    | .error error => (.finished (.error error), world)
    | .ok connected =>
        (.finished (.ok (.json model.toJson)), connected.bringSession name world.sessions.length)

/-- Start something through a manager that is not disposed. -/
def start {α : Type} (manager : ManagerId) (exchange : Settings → Exchange α)
    (run : Slot α → World → Progress × World) (world : World) : Progress × World :=
  match world.manager? manager with
  | none => (.finished (.error .disposed), world)
  | some view =>
    if view.isDisposed then (.finished (.error .disposed), world)
    else
      let (slot, world) := world.ask (exchange world.settings)
      run slot world

/-- Begin a call. -/
def beginCall (call : Call) (world : World) : Progress × World :=
  match call with
  | .rest exchange =>
      let (slot, world) := world.ask exchange
      world.runValue slot
  | .deleteEach list =>
      let (slot, world) := world.ask list
      world.runListing slot
  | .interrupt kernel => world.beginInterrupt kernel
  | .restart kernel => world.beginRestart kernel
  | .shutdownKernel kernel => world.beginShutdownKernel kernel
  | .setProperty session property value =>
      world.aboutSession session
        (fun settings id => Rest.Sessions.update settings id (Session.patch property value))
        (fun slot world => world.runPatching session slot)
  | .changeKernel session choice name =>
      world.aboutSession session
        (fun settings id => Rest.Sessions.update settings id (Session.kernelPatch choice))
        (fun slot world => world.runChangingKernel session name slot)
  | .shutdownSession session =>
      world.aboutSession session Rest.Sessions.shutdown
        (fun slot world => world.runEndingSession session slot)
  | .reply request => world.runAwaitingReply request
  | .ready manager => world.runAwaitingReady manager
  | .refresh manager copy =>
      let (refresh, world) := world.beginRefresh manager copy
      world.runRefreshing manager refresh
  | .find (.kernels _) (.path _) => (.finished (.ok .unsupported), world)
  | .find manager wanted => world.beginFinding manager wanted
  | .shutdown manager id => world.beginShutdown manager id false
  | .shutdownAll manager => world.beginShutdownAll manager
  | .stopIfNeeded (.kernels _) _ => (.finished (.ok .unsupported), world)
  | .stopIfNeeded (.sessions manager) path =>
      let (slot, world) := world.ask (Rest.Sessions.list world.settings)
      world.runStopping manager path slot
  | .startKernel manager options name =>
      world.start (.kernels manager) (fun settings => Rest.Kernels.start settings options)
        (fun slot world => world.runStartingKernel manager name slot)
  | .startSession manager request name =>
      world.start (.sessions manager) (fun settings => Rest.Sessions.start settings request)
        (fun slot world => world.runStartingSession manager name slot)

/-- Go on with a call. -/
def runCall (stage : CallStage) (world : World) : Progress × World :=
  match stage with
  | .begin call => world.beginCall call
  | .value slot =>
      let (slot, world) := world.check slot
      world.runValue slot
  | .listing slot =>
      let (slot, world) := world.check slot
      world.runListing slot
  | .deleting slots =>
      let (slots, world) := world.checkEach slots
      world.runDeleting slots
  | .interrupting kernel slot =>
      let (slot, world) := world.check slot
      world.runInterrupting kernel slot
  | .restarting kernel status disposed slot =>
      let (slot, world) := world.check slot
      world.runRestarting kernel status disposed slot
  | .awaitingStart kernel status disposed timer =>
      world.runAwaitingStart kernel status disposed timer
  | .endingKernel kernel slot =>
      let (slot, world) := world.check slot
      world.runEndingKernel kernel slot
  | .patching session slot =>
      let (slot, world) := world.check slot
      world.runPatching session slot
  | .changingKernel session name slot =>
      let (slot, world) := world.check slot
      world.runChangingKernel session name slot
  | .endingSession session slot =>
      let (slot, world) := world.check slot
      world.runEndingSession session slot
  | .awaitingReply request => world.runAwaitingReply request
  | .awaitingReady manager => world.runAwaitingReady manager
  | .refreshing manager refresh =>
      let (refresh, world) := world.checkRefresh manager refresh
      world.runRefreshing manager refresh
  | .finding manager wanted refresh =>
      let (refresh, world) := world.checkRefresh manager refresh
      world.runFinding manager wanted refresh
  | .deletingOne manager id isQuiet slot =>
      let (slot, world) := world.check slot
      world.runDeletingOne manager id isQuiet slot
  | .deletingAll manager ids slots =>
      let (slots, world) := world.checkEach slots
      world.runDeletingAll manager ids slots
  | .stopping manager path slot =>
      let (slot, world) := world.check slot
      world.runStopping manager path slot
  | .startingKernel manager name slot =>
      let (slot, world) := world.check slot
      world.runStartingKernel manager name slot
  | .startingSession manager name slot =>
      let (slot, world) := world.check slot
      world.runStartingSession manager name slot

end KernelClient.Simulation.World
