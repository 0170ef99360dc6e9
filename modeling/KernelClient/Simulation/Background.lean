import KernelClient.Simulation.Naming

/-!
# Sockets, watchers and polls

The tasks that go on without being asked for: those that keep sockets open, those that watch
connections for their manager, and those that keep the copies of a manager fresh. Each is run until
it has to wait or is over. Those that keep sockets open and those that poll are run turn by turn, and
pause after many turns, so that the others go on too.
-/

namespace KernelClient.Simulation.World

/-- How often a task goes on in one run before it pauses. Each timer that is over, each frame that
is read and each end of an input counts. -/
def budget : Nat := 128

/-- Let a task go on for as many turns as it may. -/
def goOn {Wait : Type} (task : Wait → Task) (turn : Wait → World → Turn Wait × World) :
    (budget : Nat) → Wait → World → RunEnd × World
  | 0, wait, world => (.pauses (task wait), world)
  | budget + 1, wait, world =>
    match turn wait world with
    | (.goesOn wait, world) => goOn task turn budget wait world
    | (.waits wait, world) => (.waits (task wait), world)
    | (.over, world) => (.over, world)

/-- The subprotocols that are offered to a server. -/
def offeredProtocols : List String := [WireProtocol.v1Subprotocol]

/-- Change a connection and give what the change announces. -/
def changeKernelWith (kernel : Nat) (step : Connection → Connection.Change) (world : World) :
    List Connection.Effect × World :=
  match world.kernel? kernel with
  | some object =>
      let change := step object.connection
      (change.2, world.applyKernel kernel change)
  | none => ([], world)

/-- Take a step in which a socket is lost, and pause as long as it asks for, or end. -/
def loseSocket (kernel : Nat) (step : Connection → Connection.Change) (world : World) :
    Turn SocketWait × World :=
  let (effects, world) := world.changeKernelWith kernel step
  let delay? : Option Duration := effects.findSome? fun effect =>
    match effect with
    | .wait delay => some delay
    | _ => none
  match delay? with
  | some delay => (.goesOn (.pausing delay.milliseconds), world)
  | none => (.over, world)

/-- Read a frame that has arrived, or notice the end of the input. -/
def readSocket (kernel : Nat) (world : World) : Turn SocketWait × World :=
  match world.kernel? kernel with
  | none => (.over, world)
  | some object =>
    match object.connection.phase with
    | .reading socket _ =>
      match world.server.socket? socket with
      | none => (.over, world)
      | some held =>
        match held.toClient with
        | frame :: rest =>
            let world := world.changeServer fun server =>
              server.modifySocket socket fun held => { held with toClient := rest }
            (.goesOn .reading, world.changeKernel kernel (Connection.frameArrived world.now frame))
        | [] =>
          if held.isOpen then (.waits .reading, world)
          else world.loseSocket kernel Connection.inputEnded
    | _ => (.over, world)

/-- Announce that a socket is going to be opened. -/
def announceOpening (kernel : Nat) (world : World) : Turn SocketWait × World :=
  (.goesOn .opening, world.changeKernel kernel Connection.beginConnecting)

/-- Begin to pause. A pause of no time is over at once. -/
def beginPause (kernel delay : Nat) (world : World) : Turn SocketWait × World :=
  if delay = 0 then world.announceOpening kernel
  else
    let (timer, world) := world.timer delay
    (.waits (.sleeping timer), world)

/-- Go on after the socket was opened or not. The task does not hold the connection any more, and it
is over if nobody else does. -/
def afterOpening (kernel : Nat) (world : World) : Turn SocketWait × World :=
  let world := world.release
  match world.kernel? kernel with
  | none => (.over, world)
  | some object =>
    if object.isStopped then (.over, world.changeKernel kernel Connection.stop)
    else
      match object.connection.phase with
      | .connecting => world.loseSocket kernel Connection.lose
      | _ => (.goesOn .reading, world)

/-- End an attempt to open a socket as its plan says. -/
def finishOpening (kernel : Nat) (plan : ConnectPlan) (world : World) :
    Turn SocketWait × World :=
  match plan.refusal with
  | some error => (world.changeKernel kernel (Connection.connectFailed error)).afterOpening kernel
  | none =>
      let (number, protocol, server) := world.server.openSocket plan
      let world := { world with
        server := server
        trace := { world.trace with
          connects := world.trace.connects ++ [ConnectEvent.opened number protocol] } }
      let room := if plan.isDeaf then some 0 else none
      (world.changeKernel kernel
        (Connection.connected ⟨number, protocol, room⟩)).afterOpening kernel

/-- Begin to open a socket. One that is opened or refused without delay is read from, or lost, in
the same turn. -/
def beginOpening (kernel : Nat) (world : World) : Turn SocketWait × World :=
  let follow (turn : Turn SocketWait × World) : Turn SocketWait × World :=
    match turn with
    | (.goesOn .reading, world) => world.readSocket kernel
    | (.goesOn (.pausing delay), world) => world.beginPause kernel delay
    | other => other
  match world.kernel? kernel with
  | none => (.over, world)
  | some object =>
    match world.settings.channelsUrl object.connection.model.id object.connection.clientId with
    | .error error =>
        follow ((world.changeKernel kernel (Connection.connectFailed error)).afterOpening kernel)
    | .ok url =>
        let attempt := ConnectEvent.attempt url offeredProtocols world.settings.requestHeaders
        let (plan, server) := world.server.nextPlan
        let world := { world with
          server := server
          trace := { world.trace with connects := world.trace.connects ++ [attempt] } }
        if plan.isHanging then
          let (timer, world) := world.endless
          (.waits (.connecting plan timer), world)
        else if plan.delay = 0 then follow (world.finishOpening kernel plan)
        else
          let (timer, world) := world.timer plan.delay
          (.waits (.connecting plan timer), world)

/-- Take a turn of the task that keeps a socket open. -/
def socketTurn (kernel : Nat) (wait : SocketWait) (world : World) : Turn SocketWait × World :=
  match world.kernel? kernel with
  | none => (.over, world)
  | some object =>
    if object.isStopped then (.over, world.changeKernel kernel Connection.stop)
    else
      match wait with
      | .begin => (world.announceOpening kernel).2.beginOpening kernel
      | .opening => world.beginOpening kernel
      | .connecting plan timer =>
          if timer.isDue world.clock then world.finishOpening kernel plan else (.waits wait, world)
      | .reading => world.readSocket kernel
      | .pausing delay => world.beginPause kernel delay
      | .sleeping timer =>
          if timer.isDue world.clock then world.announceOpening kernel else (.waits wait, world)

/-- Run the task that keeps a socket open. -/
def runSocket (kernel : Nat) (wait : SocketWait) (world : World) : RunEnd × World :=
  goOn (.socket kernel) (socketTurn kernel) budget wait world

/-- Run the task that watches a connection for its manager, and say whether it goes on. A dead
kernel leaves the list; a connection that was disposed is forgotten with all of its client. -/
def runKernelWatch (manager kernel status disposed : Nat) (world : World) : World × Bool :=
  match world.kernel? kernel with
  | none => (world, false)
  | some object =>
      let (statuses, statusSignal) := object.status.drain status
      let (endings, disposedSignal) := object.disposed.drain disposed
      let world := world.modifyKernel kernel fun object =>
        { object with status := statusSignal, disposed := disposedSignal }
      let id := object.connection.model.id
      let died := statuses.contains (.value .dead)
      if died && !world.isKernelManagerAlive manager then (world, false)
      else
        let world :=
          if died then world.changeKernelManager manager (Manager.terminated id) else world
        if statuses.contains .closed || !endings.isEmpty then
          if world.isKernelManagerAlive manager then
            (world.changeKernelManager manager fun managing =>
              (KernelManager.forgetClient object.connection.clientId managing, []), false)
          else (world, false)
        else (world, true)

/-- Whether something other than the end was received. -/
def hasNews {α : Type} (received : List (Received α)) : Bool :=
  received.any fun item => match item with
    | .value _ | .lagged _ => true
    | _ => false

def hasEnd {α : Type} (received : List (Received α)) : Bool :=
  received.any fun item => match item with
    | .closed => true
    | _ => false

def hasValue {α : Type} (received : List (Received α)) : Bool :=
  received.any fun item => match item with
    | .value _ => true
    | _ => false

/-- Run the task that watches a session for its manager, and say whether it goes on. A session that
was shut down leaves the list, a changed one is put into it, and a disposed one is forgotten. -/
def runSessionWatch (manager session terminated property kernel disposed : Nat) (world : World) :
    World × Bool :=
  match world.session? session with
  | none => (world, false)
  | some object =>
      let (endings, terminatedSignal) := object.terminated.drain terminated
      let (properties, propertySignal) := object.property.drain property
      let (kernels, kernelSignal) := object.kernel.drain kernel
      let (disposals, disposedSignal) := object.disposed.drain disposed
      let world := world.modifySession session fun object =>
        { object with
          terminated := terminatedSignal
          property := propertySignal
          kernel := kernelSignal
          disposed := disposedSignal }
      let isManagerAlive := world.isSessionManagerAlive manager
      let id := object.session.model.id
      if hasValue endings && !isManagerAlive then (world, false)
      else
        let world :=
          if hasValue endings then world.changeSessionManager manager (Manager.terminated id)
          else world
        let forgotten (world : World) : World :=
          if isManagerAlive && object.isAlive then
            world.changeSessionManager manager fun managing =>
              (SessionManager.forgetConnection session managing, [])
          else world
        if hasEnd endings then (forgotten world, false)
        else if (hasNews properties || hasNews kernels) && !(isManagerAlive && object.isAlive) then
          (world, false)
        else
          let world :=
            if hasNews properties || hasNews kernels then
              world.changeSessionManager manager (Manager.put object.session.model)
            else world
          if hasEnd properties || hasEnd kernels || !disposals.isEmpty then
            (forgotten world, false)
          else (world, true)

/-- The exchange for the list of a manager. -/
def listExchange (id : ManagerId) (world : World) : Exchange Listing :=
  match id with
  | .kernels _ => (Rest.Kernels.list world.settings).map .kernels
  | .sessions _ => (Rest.Sessions.list world.settings).map .sessions

/-- Replace the list of a manager. -/
def applyListing (id : ManagerId) (listing : Listing) (world : World) : World :=
  match id, listing with
  | .kernels manager, .kernels models =>
      world.changeKernelManager manager (Manager.applyRunning models)
  | .sessions manager, .sessions models =>
      world.changeSessionManager manager (Manager.applyRunning models)
  | _, _ => world

def applySpecs (specs : KernelSpecs) : AnyChange where
  kernels := Manager.applySpecs specs
  sessions := Manager.applySpecs specs

/-- Apply a copy that has arrived. -/
def checkRefresh (id : ManagerId) (refresh : Refresh) (world : World) : Refresh × World :=
  match refresh with
  | .running slot =>
      let (slot, world) := world.check slot
      match slot with
      | .settled (.ok listing) => (.done (.ok ()), world.applyListing id listing)
      | .settled (.error error) => (.done (.error error), world)
      | .waiting _ _ _ => (.running slot, world)
  | .specs slot =>
      let (slot, world) := world.check slot
      match slot with
      | .settled (.ok specs) => (.done (.ok ()), world.changeManager id (applySpecs specs))
      | .settled (.error error) => (.done (.error error), world)
      | .waiting _ _ _ => (.specs slot, world)
  | .done result => (.done result, world)

/-- Begin to load a copy again. -/
def beginRefresh (id : ManagerId) (copy : Copy) (world : World) : Refresh × World :=
  match world.manager? id with
  | some view =>
      if view.isDisposed then (.done (.error .disposed), world)
      else
        match copy with
        | .running =>
            let (slot, world) := world.ask (world.listExchange id)
            world.checkRefresh id (.running slot)
        | .specs =>
            let (slot, world) := world.ask (Rest.Specs.get world.settings)
            world.checkRefresh id (.specs slot)
  | none => (.done (.error .disposed), world)

/-- How the log calls a copy. -/
def copyName (id : ManagerId) (copy : Copy) (world : World) : String :=
  match copy with
  | .running => ((world.manager? id).map ManagerView.listing).getD ""
  | .specs => "kernelspecs"

def reportFailure (what : String) (error : ServiceError) : AnyChange where
  kernels := Manager.reportFailure what error
  sessions := Manager.reportFailure what error

def reportInitialFailure (what : String) (error : ServiceError) : AnyChange where
  kernels := Manager.reportInitialFailure what error
  sessions := Manager.reportInitialFailure what error

/-- Report how the first load of a copy failed, if it did. -/
def reportLoad (id : ManagerId) (copy : Copy) (result : Except ServiceError Unit)
    (world : World) : World :=
  match result with
  | .ok () => world
  | .error error => world.changeManager id (reportInitialFailure (world.copyName id copy) error)

/-- Report failures once both copies were loaded or not. -/
def afterLoad (id : ManagerId) (running specs : Refresh) (world : World) :
    World × Option LoadWait :=
  match running.result?, specs.result? with
  | some first, some second =>
      ((world.reportLoad id .running first).reportLoad id .specs second, none)
  | _, _ => (world, some (.loading running specs))

/-- Run the task that loads both copies for the first time. -/
def runLoad (id : ManagerId) (wait : LoadWait) (world : World) : World × Option LoadWait :=
  match wait with
  | .begin =>
      let isAlive := match id with
        | .kernels manager => world.isKernelManagerAlive manager
        | .sessions manager => world.isSessionManagerAlive manager
      if isAlive then
        let (running, world) := world.beginRefresh id .running
        let (specs, world) := world.beginRefresh id .specs
        world.afterLoad id running specs
      else (world, none)
  | .loading running specs =>
      let (running, world) := world.checkRefresh id running
      let (specs, world) := world.checkRefresh id specs
      world.afterLoad id running specs

/-- Go on after a poll has loaded a copy, or wait for it. -/
def afterPoll (id : ManagerId) (copy : Copy) (interval : Interval) (refresh : Refresh)
    (world : World) : Turn PollWait × World :=
  match refresh.result? with
  | none => (.waits (.refreshing interval refresh), world)
  | some (.ok ()) => (.goesOn (.awaiting interval), world)
  | some (.error error) =>
      (.goesOn (.awaiting interval),
        world.changeManager id (reportFailure (world.copyName id copy) error))

/-- Load a copy at a tick, unless nobody looks at it. -/
def pollTick (id : ManagerId) (copy : Copy) (interval : Interval) (world : World) :
    Turn PollWait × World :=
  let interval := interval.tick world.clock
  let isVisible := match world.manager? id with
    | some view => view.isVisible
    | none => false
  if isVisible then
    let (refresh, world) := world.beginRefresh id copy
    world.afterPoll id copy interval refresh
  else (.goesOn (.awaiting interval), world)

/-- Begin to wait for the next tick, which can be due at once. -/
def awaitTick (id : ManagerId) (copy : Copy) (interval : Interval) (world : World) :
    Turn PollWait × World :=
  if world.isManagerStopped id then (.over, world)
  else if interval.isDue world.clock then world.pollTick id copy interval
  else
    (.waits (.tick interval ⟨some interval.deadline, world.nextTimer⟩),
      { world with nextTimer := world.nextTimer + 1 })

/-- Take a turn of the task that polls a copy. -/
def pollTurn (id : ManagerId) (copy : Copy) (period : Nat) (wait : PollWait) (world : World) :
    Turn PollWait × World :=
  match wait with
  | .begin => world.awaitTick id copy (.start period world.clock)
  | .awaiting interval => world.awaitTick id copy interval
  | .tick interval timer =>
      if world.isManagerStopped id then (.over, world)
      else if interval.isDue world.clock then world.pollTick id copy interval
      else (.waits (.tick interval timer), world)
  | .refreshing interval refresh =>
      let (refresh, world) := world.checkRefresh id refresh
      world.afterPoll id copy interval refresh

/-- Run the task that polls a copy. -/
def runPoll (id : ManagerId) (copy : Copy) (period : Nat) (wait : PollWait) (world : World) :
    RunEnd × World :=
  goOn (.poll id copy period) (pollTurn id copy period) budget wait world

end KernelClient.Simulation.World
