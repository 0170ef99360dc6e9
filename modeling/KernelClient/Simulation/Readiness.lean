import KernelClient.Simulation.World

/-!
# What tasks wait for

A task that waits can go on as soon as what it waits for has happened: an answer or a timer, a frame
or the end of the input, a value of a signal, an outcome. It then goes to the end of those that can
go on.
-/

namespace KernelClient.Simulation.World

/-- Whether the task that keeps a socket open can go on. -/
def isSocketReady (kernel : Nat) (wait : SocketWait) (world : World) : Bool :=
  match world.kernel? kernel with
  | none => true
  | some object =>
    object.isStopped ||
      match wait with
      | .begin | .opening | .pausing _ => true
      | .connecting _ timer | .sleeping timer => timer.isDue world.clock
      | .reading =>
        match object.connection.phase with
        | .reading socket _ =>
          match world.server.socket? socket with
          | some held => !held.toClient.isEmpty || !held.isOpen
          | none => true
        | _ => true

/-- Whether there is news of a connection for one who follows its status and its end. -/
def isKernelWatchReady (kernel status disposed : Nat) (world : World) : Bool :=
  match world.kernel? kernel with
  | none => true
  | some object => object.status.isReady status || object.disposed.isReady disposed

def isSessionWatchReady (session terminated property kernel disposed : Nat) (world : World) :
    Bool :=
  match world.session? session with
  | none => true
  | some object =>
      object.terminated.isReady terminated || object.property.isReady property ||
        object.kernel.isReady kernel || object.disposed.isReady disposed

def isLoadReady (wait : LoadWait) (world : World) : Bool :=
  match wait with
  | .begin => true
  | .loading running specs => running.isDue world.clock || specs.isDue world.clock

def isPollReady (id : ManagerId) (wait : PollWait) (world : World) : Bool :=
  match wait with
  | .begin | .awaiting _ => true
  | .tick interval _ => world.isManagerStopped id || interval.isDue world.clock
  | .refreshing _ refresh => refresh.isDue world.clock

/-- Whether a call can go on. -/
def isCallReady (stage : CallStage) (world : World) : Bool :=
  (stage.timers.any fun timer => timer.isDue world.clock) ||
    match stage with
    | .begin _ => true
    | .awaitingStart kernel status disposed _ => world.isKernelWatchReady kernel status disposed
    | .awaitingReply request =>
      match world.replies.find? fun box => box.id = request with
      | some box => box.comingOutcome?.isSome
      | none => true
    | .awaitingReady manager => ((world.manager? manager).bind ManagerView.outcome).isSome
    | _ => false

/-- Whether a task can go on. -/
def isReady (task : Task) (world : World) : Bool :=
  match task with
  | .socket kernel wait => world.isSocketReady kernel wait
  | .watchKernel _ kernel status disposed => world.isKernelWatchReady kernel status disposed
  | .watchSession _ session terminated property kernel disposed =>
      world.isSessionWatchReady session terminated property kernel disposed
  | .load _ wait => world.isLoadReady wait
  | .poll manager _ _ wait => world.isPollReady manager wait
  | .call _ stage => world.isCallReady stage

/-- The place of a task among those that are woken at one time: timers come in their order, and all
else after them. -/
def wakeOrder (task : Task) (world : World) : Nat :=
  (task.timers.filter fun timer => timer.isDue world.clock).foldl
    (fun least timer => min least timer.order) world.nextTimer

/-- Put a task into a list that is sorted by a key, after those of the same key. -/
def insertByKey (key : Task → Nat) (task : Task) : List Task → List Task
  | [] => [task]
  | other :: rest =>
      if key task < key other then task :: other :: rest
      else other :: insertByKey key task rest

/-- Let tasks that can go on wait for their turn. -/
def wake (world : World) : World :=
  if world.waiting.any world.isReady then
    let (woken, waiting) := world.waiting.partition world.isReady
    let ordered := woken.foldl (fun sorted task => insertByKey world.wakeOrder task sorted) []
    { world with waiting := waiting, ready := world.ready ++ ordered }
  else world

end KernelClient.Simulation.World
