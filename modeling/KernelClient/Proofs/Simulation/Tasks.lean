import KernelClient.Proofs.Simulation.Acts
import KernelClient.Simulation.Schedule

/-!
# Tasks are composed of acts

Every task, in each of its turns, changes the world by acts only. This is shown function by
function, in the order in which they build on each other: exchanges with the server, names, the
tasks in the background, calls, and the schedule that runs them all.
-/

namespace KernelClient.Simulation

theorem Slot.eq_of_result? {α : Type} {slot : Slot α} {result : Except ServiceError α}
    (settled : slot.result? = some result) : slot = .settled result := by
  cases slot with
  | waiting => cases settled
  | settled => exact congrArg _ (Option.some.inj settled)

namespace World

variable {world : World}

theorem acts_settle {α : Type} (exchange : Exchange α)
    (answer : Except ServiceError Response) : Acts world (world.settle exchange answer).2 :=
  acts_logLines _

theorem acts_ask {α : Type} (exchange : Exchange α) : Acts world (world.ask exchange).2 := by
  unfold ask
  split
  · exact .refl world
  case h_2 request _ =>
    dsimp only
    have asked : Acts world { world with
        server := (world.server.answer request).2
        trace := { world.trace with requests := world.trace.requests ++ [request] } } :=
      .aside ⟨rfl, rfl, rfl, rfl⟩
    split
    · exact asked.trans (.aside ⟨rfl, rfl, rfl, rfl⟩)
    · split
      · exact asked.trans (acts_settle exchange _)
      · exact asked.trans (.aside ⟨rfl, rfl, rfl, rfl⟩)

theorem acts_askEach {α : Type} (exchanges : List (Exchange α)) :
    Acts world (askEach exchanges world).2 := by
  induction exchanges generalizing world with
  | nil => exact .refl world
  | cons exchange rest ih => exact (acts_ask exchange).trans ih

theorem acts_check {α : Type} (slot : Slot α) : Acts world (world.check slot).2 := by
  unfold check
  split
  · split
    · exact acts_settle _ _
    · exact .refl world
  · exact .refl world

theorem steps_check {α : Type} (slot : Slot α) : Steps world (world.check slot).2 :=
  (acts_check slot).steps

theorem acts_checkEach {α : Type} (slots : List (Slot α)) :
    Acts world (checkEach slots world).2 := by
  induction slots generalizing world with
  | nil => exact .refl world
  | cons slot rest ih => exact (acts_check slot).trans ih

theorem acts_timer (delay : Nat) : Acts world (world.timer delay).2 :=
  .aside ⟨rfl, rfl, rfl, rfl⟩

theorem acts_endless : Acts world world.endless.2 :=
  .aside ⟨rfl, rfl, rfl, rfl⟩

theorem acts_modifyNames (change : Names → Names) : Acts world (world.modifyNames change) :=
  .aside ⟨rfl, rfl, rfl, rfl⟩

theorem acts_watchKernel {kernel : Nat} {observer : KernelObserver} {after : World}
    (watched : world.watchKernel kernel = some (observer, after)) : Acts world after := by
  obtain ⟨object, known, same⟩ := Option.map_eq_some_iff.mp watched
  cases same
  refine acts_modifyKernel fun other present => ?_
  cases known.symm.trans present
  exact ⟨.refl _, rfl, .subscribe, .subscribe, fun _ => Signal.quiet_subscribe _⟩

theorem acts_assignKernel (name : String) (observer : KernelObserver) :
    Acts world (world.assignKernel name observer) :=
  acts_modifyNames _

theorem acts_nameKernel (name : String) (kernel : Nat) :
    Acts world (world.nameKernel name kernel) := by
  unfold nameKernel
  split
  case h_1 observer after watched =>
    exact (acts_watchKernel watched).trans (acts_assignKernel name observer)
  case h_2 => exact .refl world

theorem acts_bringKernel (name : String) (kernel : Nat) :
    Acts world (world.bringKernel name kernel) := by
  unfold bringKernel
  split
  case h_1 observer after watched =>
    exact (acts_watchKernel watched).trans (.aside ⟨rfl, rfl, rfl, rfl⟩)
  case h_2 => exact .refl world

theorem acts_watchSession {session : Nat} {observer : SessionObserver} {after : World}
    (watched : world.watchSession session = some (observer, after)) : Acts world after := by
  obtain ⟨object, known, same⟩ := Option.map_eq_some_iff.mp watched
  cases same
  refine acts_hearSession fun other present => ?_
  cases known.symm.trans present
  exact ⟨rfl, rfl, rfl, .subscribe _, .subscribe _, .subscribe _, .subscribe _⟩

theorem acts_assignSession (name : String) (observer : SessionObserver) :
    Acts world (world.assignSession name observer) :=
  acts_modifyNames _

theorem acts_nameSession (name : String) (session : Nat) :
    Acts world (world.nameSession name session) := by
  unfold nameSession
  split
  case h_1 observer after watched =>
    exact (acts_watchSession watched).trans (acts_assignSession name observer)
  case h_2 => exact .refl world

theorem acts_bringSession (name : String) (session : Nat) :
    Acts world (world.bringSession name session) := by
  unfold bringSession
  split
  case h_1 observer after watched =>
    exact (acts_watchSession watched).trans (.aside ⟨rfl, rfl, rfl, rfl⟩)
  case h_2 => exact .refl world

theorem acts_nameArrivals : Acts world world.nameArrivals := by
  have cleared : Acts world { world with arrivals := [] } := .aside ⟨rfl, rfl, rfl, rfl⟩
  refine cleared.trans (.foldl (fun world arrival => ?_) _ _)
  cases arrival with
  | kernel name observer => exact acts_assignKernel name observer
  | session name observer => exact acts_assignSession name observer

/-- To subscribe to all signals of a manager is only to listen to it. -/
theorem heard_subscribeAll {Model Connection : Type} (id : ManagerId)
    (object : ManagerObject Model Connection) : object.Heard (subscribeAll id object).2 :=
  ⟨rfl, rfl, rfl, .subscribe _, .subscribe _, .subscribe _, .subscribe _⟩

theorem acts_observeManager (name : String) (id : ManagerId) :
    Acts world (world.observeManager name id) := by
  unfold observeManager
  dsimp only
  split
  · split
    case h_1 number object known =>
      refine Acts.trans (acts_hearKernelManager fun other present => ?_)
        (acts_modifyNames _)
      cases known.symm.trans present
      exact heard_subscribeAll _ object
    case h_2 => exact .refl world
  · split
    case h_1 number object known =>
      refine Acts.trans (acts_hearSessionManager fun other present => ?_)
        (acts_modifyNames _)
      cases known.symm.trans present
      exact heard_subscribeAll _ object
    case h_2 => exact .refl world

theorem acts_nameManager (name : String) (id : ManagerId) :
    Acts world (world.nameManager name id) :=
  (acts_modifyNames _).trans (acts_observeManager name id)

theorem acts_dropReply (name : String) : Acts world (world.dropReply name) := by
  unfold dropReply
  split
  · exact .refl world
  · exact .aside ⟨rfl, rfl, rfl, rfl⟩

theorem acts_nameReply (name : String) (id : RequestId) (isManual : Bool) :
    Acts world (world.nameReply name id isManual) :=
  (acts_dropReply name).trans (.aside ⟨rfl, rfl, rfl, rfl⟩)

theorem acts_releaseComm (id : CommId) : Acts world (world.releaseComm id) := by
  unfold releaseComm
  split
  · exact .refl world
  case h_2 box _ =>
    dsimp only
    have left : Acts world
        { world with comms := world.comms.filter fun box => box.id != id } :=
      .aside ⟨rfl, rfl, rfl, rfl⟩
    split
    · split
      · exact left.trans (acts_changeKernel fun connection =>
          Connection.orderly_dropComm box.comm)
      · exact left
    · exact left

theorem acts_dropComm (name : String) : Acts world (world.dropComm name) := by
  unfold dropComm
  split
  · exact .refl world
  · exact (acts_modifyNames _).trans (acts_releaseComm _)

theorem acts_nameComm (name : String) (id : CommId) (isManual : Bool) :
    Acts world (world.nameComm name id isManual) :=
  (acts_dropComm name).trans (acts_modifyNames _)

theorem acts_dropTarget (name : String) : Acts world (world.dropTarget name) := by
  unfold dropTarget
  split
  · exact .refl world
  case h_2 held _ =>
    dsimp only
    have left : Acts world { world with
        targets := world.targets.filter fun box => box.id != held.id
        names := { world.names with targets := Connection.erase name world.names.targets } } :=
      .aside ⟨rfl, rfl, rfl, rfl⟩
    refine (left.trans (acts_modifyKernel fun object _ => ?_)).trans
      (.foldl (fun world id => acts_releaseComm id) _ _)
    exact .set (Connection.continues_receiverGone _)

theorem acts_nameTarget (name : String) (id : TargetId) (isManual : Bool) :
    Acts world (world.nameTarget name id isManual) :=
  (acts_dropTarget name).trans (.aside ⟨rfl, rfl, rfl, rfl⟩)

theorem acts_takeComm {name commName : String} {opening : Message} {after : World}
    (taken : world.takeComm name = some (commName, opening, after)) : Acts world after := by
  unfold takeComm at taken
  split at taken
  · cases taken
  · split at taken
    · split at taken
      · cases taken
        refine Acts.trans ?_ (acts_nameComm _ _ _)
        exact .aside ⟨rfl, rfl, rfl, rfl⟩
      · cases taken
    · cases taken

theorem acts_goOn {Wait : Type} {task : Wait → Task} {turn : Wait → World → Turn Wait × World}
    (acts : ∀ wait world, Acts world (turn wait world).2) (budget : Nat) (wait : Wait) :
    Acts world (goOn task turn budget wait world).2 := by
  -- Each turn starts from the world that the one before has left.
  induction budget generalizing wait world with
  | zero => exact .refl world
  | succ budget ih =>
      have turned := acts wait world
      unfold goOn
      split
      case h_1 next after taken =>
        rw [taken] at turned
        exact turned.trans (ih next)
      case h_2 next after taken =>
        rw [taken] at turned
        exact turned
      case h_3 after taken =>
        rw [taken] at turned
        exact turned

theorem acts_loseSocket {kernel : Nat} {step : Connection → Connection.Change}
    (orderly : ∀ connection : Connection, connection.Orderly (step connection)) :
    Acts world (world.loseSocket kernel step).2 := by
  have changed : Acts world (world.changeKernelWith kernel step).2 := by
    unfold changeKernelWith
    split
    case h_1 object known =>
      refine acts_applyKernel fun other present => ?_
      cases known.symm.trans present
      exact orderly object.connection
    case h_2 => exact .refl world
  unfold loseSocket
  dsimp only
  split <;> exact changed

theorem acts_readSocket (kernel : Nat) : Acts world (world.readSocket kernel).2 := by
  unfold readSocket
  split
  · exact .refl world
  · split
    · split
      · exact .refl world
      · split
        · exact (acts_changeServer _).trans
            (acts_changeKernel fun connection => Connection.orderly_frameArrived _ _)
        · split
          · exact .refl world
          · exact acts_loseSocket fun connection => Connection.orderly_inputEnded
    · exact .refl world

theorem acts_announceOpening (kernel : Nat) : Acts world (world.announceOpening kernel).2 :=
  acts_changeKernel fun _ => Connection.orderly_beginConnecting

theorem acts_beginPause (kernel delay : Nat) :
    Acts world (world.beginPause kernel delay).2 := by
  unfold beginPause
  split
  · exact acts_announceOpening kernel
  · exact acts_timer delay

theorem acts_afterOpening (kernel : Nat) : Acts world (world.afterOpening kernel).2 := by
  unfold afterOpening
  dsimp only
  split
  · exact acts_release
  · split
    · exact acts_release.trans (acts_changeKernel fun _ => Connection.orderly_stop)
    · split
      · exact acts_release.trans (acts_loseSocket fun _ => Connection.orderly_lose)
      · exact acts_release

theorem acts_finishOpening (kernel : Nat) (plan : ConnectPlan) :
    Acts world (world.finishOpening kernel plan).2 := by
  unfold finishOpening
  split
  · exact (acts_changeKernel fun _ => Connection.orderly_connectFailed _).trans
      (acts_afterOpening kernel)
  · refine Acts.trans ?_ (acts_afterOpening kernel)
    refine Acts.trans ?_ (acts_changeKernel fun _ => Connection.orderly_connected _)
    exact .aside ⟨rfl, rfl, rfl, rfl⟩

theorem acts_beginOpening (kernel : Nat) : Acts world (world.beginOpening kernel).2 := by
  unfold beginOpening
  dsimp only
  split
  · exact .refl world
  · split
    · have opened (error : ServiceError) : Acts world
          ((world.changeKernel kernel (Connection.connectFailed error)).afterOpening kernel).2 :=
        (acts_changeKernel fun _ => Connection.orderly_connectFailed error).trans
          (acts_afterOpening kernel)
      split
      case h_1 _ _ read => exact (read ▸ opened _).trans (acts_readSocket kernel)
      case h_2 _ _ _ pausing => exact (pausing ▸ opened _).trans (acts_beginPause kernel _)
      case h_3 => exact opened _
    · have attempted (server : Server) (connects : List ConnectEvent) : Acts world { world with
          server := server
          trace := { world.trace with connects := connects } } := .aside ⟨rfl, rfl, rfl, rfl⟩
      split
      · exact (attempted _ _).trans acts_endless
      · split
        · have opened (connects : List ConnectEvent) :=
            (attempted world.server.nextPlan.2 connects).trans
              (acts_finishOpening kernel world.server.nextPlan.1)
          split
          case h_1 _ _ read => exact (read ▸ opened _).trans (acts_readSocket kernel)
          case h_2 _ _ _ pausing => exact (pausing ▸ opened _).trans (acts_beginPause kernel _)
          case h_3 => exact opened _
        · exact (attempted _ _).trans (acts_timer world.server.nextPlan.1.delay)

theorem acts_socketTurn (kernel : Nat) (wait : SocketWait) :
    Acts world (world.socketTurn kernel wait).2 := by
  unfold socketTurn
  split
  · exact .refl world
  · split
    · exact acts_changeKernel fun _ => Connection.orderly_stop
    · split
      · exact (acts_announceOpening kernel).trans (acts_beginOpening kernel)
      · exact acts_beginOpening kernel
      · split
        · exact acts_finishOpening kernel _
        · exact .refl world
      · exact acts_readSocket kernel
      · exact acts_beginPause kernel _
      · split
        · exact acts_announceOpening kernel
        · exact .refl world

theorem acts_runSocket (kernel : Nat) (wait : SocketWait) :
    Acts world (world.runSocket kernel wait).2 :=
  acts_goOn (fun wait _ => acts_socketTurn kernel wait) budget wait

theorem acts_applySpecs (id : ManagerId) (specs : KernelSpecs) :
    Acts world (world.changeManager id (applySpecs specs)) :=
  acts_changeManager id (.specsArrived specs) trivial rfl (fun _ => rfl)
    (.specsArrived specs) trivial
    fun _ => rfl

theorem acts_checkRefresh (id : ManagerId) (refresh : Refresh) :
    Acts world (world.checkRefresh id refresh).2 := by
  unfold checkRefresh
  split
  · dsimp only
    split
    · exact (acts_check _).trans (acts_applyListing id _)
    · exact acts_check _
    · exact acts_check _
  · dsimp only
    split
    · exact (acts_check _).trans (acts_applySpecs id _)
    · exact acts_check _
    · exact acts_check _
  · exact .refl world

theorem acts_beginRefresh (id : ManagerId) (copy : Copy) :
    Acts world (world.beginRefresh id copy).2 := by
  unfold beginRefresh
  split
  · split
    · exact .refl world
    · split
      · exact (acts_ask _).trans (acts_checkRefresh id _)
      · exact (acts_ask _).trans (acts_checkRefresh id _)
  · exact .refl world

theorem acts_reportLoad (id : ManagerId) (copy : Copy) (result : Except ServiceError Unit) :
    Acts world (world.reportLoad id copy result) := by
  unfold reportLoad
  split
  · exact .refl world
  · exact acts_reportInitialFailure id _ _

theorem acts_afterLoad (id : ManagerId) (running specs : Refresh) :
    Acts world (world.afterLoad id running specs).1 := by
  unfold afterLoad
  split
  · exact (acts_reportLoad id .running _).trans (acts_reportLoad id .specs _)
  · exact .refl world

theorem acts_runLoad (id : ManagerId) (wait : LoadWait) :
    Acts world (world.runLoad id wait).1 := by
  unfold runLoad
  split
  · simp only [apply_ite Prod.fst]
    refine .ite ?_ (.refl world)
    exact ((acts_beginRefresh id .running).trans (acts_beginRefresh id .specs)).trans
      (acts_afterLoad id _ _)
  · exact ((acts_checkRefresh id _).trans (acts_checkRefresh id _)).trans
      (acts_afterLoad id _ _)

theorem acts_afterPoll (id : ManagerId) (copy : Copy) (interval : Interval)
    (refresh : Refresh) : Acts world (world.afterPoll id copy interval refresh).2 := by
  unfold afterPoll
  split
  · exact .refl world
  · exact .refl world
  · exact acts_reportFailure id _ _

theorem acts_pollTick (id : ManagerId) (copy : Copy) (interval : Interval) :
    Acts world (world.pollTick id copy interval).2 := by
  unfold pollTick
  simp only [apply_ite Prod.snd]
  refine .ite ?_ (.refl world)
  exact (acts_beginRefresh id copy).trans (acts_afterPoll id copy _ _)

theorem acts_awaitTick (id : ManagerId) (copy : Copy) (interval : Interval) :
    Acts world (world.awaitTick id copy interval).2 := by
  unfold awaitTick
  simp only [apply_ite Prod.snd]
  exact .ite (.refl world) (.ite (acts_pollTick id copy interval)
    (.aside ⟨rfl, rfl, rfl, rfl⟩))

theorem acts_pollTurn (id : ManagerId) (copy : Copy) (period : Nat) (wait : PollWait) :
    Acts world (world.pollTurn id copy period wait).2 := by
  unfold pollTurn
  split
  · exact acts_awaitTick id copy _
  · exact acts_awaitTick id copy _
  · simp only [apply_ite Prod.snd]
    exact .ite (.refl world) (.ite (acts_pollTick id copy _) (.refl world))
  · exact (acts_checkRefresh id _).trans (acts_afterPoll id copy _ _)

theorem acts_runPoll (id : ManagerId) (copy : Copy) (period : Nat) (wait : PollWait) :
    Acts world (world.runPoll id copy period wait).2 :=
  acts_goOn (fun wait _ => acts_pollTurn id copy period wait) budget wait

theorem acts_runValue (slot : Slot CallValue) : Acts world (world.runValue slot).2 := by
  unfold runValue
  split <;> exact .refl world

theorem acts_runDeleting (slots : List (Slot Unit)) :
    Acts world (world.runDeleting slots).2 := by
  unfold runDeleting
  split <;> exact .refl world

theorem acts_runListing (slot : Slot (List (Exchange Unit))) :
    Acts world (world.runListing slot).2 := by
  unfold runListing
  split
  · exact (acts_askEach _).trans (acts_runDeleting _)
  · exact .refl world
  · exact .refl world

theorem acts_runInterrupting (kernel : Nat) (slot : Slot Unit) :
    Acts world (world.runInterrupting kernel slot).2 := by
  unfold runInterrupting
  split <;> exact .refl world

theorem acts_endRestart (kernel status disposed : Nat) :
    Acts world (world.endRestart kernel status disposed) :=
  acts_modifyKernel fun _ _ => .listen (.unsubscribe status _) (.unsubscribe disposed _)

theorem acts_runAwaitingStart (kernel status disposed : Nat) (timer : Timer) :
    Acts world (world.runAwaitingStart kernel status disposed timer).2 := by
  unfold runAwaitingStart
  split
  · exact .refl world
  case h_2 object known =>
    dsimp only
    have drained := acts_drainKernel known status disposed
    split
    · exact drained.trans (acts_endRestart kernel status disposed)
    · exact drained

theorem acts_runRestarting (kernel status disposed : Nat) (slot : Slot KernelModel) :
    Acts world (world.runRestarting kernel status disposed slot).2 := by
  unfold runRestarting
  split
  · exact .refl world
  · exact acts_endRestart kernel status disposed
  · split
    · exact .refl world
    case h_2 object known =>
      split
      · exact acts_endRestart kernel status disposed
      case h_2 change restarts =>
        have applied : Acts world (world.applyKernel kernel change) := by
          refine acts_applyKernel fun other present => ?_
          cases known.symm.trans present
          exact Connection.orderly_restarted restarts
        have timed := applied.trans
          (acts_timer object.connection.options.restartTimeout.milliseconds)
        exact timed.trans (acts_runAwaitingStart kernel status disposed _)

theorem acts_beginRestart (kernel : Nat) : Acts world (world.beginRestart kernel).2 := by
  unfold beginRestart
  split
  · exact .refl world
  case h_2 object known =>
    split
    · exact .refl world
    · dsimp only
      refine Acts.trans ?_ (acts_runRestarting kernel _ _ _)
      exact (acts_subscribeKernel known).trans (acts_ask _)

theorem acts_beginInterrupt (kernel : Nat) :
    Acts world (world.beginInterrupt kernel).2 := by
  unfold beginInterrupt
  split
  · exact .refl world
  · split
    · exact .refl world
    · exact (acts_ask _).trans (acts_runInterrupting kernel _)

theorem acts_runEndingKernel (kernel : Nat) (slot : Slot Unit) :
    Acts world (world.runEndingKernel kernel slot).2 := by
  unfold runEndingKernel
  split
  · exact .refl world
  · exact .refl world
  · exact acts_changeKernel fun _ => Connection.orderly_shutDown

theorem acts_beginShutdownKernel (kernel : Nat) :
    Acts world (world.beginShutdownKernel kernel).2 := by
  unfold beginShutdownKernel
  split
  · exact .refl world
  · split
    · exact .refl world
    · exact acts_runEndingKernel kernel _
    · exact (acts_ask _).trans (acts_runEndingKernel kernel _)

theorem acts_runAwaitingReply (request : RequestId) :
    Acts world (world.runAwaitingReply request).2 := by
  unfold runAwaitingReply
  split
  · exact .refl world
  · split
    · exact .aside ⟨rfl, rfl, rfl, rfl⟩
    · exact .refl world

theorem acts_runPatching (session : Nat) (slot : Slot SessionModel) :
    Acts world (world.runPatching session slot).2 := by
  unfold runPatching
  split
  · exact .refl world
  · exact .refl world
  · exact acts_updateSession session _

theorem acts_runChangingKernel (session : Nat) (name : Option String)
    (slot : Slot SessionModel) : Acts world (world.runChangingKernel session name slot).2 := by
  unfold runChangingKernel
  split
  · exact .refl world
  · exact .refl world
  · dsimp only
    split
    · exact acts_updateSession session _
    · dsimp only
      split
      · exact (acts_updateSession session _).trans (acts_bringKernel _ _)
      · exact acts_updateSession session _

theorem acts_runEndingSession (session : Nat) (slot : Slot Unit) :
    Acts world (world.runEndingSession session slot).2 := by
  unfold runEndingSession
  split
  · exact .refl world
  · exact .refl world
  · exact acts_shutDownSession session

theorem acts_aboutSession {α : Type} (session : Nat)
    (exchange : Settings → String → Exchange α) {run : Slot α → World → Progress × World}
    (acts : ∀ slot world, Acts world (run slot world).2) :
    Acts world (world.aboutSession session exchange run).2 := by
  unfold aboutSession
  split
  · exact .refl world
  · split
    · exact .refl world
    · exact (acts_ask _).trans (acts _ _)

theorem acts_runAwaitingReady (manager : ManagerId) :
    Acts world (world.runAwaitingReady manager).2 := by
  unfold runAwaitingReady
  split <;> exact .refl world

theorem acts_runRefreshing (manager : ManagerId) (refresh : Refresh) :
    Acts world (world.runRefreshing manager refresh).2 := by
  unfold runRefreshing
  split <;> exact .refl world

theorem acts_runFinding (manager : ManagerId) (wanted : Wanted) (refresh : Refresh) :
    Acts world (world.runFinding manager wanted refresh).2 := by
  unfold runFinding
  split <;> exact .refl world

theorem acts_beginFinding (manager : ManagerId) (wanted : Wanted) :
    Acts world (world.beginFinding manager wanted).2 := by
  unfold beginFinding
  split
  · exact .refl world
  · exact (acts_beginRefresh manager .running).trans (acts_runFinding manager wanted _)

theorem acts_runDeletingOne (manager : ManagerId) (id : String) (isQuiet : Bool)
    (slot : Slot Unit) : Acts world (world.runDeletingOne manager id isQuiet slot).2 := by
  unfold runDeletingOne
  split
  · exact .refl world
  · exact .refl world
  · exact acts_changeManager manager (.shutdownEnded id) trivial rfl (fun _ => rfl)
      (.shutdownEnded id) trivial fun _ => rfl

theorem acts_beginManagerShutdown (manager : ManagerId) (id : String) :
    Acts world (world.beginManagerShutdown manager id).2 := by
  unfold beginManagerShutdown
  split
  · split
    · exact .refl world
    case h_2 number object known =>
      split
      · exact .refl world
      · exact .refl world
      case h_3 change begun =>
        dsimp only
        refine acts_kernelEvent _ (.shutdownBegun id) trivial rfl fun other present => ?_
        cases known.symm.trans present
        simp only [Manager.Event.change, begun]
  · split
    · exact .refl world
    case h_2 number object known =>
      split
      · exact .refl world
      · exact .refl world
      case h_3 change begun =>
        dsimp only
        refine acts_sessionEvent _ (.shutdownBegun id) trivial fun other present => ?_
        cases known.symm.trans present
        simp only [Manager.Event.change, begun]

theorem acts_beginShutdown (manager : ManagerId) (id : String) (isQuiet : Bool) :
    Acts world (world.beginShutdown manager id isQuiet).2 := by
  have begun : Acts world (world.beginManagerShutdown manager id).2 :=
    acts_beginManagerShutdown manager id
  unfold beginShutdown
  split
  case h_1 error after refused =>
    rw [refused] at begun
    exact begun
  case h_2 after absent =>
    rw [absent] at begun
    exact begun
  case h_3 after asks =>
    rw [asks] at begun
    exact (begun.trans (acts_ask _)).trans (acts_runDeletingOne manager id isQuiet _)

theorem acts_runDeletingAll (manager : ManagerId) (ids : List String)
    (slots : List (Slot Unit)) : Acts world (world.runDeletingAll manager ids slots).2 := by
  unfold runDeletingAll
  split
  · exact .refl world
  · exact acts_changeManager manager (.shutdownAllEnded ids) trivial rfl (fun _ => rfl)
      (.shutdownAllEnded ids) trivial fun _ => rfl

theorem acts_beginManagerShutdownAll (manager : ManagerId) :
    Acts world (world.beginManagerShutdownAll manager).2 := by
  unfold beginManagerShutdownAll
  split
  · split
    · exact .refl world
    case h_2 number object known =>
      split
      · exact .refl world
      case h_2 ids change begun =>
        dsimp only
        refine acts_kernelEvent _ .shutdownAllBegun trivial rfl fun other present => ?_
        cases known.symm.trans present
        simp only [Manager.Event.change, begun]
  · split
    · exact .refl world
    case h_2 number object known =>
      split
      · exact .refl world
      case h_2 ids change begun =>
        dsimp only
        refine acts_sessionEvent _ .shutdownAllBegun trivial fun other present => ?_
        cases known.symm.trans present
        simp only [Manager.Event.change, begun]

theorem acts_beginShutdownAll (manager : ManagerId) :
    Acts world (world.beginShutdownAll manager).2 := by
  have begun : Acts world (world.beginManagerShutdownAll manager).2 :=
    acts_beginManagerShutdownAll manager
  unfold beginShutdownAll
  split
  case h_1 error after refused =>
    rw [refused] at begun
    exact begun
  case h_2 after absent =>
    rw [absent] at begun
    exact begun
  case h_3 ids after _ asks =>
    rw [asks] at begun
    exact (begun.trans (acts_askEach _)).trans (acts_runDeletingAll manager ids _)

theorem acts_runStopping (manager : Nat) (path : String) (slot : Slot (List SessionModel)) :
    Acts world (world.runStopping manager path slot).2 := by
  unfold runStopping
  split
  · exact .refl world
  · exact .refl world
  · split
    · exact .refl world
    · exact (acts_applyListing _ _).trans (acts_beginShutdown _ _ true)

theorem acts_runStartingKernel (manager : Nat) (name : String) (slot : Slot KernelModel) :
    Acts world (world.runStartingKernel manager name slot).2 := by
  unfold runStartingKernel
  split
  · exact .refl world
  · exact .refl world
  · split
    · exact .refl world
    case h_2 connected connects =>
      exact (acts_connectThroughKernels connects).trans (acts_bringKernel name _)

theorem acts_runStartingSession (manager : Nat) (name : String) (slot : Slot SessionModel) :
    Acts world (world.runStartingSession manager name slot).2 := by
  unfold runStartingSession
  split
  · exact .refl world
  · exact .refl world
  · split
    · exact .refl world
    case h_2 connected connects =>
      exact (acts_connectThroughSessions connects).trans (acts_bringSession name _)

theorem acts_start {α : Type} (manager : ManagerId) (exchange : Settings → Exchange α)
    {run : Slot α → World → Progress × World}
    (acts : ∀ slot world, Acts world (run slot world).2) :
    Acts world (world.start manager exchange run).2 := by
  unfold start
  split
  · exact .refl world
  · split
    · exact .refl world
    · exact (acts_ask _).trans (acts _ _)

theorem acts_beginCall (call : Call) : Acts world (world.beginCall call).2 := by
  unfold beginCall
  split
  case h_1 exchange => exact (acts_ask exchange).trans (acts_runValue _)
  case h_2 list => exact (acts_ask list).trans (acts_runListing _)
  case h_3 kernel => exact acts_beginInterrupt kernel
  case h_4 kernel => exact acts_beginRestart kernel
  case h_5 kernel => exact acts_beginShutdownKernel kernel
  case h_6 session property value =>
    exact acts_aboutSession session _ fun slot _ => acts_runPatching session slot
  case h_7 session choice name =>
    exact acts_aboutSession session _ fun slot _ => acts_runChangingKernel session name slot
  case h_8 session =>
    exact acts_aboutSession session _ fun slot _ => acts_runEndingSession session slot
  case h_9 request => exact acts_runAwaitingReply request
  case h_10 manager => exact acts_runAwaitingReady manager
  case h_11 manager copy =>
    exact (acts_beginRefresh manager copy).trans (acts_runRefreshing manager _)
  case h_12 => exact .refl world
  case h_13 manager wanted _ => exact acts_beginFinding manager wanted
  case h_14 manager id => exact acts_beginShutdown manager id false
  case h_15 manager => exact acts_beginShutdownAll manager
  case h_16 => exact .refl world
  case h_17 manager path =>
    exact (acts_ask _).trans (acts_runStopping manager path _)
  case h_18 manager options name =>
    exact acts_start _ _ fun slot _ => acts_runStartingKernel manager name slot
  case h_19 manager request name =>
    exact acts_start _ _ fun slot _ => acts_runStartingSession manager name slot

theorem acts_runCall (stage : CallStage) : Acts world (world.runCall stage).2 := by
  cases stage with
  | begin call => exact acts_beginCall call
  | value slot => exact (acts_check slot).trans (acts_runValue _)
  | listing slot => exact (acts_check slot).trans (acts_runListing _)
  | deleting slots => exact (acts_checkEach slots).trans (acts_runDeleting _)
  | interrupting kernel slot =>
      exact (acts_check slot).trans (acts_runInterrupting kernel _)
  | restarting kernel status disposed slot =>
      exact (acts_check slot).trans (acts_runRestarting kernel status disposed _)
  | awaitingStart kernel status disposed timer =>
      exact acts_runAwaitingStart kernel status disposed timer
  | endingKernel kernel slot =>
      exact (acts_check slot).trans (acts_runEndingKernel kernel _)
  | patching session slot => exact (acts_check slot).trans (acts_runPatching session _)
  | changingKernel session name slot =>
      exact (acts_check slot).trans (acts_runChangingKernel session name _)
  | endingSession session slot =>
      exact (acts_check slot).trans (acts_runEndingSession session _)
  | awaitingReply request => exact acts_runAwaitingReply request
  | awaitingReady manager => exact acts_runAwaitingReady manager
  | refreshing manager refresh =>
      exact (acts_checkRefresh manager refresh).trans (acts_runRefreshing manager _)
  | finding manager wanted refresh =>
      exact (acts_checkRefresh manager refresh).trans (acts_runFinding manager wanted _)
  | deletingOne manager id isQuiet slot =>
      exact (acts_check slot).trans (acts_runDeletingOne manager id isQuiet _)
  | deletingAll manager ids slots =>
      exact (acts_checkEach slots).trans (acts_runDeletingAll manager ids _)
  | stopping manager path slot =>
      exact (acts_check slot).trans (acts_runStopping manager path _)
  | startingKernel manager name slot =>
      exact (acts_check slot).trans (acts_runStartingKernel manager name _)
  | startingSession manager name slot =>
      exact (acts_check slot).trans (acts_runStartingSession manager name _)

theorem acts_runTask (task : Task) : Acts world (world.runTask task).2 := by
  unfold runTask
  split
  case h_1 kernel wait => exact acts_runSocket kernel wait
  case h_2 manager kernel status disposed =>
    exact acts_runKernelWatch manager kernel status disposed
  case h_3 manager session terminated property kernel disposed =>
    exact acts_runSessionWatch manager session terminated property kernel disposed
  case h_4 manager wait => exact acts_runLoad manager wait
  case h_5 manager copy period wait => exact acts_runPoll manager copy period wait
  case h_6 name stage =>
    have ran : Acts world (world.runCall stage).2 := acts_runCall stage
    split
    case h_1 stage after waits =>
      rw [waits] at ran
      exact ran
    case h_2 outcome after finished =>
      rw [finished] at ran
      exact ran.trans (.aside ⟨rfl, rfl, rfl, rfl⟩)

theorem acts_putBack (left : RunEnd) : Acts world (world.putBack left) := by
  cases left <;> exact .aside ⟨rfl, rfl, rfl, rfl⟩

theorem acts_run (task : Task) : Acts world (world.run task) :=
  (((acts_runTask task).trans (acts_putBack _)).trans acts_release).trans acts_wake

theorem acts_resume : Acts world world.resume :=
  .aside ⟨rfl, rfl, rfl, rfl⟩

theorem acts_runAll (most runs : Nat) : Acts world (runAll most runs world) := by
  induction most generalizing runs world with
  | zero => exact .refl world
  | succ most ih =>
      unfold runAll
      split
      · exact acts_resume.trans (ih 0)
      · split
        case h_1 task rest _ =>
          have taken : Acts world { world with ready := rest } := .aside ⟨rfl, rfl, rfl, rfl⟩
          exact (taken.trans (acts_run task)).trans (ih _)
        case h_2 => exact .ite (.refl world) (acts_resume.trans (ih 0))

theorem acts_rest : Acts world world.rest :=
  acts_runAll mostRuns 0

theorem acts_advanceTo (limit most : Nat) : Acts world (advanceTo limit most world) := by
  induction most generalizing world with
  | zero => exact acts_setClock limit
  | succ most ih =>
      unfold advanceTo
      dsimp only
      split
      · exact (acts_rest.trans (acts_setClock _)).trans ih
      · exact acts_rest.trans (acts_setClock limit)

theorem acts_advance (milliseconds : Nat) : Acts world (world.advance milliseconds) :=
  acts_advanceTo _ _

theorem steps_advance (milliseconds : Nat) : Steps world (world.advance milliseconds) :=
  (acts_advance milliseconds).steps

end World

end KernelClient.Simulation
