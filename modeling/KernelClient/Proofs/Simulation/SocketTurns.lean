import KernelClient.Proofs.Connection.Attempts
import KernelClient.Proofs.Simulation.LateLists
import KernelClient.Proofs.Simulation.Scripts

/-!
# Turns of the task that keeps a socket open

What the task waits for or is about to do suits the phase of its connection: after a loss it pauses
as long as the policy says, or sleeps until that time is over. A turn that begins so ends so, unless the
connection is given up.
-/

namespace KernelClient.Simulation

open Connection (Lost Begun waitsIn)

namespace KernelObject

variable {object : KernelObject}

theorem connection_foldl_emit (effects : List Connection.Effect) (object : KernelObject) :
    (effects.foldl emit object).connection = object.connection := by
  induction effects generalizing object with
  | nil => rfl
  | cons effect rest ih => exact (ih _).trans (object.emit_connection effect)

theorem isAlive_foldl_emit (effects : List Connection.Effect) (object : KernelObject) :
    (effects.foldl emit object).isAlive = object.isAlive := by
  induction effects generalizing object with
  | nil => rfl
  | cons effect rest ih =>
      refine (ih _).trans ?_
      cases effect <;> rfl

@[simp]
theorem connection_take (change : Connection.Change) (object : KernelObject) :
    (object.take change).connection = change.1 :=
  connection_foldl_emit change.2 _

@[simp]
theorem isAlive_take (change : Connection.Change) (object : KernelObject) :
    (object.take change).isAlive = object.isAlive :=
  isAlive_foldl_emit change.2 _

theorem alive_of_running (running : object.isStopped = false) :
    object.connection.isDisposed = false := by
  simp only [isStopped, Bool.or_eq_false_iff] at running
  exact running.1

theorem isAlive_of_running (running : object.isStopped = false) : object.isAlive = true := by
  simp only [isStopped, Bool.or_eq_false_iff, Bool.not_eq_false'] at running
  exact running.2

/-- What is to be given up still is after any change. -/
theorem isStopped_take {change : Connection.Change} (orderly : object.connection.Orderly change)
    (stopped : object.isStopped = true) : (object.take change).isStopped = true := by
  simp only [isStopped, isAlive_take, connection_take, Bool.or_eq_true] at stopped ⊢
  exact stopped.imp_left orderly.continues.disposed

end KernelObject

theorem alive_of_orderly {connection : Connection} {change : Connection.Change}
    (orderly : connection.Orderly change) (alive : change.1.isDisposed = false) :
    connection.isDisposed = false :=
  Bool.eq_false_iff.mpr fun disposed =>
    Bool.eq_false_iff.mp alive (orderly.continues.disposed disposed)

namespace World

variable {world : World} {kernel : Nat} {object : KernelObject}

theorem kernel?_applyKernel (known : world.kernel? kernel = some object)
    (change : Connection.Change) :
    (world.applyKernel kernel change).kernel? kernel = some (object.take change) := by
  rw [kernel?] at known ⊢
  rw [kernels_applyKernel, List.getElem?_modify, known]
  simp

theorem kernel?_applyKernel_other {other : Nat} (differs : other ≠ kernel)
    (change : Connection.Change) :
    (world.applyKernel other change).kernel? kernel = world.kernel? kernel := by
  rw [kernel?, kernel?, kernels_applyKernel, List.getElem?_modify]
  simp [differs]

theorem changeKernel_of_known (known : world.kernel? kernel = some object)
    (step : Connection → Connection.Change) :
    world.changeKernel kernel step = world.applyKernel kernel (step object.connection) := by
  rw [changeKernel, known]

@[simp]
theorem clock_wake (world : World) : world.wake.clock = world.clock :=
  (Aside.wake world).clock

@[simp]
theorem clock_carryKernel (kernel : Nat) (effect : Connection.Effect) (world : World) :
    (world.carryKernel kernel effect).clock = world.clock := by
  cases effect <;> rfl

theorem clock_carryAll (kernel : Nat) (effects : List Connection.Effect) (world : World) :
    (effects.foldl (fun world effect => (world.carryKernel kernel effect).wake) world).clock =
      world.clock := by
  induction effects generalizing world with
  | nil => rfl
  | cons effect rest ih => rw [List.foldl_cons, ih, clock_wake, clock_carryKernel]

@[simp]
theorem clock_applyKernel (kernel : Nat) (change : Connection.Change) (world : World) :
    (world.applyKernel kernel change).clock = world.clock :=
  (clock_carryAll kernel change.2 _).trans (clock_wake _)

@[simp]
theorem clock_changeKernel (kernel : Nat) (step : Connection → Connection.Change)
    (world : World) : (world.changeKernel kernel step).clock = world.clock := by
  unfold changeKernel
  split
  · exact clock_applyKernel kernel _ world
  · rfl

/-- A connection that is still held is as it was, and no time has passed. -/
structure LetsGo (kernel : Nat) (before after : World) : Prop where
  held : ∀ later, after.kernel? kernel = some later → later.isAlive = true →
    before.kernel? kernel = some later
  clock : after.clock = before.clock

namespace LetsGo

variable {before middle after : World}

theorem of_eq (kernels : after.kernels = before.kernels) (clock : after.clock = before.clock) :
    LetsGo kernel before after where
  held _ present _ := (congrArg (·[kernel]?) kernels).symm.trans present
  clock := clock

theorem trans (first : LetsGo kernel before middle) (second : LetsGo kernel middle after) :
    LetsGo kernel before after where
  held later present alive := first.held later (second.held later present alive) alive
  clock := second.clock.trans first.clock

theorem wake (world : World) : LetsGo kernel world world.wake :=
  .of_eq kernels_wake (clock_wake world)

end LetsGo

theorem letsGo_releaseKernel (held : List Nat) (world : World) (number : Nat) :
    LetsGo kernel world (world.releaseKernel held number) := by
  unfold releaseKernel
  split
  case h_2 => exact .of_eq rfl rfl
  case h_1 object known =>
    split
    case isFalse => exact .of_eq rfl rfl
    case isTrue =>
      refine LetsGo.trans ⟨fun later present alive => ?_, ?_⟩ (.wake _)
      · rw [kernel?, modifyKernel, List.getElem?_modify] at present
        by_cases same : number = kernel
        · -- Nobody holds a connection that was closed.
          simp only [same, if_true, Option.map_eq_map, Option.map_eq_some_iff] at present
          obtain ⟨closed, -, rfl⟩ := present
          cases alive
        · simp only [same, if_false, Option.map_eq_map, Option.map_id_fun', id] at present
          rw [changeKernel_of_known known] at present
          exact (kernel?_applyKernel_other same _).symm.trans present
      · exact clock_changeKernel number _ world

theorem letsGo_releaseKernels (held numbers : List Nat) (world : World) :
    LetsGo kernel world (numbers.foldl (releaseKernel held) world) := by
  induction numbers generalizing world with
  | nil => exact .of_eq rfl rfl
  | cons number rest ih => exact (letsGo_releaseKernel held world number).trans (ih _)

theorem letsGo_release (world : World) : LetsGo kernel world world.release := by
  have woken {after : World} (same : after.kernels = world.kernels)
      (clock : after.clock = world.clock) : LetsGo kernel world after.wake :=
    LetsGo.trans (.of_eq same clock) (.wake after)
  refine LetsGo.trans ?_ (letsGo_releaseKernels _ _ _)
  have managers : (world.releaseManagers world.held).wake.kernels = world.kernels := kernels_wake
  exact woken managers (clock_wake (world.releaseManagers world.held))

end World

/-- How many milliseconds a connection waits for its next attempt. -/
def pauseOf (connection : Connection) : Nat :=
  (connection.options.reconnect.delayFor connection.attempt).milliseconds

/-- Whether what a task waits for suits its connection. A sleep is as long as the connection waits
from a time on. -/
def SocketWait.Suits (time : Nat) (connection : Connection) : SocketWait → Prop
  | .begin => connection.phase = .starting
  | .opening | .connecting _ _ => connection.phase = .connecting
  | .reading => connection.phase.isReading = true ∨ connection.phase = .ended
  | .pausing delay => connection.phase = .waiting ∧ delay = pauseOf connection
  | .sleeping timer =>
      connection.phase = .waiting ∧ timer.due = some (time + pauseOf connection)

/-- Whether what a turn leads to suits the connection after it. One that is opened again at once is
not to wait, and one that is to pause begins at once to do so. -/
def Turn.Suits (time : Nat) (connection : Connection) : Turn SocketWait → Prop
  | .goesOn .opening => connection.phase = .connecting ∧ pauseOf connection = 0
  | .waits (.pausing _) => False
  | .goesOn wait | .waits wait => wait.Suits time connection
  | .over => connection.phase.isReading = true ∨ connection.phase = .ended

/-- Whether a turn leads to what suits the connection, unless it is given up. -/
def LeadsTo (kernel time : Nat) (result : Turn SocketWait × World) : Prop :=
  ∀ later, result.2.kernel? kernel = some later → later.isStopped = false →
    result.1.Suits time later.connection

namespace World

variable {world : World} {kernel time : Nat} {object : KernelObject}
  {step : Connection → Connection.Change}

theorem leadsTo_applyKernel {change : Connection.Change} {turn : Turn SocketWait}
    (known : world.kernel? kernel = some object)
    (suits : change.1.isDisposed = false → turn.Suits time change.1) :
    LeadsTo kernel time (turn, world.applyKernel kernel change) := by
  intro later present running
  cases (kernel?_applyKernel known change).symm.trans present
  rw [KernelObject.connection_take]
  refine suits ?_
  simpa using KernelObject.alive_of_running running

/-- A step in which a socket is lost ends as the wait says that it asks for. -/
theorem loseSocket_eq (known : world.kernel? kernel = some object) :
    world.loseSocket kernel step =
      ((waitsIn (step object.connection).2).head?.elim .over fun delay =>
        .goesOn (.pausing delay.milliseconds), world.applyKernel kernel (step object.connection)) := by
  simp only [loseSocket, changeKernelWith, known, ← List.head?_filterMap]
  split
  case h_1 delay found =>
    have first : (waitsIn (step object.connection).2).head? = some delay := found
    rw [first]
    rfl
  case h_2 absent =>
    have first : (waitsIn (step object.connection).2).head? = none := absent
    rw [first]
    rfl

theorem leadsTo_loseSocket (known : world.kernel? kernel = some object)
    (lost : Lost object.connection (step object.connection)) :
    LeadsTo kernel time (world.loseSocket kernel step) := by
  rw [loseSocket_eq known]
  refine leadsTo_applyKernel known fun _ => ?_
  have options := lost.options
  cases lost.aftermath with
  | pauses few phase waits =>
      rw [waits]
      refine ⟨phase, ?_⟩
      rw [pauseOf, options]
  | givesUp many phase status waits =>
      rw [waits]
      exact .inr phase

theorem leadsTo_announceOpening (known : world.kernel? kernel = some object)
    (atOnce : pauseOf object.connection = 0) :
    LeadsTo kernel time (world.announceOpening kernel) := by
  rw [announceOpening, changeKernel_of_known known]
  refine leadsTo_applyKernel known fun alive => ?_
  have orderly : object.connection.Orderly (Connection.beginConnecting object.connection) :=
    Connection.orderly_beginConnecting
  have begun := Connection.begun_beginConnecting (alive_of_orderly orderly alive)
  refine ⟨begun.phase, ?_⟩
  rw [pauseOf, begun.options, begun.attempt]
  exact atOnce

/-- A pause is a sleep from the time at which it begins. -/
theorem leadsTo_beginPause (known : world.kernel? kernel = some object)
    (waiting : object.connection.phase = .waiting) :
    LeadsTo kernel world.clock (world.beginPause kernel (pauseOf object.connection)) := by
  unfold beginPause
  split
  case isTrue atOnce => exact leadsTo_announceOpening known atOnce
  case isFalse =>
    intro later present running
    cases known.symm.trans present
    exact ⟨waiting, rfl⟩

theorem kernel?_changeServer (change : Server → Server) :
    (world.changeServer change).kernel? kernel = world.kernel? kernel :=
  congrArg (·[kernel]?) kernels_wake

theorem leadsTo_readSocket (known : world.kernel? kernel = some object)
    (running : object.isStopped = false)
    (suits : SocketWait.reading.Suits time object.connection) :
    LeadsTo kernel time (world.readSocket kernel) := by
  have stays {turn : Turn SocketWait} (same : turn.Suits time object.connection) :
      LeadsTo kernel time (turn, world) := by
    intro later present _
    cases known.symm.trans present
    exact same
  simp only [readSocket, known]
  split
  case h_2 => exact stays suits
  case h_1 socket protocol phase =>
    have reading : object.connection.phase.isReading = true := by rw [phase]; rfl
    split
    case h_1 => exact stays suits
    case h_2 held found =>
      split
      case h_1 frame rest arrived =>
        have there := (kernel?_changeServer (fun server => server.modifySocket socket fun held =>
          { held with toClient := rest })).trans known
        rw [changeKernel_of_known there]
        refine leadsTo_applyKernel there fun _ => ?_
        have kept (now : Instant) :=
          @Connection.Event.keepsLife (.frameArrived now frame) rfl object.connection
        exact .inl ((congrArg SocketPhase.isReading (kept _).phase).trans reading)
      case h_2 =>
        split
        · exact stays suits
        · exact leadsTo_loseSocket known
            (Connection.lost_inputEnded (KernelObject.alive_of_running running) reading)

/-- What an attempt to open a socket has led to. -/
inductive AfterOpening (kernel time : Nat) : Turn SocketWait × World → Prop where
  | gone {world : World}
      (stopped : ∀ later, world.kernel? kernel = some later → later.isStopped = true) :
      AfterOpening kernel time (.over, world)
  | loses {world : World} {object : KernelObject} (clock : world.clock = time)
      (known : world.kernel? kernel = some object) (running : object.isStopped = false) :
      AfterOpening kernel time (world.loseSocket kernel Connection.lose)
  | reads {world : World} {object : KernelObject}
      (known : world.kernel? kernel = some object) (running : object.isStopped = false)
      (suits : SocketWait.reading.Suits time object.connection) :
      AfterOpening kernel time (.goesOn .reading, world)

theorem afterOpening_afterOpening (known : world.kernel? kernel = some object)
    (phase : object.connection.phase = .connecting ∨
      SocketWait.reading.Suits world.clock object.connection) :
    AfterOpening kernel world.clock (world.afterOpening kernel) := by
  have released := @letsGo_release kernel world
  unfold afterOpening
  dsimp only
  split
  case h_1 absent => exact .gone fun later present => by cases absent.symm.trans present
  case h_2 later present =>
    split
    case isTrue stopped =>
      refine .gone fun last there => ?_
      rw [changeKernel_of_known present] at there
      cases (kernel?_applyKernel present _).symm.trans there
      exact KernelObject.isStopped_take Connection.orderly_stop stopped
    case isFalse goesOn =>
      have running : later.isStopped = false := Bool.eq_false_iff.mpr goesOn
      have same := released.held later present (KernelObject.isAlive_of_running running)
      cases known.symm.trans same
      split
      case h_1 => exact .loses released.clock present running
      case h_2 other => exact .reads present running (phase.resolve_left other)

/-- Go on in the same turn after a socket was opened or not. -/
def follow (kernel : Nat) (turn : Turn SocketWait × World) : Turn SocketWait × World :=
  match turn with
  | (.goesOn .reading, world) => world.readSocket kernel
  | (.goesOn (.pausing delay), world) => world.beginPause kernel delay
  | other => other

theorem AfterOpening.leadsTo {result : Turn SocketWait × World}
    (opened : AfterOpening kernel time result) : LeadsTo kernel time result := by
  cases opened with
  | gone stopped =>
      intro later present running
      cases (stopped later present).symm.trans running
  | loses clock known running =>
      exact leadsTo_loseSocket known
        (Connection.lost_lose (KernelObject.alive_of_running running))
  | reads known running suits =>
      intro later present _
      cases known.symm.trans present
      exact suits

theorem AfterOpening.follow {result : Turn SocketWait × World}
    (opened : AfterOpening kernel time result) : LeadsTo kernel time (follow kernel result) := by
  cases opened with
  | gone stopped =>
      intro later present running
      cases (stopped later present).symm.trans running
  | @loses world object clock known running =>
      have lost := Connection.lost_lose (KernelObject.alive_of_running running)
      have there := kernel?_applyKernel known (Connection.lose object.connection)
      have options := lost.options
      rw [loseSocket_eq known]
      cases lost.aftermath with
      | pauses few phase waits =>
          have paused := leadsTo_beginPause there (by rw [KernelObject.connection_take, phase])
          rw [KernelObject.connection_take, clock_applyKernel, clock, pauseOf, options] at paused
          rw [waits]
          exact paused
      | givesUp many phase status waits =>
          rw [waits]
          exact leadsTo_applyKernel known fun _ => .inr phase
  | reads known running suits => exact leadsTo_readSocket known running suits

/-- An attempt that was answered has opened a socket or is to be counted as a loss. -/
theorem afterOpening_changeKernel (known : world.kernel? kernel = some object)
    (phase : (step object.connection).1.phase = .connecting ∨
      SocketWait.reading.Suits world.clock (step object.connection).1) :
    AfterOpening kernel world.clock ((world.changeKernel kernel step).afterOpening kernel) := by
  rw [changeKernel_of_known known]
  have opened := afterOpening_afterOpening (kernel?_applyKernel known (step object.connection))
    (by simpa using phase)
  rwa [clock_applyKernel] at opened

theorem afterOpening_connectFailed (known : world.kernel? kernel = some object)
    (connecting : object.connection.phase = .connecting) (error : ServiceError) :
    AfterOpening kernel world.clock
      ((world.changeKernel kernel (Connection.connectFailed error)).afterOpening kernel) := by
  refine afterOpening_changeKernel known ?_
  unfold Connection.connectFailed
  split
  · exact .inr (.inr rfl)
  · exact .inl connecting

theorem afterOpening_connected (known : world.kernel? kernel = some object)
    (connecting : object.connection.phase = .connecting) (socket : ActiveSocket) :
    AfterOpening kernel world.clock
      ((world.changeKernel kernel (Connection.connected socket)).afterOpening kernel) := by
  refine afterOpening_changeKernel known ?_
  unfold Connection.connected
  split
  · exact .inr (.inr rfl)
  · dsimp only [Connection.Change.andThen]
    split
    · exact .inr (.inl (Connection.opened_install _ _).phase)
    · exact .inl connecting

theorem afterOpening_finishOpening (known : world.kernel? kernel = some object)
    (connecting : object.connection.phase = .connecting) (plan : ConnectPlan) :
    AfterOpening kernel world.clock (world.finishOpening kernel plan) := by
  -- The server and the trace have changed before the connection does.
  have opened {after : World} (kernels : after.kernels = world.kernels)
      (clock : after.clock = world.clock) (socket : ActiveSocket) :
      AfterOpening kernel world.clock
        ((after.changeKernel kernel (Connection.connected socket)).afterOpening kernel) := by
    have there := (congrArg (·[kernel]?) kernels).trans known
    exact clock ▸ afterOpening_connected there connecting socket
  unfold finishOpening
  split
  case h_1 error _ => exact afterOpening_connectFailed known connecting error
  case h_2 =>
    obtain ⟨number, protocol, server⟩ := world.server.openSocket plan
    refine opened ?_ ?_ _ <;> rfl

theorem leadsTo_beginOpening (known : world.kernel? kernel = some object)
    (connecting : object.connection.phase = .connecting) :
    LeadsTo kernel world.clock (world.beginOpening kernel) := by
  have waits {plan : ConnectPlan} {timer : Timer} {after : World}
      (same : after.kernels = world.kernels) :
      LeadsTo kernel world.clock (.waits (.connecting plan timer), after) := by
    intro later present _
    cases known.symm.trans ((congrArg (·[kernel]?) same).symm.trans present)
    exact connecting
  have finished {plan : ConnectPlan} {after : World} (kernels : after.kernels = world.kernels)
      (clock : after.clock = world.clock) :
      LeadsTo kernel world.clock (follow kernel (after.finishOpening kernel plan)) := by
    have there := (congrArg (·[kernel]?) kernels).trans known
    exact clock ▸ (afterOpening_finishOpening there connecting plan).follow
  simp only [beginOpening, known]
  split
  case h_1 error _ =>
    have failed := afterOpening_connectFailed known connecting error
    exact failed.follow
  case h_2 =>
    split
    · exact waits rfl
    · split
      · exact finished rfl rfl
      · exact waits rfl

/-- Every turn but the end of a sleep leads to what suits the connection, which sleeps from the time
of the turn on if it waits. -/
theorem leadsTo_socketTurn {wait : SocketWait} (known : world.kernel? kernel = some object)
    (running : object.isStopped = false) (suits : wait.Suits time object.connection)
    (awake : ∀ timer, wait ≠ .sleeping timer) :
    LeadsTo kernel world.clock (world.socketTurn kernel wait) := by
  have alive := KernelObject.alive_of_running running
  simp only [socketTurn, known]
  rw [if_neg (by simp [running])]
  cases wait with
  | begin =>
      have begun := Connection.begun_beginConnecting alive
      have there := kernel?_applyKernel known (Connection.beginConnecting object.connection)
      have opened := leadsTo_beginOpening there (by rw [KernelObject.connection_take, begun.phase])
      rw [clock_applyKernel, ← changeKernel_of_known known] at opened
      exact opened
  | opening => exact leadsTo_beginOpening known suits
  | connecting plan timer =>
      dsimp only
      split
      · exact (afterOpening_finishOpening known suits plan).leadsTo
      · intro later present _
        cases known.symm.trans present
        exact suits
  | reading => exact leadsTo_readSocket known running suits
  | pausing delay =>
      obtain ⟨waiting, rfl⟩ := suits
      exact leadsTo_beginPause known waiting
  | sleeping timer => exact absurd rfl (awake timer)

end World

end KernelClient.Simulation
