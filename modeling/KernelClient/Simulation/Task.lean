import KernelClient.Rest.Specs
import KernelClient.Rest.Terminals
import KernelClient.Simulation.Objects
import KernelClient.Simulation.Server

/-!
# Tasks

What goes on in the background, and what each task waits for. A task runs until it has to wait for
an answer, a timer or a signal, and nothing else runs meanwhile.
-/

namespace KernelClient.Simulation

/-- When a wait is over; one without a time never is. Timers of one time are served in order. -/
structure Timer where
  due : Option Nat
  order : Nat
deriving DecidableEq, Inhabited

def Timer.isDue (timer : Timer) (clock : Nat) : Bool :=
  match timer.due with
  | some due => due ≤ clock
  | none => false

/-- An exchange that is under way, or its result. -/
inductive Slot (α : Type) where
  | waiting (exchange : Exchange α) (timer : Timer) (answer : Except ServiceError Response)
  | settled (result : Except ServiceError α)

instance {α : Type} : Inhabited (Slot α) := ⟨.settled default⟩

namespace Slot

variable {α : Type}

/-- Whether the exchange got further since it began to wait. -/
def isDue (slot : Slot α) (clock : Nat) : Bool :=
  match slot with
  | .waiting _ timer _ => timer.isDue clock
  | .settled _ => false

def result? : Slot α → Option (Except ServiceError α)
  | .settled result => some result
  | .waiting _ _ _ => none

def timers : Slot α → List Timer
  | .waiting _ timer _ => [timer]
  | .settled _ => []

end Slot

/-- The list of running resources, of either kind. -/
inductive Listing where
  | kernels (models : List KernelModel)
  | sessions (models : List SessionModel)
deriving Inhabited

/-- What a manager keeps a copy of. -/
inductive Copy where
  | running
  | specs
deriving DecidableEq, Inhabited

/-- A copy that is being loaded, or how that ended. -/
inductive Refresh where
  | running (slot : Slot Listing)
  | specs (slot : Slot KernelSpecs)
  | done (result : Except ServiceError Unit)
deriving Inhabited

namespace Refresh

def isDue (refresh : Refresh) (clock : Nat) : Bool :=
  match refresh with
  | .running slot => slot.isDue clock
  | .specs slot => slot.isDue clock
  | .done _ => false

def timers : Refresh → List Timer
  | .running slot => slot.timers
  | .specs slot => slot.timers
  | .done _ => []

def result? : Refresh → Option (Except ServiceError Unit)
  | .done result => some result
  | _ => none

end Refresh

/-- What a call results in. One that its manager does not offer is not made at all. -/
inductive CallValue where
  | nothing
  | unsupported
  | json (value : Json)
  | reply (message : Option Message)
  | response (response : Response) (header : Option String)
deriving Inhabited

abbrev CallOutcome := Except ServiceError CallValue

/-- A request that was made through a connection. -/
structure RequestId where
  kernel : Nat
  key : Nat
deriving DecidableEq, Inhabited

/-- What is looked for in the list of a manager. -/
inductive Wanted where
  | id (id : String)
  | path (path : String)
deriving DecidableEq, Inhabited

/-- A call that goes on in the background. -/
inductive Call where
  | rest (exchange : Exchange CallValue)
  | deleteEach (list : Exchange (List (Exchange Unit)))
  | interrupt (kernel : Nat)
  | restart (kernel : Nat)
  | shutdownKernel (kernel : Nat)
  | setProperty (session : Nat) (property : SessionProperty) (value : String)
  | changeKernel (session : Nat) (choice : KernelChoice) (name : Option String)
  | shutdownSession (session : Nat)
  | reply (request : RequestId)
  | ready (manager : ManagerId)
  | refresh (manager : ManagerId) (copy : Copy)
  | find (manager : ManagerId) (wanted : Wanted)
  | shutdown (manager : ManagerId) (id : String)
  | shutdownAll (manager : ManagerId)
  | stopIfNeeded (manager : ManagerId) (path : String)
  | startKernel (manager : Nat) (options : KernelOptions) (name : String)
  | startSession (manager : Nat) (request : SessionRequest) (name : String)

instance : Inhabited Call := ⟨.restart 0⟩

/-- How far a call has got. -/
inductive CallStage where
  | begin (call : Call)
  | value (slot : Slot CallValue)
  | listing (slot : Slot (List (Exchange Unit)))
  | deleting (slots : List (Slot Unit))
  | interrupting (kernel : Nat) (slot : Slot Unit)
  | restarting (kernel status disposed : Nat) (slot : Slot KernelModel)
  | awaitingStart (kernel status disposed : Nat) (timer : Timer)
  | endingKernel (kernel : Nat) (slot : Slot Unit)
  | patching (session : Nat) (slot : Slot SessionModel)
  | changingKernel (session : Nat) (name : Option String) (slot : Slot SessionModel)
  | endingSession (session : Nat) (slot : Slot Unit)
  | awaitingReply (request : RequestId)
  | awaitingReady (manager : ManagerId)
  | refreshing (manager : ManagerId) (refresh : Refresh)
  | finding (manager : ManagerId) (wanted : Wanted) (refresh : Refresh)
  | deletingOne (manager : ManagerId) (id : String) (isQuiet : Bool) (slot : Slot Unit)
  | deletingAll (manager : ManagerId) (ids : List String) (slots : List (Slot Unit))
  | stopping (manager : Nat) (path : String) (slot : Slot (List SessionModel))
  | startingKernel (manager : Nat) (name : String) (slot : Slot KernelModel)
  | startingSession (manager : Nat) (name : String) (slot : Slot SessionModel)
deriving Inhabited

/-- What the task that keeps a socket open waits for, or is about to do: begin, open a socket that
it has announced, or pause for a number of milliseconds. -/
inductive SocketWait where
  | begin
  | opening
  | connecting (plan : ConnectPlan) (timer : Timer)
  | reading
  | pausing (delay : Nat)
  | sleeping (timer : Timer)
deriving Inhabited

/-- What a poll waits for, or is about to do: begin, or wait for the next tick. -/
inductive PollWait where
  | begin
  | awaiting (interval : Interval)
  | tick (interval : Interval) (timer : Timer)
  | refreshing (interval : Interval) (refresh : Refresh)
deriving Inhabited

/-- What a turn of a task leads to: it goes on at once, waits, or is over. -/
inductive Turn (Wait : Type) where
  | goesOn (wait : Wait)
  | waits (wait : Wait)
  | over

/-- The first load of both copies of a manager. -/
inductive LoadWait where
  | begin
  | loading (running specs : Refresh)
deriving Inhabited

inductive Task where
  | socket (kernel : Nat) (wait : SocketWait)
  | watchKernel (manager kernel status disposed : Nat)
  | watchSession (manager session terminated property kernel disposed : Nat)
  | load (manager : ManagerId) (wait : LoadWait)
  | poll (manager : ManagerId) (copy : Copy) (period : Nat) (wait : PollWait)
  | call (name : String) (stage : CallStage)
deriving Inhabited

/-- How a run of a task ends. A task that waits goes on once something happens; one that pauses goes
on as soon as the others had their turn. -/
inductive RunEnd where
  | waits (task : Task)
  | pauses (task : Task)
  | over
deriving Inhabited

namespace CallStage

/-- The timers that a call waits for. -/
def timers : CallStage → List Timer
  | .value slot => slot.timers
  | .listing slot => slot.timers
  | .deleting slots => slots.flatMap Slot.timers
  | .interrupting _ slot => slot.timers
  | .restarting _ _ _ slot => slot.timers
  | .awaitingStart _ _ _ timer => [timer]
  | .endingKernel _ slot => slot.timers
  | .patching _ slot => slot.timers
  | .changingKernel _ _ slot => slot.timers
  | .endingSession _ slot => slot.timers
  | .refreshing _ refresh => refresh.timers
  | .finding _ _ refresh => refresh.timers
  | .deletingOne _ _ _ slot => slot.timers
  | .deletingAll _ _ slots => slots.flatMap Slot.timers
  | .stopping _ _ slot => slot.timers
  | .startingKernel _ _ slot => slot.timers
  | .startingSession _ _ slot => slot.timers
  | .begin _ | .awaitingReply _ | .awaitingReady _ => []

end CallStage

/-- The timers that a task waits for. -/
def Task.timers : Task → List Timer
  | .socket _ (.connecting _ timer) | .socket _ (.sleeping timer) => [timer]
  | .socket _ _ => []
  | .watchKernel _ _ _ _ | .watchSession _ _ _ _ _ _ => []
  | .load _ (.loading running specs) => running.timers ++ specs.timers
  | .load _ .begin => []
  | .poll _ _ _ (.tick _ timer) => [timer]
  | .poll _ _ _ (.refreshing _ refresh) => refresh.timers
  | .poll _ _ _ _ => []
  | .call _ stage => stage.timers

/-- What keeps objects alive. -/
structure Holds where
  kernels : List Nat
  sessions : List Nat
  managers : List ManagerId
deriving Inhabited

namespace Holds

def nothing : Holds := ⟨[], [], []⟩

def kernel (number : Nat) : Holds := ⟨[number], [], []⟩

def session (number : Nat) : Holds := ⟨[], [number], []⟩

def manager (id : ManagerId) : Holds := ⟨[], [], [id]⟩

def union (left right : Holds) : Holds :=
  ⟨left.kernels ++ right.kernels, left.sessions ++ right.sessions,
    left.managers ++ right.managers⟩

end Holds

def Call.holds : Call → Holds
  | .interrupt kernel | .restart kernel | .shutdownKernel kernel => .kernel kernel
  | .setProperty session _ _ | .changeKernel session _ _ | .shutdownSession session =>
      .session session
  | .ready manager | .refresh manager _ | .find manager _ | .shutdown manager _
  | .shutdownAll manager | .stopIfNeeded manager _ => .manager manager
  | .startKernel manager _ _ => .manager (.kernels manager)
  | .startSession manager _ _ => .manager (.sessions manager)
  | .rest _ | .deleteEach _ | .reply _ => .nothing

def CallStage.holds : CallStage → Holds
  | .begin call => call.holds
  | .interrupting kernel _ | .restarting kernel _ _ _ | .awaitingStart kernel _ _ _
  | .endingKernel kernel _ => .kernel kernel
  | .patching session _ | .changingKernel session _ _ | .endingSession session _ =>
      .session session
  | .awaitingReady manager | .refreshing manager _ | .finding manager _ _
  | .deletingOne manager _ _ _ | .deletingAll manager _ _ => .manager manager
  | .stopping manager _ _ | .startingSession manager _ _ => .manager (.sessions manager)
  | .startingKernel manager _ _ => .manager (.kernels manager)
  | .value _ | .listing _ | .deleting _ | .awaitingReply _ => .nothing

/-- What a task holds while it waits. The task that opens a socket holds its connection only
meanwhile, and those that watch hold nothing. -/
def Task.holds : Task → Holds
  | .socket kernel .opening | .socket kernel (.connecting _ _) => .kernel kernel
  | .load manager (.loading _ _) => .manager manager
  | .poll manager _ _ (.refreshing _ _) => .manager manager
  | .call _ stage => stage.holds
  | _ => .nothing

end KernelClient.Simulation
