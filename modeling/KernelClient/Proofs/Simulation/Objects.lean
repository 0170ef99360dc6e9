import KernelClient.Proofs.Manager.Disposal
import KernelClient.Proofs.Session.Identity
import KernelClient.Proofs.Signal.Waiting
import KernelClient.Simulation.Objects
import Mathlib.Logic.Relation

/-!
# How objects go on

A manager takes on a change and tells what the change announces; apart from that its signals are
only listened to, and in the end it is let go of. The same holds of a session. Since nothing else
happens to them, what an object tells is what its changes announce.
-/

namespace KernelClient.Simulation

namespace ManagerObject

open Manager (runningIn specsIn failuresIn disposalsIn)

variable {Model Connection : Type} {before after object : ManagerObject Model Connection}

/-- Take on a change and tell what it announces. -/
def take (change : Manager.Change Model Connection) (object : ManagerObject Model Connection) :
    ManagerObject Model Connection :=
  change.2.foldl emit { object with manager := change.1 }

theorem foldl_emit (effects : List (Manager.Effect Model Connection))
    (object : ManagerObject Model Connection) :
    effects.foldl emit object = { object with
      running := (runningIn effects).foldl Signal.emit object.running
      specs := (specsIn effects).foldl Signal.emit object.specs
      failure := (failuresIn effects).foldl Signal.emit object.failure
      disposed := (disposalsIn effects).foldl Signal.emit object.disposed } := by
  induction effects generalizing object with
  | nil => rfl
  | cons effect rest ih =>
      rw [List.foldl_cons, ih]
      cases effect <;> rfl

/-- What a change announces is told in its order on each signal. -/
theorem take_eq (change : Manager.Change Model Connection)
    (object : ManagerObject Model Connection) :
    object.take change = { object with
      manager := change.1
      running := (runningIn change.2).foldl Signal.emit object.running
      specs := (specsIn change.2).foldl Signal.emit object.specs
      failure := (failuresIn change.2).foldl Signal.emit object.failure
      disposed := (disposalsIn change.2).foldl Signal.emit object.disposed } :=
  foldl_emit change.2 _

@[simp]
theorem take_manager (change : Manager.Change Model Connection)
    (object : ManagerObject Model Connection) : (object.take change).manager = change.1 := by
  rw [take_eq]

theorem take_andThen (change : Manager.Change Model Connection)
    (next : Manager Model Connection → Manager.Change Model Connection)
    (object : ManagerObject Model Connection) :
    object.take (change.andThen next) = (object.take change).take (next change.1) := by
  simp only [take_eq, Manager.Change.andThen, Manager.runningIn_append, Manager.specsIn_append,
    Manager.failuresIn_append, Manager.disposalsIn_append, List.foldl_append]

/-- The signals of a manager are listened to, and it is shown or hidden. -/
structure Heard (before after : ManagerObject Model Connection) : Prop where
  manager : after.manager = before.manager
  options : after.options = before.options
  isAlive : after.isAlive = before.isAlive
  running : before.running.Listened after.running
  specs : before.specs.Listened after.specs
  failure : before.failure.Listened after.failure
  disposed : before.disposed.Listened after.disposed

section Steps

variable [DecidableEq Model] [Resource Model] [Handle Connection]

/-- What happens to a manager with its signals, if only some events do. -/
inductive Step (Allowed : Manager.Event Model Connection → Prop) :
    ManagerObject Model Connection → ManagerObject Model Connection → Prop where
  | event {object : ManagerObject Model Connection} (event : Manager.Event Model Connection)
      (allowed : Allowed event) : Step Allowed object (object.take (event.change object.manager))
  | heard {before after : ManagerObject Model Connection} (heard : before.Heard after) :
      Step Allowed before after
  | closed {object : ManagerObject Model Connection} : Step Allowed object object.close

/-- What a manager with its signals can become. -/
def Becomes (Allowed : Manager.Event Model Connection → Prop) :
    ManagerObject Model Connection → ManagerObject Model Connection → Prop :=
  Relation.ReflTransGen (Step Allowed)

namespace Becomes

variable {Allowed : Manager.Event Model Connection → Prop}

theorem refl (object : ManagerObject Model Connection) : object.Becomes Allowed object :=
  Relation.ReflTransGen.refl

theorem trans {before middle after : ManagerObject Model Connection}
    (first : before.Becomes Allowed middle) (second : middle.Becomes Allowed after) :
    before.Becomes Allowed after :=
  Relation.ReflTransGen.trans first second

theorem heard (heard : before.Heard after) : before.Becomes Allowed after :=
  .single (.heard heard)

theorem close (object : ManagerObject Model Connection) : object.Becomes Allowed object.close :=
  .single .closed

theorem event (event : Manager.Event Model Connection) (allowed : Allowed event)
    (object : ManagerObject Model Connection) :
    object.Becomes Allowed (object.take (event.change object.manager)) :=
  .single (.event event allowed)

theorem mono {Wider : Manager.Event Model Connection → Prop}
    (becomes : before.Becomes Allowed after) (wider : ∀ event, Allowed event → Wider event) :
    before.Becomes Wider after := by
  refine Relation.ReflTransGen.mono (fun _ _ step => ?_) _ _ becomes
  cases step with
  | event event allowed => exact .event event (wider event allowed)
  | heard heard => exact .heard heard
  | closed => exact .closed

/-- To take the changes of a run is to take them one after the other. -/
theorem run {events : List (Manager.Event Model Connection)}
    (allowed : ∀ event ∈ events, Allowed event) (object : ManagerObject Model Connection) :
    object.Becomes Allowed (object.take (object.manager.run events)) := by
  induction events using List.reverseRecOn with
  | nil => exact .refl object
  | append_singleton events event ih =>
      have earlier := ih fun event member => allowed event (List.mem_append_left _ member)
      have last := Becomes.event event
        (allowed event (List.mem_append_right _ (List.mem_singleton_self event)))
        (object.take (object.manager.run events))
      rw [take_manager] at last
      rw [Manager.run_snoc, take_andThen]
      exact earlier.trans last

end Becomes

/-- What becomes of a manager that is disposed: it tracks nothing, both copies stay, and neither
they nor the disposal are told again. -/
structure Freezes (before after : ManagerObject Model Connection) : Prop where
  isDisposed : after.manager.isDisposed = true
  connections : after.manager.connections = []
  running : after.manager.running = before.manager.running
  specs : after.manager.specs = before.manager.specs
  runningTold : before.running.Quiet after.running
  specsTold : before.specs.Quiet after.specs
  disposalTold : before.disposed.Quiet after.disposed

omit [DecidableEq Model] [Resource Model] [Handle Connection] in
theorem Freezes.refl (disposed : object.manager.isDisposed = true)
    (empty : object.manager.connections = []) : object.Freezes object :=
  ⟨disposed, empty, rfl, rfl, .refl _, .refl _, .refl _⟩

omit [DecidableEq Model] [Handle Connection] in
/-- What remains of an event once a manager is disposed tells neither copy nor the disposal. -/
theorem remains_silent (event : Manager.Event Model Connection) :
    runningIn event.remains = [] ∧ specsIn event.remains = [] ∧ disposalsIn event.remains = [] ∧
      failuresIn event.remains = event.failure?.toList := by
  cases event
  case loadFailed what error | refreshFailed what error =>
    dsimp only [Manager.Event.remains, Manager.Event.failure?, Manager.reportFailure]
    split <;> exact ⟨rfl, rfl, rfl, rfl⟩
  all_goals exact ⟨rfl, rfl, rfl, rfl⟩

/-- All that an event does to a disposed manager with its signals. -/
theorem take_of_isDisposed (disposed : object.manager.isDisposed = true)
    (empty : object.manager.connections = []) (event : Manager.Event Model Connection) :
    object.take (event.change object.manager) = { object with
      manager := { object.manager with
        readiness := object.manager.readiness.or (event.loadFailure?.map .error) }
      failure := event.failure?.toList.foldl Signal.emit object.failure } := by
  obtain ⟨running, specs, disposals, failures⟩ := remains_silent event
  rw [take_eq, event.change_of_isDisposed disposed empty]
  dsimp only
  rw [running, specs, disposals, failures]
  rfl

theorem Freezes.step {Allowed : Manager.Event Model Connection → Prop}
    {middle : ManagerObject Model Connection} (freezes : before.Freezes middle)
    (step : middle.Step Allowed after) : before.Freezes after := by
  cases step with
  | event event allowed =>
      rw [take_of_isDisposed freezes.isDisposed freezes.connections]
      exact ⟨freezes.isDisposed, freezes.connections, freezes.running, freezes.specs,
        freezes.runningTold, freezes.specsTold, freezes.disposalTold⟩
  | heard heard =>
      obtain ⟨manager, -, -, running, specs, -, disposed⟩ := heard
      constructor
      · rw [manager, freezes.isDisposed]
      · rw [manager, freezes.connections]
      · rw [manager, freezes.running]
      · rw [manager, freezes.specs]
      · exact freezes.runningTold.trans running.quiet
      · exact freezes.specsTold.trans specs.quiet
      · exact freezes.disposalTold.trans disposed.quiet
  | closed =>
      exact ⟨freezes.isDisposed, rfl, freezes.running, freezes.specs,
        freezes.runningTold.trans (Signal.quiet_close _),
        freezes.specsTold.trans (Signal.quiet_close _),
        freezes.disposalTold.trans (Signal.quiet_close _)⟩

theorem Becomes.freezes {Allowed : Manager.Event Model Connection → Prop}
    (becomes : before.Becomes Allowed after) (disposed : before.manager.isDisposed = true)
    (empty : before.manager.connections = []) : before.Freezes after := by
  induction becomes with
  | refl => exact .refl disposed empty
  | tail _ step freezes => exact freezes.step step

theorem Step.isStopped {Allowed : Manager.Event Model Connection → Prop}
    (step : before.Step Allowed after) (stopped : before.isStopped = true) :
    after.isStopped = true := by
  rw [ManagerObject.isStopped, Bool.or_eq_true] at stopped ⊢
  cases step with
  | event event allowed =>
      refine stopped.imp (fun disposed => ?_) fun gone => ?_
      · rw [take_manager, (event.disposes before.manager).isDisposed, disposed, Bool.true_or]
      · rw [take_eq]
        exact gone
  | heard heard => rwa [heard.manager, heard.isAlive]
  | closed => exact .inr rfl

/-- A manager that has come to its end does not come back. -/
theorem Becomes.isStopped {Allowed : Manager.Event Model Connection → Prop}
    (becomes : before.Becomes Allowed after) (stopped : before.isStopped = true) :
    after.isStopped = true := by
  induction becomes with
  | refl => exact stopped
  | tail _ step ih => exact step.isStopped ih

end Steps

end ManagerObject

namespace SessionObject

variable {before after object : SessionObject}

/-- Take on a change and tell what it announces. -/
def take (change : Session.Change) (object : SessionObject) : SessionObject :=
  change.2.foldl emit { object with session := change.1 }

theorem take_session (change : Session.Change) (object : SessionObject) :
    (object.take change).session = change.1 := by
  have kept (effects : List Session.Effect) (object : SessionObject) :
      (effects.foldl emit object).session = object.session := by
    induction effects generalizing object with
    | nil => rfl
    | cons effect rest ih => exact (ih _).trans (by cases effect <;> rfl)
  exact kept change.2 _

/-- The signals of a session are listened to. -/
structure Heard (before after : SessionObject) : Prop where
  session : after.session = before.session
  options : after.options = before.options
  isAlive : after.isAlive = before.isAlive
  property : before.property.Listened after.property
  kernel : before.kernel.Listened after.kernel
  terminated : before.terminated.Listened after.terminated
  disposed : before.disposed.Listened after.disposed

/-- What happens to a session with its signals. -/
inductive Step : SessionObject → SessionObject → Prop where
  | updated {object : SessionObject} (model : SessionModel) (connection : Nat) :
      Step object (object.take (object.session.update model connection))
  | disposed {object : SessionObject} : Step object (object.take object.session.dispose)
  | shutDown {object : SessionObject} : Step object (object.take object.session.shutDown)
  | heard {before after : SessionObject} (heard : before.Heard after) : Step before after
  | closed {object : SessionObject} : Step object object.close

/-- What a session with its signals can become. -/
def Becomes : SessionObject → SessionObject → Prop :=
  Relation.ReflTransGen Step

namespace Becomes

theorem refl (object : SessionObject) : object.Becomes object :=
  Relation.ReflTransGen.refl

theorem trans {before middle after : SessionObject} (first : before.Becomes middle)
    (second : middle.Becomes after) : before.Becomes after :=
  Relation.ReflTransGen.trans first second

theorem step (step : before.Step after) : before.Becomes after :=
  Relation.ReflTransGen.single step

end Becomes

/-- What becomes of a session that is disposed: its model stays, and no change is told any more. -/
structure Rests (before after : SessionObject) : Prop where
  isDisposed : after.session.isDisposed = true
  model : after.session.model = before.session.model
  property : before.property.Quiet after.property
  kernel : before.kernel.Quiet after.kernel

theorem Rests.refl (disposed : object.session.isDisposed = true) : object.Rests object :=
  ⟨disposed, rfl, .refl _, .refl _⟩

theorem Rests.step {middle : SessionObject} (rests : before.Rests middle)
    (step : middle.Step after) : before.Rests after := by
  have disposed := rests.isDisposed
  cases step with
  | updated model connection =>
      rw [take, Session.update, if_pos (.inl disposed)]
      exact rests
  | disposed =>
      rw [take, Session.dispose, if_pos disposed]
      exact rests
  | shutDown =>
      rw [take, Session.shutDown, Session.dispose, if_pos disposed]
      exact ⟨disposed, rests.model, rests.property, rests.kernel⟩
  | heard heard =>
      constructor
      · rw [heard.session, disposed]
      · rw [heard.session, rests.model]
      · exact rests.property.trans heard.property.quiet
      · exact rests.kernel.trans heard.kernel.quiet
  | closed =>
      exact ⟨disposed, rests.model, rests.property.trans (Signal.quiet_close _),
        rests.kernel.trans (Signal.quiet_close _)⟩

theorem Becomes.rests (becomes : before.Becomes after)
    (disposed : before.session.isDisposed = true) : before.Rests after := by
  induction becomes with
  | refl => exact .refl disposed
  | tail _ step rests => exact rests.step step

/-- Nobody was told of the end of any signal of a session. -/
structure IsOpen (object : SessionObject) : Prop where
  property : object.property.IsOpen
  kernel : object.kernel.IsOpen
  terminated : object.terminated.IsOpen
  disposed : object.disposed.IsOpen

/-- Nobody has heard of the end or the disposal of a session that is not disposed, nor of the end of
the signals of one that somebody holds. -/
structure IsFaithful (object : SessionObject) : Prop where
  untold : object.session.isDisposed = false → object.terminated.IsIdle ∧ object.disposed.IsIdle
  isOpen : object.isAlive = true → object.IsOpen

theorem isFaithful_create (session : Session) (options : ConnectionOptions) :
    (create session options).IsFaithful where
  untold _ := ⟨Signal.isIdle_create _, Signal.isIdle_create _⟩
  isOpen _ := ⟨Signal.isOpen_create _, Signal.isOpen_create _, Signal.isOpen_create _,
    Signal.isOpen_create _⟩

theorem IsOpen.emit (isOpen : object.IsOpen) (effect : Session.Effect) :
    (object.emit effect).IsOpen := by
  obtain ⟨property, kernel, terminated, disposed⟩ := isOpen
  cases effect with
  | property value => exact ⟨property.emit value, kernel, terminated, disposed⟩
  | kernel value => exact ⟨property, kernel.emit value, terminated, disposed⟩
  | terminated => exact ⟨property, kernel, terminated.emit (), disposed⟩
  | disposed => exact ⟨property, kernel, terminated, disposed.emit ()⟩
  | connectKernel | disposeKernel => exact ⟨property, kernel, terminated, disposed⟩

/-- What is told changes neither who holds a session nor, unless it is its end or its disposal, what
is heard of these. -/
theorem IsFaithful.foldl_emit (effects : List Session.Effect) (faithful : object.IsFaithful)
    (silent : object.session.isDisposed = false → .terminated ∉ effects ∧ .disposed ∉ effects) :
    (effects.foldl SessionObject.emit object).IsFaithful := by
  induction effects generalizing object with
  | nil => exact faithful
  | cons effect rest ih =>
      rw [List.foldl_cons]
      have session : (object.emit effect).session = object.session := by cases effect <;> rfl
      refine ih ⟨fun goesOn => ?_, fun alive => ?_⟩ fun goesOn => ?_
      · rw [session] at goesOn
        obtain ⟨noEnd, noDisposal⟩ := silent goesOn
        cases effect with
        | terminated => exact absurd List.mem_cons_self noEnd
        | disposed => exact absurd List.mem_cons_self noDisposal
        | _ => exact faithful.untold goesOn
      · refine (faithful.isOpen ?_).emit effect
        cases effect <;> exact alive
      · rw [session] at goesOn
        obtain ⟨noEnd, noDisposal⟩ := silent goesOn
        exact ⟨fun told => noEnd (List.mem_cons_of_mem effect told),
          fun told => noDisposal (List.mem_cons_of_mem effect told)⟩

/-- To take on a change is right if it tells the end and the disposal only of a session that it
disposes. -/
theorem IsFaithful.take {change : Session.Change} (faithful : object.IsFaithful)
    (right : change.1.isDisposed = false → object.session.isDisposed = false ∧
      .terminated ∉ change.2 ∧ .disposed ∉ change.2) : (object.take change).IsFaithful := by
  have placed : IsFaithful { object with session := change.1 } := by
    refine ⟨fun goesOn => faithful.untold (right goesOn).1, fun alive => ?_⟩
    obtain ⟨property, kernel, terminated, disposed⟩ := faithful.isOpen alive
    exact ⟨property, kernel, terminated, disposed⟩
  exact placed.foldl_emit change.2 fun goesOn => (right goesOn).2

theorem IsFaithful.step (faithful : before.IsFaithful) (step : before.Step after) :
    after.IsFaithful := by
  cases step with
  | updated model connection =>
      refine faithful.take fun goesOn => ?_
      rw [Session.update_isDisposed] at goesOn
      exact ⟨goesOn, Session.ending_notMem_update model connection _⟩
  | disposed | shutDown =>
      refine faithful.take fun goesOn => ?_
      cases (Session.dispose_isDisposed _).symm.trans goesOn
  | heard heard =>
      obtain ⟨session, -, isAlive, property, kernel, terminated, disposed⟩ := heard
      refine ⟨fun goesOn => ?_, fun alive => ?_⟩
      · obtain ⟨noEnd, noDisposal⟩ := faithful.untold (session ▸ goesOn)
        exact ⟨terminated.quiet.isIdle noEnd, disposed.quiet.isIdle noDisposal⟩
      · have isOpen := faithful.isOpen (isAlive ▸ alive)
        exact ⟨property.isOpen isOpen.property, kernel.isOpen isOpen.kernel,
          terminated.isOpen isOpen.terminated, disposed.isOpen isOpen.disposed⟩
  | closed =>
      refine ⟨fun goesOn => ?_, nofun⟩
      obtain ⟨noEnd, noDisposal⟩ := faithful.untold goesOn
      exact ⟨(Signal.quiet_close _).isIdle noEnd, (Signal.quiet_close _).isIdle noDisposal⟩

/-- Whatever becomes of a session, nothing false is heard of it. -/
theorem Becomes.isFaithful (becomes : before.Becomes after) (faithful : before.IsFaithful) :
    after.IsFaithful := by
  induction becomes with
  | refl => exact faithful
  | tail _ step ih => exact ih.step step

end SessionObject

end KernelClient.Simulation
