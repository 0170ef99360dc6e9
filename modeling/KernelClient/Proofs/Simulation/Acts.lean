import KernelClient.Proofs.Simulation.Hearing
import KernelClient.Proofs.Simulation.Steps

/-!
# Acts

Of all that goes on in a world only one thing makes a manager of kernels lose a connection that is
not disposed while the manager goes on: a run of a watcher. An act is such a run, or steps that keep
what managers of kernels track, and what tasks and scripts do is composed of acts.
-/

namespace KernelClient.Simulation

namespace World

/-- A manager of kernels tracks a connection. -/
def Registers (world : World) (manager : Nat) (handle : KernelHandle) : Prop :=
  ∃ object, world.kernelManager? manager = some object ∧ handle ∈ object.manager.connections

/-- What is tracked is held, and nothing false was heard of any connection. -/
structure Sound (world : World) : Prop where
  faithful : ∀ object ∈ world.kernels, object.IsFaithful
  held : ∀ manager handle, world.Registers manager handle →
    ∃ object, world.kernel? handle.connection = some object ∧ object.isAlive = true

theorem isManagerStopped_of_known {world : World} {number : Nat}
    {object : ManagerObject KernelModel KernelHandle}
    (known : world.kernelManager? number = some object) :
    world.isManagerStopped (.kernels number) = object.isStopped := by
  rw [isManagerStopped, manager?, known]
  rfl

theorem Sound.grows {before after : World} (sound : before.Sound)
    (kernels : KernelsGrow before after)
    (adds : ∀ manager handle, after.Registers manager handle →
      before.Registers manager handle ∨
        ∃ object, after.kernel? handle.connection = some object ∧ object.isAlive = true) :
    after.Sound where
  faithful := kernels.isFaithful sound.faithful
  held manager handle registered := by
    rcases adds manager handle registered with earlier | new
    · obtain ⟨object, known, isAlive⟩ := sound.held manager handle earlier
      obtain ⟨later, present, goesOn⟩ := kernels.kernel known
      exact ⟨later, present, goesOn.isAlive.trans isAlive⟩
    · exact new

end World

/-- A connection that a manager of kernels tracks stays tracked, unless the manager stops or the
connection is disposed, and one that is tracked newly is new. -/
structure Keeps (before after : World) : Prop where
  sound : before.Sound → after.Sound
  keeps : before.Sound → ∀ manager handle, before.Registers manager handle →
    after.Registers manager handle ∨ after.isManagerStopped (.kernels manager) = true ∨
      ∃ object, after.kernel? handle.connection = some object ∧
        object.connection.isDisposed = true
  adds : ∀ manager handle, after.Registers manager handle →
    before.Registers manager handle ∨ before.kernels.length ≤ handle.connection

/-- What managers of kernels track is the same. -/
theorem Keeps.of_registers {before after : World} (kernels : KernelsGrow before after)
    (registers : ∀ manager handle,
      after.Registers manager handle ↔ before.Registers manager handle) : Keeps before after where
  sound sound := sound.grows kernels fun manager handle registered =>
    .inl ((registers manager handle).mp registered)
  keeps _ manager handle registered := .inl ((registers manager handle).mpr registered)
  adds manager handle registered := .inl ((registers manager handle).mp registered)

/-- Managers of kernels stay as they are. -/
structure Elsewhere (before after : World) : Prop where
  kernels : KernelsGrow before after
  kernelManagers : after.kernelManagers = before.kernelManagers

namespace Elsewhere

variable {before middle after : World}

theorem refl (world : World) : Elsewhere world world :=
  ⟨.refl world, rfl⟩

theorem trans (first : Elsewhere before middle) (second : Elsewhere middle after) :
    Elsewhere before after :=
  ⟨first.kernels.trans second.kernels, second.kernelManagers.trans first.kernelManagers⟩

theorem ite {condition : Prop} [Decidable condition] {yes no : World}
    (ifTrue : Elsewhere before yes) (ifFalse : Elsewhere before no) :
    Elsewhere before (if condition then yes else no) := by
  split
  · exact ifTrue
  · exact ifFalse

theorem keeps (elsewhere : Elsewhere before after) : Keeps before after := by
  refine .of_registers elsewhere.kernels fun manager handle => ?_
  simp only [World.Registers, World.kernelManager?, elsewhere.kernelManagers]

end Elsewhere

theorem KernelsOnly.elsewhere {before after : World} (only : KernelsOnly before after)
    (kernels : KernelsGrow before after) : Elsewhere before after :=
  ⟨kernels, only.kernelManagers⟩

namespace World

variable {world : World}

theorem exists_disposed_of_disposeKernel {kernel : Nat} {object : KernelObject}
    (known : world.kernel? kernel = some object) :
    ∃ later, (world.changeKernel kernel Connection.dispose).kernel? kernel = some later ∧
      later.connection.isDisposed = true := by
  obtain ⟨later, present, -⟩ := (kernelsGrow_disposeKernel kernel).kernel known
  refine ⟨later, present, ?_⟩
  have tables : (world.changeKernel kernel Connection.dispose).tables = _ :=
    tables_changeKernel kernel Connection.dispose
  have taken := congrArg (fun tables => tables.connections[kernel]?) tables
  simp only [List.getElem?_modify, tables_connections_getElem?, present, known, if_true,
    Option.map_some] at taken
  rw [Option.some.inj taken]
  exact Connection.isDisposed_dispose object.connection

/-- What a manager announces to dispose is disposed in the end. -/
theorem exists_disposed_of_carryAll (manager : Nat) {handle : KernelHandle}
    {effects : List (Manager.Effect KernelModel KernelHandle)}
    (announced : .disposeConnection handle ∈ effects) {object : KernelObject}
    (known : world.kernel? handle.connection = some object) :
    ∃ later, (effects.foldl (fun world effect => (world.carryKernelManager manager effect).wake)
        world).kernel? handle.connection = some later ∧
      later.connection.isDisposed = true := by
  have grows (effects : List (Manager.Effect KernelModel KernelHandle)) (world : World) :
      KernelsGrow world (effects.foldl
        (fun world effect => (world.carryKernelManager manager effect).wake) world) :=
    .foldl (fun _ effect => kernelsGrow_carryKernelManager manager effect) effects world
  -- It is there when its turn comes, and what follows does not undo the disposal.
  obtain ⟨earlier, rest, rfl⟩ := List.append_of_mem announced
  rw [List.foldl_append, List.foldl_cons]
  obtain ⟨before, there, -⟩ := (grows earlier world).kernel known
  obtain ⟨disposed, present, isDisposed⟩ := exists_disposed_of_disposeKernel there
  obtain ⟨later, after, goesOn⟩ := (kernelsGrow_wake.trans (grows rest _)).kernel present
  exact ⟨later, after, goesOn.continues.disposed isDisposed⟩

theorem exists_disposed_of_changeKernelManager {manager : Nat}
    {managing : ManagerObject KernelModel KernelHandle}
    (known : world.kernelManager? manager = some managing)
    {step : KernelManager → Manager.Change KernelModel KernelHandle} {handle : KernelHandle}
    (announced : .disposeConnection handle ∈ (step managing.manager).2) {object : KernelObject}
    (there : world.kernel? handle.connection = some object) :
    ∃ later, (world.changeKernelManager manager step).kernel? handle.connection = some later ∧
      later.connection.isDisposed = true := by
  have placed : KernelsGrow world (world.modifyKernelManager manager fun held =>
      { held with manager := (step managing.manager).1 }) :=
    .of_eq rfl
  obtain ⟨held, present, -⟩ := (placed.trans kernelsGrow_wake).kernel there
  simp only [changeKernelManager, known]
  exact exists_disposed_of_carryAll manager announced present

/-- What a manager tracks after a change. -/
theorem registers_changeKernelManager {manager : Nat}
    {managing : ManagerObject KernelModel KernelHandle}
    (known : world.kernelManager? manager = some managing)
    (step : KernelManager → Manager.Change KernelModel KernelHandle) (number : Nat)
    (handle : KernelHandle) :
    (world.changeKernelManager manager step).Registers number handle ↔
      if number = manager then handle ∈ (step managing.manager).1.connections
      else world.Registers number handle := by
  by_cases here : number = manager
  · subst here
    simp [Registers, kernelManager?_change known step]
  · simp [Registers, here, kernelManager?_changeOther (Ne.symm here) step]

theorem changeKernelManager_of_absent {manager : Nat}
    (absent : world.kernelManager? manager = none)
    (step : KernelManager → Manager.Change KernelModel KernelHandle) :
    world.changeKernelManager manager step = world := by
  simp only [changeKernelManager, absent]

/-- An event that neither adds nor forgets connections. -/
theorem keeps_kernelEvent (manager : Nat)
    {step : KernelManager → Manager.Change KernelModel KernelHandle}
    (event : Manager.Event KernelModel KernelHandle) (remembers : event.forgets = false)
    (free : ∀ handle, event ≠ .tracked handle)
    (same : ∀ object, world.kernelManager? manager = some object →
      step object.manager = event.change object.manager) :
    Keeps world (world.changeKernelManager manager step) := by
  cases known : world.kernelManager? manager with
  | none =>
      rw [changeKernelManager_of_absent known]
      exact (Elsewhere.refl world).keeps
  | some managing =>
      have registers := registers_changeKernelManager known step
      rw [same managing known] at registers
      have adds (number : Nat) (handle : KernelHandle)
          (registered : (world.changeKernelManager manager step).Registers number handle) :
          world.Registers number handle := by
        rw [registers] at registered
        split at registered
        case isTrue here =>
          subst here
          have earlier := event.mem_connections_change registered
          exact ⟨managing, known, earlier.resolve_right (free handle)⟩
        case isFalse => exact registered
      refine ⟨fun sound => sound.grows (kernelsGrow_changeKernelManager manager step)
        fun number handle registered => .inl (adds number handle registered), ?_,
        fun number handle registered => .inl (adds number handle registered)⟩
      intro sound number handle registered
      obtain ⟨held, there, -⟩ := sound.held number handle registered
      rw [registers]
      split
      case isTrue here =>
        subst here
        obtain ⟨object, present, tracked⟩ := registered
        cases known.symm.trans present
        rcases Manager.Event.keeps_or_disposes remembers tracked with kept | announced
        · exact .inl kept
        · rw [← same managing known] at announced
          exact .inr (.inr (exists_disposed_of_changeKernelManager known announced there))
      case isFalse => exact .inl registered

theorem register_connections {manager : KernelManager} (alive : manager.isDisposed = false)
    (handle : KernelHandle) (model : KernelModel) :
    (manager.register handle model).1.connections = manager.connections ++ [handle] := by
  have added (tracked : KernelManager) :
      (tracked.add model).1.connections = tracked.connections := by
    have kept : Manager.Event.concernsTracking
        (.added model : Manager.Event KernelModel KernelHandle) = false := rfl
    exact Manager.Event.connections_change kept tracked
  simp only [KernelManager.register, added, Manager.track, alive, Bool.false_eq_true, if_false]

theorem kernel?_connectKernel (model : KernelModel) (options : ConnectionOptions) :
    ∃ client, (world.connectKernel model options).kernel? world.kernels.length =
      some (.create (.create model client options)) := by
  cases chosen : options.clientId with
  | some client => exact ⟨client, by simp [connectKernel, kernel?, spawn, chosen]⟩
  | none =>
      exact ⟨world.freshClient.1, by simp [connectKernel, kernel?, spawn, chosen, freshClient]⟩

/-- A connection that a manager makes is tracked by it, and nothing else is tracked newly or no
longer. -/
theorem registers_connectThroughKernels {manager : Nat} {model : KernelModel} {connected : World}
    (connects : world.connectThroughKernels manager model = .ok connected) :
    ∃ made : KernelHandle, made.connection = world.kernels.length ∧ made.kernelId = model.id ∧
      (∃ object, connected.kernel? made.connection = some object ∧ object.isAlive = true) ∧
      KernelsGrow world connected ∧
      ∀ number handle, connected.Registers number handle ↔
        world.Registers number handle ∨ number = manager ∧ handle = made := by
  unfold connectThroughKernels Manager.checkOpen at connects
  split at connects
  case h_1 managing known =>
    split at connects
    case isTrue => cases connects
    case isFalse alive =>
      obtain rfl := Except.ok.inj connects
      let joined := world.connectKernel model managing.options.kernel
      obtain ⟨client, present⟩ : ∃ client, joined.kernel? world.kernels.length =
          some (.create (.create model client managing.options.kernel)) :=
        kernel?_connectKernel model managing.options.kernel
      have grows : KernelsGrow world joined := kernelsGrow_connectKernel model _
      have same : joined.kernelManagers = world.kernelManagers :=
        (kernelsOnly_connectKernel model _).kernelManagers
      have there : joined.kernelManager? manager = some managing := by
        rw [kernelManager?, same]
        exact known
      have registering : KernelsGrow joined (joined.registerKernel manager world.kernels.length) :=
        kernelsGrow_registerKernel manager world.kernels.length
      obtain ⟨later, after, goesOn⟩ := registering.kernel present
      have taken := (kernelManagerOnly_register there present).kernelManagers
      refine ⟨⟨world.kernels.length, model.id, client⟩, rfl, rfl, ⟨later, after, ?_⟩,
        grows.trans registering, fun number handle => ?_⟩
      · rw [goesOn.isAlive]
        rfl
      · have atManager : world.kernelManagers[manager]? = some managing := known
        have connections := register_connections (Bool.eq_false_iff.mpr alive)
          ⟨world.kernels.length, model.id, client⟩ model
        rw [Registers, kernelManager?, taken, same, List.getElem?_modify]
        by_cases here : number = manager
        · subst here
          simp [Registers, kernelManager?, atManager, Connection.create, KernelObject.create,
            connections]
        · simp [Registers, kernelManager?, here, Ne.symm here]
  case h_2 => cases connects

theorem keeps_connectThroughKernels {manager : Nat} {model : KernelModel} {connected : World}
    (connects : world.connectThroughKernels manager model = .ok connected) :
    Keeps world connected := by
  obtain ⟨made, place, -, present, grows, registers⟩ := registers_connectThroughKernels connects
  refine ⟨fun sound => sound.grows grows fun number handle registered => ?_, ?_, ?_⟩
  · rcases (registers number handle).mp registered with earlier | ⟨-, rfl⟩
    · exact .inl earlier
    · exact .inr present
  · exact fun _ number handle registered => .inl ((registers number handle).mpr (.inl registered))
  · intro number handle registered
    rcases (registers number handle).mp registered with earlier | ⟨-, rfl⟩
    · exact .inl earlier
    · exact .inr place.ge

theorem keeps_newKernelManager (options : ManagerOptions) (isVisible : Bool) :
    Keeps world { world with
      kernelManagers := world.kernelManagers ++ [.create options isVisible] } := by
  refine .of_registers (.of_eq rfl) fun number handle => ?_
  simp only [Registers, kernelManager?, List.getElem?_append]
  split
  · rfl
  case isFalse beyond =>
    have absent : world.kernelManagers[number]? = none :=
      List.getElem?_eq_none_iff.mpr (Nat.not_lt.mp beyond)
    simp only [absent, reduceCtorEq, false_and, exists_false, iff_false]
    rintro ⟨object, present, tracked⟩
    have made := List.mem_singleton.mp (List.mem_of_getElem? present)
    rw [made] at tracked
    cases tracked

/-- A manager that is let go of tracks nothing any more, and it has stopped. -/
theorem keeps_releaseManagers (holds : Holds) : Keeps world (world.releaseManagers holds) := by
  have placed (number : Nat) : (world.releaseManagers holds).kernelManager? number =
      (world.kernelManager? number).map fun object =>
        if object.isAlive && !holds.managers.contains (.kernels number) then object.close
        else object :=
    List.getElem?_mapIdx
  have adds (number : Nat) (handle : KernelHandle)
      (registered : (world.releaseManagers holds).Registers number handle) :
      world.Registers number handle := by
    obtain ⟨object, present, tracked⟩ := registered
    rw [placed] at present
    obtain ⟨earlier, known, rfl⟩ := Option.map_eq_some_iff.mp present
    split at tracked
    · cases tracked
    · exact ⟨earlier, known, tracked⟩
  refine ⟨fun sound => sound.grows (.of_eq rfl) fun number handle registered =>
    .inl (adds number handle registered), ?_,
    fun number handle registered => .inl (adds number handle registered)⟩
  rintro - number handle ⟨object, known, tracked⟩
  have present := placed number
  rw [known, Option.map_some] at present
  split at present
  · refine .inr (.inl ?_)
    rw [isManagerStopped_of_known present]
    exact Bool.or_true _
  · exact .inl ⟨object, present, tracked⟩

/-- The signals of a connection that nobody tracks can be closed. -/
theorem keeps_closeKernel {kernel : Nat}
    (free : ∀ manager handle, world.Registers manager handle → handle.connection ≠ kernel) :
    Keeps world (world.modifyKernel kernel KernelObject.close) where
  sound sound := {
    faithful := by
      intro object member
      obtain ⟨number, present⟩ := List.mem_iff_getElem?.mp member
      simp only [modifyKernel, List.getElem?_modify] at present
      obtain ⟨earlier, known, rfl⟩ := Option.map_eq_some_iff.mp present
      have faithful := sound.faithful earlier (List.mem_of_getElem? known)
      split
      · exact faithful.close
      · exact faithful
    held := by
      intro manager handle registered
      obtain ⟨object, known, isAlive⟩ := sound.held manager handle registered
      refine ⟨object, ?_, isAlive⟩
      have other : kernel ≠ handle.connection := (free manager handle registered).symm
      rw [← known]
      exact List.getElem?_modify_ne _ _ other }
  keeps _ _ _ registered := .inl registered
  adds _ _ registered := .inl registered

end World

/-- What happens at once: a run of a watcher, or steps that keep what is tracked. -/
inductive Act : World → World → Prop where
  | kept {before after : World} (steps : Steps before after) (keeps : Keeps before after) :
      Act before after
  | watched {world : World} (manager kernel status disposed : Nat) :
      Act world (world.runKernelWatch manager kernel status disposed).1

/-- What a world can become by acts one after the other. -/
def Acts : World → World → Prop := Relation.ReflTransGen Act

namespace Acts

variable {before middle after : World}

theorem refl (world : World) : Acts world world :=
  Relation.ReflTransGen.refl

theorem trans (first : Acts before middle) (second : Acts middle after) : Acts before after :=
  Relation.ReflTransGen.trans first second

theorem act (act : Act before after) : Acts before after :=
  Relation.ReflTransGen.single act

theorem keep (steps : Steps before after) (keeps : Keeps before after) : Acts before after :=
  act (.kept steps keeps)

theorem elsewhere (steps : Steps before after) (elsewhere : Elsewhere before after) :
    Acts before after :=
  keep steps elsewhere.keeps

theorem aside (same : SameObjects before after) : Acts before after :=
  elsewhere (.aside same) ⟨.of_eq same.kernels, same.kernelManagers⟩

theorem ite {condition : Prop} [Decidable condition] {yes no : World}
    (ifTrue : Acts before yes) (ifFalse : Acts before no) :
    Acts before (if condition then yes else no) := by
  split
  · exact ifTrue
  · exact ifFalse

theorem foldl {Item : Type} {step : World → Item → World}
    (acts : ∀ world item, Acts world (step world item)) (items : List Item) (world : World) :
    Acts world (items.foldl step world) := by
  induction items generalizing world with
  | nil => exact .refl world
  | cons item rest ih => exact (acts world item).trans (ih _)

end Acts

namespace World

variable {world : World}

theorem steps_runKernelWatch (manager kernel status disposed : Nat) :
    Steps world (world.runKernelWatch manager kernel status disposed).1 := by
  unfold runKernelWatch
  split
  · exact .refl world
  case h_2 object known =>
    simp only [apply_ite Prod.fst]
    have drained (status : Signal KernelStatus) (disposed : Signal Unit) :
        Steps world (world.modifyKernel kernel fun object =>
          { object with status := status, disposed := disposed }) :=
      steps_modifyKernel fun other _ => .refl other.connection
    have died (world : World) : Steps world
        (world.changeKernelManager manager (Manager.terminated object.connection.model.id)) :=
      steps_kernelEvent manager (.terminated _) trivial fun _ _ => rfl
    have forgotten (world : World) : Steps world
        (world.changeKernelManager manager fun managing =>
          (KernelManager.forgetClient object.connection.clientId managing, [])) :=
      steps_kernelEvent manager (.forgotten _) trivial fun _ _ => rfl
    refine (drained _ _).trans (.ite (.refl _) ?_)
    refine .ite (.ite (.trans ?_ (forgotten _)) ?_) ?_
    all_goals exact .ite (died _) (.refl _)

theorem acts_runKernelWatch (manager kernel status disposed : Nat) :
    Acts world (world.runKernelWatch manager kernel status disposed).1 :=
  .act (.watched manager kernel status disposed)

end World

theorem Acts.steps {before after : World} (acts : Acts before after) : Steps before after := by
  induction acts with
  | refl => exact .refl before
  | tail _ act ih =>
      cases act with
      | kept steps => exact ih.trans steps
      | watched => exact ih.trans (World.steps_runKernelWatch _ _ _ _)

namespace World

variable {world : World}

theorem acts_wake : Acts world world.wake := by
  unfold wake
  split
  · exact .aside ⟨rfl, rfl, rfl, rfl⟩
  · exact .refl world

theorem acts_changeServer (change : Server → Server) :
    Acts world (world.changeServer change) := by
  have changed : Acts world { world with server := change world.server } :=
    .aside ⟨rfl, rfl, rfl, rfl⟩
  exact changed.trans acts_wake

theorem acts_setClock (time : Nat) : Acts world (world.setClock time) := by
  have set : Acts world { world with clock := time } := .aside ⟨rfl, rfl, rfl, rfl⟩
  exact set.trans acts_wake

theorem acts_freshClient : Acts world world.freshClient.2 :=
  .aside ⟨rfl, rfl, rfl, rfl⟩

theorem acts_spawn (task : Task) : Acts world (world.spawn task) :=
  .aside ⟨rfl, rfl, rfl, rfl⟩

theorem acts_logLines (lines : List LogLine) : Acts world (world.logLines lines) :=
  .aside ⟨rfl, rfl, rfl, rfl⟩

theorem acts_modifyKernel {kernel : Nat} {change : KernelObject → KernelObject}
    (goesOn : ∀ object, world.kernel? kernel = some object → object.GoesOn (change object)) :
    Acts world (world.modifyKernel kernel change) :=
  .elsewhere (steps_modifyKernel fun object known => (goesOn object known).continues)
    ⟨kernelsGrow_modifyKernel goesOn, rfl⟩

theorem acts_subscribeKernel {kernel : Nat} {object : KernelObject}
    (known : world.kernel? kernel = some object) :
    Acts world (world.modifyKernel kernel fun held => { held with
      status := object.status.subscribe.2, disposed := object.disposed.subscribe.2 }) :=
  .elsewhere (steps_modifyKernel fun held _ => .refl held.connection)
    ⟨kernelsGrow_subscribe known, rfl⟩

theorem acts_drainKernel {kernel : Nat} {object : KernelObject}
    (known : world.kernel? kernel = some object) (status disposed : Nat) :
    Acts world (world.modifyKernel kernel fun held => { held with
      status := (object.status.drain status).2
      disposed := (object.disposed.drain disposed).2 }) :=
  .elsewhere (steps_modifyKernel fun held _ => .refl held.connection)
    ⟨kernelsGrow_drain known status disposed, rfl⟩

theorem acts_applyKernel {kernel : Nat} {change : Connection.Change}
    (orderly : ∀ object, world.kernel? kernel = some object →
      object.connection.Orderly change) :
    Acts world (world.applyKernel kernel change) :=
  .elsewhere (steps_applyKernel fun object known => (orderly object known).continues)
    ((kernelsOnly_applyKernel kernel change).elsewhere (kernelsGrow_applyKernel orderly))

theorem acts_changeKernel {kernel : Nat} {step : Connection → Connection.Change}
    (orderly : ∀ connection : Connection, connection.Orderly (step connection)) :
    Acts world (world.changeKernel kernel step) :=
  .elsewhere (steps_changeKernel fun connection => (orderly connection).continues)
    ((kernelsOnly_changeKernel kernel step).elsewhere (kernelsGrow_changeKernel orderly))

theorem acts_connectKernel (model : KernelModel) (options : ConnectionOptions) :
    Acts world (world.connectKernel model options) :=
  .elsewhere (steps_connectKernel model options)
    ((kernelsOnly_connectKernel model options).elsewhere (kernelsGrow_connectKernel model options))

theorem acts_hearSession {session : Nat} {change : SessionObject → SessionObject}
    (heard : ∀ object, world.session? session = some object → object.Heard (change object)) :
    Acts world (world.modifySession session change) :=
  .elsewhere (steps_hearSession heard) ⟨.of_eq rfl, rfl⟩

theorem elsewhere_changeSession (session : Nat) (step : Session → Session.Change) :
    Elsewhere world (world.changeSession session step) :=
  ⟨kernelsGrow_changeSession session step, (sessionOnly_changeSession session step _).2⟩

theorem acts_updateSession (session : Nat) (model : SessionModel) :
    Acts world (world.updateSession session model) :=
  .elsewhere (steps_updateSession session model) (elsewhere_changeSession session _)

theorem acts_disposeSession (session : Nat) :
    Acts world (world.changeSession session Session.dispose) :=
  .elsewhere (steps_disposeSession session) (elsewhere_changeSession session _)

theorem acts_shutDownSession (session : Nat) :
    Acts world (world.changeSession session Session.shutDown) :=
  .elsewhere (steps_shutDownSession session) (elsewhere_changeSession session _)

theorem elsewhere_connectSession (model : SessionModel) (options : ConnectionOptions) :
    Elsewhere world (world.connectSession model options) :=
  ⟨kernelsGrow_connectSession model options, (sessionOnly_connectSession model options world).2.1⟩

theorem acts_connectSession (model : SessionModel) (options : ConnectionOptions) :
    Acts world (world.connectSession model options) :=
  .elsewhere (steps_connectSession model options) (elsewhere_connectSession model options)

theorem acts_hearSessionManager {manager : Nat}
    {change : ManagerObject SessionModel SessionHandle → ManagerObject SessionModel SessionHandle}
    (heard : ∀ object, world.sessionManager? manager = some object → object.Heard (change object)) :
    Acts world (world.modifySessionManager manager change) :=
  .elsewhere (steps_hearSessionManager heard) ⟨.of_eq rfl, rfl⟩

theorem elsewhere_changeSessionManager (manager : Nat)
    (step : SessionManager → Manager.Change SessionModel SessionHandle) :
    Elsewhere world (world.changeSessionManager manager step) :=
  ⟨kernelsGrow_changeSessionManager manager step,
    (sessionManagerOnly_change manager step world).kernelManagers⟩

theorem acts_sessionEvent (manager : Nat)
    {step : SessionManager → Manager.Change SessionModel SessionHandle}
    (event : Manager.Event SessionModel SessionHandle) (minor : event.IsMinor)
    (same : ∀ object, world.sessionManager? manager = some object →
      step object.manager = event.change object.manager) :
    Acts world (world.changeSessionManager manager step) :=
  .elsewhere (steps_sessionEvent manager event minor same)
    (elsewhere_changeSessionManager manager step)

theorem elsewhere_registerSession (manager session : Nat) :
    Elsewhere world (world.registerSession manager session) := by
  refine ⟨kernelsGrow_registerSession manager session, ?_⟩
  cases known : world.sessionManager? manager with
  | none => simp only [registerSession, known]
  | some managing =>
      cases present : world.session? session with
      | none => simp only [registerSession, known, present]
      | some object => exact (sessionManagerOnly_register known present).kernelManagers

theorem acts_connectThroughSessions {manager : Nat} {model : SessionModel} {connected : World}
    (connects : world.connectThroughSessions manager model = .ok connected) :
    Acts world connected := by
  refine .elsewhere (steps_connectThroughSessions connects) ?_
  unfold connectThroughSessions Manager.checkOpen at connects
  split at connects
  · split at connects
    · cases connects
    · obtain rfl := Except.ok.inj connects
      exact (elsewhere_connectSession model _).trans (elsewhere_registerSession manager _)
  · cases connects

theorem acts_runSessionWatch (manager session terminated property kernel disposed : Nat) :
    Acts world (world.runSessionWatch manager session terminated property kernel disposed).1 := by
  refine .elsewhere (.step (.watched manager session terminated property kernel disposed)) ?_
  unfold runSessionWatch
  split
  · exact .refl world
  case h_2 object known =>
    simp only [apply_ite Prod.fst]
    have drained (change : SessionObject → SessionObject) :
        Elsewhere world (world.modifySession session change) :=
      ⟨.of_eq rfl, rfl⟩
    have changed (step : SessionManager → Manager.Change SessionModel SessionHandle)
        (world : World) : Elsewhere world (world.changeSessionManager manager step) :=
      elsewhere_changeSessionManager manager step
    have ended (ended : Bool) (world : World) : Elsewhere world
        (if ended then
          world.changeSessionManager manager (Manager.terminated object.session.model.id)
        else world) :=
      .ite (changed _ _) (.refl _)
    refine (drained _).trans (.ite (.refl _) ?_)
    refine (ended (hasValue (object.terminated.drain terminated).1) _).trans ?_
    refine .ite (.ite (changed _ _) (.refl _)) (.ite (.refl _) ?_)
    refine .ite (Elsewhere.trans ?_ (.ite (changed _ _) (.refl _))) ?_
    all_goals exact .ite (changed _ _) (.refl _)

theorem acts_hearKernelManager {manager : Nat}
    {change : ManagerObject KernelModel KernelHandle → ManagerObject KernelModel KernelHandle}
    (heard : ∀ object, world.kernelManager? manager = some object → object.Heard (change object)) :
    Acts world (world.modifyKernelManager manager change) := by
  refine .keep (steps_hearKernelManager heard) (.of_registers (.of_eq rfl) fun number handle => ?_)
  simp only [Registers, kernelManager?, modifyKernelManager, List.getElem?_modify]
  cases known : world.kernelManagers[number]? with
  | none => simp
  | some object =>
      by_cases here : manager = number
      · subst here
        simp [(heard object known).manager]
      · simp [here]

/-- A minor event of a manager, however its change is written, unless it is to forget. -/
theorem acts_kernelEvent (manager : Nat)
    {step : KernelManager → Manager.Change KernelModel KernelHandle}
    (event : Manager.Event KernelModel KernelHandle) (minor : event.IsMinor)
    (remembers : event.forgets = false)
    (same : ∀ object, world.kernelManager? manager = some object →
      step object.manager = event.change object.manager) :
    Acts world (world.changeKernelManager manager step) :=
  .keep (steps_kernelEvent manager event minor same)
    (keeps_kernelEvent manager event remembers
      (fun handle tracks => by rw [tracks] at minor; exact minor) same)

/-- A minor event that managers of both kinds take in the same way. -/
theorem acts_changeManager (id : ManagerId) {change : AnyChange}
    (kernelEvent : Manager.Event KernelModel KernelHandle) (kernelMinor : kernelEvent.IsMinor)
    (remembers : kernelEvent.forgets = false)
    (kernels : ∀ manager, change.kernels manager = kernelEvent.change manager)
    (sessionEvent : Manager.Event SessionModel SessionHandle)
    (sessionMinor : sessionEvent.IsMinor)
    (sessions : ∀ manager, change.sessions manager = sessionEvent.change manager) :
    Acts world (world.changeManager id change) := by
  cases id with
  | kernels manager =>
      exact acts_kernelEvent manager kernelEvent kernelMinor remembers fun _ _ => kernels _
  | sessions manager =>
      exact acts_sessionEvent manager sessionEvent sessionMinor fun _ _ => sessions _

theorem acts_connectThroughKernels {manager : Nat} {model : KernelModel} {connected : World}
    (connects : world.connectThroughKernels manager model = .ok connected) :
    Acts world connected :=
  .keep (steps_connectThroughKernels connects) (keeps_connectThroughKernels connects)

theorem acts_applyListing (id : ManagerId) (listing : Listing) :
    Acts world (world.applyListing id listing) := by
  refine .keep (.step (.listed id listing)) ?_
  unfold applyListing
  split
  · exact keeps_kernelEvent _ (.listed _) rfl (by simp) fun _ _ => rfl
  · exact (elsewhere_changeSessionManager _ _).keeps
  · exact (Elsewhere.refl world).keeps

theorem acts_reportFailure (id : ManagerId) (what : String) (error : ServiceError) :
    Acts world (world.changeManager id (reportFailure what error)) := by
  refine .keep (.step (.refreshFailed id what error)) ?_
  cases id with
  | kernels number =>
      exact keeps_kernelEvent number (.refreshFailed what error) rfl (by simp) fun _ _ => rfl
  | sessions number => exact (elsewhere_changeSessionManager number _).keeps

theorem acts_reportInitialFailure (id : ManagerId) (what : String) (error : ServiceError) :
    Acts world (world.changeManager id (reportInitialFailure what error)) := by
  refine .keep (.step (.loadFailed id what error)) ?_
  cases id with
  | kernels number =>
      exact keeps_kernelEvent number (.loadFailed what error) rfl (by simp) fun _ _ => rfl
  | sessions number => exact (elsewhere_changeSessionManager number _).keeps

theorem acts_releaseSessions (held : List Nat) : Acts world (world.releaseSessions held) :=
  .elsewhere (steps_releaseSessions held) ⟨.of_eq rfl, rfl⟩

/-- What is tracked is among what is held. -/
def TrackedAreHeld (held : List Nat) (world : World) : Prop :=
  ∀ manager handle, world.Registers manager handle → handle.connection ∈ held

theorem trackedAreHeld_heldKernels (holds : Holds) (world : World) :
    TrackedAreHeld (world.heldKernels holds) world := by
  rintro manager handle ⟨object, known, tracked⟩
  refine List.mem_append_right _ (List.mem_flatMap.mpr ⟨object, List.mem_of_getElem? known, ?_⟩)
  exact List.mem_map_of_mem tracked

theorem acts_releaseKernel {held : List Nat} (tracked : TrackedAreHeld held world)
    (kernel : Nat) :
    Acts world (world.releaseKernel held kernel) ∧
      TrackedAreHeld held (world.releaseKernel held kernel) := by
  have same : (world.releaseKernel held kernel).kernelManagers = world.kernelManagers := by
    unfold releaseKernel
    split
    · split
      · exact (kernelsOnly_wake _).kernelManagers.trans
          (kernelsOnly_changeKernel kernel Connection.abandon).kernelManagers
      · rfl
    · rfl
  refine ⟨?_, fun manager handle registered => tracked manager handle ?_⟩
  · unfold releaseKernel
    split
    · split
      case isTrue free =>
        have abandoned : Acts world (world.changeKernel kernel Connection.abandon) :=
          acts_changeKernel fun _ => Connection.orderly_abandon
        -- Whatever a manager tracks is held, so no manager tracks what is free.
        refine (abandoned.trans (.keep ?_ (keeps_closeKernel ?_))).trans acts_wake
        · exact steps_modifyKernel fun object _ => .refl object.connection
        · rintro manager handle ⟨managing, known, member⟩ rfl
          have before : (world.changeKernel handle.connection
              Connection.abandon).kernelManagers = world.kernelManagers :=
            (kernelsOnly_changeKernel handle.connection Connection.abandon).kernelManagers
          rw [kernelManager?, before] at known
          simp [tracked manager handle ⟨managing, known, member⟩] at free
      case isFalse => exact .refl world
    · exact .refl world
  · obtain ⟨managing, known, member⟩ := registered
    rw [kernelManager?, same] at known
    exact ⟨managing, known, member⟩

theorem acts_releaseKernels {held : List Nat} (kernels : List Nat)
    (tracked : TrackedAreHeld held world) :
    Acts world (kernels.foldl (releaseKernel held) world) := by
  induction kernels generalizing world with
  | nil => exact .refl world
  | cons kernel rest ih =>
      obtain ⟨first, later⟩ := acts_releaseKernel tracked kernel
      exact first.trans (ih later)

theorem acts_release : Acts world world.release := by
  unfold release
  have managers : Acts world (world.releaseManagers world.held) :=
    .keep (steps_releaseManagers _) (keeps_releaseManagers _)
  refine Acts.trans ?_ (acts_releaseKernels _ (trackedAreHeld_heldKernels _ _))
  exact (managers.trans acts_wake).trans ((acts_releaseSessions _).trans acts_wake)

end World

end KernelClient.Simulation
