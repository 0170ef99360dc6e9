import KernelClient.Proofs.Connection.Announcement
import KernelClient.Proofs.Simulation.Proceeding

/-!
# What is heard of connections

Those who follow a connection hear of its disposal only after it, and of the end of its signals only
after everybody has let go of it. Whatever goes on in a world keeps it so: a connection takes on
changes and tells what they announce, others listen to it, and new ones are added of which nothing
was heard.
-/

namespace KernelClient.Simulation

namespace KernelObject

/-- Take on a change and tell what it announces. -/
def take (change : Connection.Change) (object : KernelObject) : KernelObject :=
  change.2.foldl emit { object with connection := change.1 }

/-- Nobody heard of the disposal of a connection that is not disposed, or of the end of one that
somebody holds. -/
structure IsFaithful (object : KernelObject) : Prop where
  disposal : object.connection.isDisposed = false → object.disposed.IsIdle
  statusOpen : object.isAlive = true → object.status.IsOpen
  disposedOpen : object.isAlive = true → object.disposed.IsOpen

/-- A connection that is held, and of which nothing false was heard. -/
structure IsFresh (object : KernelObject) : Prop extends IsFaithful object where
  isAlive : object.isAlive = true

theorem isFresh_create (connection : Connection) : (create connection).IsFresh where
  disposal _ := Signal.isIdle_create Signal.usualCapacity
  statusOpen _ := Signal.isOpen_create Signal.usualCapacity
  disposedOpen _ := Signal.isOpen_create Signal.usualCapacity
  isAlive := rfl

/-- Once nobody holds a connection its end may be told. -/
theorem IsFaithful.close {object : KernelObject} (faithful : object.IsFaithful) :
    object.close.IsFaithful where
  disposal alive := (Signal.quiet_close _).isIdle (faithful.disposal alive)
  statusOpen := nofun
  disposedOpen := nofun

/-- A connection goes on with what it is for, and whoever holds it still does. Its end is not told,
and its disposal only if it is disposed. -/
structure GoesOn (before after : KernelObject) : Prop where
  continues : before.connection.Continues after.connection
  isAlive : after.isAlive = before.isAlive
  statusOpen : before.status.IsOpen → after.status.IsOpen
  disposedOpen : before.disposed.IsOpen → after.disposed.IsOpen
  disposal : after.connection.isDisposed = false → before.disposed.Quiet after.disposed

namespace GoesOn

theorem refl (object : KernelObject) : object.GoesOn object :=
  ⟨.refl _, rfl, id, id, fun _ => .refl _⟩

theorem trans {before middle after : KernelObject} (first : before.GoesOn middle)
    (second : middle.GoesOn after) : before.GoesOn after where
  continues := first.continues.trans second.continues
  isAlive := second.isAlive.trans first.isAlive
  statusOpen := second.statusOpen ∘ first.statusOpen
  disposedOpen := second.disposedOpen ∘ first.disposedOpen
  disposal alive := by
    -- A disposal is not undone, so there was none in the middle.
    refine .trans (first.disposal ?_) (second.disposal alive)
    exact Bool.eq_false_iff.mpr fun disposed =>
      Bool.eq_false_iff.mp alive (second.continues.disposed disposed)

variable {before after : KernelObject}

theorem isFaithful (goesOn : before.GoesOn after) (faithful : before.IsFaithful) :
    after.IsFaithful where
  disposal alive := by
    refine (goesOn.disposal alive).isIdle (faithful.disposal ?_)
    exact Bool.eq_false_iff.mpr fun disposed =>
      Bool.eq_false_iff.mp alive (goesOn.continues.disposed disposed)
  statusOpen alive := goesOn.statusOpen (faithful.statusOpen (goesOn.isAlive ▸ alive))
  disposedOpen alive := goesOn.disposedOpen (faithful.disposedOpen (goesOn.isAlive ▸ alive))

theorem isFresh (goesOn : before.GoesOn after) (fresh : before.IsFresh) : after.IsFresh :=
  ⟨goesOn.isFaithful fresh.toIsFaithful, goesOn.isAlive.trans fresh.isAlive⟩

/-- Only what a connection is changes, and nothing is told. -/
theorem set {object : KernelObject} {connection : Connection}
    (continues : object.connection.Continues connection) :
    object.GoesOn { object with connection := connection } :=
  ⟨continues, rfl, id, id, fun _ => .refl _⟩

/-- Only who listens to the status and the disposal changes. -/
theorem listen {object : KernelObject} {status : Signal KernelStatus} {disposed : Signal Unit}
    (statusHeard : object.status.Listened status)
    (disposedHeard : object.disposed.Listened disposed) :
    object.GoesOn { object with status := status, disposed := disposed } :=
  ⟨.refl _, rfl, statusHeard.isOpen, disposedHeard.isOpen, fun _ => disposedHeard.quiet⟩

end GoesOn

/-- To tell a disposal is right if there was one. -/
theorem goesOn_emit (object : KernelObject) (effect : Connection.Effect)
    (right : effect = .disposed → object.connection.isDisposed = true) :
    object.GoesOn (object.emit effect) := by
  cases effect with
  | status status => exact ⟨.refl _, rfl, fun isOpen => isOpen.emit status, id, fun _ => .refl _⟩
  | disposed =>
      refine ⟨.refl _, rfl, id, fun isOpen => isOpen.emit (), fun alive => ?_⟩
      cases alive.symm.trans (right rfl)
  | _ => exact ⟨.refl _, rfl, id, id, fun _ => .refl _⟩

theorem goesOn_foldl_emit (effects : List Connection.Effect) (object : KernelObject)
    (right : .disposed ∈ effects → object.connection.isDisposed = true) :
    object.GoesOn (effects.foldl emit object) := by
  induction effects generalizing object with
  | nil => exact .refl object
  | cons effect rest ih =>
      have first : object.GoesOn (object.emit effect) :=
        goesOn_emit object effect fun same => right (same ▸ List.mem_cons_self)
      refine first.trans (ih (object.emit effect) fun announced => ?_)
      rw [emit_connection]
      exact right (List.mem_cons_of_mem effect announced)

theorem goesOn_take {object : KernelObject} {change : Connection.Change}
    (orderly : object.connection.Orderly change) : object.GoesOn (object.take change) := by
  have placed : object.GoesOn { object with connection := change.1 } := .set orderly.continues
  exact placed.trans (goesOn_foldl_emit change.2 _ orderly.announces)

end KernelObject

/-- All connections go on, and those that are added are held. -/
def KernelsGrow (before after : World) : Prop :=
  Grows KernelObject.GoesOn KernelObject.IsFresh before.kernels after.kernels

namespace KernelsGrow

variable {before middle after world : World}

theorem of_eq (same : after.kernels = before.kernels) : KernelsGrow before after :=
  Grows.of_eq .refl same

theorem refl (world : World) : KernelsGrow world world :=
  of_eq rfl

theorem trans (first : KernelsGrow before middle) (second : KernelsGrow middle after) :
    KernelsGrow before after :=
  Grows.trans first second .trans fun fresh goesOn => goesOn.isFresh fresh

theorem foldl {Item : Type} {step : World → Item → World}
    (grows : ∀ world item, KernelsGrow world (step world item)) (items : List Item)
    (world : World) : KernelsGrow world (items.foldl step world) := by
  induction items generalizing world with
  | nil => exact .refl world
  | cons item rest ih => exact (grows world item).trans (ih _)

theorem kernel (grows : KernelsGrow before after) {number : Nat} {object : KernelObject}
    (known : before.kernel? number = some object) :
    ∃ later, after.kernel? number = some later ∧ object.GoesOn later :=
  grows.kept number object known

/-- What is heard of connections stays true. -/
theorem isFaithful (grows : KernelsGrow before after)
    (faithful : ∀ object ∈ before.kernels, object.IsFaithful) :
    ∀ object ∈ after.kernels, object.IsFaithful := by
  intro object member
  obtain ⟨number, present⟩ := List.mem_iff_getElem?.mp member
  cases known : before.kernels[number]? with
  | none => exact (grows.added number object known present).toIsFaithful
  | some earlier =>
      obtain ⟨later, same, goesOn⟩ := grows.kept number earlier known
      cases present.symm.trans same
      exact goesOn.isFaithful (faithful earlier (List.mem_of_getElem? known))

end KernelsGrow

namespace World

variable {world : World}

theorem kernelsGrow_wake : KernelsGrow world world.wake := by
  unfold wake
  split <;> exact .refl _

theorem kernelsGrow_modifyKernel {kernel : Nat} {change : KernelObject → KernelObject}
    (goesOn : ∀ object, world.kernel? kernel = some object → object.GoesOn (change object)) :
    KernelsGrow world (world.modifyKernel kernel change) :=
  Grows.modify .refl goesOn

/-- Somebody begins to follow a connection. -/
theorem kernelsGrow_subscribe {kernel : Nat} {object : KernelObject}
    (known : world.kernel? kernel = some object) :
    KernelsGrow world (world.modifyKernel kernel fun held => { held with
      status := object.status.subscribe.2, disposed := object.disposed.subscribe.2 }) := by
  refine kernelsGrow_modifyKernel fun held present => ?_
  cases known.symm.trans present
  exact .listen (.subscribe _) (.subscribe _)

/-- Somebody who follows a connection receives what is left. -/
theorem kernelsGrow_drain {kernel : Nat} {object : KernelObject}
    (known : world.kernel? kernel = some object) (status disposed : Nat) :
    KernelsGrow world (world.modifyKernel kernel fun held => { held with
      status := (object.status.drain status).2
      disposed := (object.disposed.drain disposed).2 }) := by
  refine kernelsGrow_modifyKernel fun held present => ?_
  cases known.symm.trans present
  exact .listen (.drain status _) (.drain disposed _)

theorem kernels_wake : world.wake.kernels = world.kernels := by
  unfold wake
  split <;> rfl

theorem kernels_carryKernel (kernel : Nat) (effect : Connection.Effect) :
    (world.carryKernel kernel effect).kernels =
      world.kernels.modify kernel fun object => object.emit effect := by
  cases effect
  case status | connectionStatus | received | unclaimed | disposed => rfl
  all_goals exact (List.modify_id kernel _).symm

theorem kernels_carryAll (kernel : Nat) (effects : List Connection.Effect) (world : World) :
    (effects.foldl (fun world effect => (world.carryKernel kernel effect).wake) world).kernels =
      world.kernels.modify kernel fun object => effects.foldl KernelObject.emit object := by
  induction effects generalizing world with
  | nil => exact (List.modify_id kernel _).symm
  | cons effect rest ih =>
      rw [List.foldl_cons, ih, kernels_wake, kernels_carryKernel, List.modify_modify_eq]
      rfl

theorem kernels_applyKernel (kernel : Nat) (change : Connection.Change) :
    (world.applyKernel kernel change).kernels =
      world.kernels.modify kernel fun object => object.take change := by
  rw [applyKernel, kernels_carryAll, kernels_wake]
  exact List.modify_modify_eq _ _ kernel world.kernels

theorem kernelsGrow_applyKernel {kernel : Nat} {change : Connection.Change}
    (orderly : ∀ object, world.kernel? kernel = some object →
      object.connection.Orderly change) :
    KernelsGrow world (world.applyKernel kernel change) := by
  rw [KernelsGrow, kernels_applyKernel]
  exact .modify .refl fun object known => KernelObject.goesOn_take (orderly object known)

theorem kernelsGrow_changeKernel {kernel : Nat} {step : Connection → Connection.Change}
    (orderly : ∀ connection : Connection, connection.Orderly (step connection)) :
    KernelsGrow world (world.changeKernel kernel step) := by
  unfold changeKernel
  split
  case h_1 object known =>
    refine kernelsGrow_applyKernel fun other present => ?_
    cases known.symm.trans present
    exact orderly object.connection
  case h_2 => exact .refl world

theorem kernelsGrow_disposeKernel (kernel : Nat) :
    KernelsGrow world (world.changeKernel kernel Connection.dispose) :=
  kernelsGrow_changeKernel fun _ => Connection.orderly_dispose

theorem kernelsGrow_connectKernel (model : KernelModel) (options : ConnectionOptions) :
    KernelsGrow world (world.connectKernel model options) := by
  cases chosen : options.clientId <;>
    · simp only [connectKernel, chosen]
      exact Grows.snoc .refl (KernelObject.isFresh_create _)

theorem kernelsGrow_carrySession (session : Nat) (options : ConnectionOptions)
    (effect : Session.Effect) :
    KernelsGrow world (world.carrySession session options effect).wake := by
  refine KernelsGrow.trans ?_ kernelsGrow_wake
  cases effect
  case connectKernel kernel model => exact kernelsGrow_connectKernel model options
  case disposeKernel kernel => exact kernelsGrow_disposeKernel kernel
  all_goals exact .of_eq rfl

theorem kernelsGrow_applySession (session : Nat) (options : ConnectionOptions)
    (change : Session.Change) : KernelsGrow world (world.applySession session options change) := by
  have placed : KernelsGrow world
      (world.modifySession session fun object => { object with session := change.1 }) :=
    .of_eq rfl
  exact (placed.trans kernelsGrow_wake).trans
    (.foldl (fun _ effect => kernelsGrow_carrySession session options effect) _ _)

theorem kernelsGrow_changeSession (session : Nat) (step : Session → Session.Change) :
    KernelsGrow world (world.changeSession session step) := by
  unfold changeSession
  split
  · exact kernelsGrow_applySession session _ _
  · exact .refl world

theorem kernelsGrow_connectSession (model : SessionModel) (options : ConnectionOptions) :
    KernelsGrow world (world.connectSession model options) := by
  have added : KernelsGrow world { world with
      sessions := world.sessions ++
        [.create (Session.create model world.kernels.length).1 options] } :=
    .of_eq rfl
  exact added.trans (kernelsGrow_applySession world.sessions.length options _)

theorem kernelsGrow_carryKernelManager (manager : Nat)
    (effect : Manager.Effect KernelModel KernelHandle) :
    KernelsGrow world (world.carryKernelManager manager effect).wake := by
  refine KernelsGrow.trans ?_ kernelsGrow_wake
  cases effect
  case disposeConnection handle => exact kernelsGrow_disposeKernel handle.connection
  all_goals exact .of_eq rfl

theorem kernelsGrow_changeKernelManager (manager : Nat)
    (step : KernelManager → Manager.Change KernelModel KernelHandle) :
    KernelsGrow world (world.changeKernelManager manager step) := by
  unfold changeKernelManager
  split
  case h_1 object _ =>
    have placed : KernelsGrow world (world.modifyKernelManager manager fun managing =>
        { managing with manager := (step object.manager).1 }) :=
      .of_eq rfl
    exact (placed.trans kernelsGrow_wake).trans
      (.foldl (fun _ effect => kernelsGrow_carryKernelManager manager effect) _ _)
  case h_2 => exact .refl world

theorem kernelsGrow_carrySessionManager (manager : Nat)
    (effect : Manager.Effect SessionModel SessionHandle) :
    KernelsGrow world (world.carrySessionManager manager effect).wake := by
  refine KernelsGrow.trans ?_ kernelsGrow_wake
  cases effect
  case disposeConnection handle => exact kernelsGrow_changeSession handle.connection _
  case updateConnection handle model => exact kernelsGrow_changeSession handle.connection _
  all_goals exact .of_eq rfl

theorem kernelsGrow_changeSessionManager (manager : Nat)
    (step : SessionManager → Manager.Change SessionModel SessionHandle) :
    KernelsGrow world (world.changeSessionManager manager step) := by
  unfold changeSessionManager
  split
  case h_1 object _ =>
    have placed : KernelsGrow world (world.modifySessionManager manager fun managing =>
        { managing with manager := (step object.manager).1 }) :=
      .of_eq rfl
    exact (placed.trans kernelsGrow_wake).trans
      (.foldl (fun _ effect => kernelsGrow_carrySessionManager manager effect) _ _)
  case h_2 => exact .refl world

theorem kernelsGrow_registerKernel (manager kernel : Nat) :
    KernelsGrow world (world.registerKernel manager kernel) := by
  unfold registerKernel
  split
  case h_1 managing object _ known =>
    dsimp only
    have tracked := (kernelsGrow_subscribe known).trans (kernelsGrow_changeKernelManager manager
      (KernelManager.register ⟨kernel, object.connection.model.id, object.connection.clientId⟩
        object.connection.model))
    split
    · exact tracked
    · exact tracked.trans (.of_eq rfl)
  case h_2 => exact .refl world

theorem kernelsGrow_registerSession (manager session : Nat) :
    KernelsGrow world (world.registerSession manager session) := by
  unfold registerSession
  split
  case h_1 managing object _ _ =>
    dsimp only
    have listened : KernelsGrow world (world.modifySession session fun held => { held with
        terminated := object.terminated.subscribe.2
        property := object.property.subscribe.2
        kernel := object.kernel.subscribe.2
        disposed := object.disposed.subscribe.2 }) :=
      .of_eq rfl
    have tracked := listened.trans (kernelsGrow_changeSessionManager manager
      (SessionManager.register ⟨session, object.session.model.id⟩ object.session.model))
    split
    · exact tracked
    · exact tracked.trans (.of_eq rfl)
  case h_2 => exact .refl world

end World

end KernelClient.Simulation
