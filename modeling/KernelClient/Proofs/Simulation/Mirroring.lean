import KernelClient.Proofs.Session.Announcing
import KernelClient.Proofs.Signal.Keeping
import KernelClient.Proofs.Simulation.Refresh
import KernelClient.Proofs.Simulation.Revival

/-!
# Sessions and the lists that mirror them

The task that watches a session for its manager reads the model of the session whenever a change of
it was told, and puts what it read into the list. The list mirrors the session as long as every
change of the model is told. A change that only renames the kernel is not, and after one the list
keeps the model from before.
-/

namespace KernelClient

namespace Manager

variable {Model Connection : Type} [Resource Model] {manager : Manager Model Connection}

/-- The model with an identifier in the list of a manager. -/
def mirror? (id : String) (manager : Manager Model Connection) : Option Model :=
  manager.running.find? fun model => Resource.id model = id

theorem find?_replace (model : Model) (models : List Model) :
    (replace model models).find? (fun known => Resource.id known = Resource.id model) =
      some model := by
  induction models with
  | nil => simp [replace]
  | cons known rest ih =>
      unfold replace
      split
      case isTrue => simp
      case isFalse other => rw [List.find?_cons_of_neg (by simpa using other), ih]

theorem mirror?_put [DecidableEq Model] (alive : manager.isDisposed = false) (model : Model) :
    (manager.put model).1.mirror? (Resource.id model) = some model := by
  unfold put
  dsimp only
  split
  case isTrue known => exact known.resolve_left (by simp [alive])
  case isFalse => exact find?_replace model manager.running

theorem put_isDisposed [DecidableEq Model] (model : Model) :
    (manager.put model).1.isDisposed = manager.isDisposed := by
  unfold put
  dsimp only
  split <;> rfl

end Manager

namespace Simulation

open Session (announced announcements finalModel)

namespace SessionObject

/-- The properties that are told when one model takes the place of another. -/
def toldProperties (before after : SessionModel) : List SessionProperty :=
  if before = after then [] else Session.changedProperties before after

/-- The kernels that are told when one model takes the place of another. -/
def toldKernels (before after : SessionModel) : List (Option KernelModel) :=
  if before = after ∨ Session.kernelId? before = Session.kernelId? after then [] else [after.kernel]

theorem announced_eq (before after : SessionModel) :
    announced before after = (toldProperties before after).map .property ++
      (toldKernels before after).map .kernel := by
  unfold announced toldProperties toldKernels
  by_cases same : before = after
  · simp [same]
  · by_cases kept : Session.kernelId? before = Session.kernelId? after <;> simp [same, kept]

/-- What is not a signal changes nothing of a session. -/
theorem foldl_emit_filter (effects : List Session.Effect) (object : SessionObject) :
    effects.foldl emit object = (effects.filter Session.Effect.isTold).foldl emit object := by
  induction effects generalizing object with
  | nil => rfl
  | cons effect rest ih => cases effect <;> exact ih _

theorem foldl_emit_property (properties : List SessionProperty) (object : SessionObject) :
    (properties.map Session.Effect.property).foldl emit object =
      { object with property := properties.foldl Signal.emit object.property } := by
  induction properties generalizing object with
  | nil => rfl
  | cons property rest ih => exact ih _

theorem foldl_emit_kernel (kernels : List (Option KernelModel)) (object : SessionObject) :
    (kernels.map Session.Effect.kernel).foldl emit object =
      { object with kernel := kernels.foldl Signal.emit object.kernel } := by
  induction kernels generalizing object with
  | nil => rfl
  | cons kernel rest ih => exact ih _

/-- A session that takes on a fresh model tells what differs on two of its signals. -/
theorem take_update {object : SessionObject} {model : SessionModel}
    (alive : object.session.isDisposed = false) (same : object.session.model.id = model.id)
    (connection : Nat) :
    object.take (object.session.update model connection) = { object with
      session := (object.session.update model connection).1
      property := (toldProperties object.session.model model).foldl Signal.emit object.property
      kernel := (toldKernels object.session.model model).foldl Signal.emit object.kernel } := by
  obtain ⟨-, -, told⟩ := Session.update_of_not_isDisposed alive same connection
  rw [take, foldl_emit_filter, told, announced_eq, List.foldl_append, foldl_emit_property,
    foldl_emit_kernel]

/-- A session that has not ended and of which nothing false is heard, with somebody who is told of
its properties and of its kernel under certain numbers. -/
structure IsHeard (property kernel : Nat) (object : SessionObject) : Prop
    extends IsFaithful object where
  isAlive : object.isAlive = true
  goesOn : object.session.isDisposed = false
  property : (object.property.subscription? property).isSome = true
  kernel : (object.kernel.subscription? kernel).isSome = true

/-- Somebody subscribes to all signals. -/
def subscribed (object : SessionObject) : SessionObject :=
  { object with
    terminated := object.terminated.subscribe.2
    property := object.property.subscribe.2
    kernel := object.kernel.subscribe.2
    disposed := object.disposed.subscribe.2 }

/-- A change of the model was told, and the subscriber has not received it yet. -/
def HasNews (property kernel : Nat) (object : SessionObject) : Prop :=
  object.property.waiting property ≠ ([], 0) ∨ object.kernel.waiting kernel ≠ ([], 0)

variable {terminated property kernel disposed : Nat} {object : SessionObject}
  {model : SessionModel}

/-- Who subscribes is told of the properties and of the kernel from then on, and there is no news
for him. -/
theorem subscription?_subscribed (object : SessionObject) :
    (object.subscribed.property.subscription? object.property.next).isSome = true ∧
      (object.subscribed.kernel.subscription? object.kernel.next).isSome = true ∧
      ¬object.subscribed.HasNews object.property.next object.kernel.next := by
  have property := object.property.subscription?_subscribe_next
  have kernel := object.kernel.subscription?_subscribe_next
  refine ⟨Option.isSome_iff_exists.mpr ⟨_, property⟩, Option.isSome_iff_exists.mpr ⟨_, kernel⟩, ?_⟩
  rintro (news | news)
  · exact news (by simp only [subscribed, Signal.waiting, property])
  · exact news (by simp only [subscribed, Signal.waiting, kernel])

/-- A session that takes on a fresh model is heard as before, and there is news for the subscriber
if there was before or something is told. -/
theorem IsHeard.update (heard : object.IsHeard property kernel)
    (same : object.session.model.id = model.id) (connection : Nat) :
    (object.take (object.session.update model connection)).IsHeard property kernel ∧
      ((object.take (object.session.update model connection)).HasNews property kernel ↔
        object.HasNews property kernel ∨ announced object.session.model model ≠ []) := by
  obtain ⟨-, goesOn, -⟩ := Session.update_of_not_isDisposed heard.goesOn same connection
  have faithful := heard.toIsFaithful.step (.updated model connection)
  rw [take_update heard.goesOn same] at faithful ⊢
  refine ⟨⟨faithful, heard.isAlive, goesOn, ?_, ?_⟩, ?_⟩
  · exact Signal.isSome_subscription?_foldl_emit _ heard.property
  · exact Signal.isSome_subscription?_foldl_emit _ heard.kernel
  · have told : announced object.session.model model ≠ [] ↔
        toldProperties object.session.model model ≠ [] ∨
          toldKernels object.session.model model ≠ [] := by
      rw [announced_eq, ne_eq, List.append_eq_nil_iff, List.map_eq_nil_iff, List.map_eq_nil_iff,
        not_and_or]
    simp only [HasNews]
    rw [Signal.waiting_foldl_emit_ne_iff _ heard.property,
      Signal.waiting_foldl_emit_ne_iff _ heard.kernel, told]
    exact or_or_or_comm

/-- The subscriber takes everything. -/
def drained (terminated property kernel disposed : Nat) (object : SessionObject) : SessionObject :=
  { object with
    terminated := (object.terminated.drain terminated).2
    property := (object.property.drain property).2
    kernel := (object.kernel.drain kernel).2
    disposed := (object.disposed.drain disposed).2 }

theorem IsHeard.drained (heard : object.IsHeard property kernel) (terminated disposed : Nat) :
    (object.drained terminated property kernel disposed).IsHeard property kernel ∧
      ¬(object.drained terminated property kernel disposed).HasNews property kernel := by
  have isOpen := heard.isOpen heard.isAlive
  obtain ⟨propertyKept, propertyTaken⟩ := isOpen.property.drained heard.property
  obtain ⟨kernelKept, kernelTaken⟩ := isOpen.kernel.drained heard.kernel
  have taken : object.Heard (object.drained terminated property kernel disposed) :=
    ⟨rfl, rfl, rfl, .drain _ _, .drain _ _, .drain _ _, .drain _ _⟩
  refine ⟨⟨heard.toIsFaithful.step (.heard taken), heard.isAlive, heard.goesOn, propertyKept,
    kernelKept⟩, ?_⟩
  rintro (news | news)
  · exact news propertyTaken
  · exact news kernelTaken

end SessionObject

namespace World

variable {world : World} {manager session terminated property kernel disposed : Nat}
  {object : SessionObject} {model : SessionModel}

/-- A task watches a session for a manager, and neither of these has ended. The task is told of the
properties and of the kernel under the given numbers. -/
structure Watches (manager session property kernel : Nat) (object : SessionObject)
    (world : World) : Prop where
  isManaging : world.IsManaging manager
  present : world.session? session = some object
  heard : object.IsHeard property kernel

/-- The model with an identifier in the list of a manager of sessions. -/
def mirror? (manager : Nat) (id : String) (world : World) : Option SessionModel :=
  (world.sessionManaging? manager).bind (Manager.mirror? id)

/-- Apply fresh models to a session, one after the other. -/
def updateSessions (session : Nat) (models : List SessionModel) (world : World) : World :=
  models.foldl (fun world model => world.updateSession session model) world

theorem IsManaging.of_sessionManagers {after : World} (isManaging : world.IsManaging manager)
    (same : after.sessionManagers = world.sessionManagers) : after.IsManaging manager := by
  have kept : after.sessionManager? manager = world.sessionManager? manager := by
    rw [sessionManager?, same]
    rfl
  rw [IsManaging, sessionManaging?, isSessionManagerAlive, kept]
  exact isManaging

theorem mirror?_of_sessionManagers {after : World}
    (same : after.sessionManagers = world.sessionManagers) (id : String) :
    after.mirror? manager id = world.mirror? manager id := by
  rw [mirror?, mirror?, sessionManaging?, sessionManaging?, sessionManager?, same]
  rfl

theorem session?_updateSession (present : world.session? session = some object)
    (model : SessionModel) :
    (world.updateSession session model).session? session =
      some (object.take (object.session.update model world.kernels.length)) := by
  obtain ⟨sessions, -, -⟩ :=
    sessionOnly_changeSession session (Session.update model world.kernels.length) world
  have there : world.sessions[session]? = some object := present
  rw [updateSession, session?, sessions, List.getElem?_modify_eq, there]
  rfl

/-- A session that takes on one model after the other has the last one, and goes on. -/
theorem session?_updateSessions {models : List SessionModel}
    (present : world.session? session = some object) (goesOn : object.session.isDisposed = false)
    (same : ∀ model ∈ models, model.id = object.session.model.id) :
    ∃ later, (world.updateSessions session models).session? session = some later ∧
      later.session.isDisposed = false ∧
      later.session.model = finalModel object.session.model models := by
  induction models generalizing world object with
  | nil => exact ⟨object, present, goesOn, rfl⟩
  | cons model rest ih =>
      obtain ⟨first, others⟩ := List.forall_mem_cons.mp same
      obtain ⟨taken, still, -⟩ :=
        Session.update_of_not_isDisposed goesOn first.symm world.kernels.length
      have next := session?_updateSession present model
      rw [← SessionObject.take_session _ object] at taken still
      obtain ⟨later, there, alive, final⟩ :=
        ih next still fun other member => by rw [taken, others other member, first]
      exact ⟨later, there, alive, final.trans (by rw [taken]; rfl)⟩

/-- A session that takes on a fresh model is watched as before, and the list is as it was. -/
theorem Watches.update
    (watches : world.Watches manager session property kernel object)
    (same : object.session.model.id = model.id) :
    (world.updateSession session model).Watches manager session property kernel
        (object.take (object.session.update model world.kernels.length)) ∧
      ∀ id, (world.updateSession session model).mirror? manager id = world.mirror? manager id := by
  obtain ⟨-, -, sessionManagers⟩ :=
    sessionOnly_changeSession session (Session.update model world.kernels.length) world
  exact ⟨⟨watches.isManaging.of_sessionManagers sessionManagers,
    session?_updateSession watches.present model, (watches.heard.update same _).1⟩,
    mirror?_of_sessionManagers sessionManagers⟩

/-- A session that takes on one model after the other is watched as before. There is news if there
was before or one of the changes is told. -/
theorem Watches.updates {models : List SessionModel}
    (watches : world.Watches manager session property kernel object)
    (same : ∀ model ∈ models, model.id = object.session.model.id) :
    ∃ later, (world.updateSessions session models).Watches manager session property kernel later ∧
      later.session.model = finalModel object.session.model models ∧
      (later.HasNews property kernel ↔
        object.HasNews property kernel ∨ announcements object.session.model models ≠ []) ∧
      ∀ id, (world.updateSessions session models).mirror? manager id = world.mirror? manager id := by
  induction models generalizing world object with
  | nil => exact ⟨object, watches, rfl, by simp [announcements], fun _ => rfl⟩
  | cons model rest ih =>
      obtain ⟨first, others⟩ := List.forall_mem_cons.mp same
      let step := object.session.update model world.kernels.length
      obtain ⟨again, kept⟩ := watches.update first.symm
      obtain ⟨taken, -, -⟩ :=
        Session.update_of_not_isDisposed watches.heard.goesOn first.symm world.kernels.length
      have holds : (object.take step).session.model = model := by
        rw [SessionObject.take_session]
        exact taken
      obtain ⟨-, news⟩ := watches.heard.update first.symm world.kernels.length
      obtain ⟨later, still, final, laterNews, laterKept⟩ :=
        ih again fun other member => by rw [holds, others other member, first]
      refine ⟨later, still, final.trans (by rw [holds]; rfl), ?_, fun id =>
        (laterKept id).trans (kept id)⟩
      rw [laterNews, news, holds, announcements, ne_eq (announced _ _ ++ _), List.append_eq_nil_iff,
        not_and_or, or_assoc]

/-- A change of a manager that announces nothing but its list changes no session. -/
theorem sessions_changeSessionManager (manager : Nat)
    {step : SessionManager → Manager.Change SessionModel SessionHandle}
    {object : ManagerObject SessionModel SessionHandle}
    (there : world.sessionManager? manager = some object)
    (announces : ∀ effect ∈ (step object.manager).2, ∃ models, effect = .running models) :
    (world.changeSessionManager manager step).sessions = world.sessions := by
  have carried (effects : List (Manager.Effect SessionModel SessionHandle))
      (listing : ∀ effect ∈ effects, ∃ models, effect = .running models) (world : World) :
      (effects.foldl (fun world effect => (world.carrySessionManager manager effect).wake)
        world).sessions = world.sessions := by
    induction effects generalizing world with
    | nil => rfl
    | cons effect rest ih =>
        obtain ⟨⟨models, rfl⟩, others⟩ := List.forall_mem_cons.mp listing
        rw [List.foldl_cons, ih others, (kernelsOnly_wake _).sessions]
        rfl
  rw [changeSessionManager, there]
  dsimp only
  rw [carried _ announces, (kernelsOnly_wake _).sessions]
  rfl

/-- A step of a manager that goes on and has a model in its list then. It announces nothing but the
list. -/
structure Enters (model : SessionModel)
    (step : SessionManager → Manager.Change SessionModel SessionHandle) : Prop where
  goesOn : ∀ held : SessionManager, held.isDisposed = false → (step held).1.isDisposed = false
  announces : ∀ held : SessionManager, held.isDisposed = false →
    ∀ effect ∈ (step held).2, ∃ models, effect = .running models
  mirrors : ∀ held : SessionManager, held.isDisposed = false →
    (step held).1.mirror? model.id = some model

theorem enters_put (model : SessionModel) : Enters model (Manager.put model) where
  goesOn held alive := (Manager.put_isDisposed model).trans alive
  announces held _ := by
    unfold Manager.put
    dsimp only
    split
    case isTrue => simp
    case isFalse =>
      rintro effect member
      exact ⟨_, List.mem_singleton.mp member⟩
  mirrors _ alive := Manager.mirror?_put alive model

/-- To track a connection announces nothing. -/
theorem enters_register (handle : SessionHandle) (model : SessionModel) :
    Enters model (SessionManager.register handle model) := by
  have tracked {held : SessionManager} (alive : held.isDisposed = false) :
      (held.track handle).1.isDisposed = false ∧ (held.track handle).2 = [] := by
    simp [Manager.track, alive]
  refine ⟨fun held alive => ?_, fun held alive effect member => ?_, fun held alive => ?_⟩
  · exact (enters_put model).goesOn _ (tracked alive).1
  · rw [SessionManager.register] at member
    dsimp only at member
    rw [(tracked alive).2, List.nil_append] at member
    exact (enters_put model).announces _ (tracked alive).1 effect member
  · exact (enters_put model).mirrors _ (tracked alive).1

/-- A manager that puts a model into its list goes on with it, and no session changes. -/
theorem IsManaging.enter {step : SessionManager → Manager.Change SessionModel SessionHandle}
    (isManaging : world.IsManaging manager) (enters : Enters model step) :
    (world.changeSessionManager manager step).IsManaging manager ∧
      (world.changeSessionManager manager step).sessions = world.sessions ∧
      (world.changeSessionManager manager step).mirror? manager model.id = some model := by
  obtain ⟨held, known, alive, isAlive⟩ := isManaging
  obtain ⟨object, there, rfl⟩ := Option.map_eq_some_iff.mp known
  have becomes : (world.changeSessionManager manager step).sessionManaging? manager =
      some (step object.manager).1 := by
    rw [sessionManaging?_change, known, Option.map_some]
  refine ⟨⟨_, becomes, enters.goesOn _ alive, ?_⟩,
    sessions_changeSessionManager manager there (enters.announces _ alive), ?_⟩
  · rw [isSessionManagerAlive, there] at isAlive
    rw [isSessionManagerAlive, sessionManager?_change there, ManagerObject.take_eq]
    exact isAlive
  · rw [mirror?, becomes]
    exact enters.mirrors _ alive

/-- The session after the task that watches it took everything. -/
def hearAll (session terminated property kernel disposed : Nat) (world : World) : World :=
  world.modifySession session (SessionObject.drained terminated property kernel disposed)

theorem hasEnd_drain {α : Type} {signal : Signal α} (isOpen : signal.IsOpen) (subscriber : Nat) :
    hasEnd (signal.drain subscriber).1 = false := by
  have none := isOpen.closed_notMem_drain subscriber
  rw [hasEnd, List.any_eq_false]
  intro item member
  cases item with
  | closed => exact absurd member none
  | _ => simp

/-- As long as neither the session nor the manager has ended, the task takes everything and puts
the model into the list if there is news. -/
theorem Watches.runSessionWatch_eq
    (watches : world.Watches manager session property kernel object) (terminated disposed : Nat) :
    (object.HasNews property kernel →
      world.runSessionWatch manager session terminated property kernel disposed =
        ((world.hearAll session terminated property kernel disposed).changeSessionManager manager
          (Manager.put object.session.model), true)) ∧
    (¬object.HasNews property kernel →
      world.runSessionWatch manager session terminated property kernel disposed =
        (world.hearAll session terminated property kernel disposed, true)) := by
  obtain ⟨isManaging, present, heard⟩ := watches
  obtain ⟨held, -, -, isManagerAlive⟩ := isManaging
  have taken : world.modifySession session (fun current =>
      { current with
        terminated := (object.terminated.drain terminated).2
        property := (object.property.drain property).2
        kernel := (object.kernel.drain kernel).2
        disposed := (object.disposed.drain disposed).2 }) =
      world.hearAll session terminated property kernel disposed := by
    have there : world.sessions[session]? = some object := present
    refine congrArg (fun sessions => { world with sessions := sessions }) (modify_congr there ?_)
    rfl
  have alive : (world.hearAll session terminated property kernel disposed).isSessionManagerAlive
      manager = true := isManagerAlive
  have news : object.HasNews property kernel ↔ (hasNews (object.property.drain property).1 ||
      hasNews (object.kernel.drain kernel).1) = true := by
    rw [Bool.or_eq_true, hasNews_drain_iff, hasNews_drain_iff]
    rfl
  have isOpen := heard.isOpen heard.isAlive
  obtain ⟨notEnded, notDisposed⟩ := heard.untold heard.goesOn
  have endings : (object.terminated.drain terminated).1 = [] :=
    isOpen.terminated.drain_of_isIdle notEnded terminated
  have disposals : (object.disposed.drain disposed).1 = [] :=
    isOpen.disposed.drain_of_isIdle notDisposed disposed
  rw [news]
  unfold runSessionWatch
  simp only [present, taken, alive, endings, disposals, heard.isAlive,
    hasEnd_drain isOpen.property property, hasEnd_drain isOpen.kernel kernel]
  cases (hasNews (object.property.drain property).1 ||
    hasNews (object.kernel.drain kernel).1) <;> simp [hasValue, hasEnd]

/-- A task that watches a session goes on. If there was news the list has the model of the session
afterwards, and otherwise it is as it was. -/
theorem Watches.watch
    (watches : world.Watches manager session property kernel object) (terminated disposed : Nat) :
    ∃ after, world.runSessionWatch manager session terminated property kernel disposed =
        (after, true) ∧
      after.Watches manager session property kernel
        (object.drained terminated property kernel disposed) ∧
      (after.mirror? manager object.session.model.id = some object.session.model ↔
        object.HasNews property kernel ∨
          world.mirror? manager object.session.model.id = some object.session.model) := by
  obtain ⟨told, silent⟩ := watches.runSessionWatch_eq terminated disposed
  have drained := (watches.heard.drained terminated disposed).1
  have present : (world.hearAll session terminated property kernel disposed).session? session =
      some (object.drained terminated property kernel disposed) := by
    have there : world.sessions[session]? = some object := watches.present
    rw [hearAll, modifySession, session?, List.getElem?_modify_eq, there]
    rfl
  have isManaging : (world.hearAll session terminated property kernel disposed).IsManaging manager :=
    watches.isManaging
  -- Only if something was told is the list written; otherwise it is what it was.
  by_cases news : object.HasNews property kernel
  · obtain ⟨managing, sessions, mirrors⟩ := isManaging.enter (enters_put object.session.model)
    have still : ((world.hearAll session terminated property kernel disposed).changeSessionManager
        manager (Manager.put object.session.model)).session? session =
          some (object.drained terminated property kernel disposed) := by
      rw [session?, sessions]
      exact present
    exact ⟨_, told news, ⟨managing, still, drained⟩, iff_of_true mirrors (.inl news)⟩
  · exact ⟨_, silent news, ⟨isManaging, present, drained⟩, by rw [or_iff_right news]; rfl⟩

/-- In every world that arises, nothing false is heard of any session. -/
theorem Arises.isFaithful (arises : world.Arises)
    (present : world.session? session = some object) : object.IsFaithful := by
  obtain ⟨settings, protocol, steps⟩ := arises
  obtain ⟨model, connection, options, becomes⟩ :=
    steps.proceeds.sessions.added session object rfl present
  exact becomes.isFaithful (SessionObject.isFaithful_create _ options)

/-- In every world that arises, who is told of the properties and of the kernel of a session that
has not ended watches it, for a manager that has not ended either. -/
theorem Arises.watches_iff (arises : world.Arises) :
    world.Watches manager session property kernel object ↔
      world.IsManaging manager ∧ world.session? session = some object ∧ object.isAlive = true ∧
        object.session.isDisposed = false ∧
        (object.property.subscription? property).isSome = true ∧
        (object.kernel.subscription? kernel).isSome = true := by
  constructor
  · rintro ⟨isManaging, present, -, isAlive, goesOn, properties, kernels⟩
    exact ⟨isManaging, present, isAlive, goesOn, properties, kernels⟩
  · rintro ⟨isManaging, present, isAlive, goesOn, properties, kernels⟩
    exact ⟨isManaging, present, arises.isFaithful present, isAlive, goesOn, properties, kernels⟩

/-- The task that is begun when a session is tracked watches it, and the list has its model. -/
theorem Arises.watches_registerSession (arises : world.Arises)
    (isManaging : world.IsManaging manager) (present : world.session? session = some object)
    (isAlive : object.isAlive = true) (goesOn : object.session.isDisposed = false) :
    ∃ heard, (world.registerSession manager session).Watches manager session
        object.property.next object.kernel.next heard ∧
      heard.session = object.session ∧ ¬heard.HasNews object.property.next object.kernel.next ∧
      (world.registerSession manager session).mirror? manager object.session.model.id =
        some object.session.model ∧
      .watchSession manager session object.terminated.next object.property.next object.kernel.next
        object.disposed.next ∈ (world.registerSession manager session).ready := by
  let listened := world.modifySession session fun current =>
    { current with
      terminated := object.terminated.subscribe.2
      property := object.property.subscribe.2
      kernel := object.kernel.subscribe.2
      disposed := object.disposed.subscribe.2 }
  let register := SessionManager.register ⟨session, object.session.model.id⟩ object.session.model
  have registered : world.registerSession manager session =
      (listened.changeSessionManager manager register).spawn (.watchSession manager session
        object.terminated.next object.property.next object.kernel.next object.disposed.next) := by
    obtain ⟨held, known, goesOn, -⟩ := isManaging
    obtain ⟨managing, there, rfl⟩ := Option.map_eq_some_iff.mp known
    simp only [registerSession, there, present, goesOn]
    rfl
  have stillManaging : listened.IsManaging manager := isManaging
  obtain ⟨managing, sessions, mirrors⟩ := stillManaging.enter
    (enters_register ⟨session, object.session.model.id⟩ object.session.model)
  have kept : (listened.changeSessionManager manager register).session? session =
      some object.subscribed := by
    have before : world.sessions[session]? = some object := present
    rw [session?, sessions]
    simp only [listened, modifySession, List.getElem?_modify_eq, before]
    rfl
  obtain ⟨properties, kernels, nothing⟩ := object.subscription?_subscribed
  have later : (world.registerSession manager session).Arises :=
    arises.steps (.step (.registeredSession manager session))
  rw [registered] at later ⊢
  have watches := later.watches_iff.mpr ⟨managing, kept, isAlive, goesOn, properties, kernels⟩
  exact ⟨object.subscribed, watches, rfl, nothing, mirrors,
    List.mem_append_right _ (List.mem_singleton_self _)⟩

/-- A session that takes on models one after the other tells of each which properties differ, in a
fixed order, and then the kernel if its identifier differs. So nothing is told of a model only if it
is the one before, or renames the kernel.

After a task that watches the session had its turn, the list of the manager has the model of the
session exactly if there was news for the task or one of the changes was told, or else the list has
it anyway. -/
theorem mirrors_iff_told {models : List SessionModel}
    (present : world.session? session = some object) (goesOn : object.session.isDisposed = false)
    (same : ∀ model ∈ models, model.id = object.session.model.id) :
    (∀ earlier model rest, models = earlier ++ model :: rest →
      ∃ before, (world.updateSessions session earlier).session? session = some before ∧
        before.session.model = finalModel object.session.model earlier ∧
        (before.session.update model (world.updateSessions session earlier).kernels.length).1.model =
          model ∧
        (before.session.update model
            (world.updateSessions session earlier).kernels.length).2.filter Session.Effect.isTold =
          announced before.session.model model ∧
        (announced before.session.model model = [] ↔
          before.session.model = model ∨ Session.RenamesKernel before.session.model model)) ∧
    ∀ manager terminated property kernel disposed,
      world.Watches manager session property kernel object →
      ∃ later after, (world.updateSessions session models).session? session = some later ∧
        later.session.model = finalModel object.session.model models ∧
        (world.updateSessions session models).runSessionWatch manager session terminated property
          kernel disposed = (after, true) ∧
        after.Watches manager session property kernel
          (later.drained terminated property kernel disposed) ∧
        ¬(later.drained terminated property kernel disposed).HasNews property kernel ∧
        (after.mirror? manager object.session.model.id = some later.session.model ↔
          object.HasNews property kernel ∨ announcements object.session.model models ≠ [] ∨
            world.mirror? manager object.session.model.id = some later.session.model) := by
  refine ⟨fun earlier model rest parts => ?_,
    fun manager terminated property kernel disposed watches => ?_⟩
  · have member : model ∈ models := parts ▸ List.mem_append_right earlier List.mem_cons_self
    have others : ∀ other ∈ earlier, other.id = object.session.model.id :=
      fun other there => same other (parts ▸ List.mem_append_left _ there)
    obtain ⟨before, there, alive, held⟩ := session?_updateSessions present goesOn others
    have sameId : before.session.model.id = model.id := by
      rw [held, Session.id_finalModel others, same model member]
    obtain ⟨taken, -, told⟩ := Session.update_of_not_isDisposed alive sameId _
    exact ⟨before, there, held, taken, told, Session.announced_eq_nil_iff sameId⟩
  · obtain ⟨later, still, held, news, kept⟩ := watches.updates same
    obtain ⟨after, ran, goesOn, mirrors⟩ := still.watch terminated disposed
    have sameId : later.session.model.id = object.session.model.id := by
      rw [held, Session.id_finalModel same]
    rw [sameId, news, kept, or_assoc] at mirrors
    have received := (still.heard.drained terminated disposed).2
    exact ⟨later, after, still.present, held, ran, goesOn, received, mirrors⟩

/-- A manager of sessions, and a session with a kernel. -/
def unmirrored : World :=
  ((create default none).createManager "sessions" .sessions ⟨.off, .usual⟩ true).connectSession
    sessionA .usual

/-- The manager tracks the session. -/
def mirroring : World := unmirrored.registerSession 0 0

theorem arises_unmirrored : unmirrored.Arises := by
  have manager : Steps (create default none) ((create default none).createManager "sessions"
      .sessions ⟨.off, .usual⟩ true) :=
    steps_createManager "sessions" .sessions ⟨.off, .usual⟩ true
  exact ⟨default, none, manager.trans (steps_connectSession sessionA .usual)⟩

theorem arises_mirroring : mirroring.Arises :=
  arises_unmirrored.steps (.step (.registeredSession 0 0))

theorem watches_mirroring :
    ∃ object, mirroring.Watches 0 0 0 0 object ∧ object.session.model = sessionA ∧
      ¬object.HasNews 0 0 ∧ mirroring.mirror? 0 "a" = some sessionA := by
  have isManaging : unmirrored.IsManaging 0 := ⟨_, rfl, rfl, rfl⟩
  have present : unmirrored.session? 0 = some (.create ⟨sessionA, some 0, false⟩ .usual) := rfl
  obtain ⟨object, watches, kept, nothing, listed, -⟩ :=
    arises_unmirrored.watches_registerSession isManaging present rfl rfl
  exact ⟨object, watches, by rw [kept]; rfl, nothing, listed⟩

/-- A session that was moved is mirrored where it is. -/
theorem mirrors_moved_session :
    let moved := { sessionA with path := "c.ipynb" }
    mirroring.Arises ∧ ∃ object after, mirroring.Watches 0 0 0 0 object ∧
      (mirroring.updateSessions 0 [moved]).runSessionWatch 0 0 0 0 0 0 = (after, true) ∧
      after.mirror? 0 "a" = some moved := by
  intro moved
  obtain ⟨object, watches, held, -, -⟩ := watches_mirroring
  have same : ∀ model ∈ [moved], model.id = object.session.model.id := by
    simp [held, moved]
  obtain ⟨-, watched⟩ := mirrors_iff_told watches.present watches.heard.goesOn same
  obtain ⟨later, after, -, final, ran, -, -, mirrors⟩ := watched 0 0 0 0 0 watches
  have told : announcements sessionA [moved] ≠ [] := by decide
  rw [held, final] at mirrors
  exact ⟨arises_mirroring, object, after, watches, ran, mirrors.mpr (.inr (.inl told))⟩

/-- The kernel of a session gets another name. The model of the session changes, nothing is told of
that, and the list keeps the model from before. -/
theorem renamed_kernel_is_not_mirrored :
    let renamed := { sessionA with kernel := some ⟨"l", "ir"⟩ }
    mirroring.Arises ∧ ∃ object later after, mirroring.Watches 0 0 0 0 object ∧
      mirroring.mirror? 0 "a" = some object.session.model ∧
      (object.session.update renamed mirroring.kernels.length).2.filter Session.Effect.isTold = [] ∧
      (mirroring.updateSession 0 renamed).session? 0 = some later ∧
      later.session.model = renamed ∧ renamed ≠ object.session.model ∧
      (mirroring.updateSession 0 renamed).runSessionWatch 0 0 0 0 0 0 = (after, true) ∧
      after.mirror? 0 "a" = some object.session.model := by
  intro renamed
  obtain ⟨object, watches, held, nothing, listed⟩ := watches_mirroring
  have sameId : object.session.model.id = renamed.id := by rw [held]
  have silent : announced object.session.model renamed = [] := by
    rw [held]
    decide
  obtain ⟨again, kept⟩ := watches.update sameId
  obtain ⟨taken, -, told⟩ := Session.update_of_not_isDisposed watches.heard.goesOn sameId
    mirroring.kernels.length
  obtain ⟨-, news⟩ := watches.heard.update sameId mirroring.kernels.length
  have nothingTold := (again.runSessionWatch_eq 0 0).2 (by simp [news, nothing, silent])
  refine ⟨arises_mirroring, object, _, _, watches, by rw [held, listed], told.trans silent,
    again.present, ?_, ?_, nothingTold, ?_⟩
  · rw [SessionObject.take_session]
    exact taken
  · rw [held]
    decide
  · rw [held, ← listed]
    exact kept "a"

end World

end Simulation

end KernelClient
