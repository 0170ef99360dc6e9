import KernelClient.Proofs.Simulation.Answers

/-!
# Connections that managers let go of

A manager shows which resources it lists and which connections it tracks. When it lets go of the
connections to some resources it disposes them, and nothing else is disposed. Managers of kernels
and of sessions do so in the same way.
-/

namespace KernelClient

namespace Manager

variable {Model Connection : Type} {manager : Manager Model Connection}

variable [Handle Connection]

/-- A change that lists other resources, and lets go of the connections to some resources and
disposes them. -/
structure Releases (released : String → Bool) (models : List Model)
    (manager : Manager Model Connection) (change : Change Model Connection) : Prop where
  kept : change.1 = { manager with
    running := models
    connections := manager.connections.filter fun kept => !released (Handle.resource kept) }
  disposes : ∀ connection, .disposeConnection connection ∈ change.2 ↔
    connection ∈ manager.connections ∧ released (Handle.resource connection) = true

theorem releases_relisted (models : List Model) :
    Releases (fun _ => false) models manager
      ({ manager with running := models }, [.running models]) where
  kept := by simp
  disposes connection := by simp

theorem releases_release (released : String → Bool) :
    Releases released manager.running manager
      (release (fun connection => released (Handle.resource connection)) manager) where
  kept := rfl
  disposes connection := by simp [release]

variable [Resource Model]

/-- The shutdown of the first resource begins with the others listed. -/
theorem exists_beginShutdown (alive : manager.isDisposed = false) {model : Model}
    {rest : List Model} (listed : manager.running = model :: rest) :
    ∃ change, manager.beginShutdown (Resource.id model) = .ok (some change) ∧
      Releases (fun _ => false) rest manager change := by
  refine ⟨_, ?_, releases_relisted rest⟩
  simp [beginShutdown, alive, listed]

/-- The shutdown of all resources begins with none listed. -/
theorem exists_beginShutdownAll (alive : manager.isDisposed = false) :
    ∃ change, manager.beginShutdownAll = .ok (manager.running.map Resource.id, change) ∧
      Releases (fun _ => false) [] manager change := by
  by_cases none : manager.running = []
  · refine ⟨(manager, []), by simp [beginShutdownAll, alive, none], ?_⟩
    exact { kept := by simp [← none], disposes := by simp }
  · exact ⟨_, by simp [beginShutdownAll, alive, none], releases_relisted []⟩

end Manager

namespace Simulation

/-- The identifiers of the resources that a manager lists, and the connections that it tracks, each
with the identifier of its resource and its number. -/
structure Desk where
  listed : List String
  tracked : List (String × Nat)
deriving DecidableEq

/-- What an open manager shows. -/
def deskOf {Model Connection : Type} [Resource Model] [Handle Connection]
    (place : Connection → Nat) (manager : Manager Model Connection) : Option Desk :=
  if manager.isDisposed then none
  else some {
    listed := manager.running.map Resource.id
    tracked := manager.connections.map fun kept => (Handle.resource kept, place kept) }

section Managers

variable {Model Connection : Type} [Resource Model] [Handle Connection]
  {manager : Manager Model Connection} {change : Manager.Change Model Connection}
  {place : Connection → Nat} {released : String → Bool} {models : List Model}

theorem deskOf_eq_some_iff {desk : Desk} :
    deskOf place manager = some desk ↔ manager.isDisposed = false ∧
      desk.listed = manager.running.map Resource.id ∧
      desk.tracked = manager.connections.map fun kept => (Handle.resource kept, place kept) := by
  unfold deskOf
  cases desk
  cases manager.isDisposed <;> simp [eq_comm]

theorem deskOf_released (releases : manager.Releases released models change) {desk : Desk}
    (shown : deskOf place manager = some desk) :
    deskOf place change.1 =
      some ⟨models.map Resource.id, desk.tracked.filter fun entry => !released entry.1⟩ := by
  obtain ⟨alive, -, tracked⟩ := deskOf_eq_some_iff.mp shown
  rw [deskOf_eq_some_iff, releases.kept, tracked, List.filter_map]
  exact ⟨alive, rfl, rfl⟩

omit [Resource Model] in
/-- The connections that are disposed after a change: those that were, and those that it has let go
of. -/
theorem isDisposed_released (releases : manager.Releases released models change)
    {standings : List Standing}
    (present : ∀ kept ∈ manager.connections, ∃ standing, standings[place kept]? = some standing)
    (number : Nat) :
    (change.2.foldl (standingsAfter place) standings)[number]?.any Standing.isDisposed = true ↔
      standings[number]?.any Standing.isDisposed = true ∨
        ∃ kept ∈ manager.connections, released (Handle.resource kept) = true ∧
          place kept = number := by
  have told : change.2.any (disposesAt place number) = true ↔
      ∃ kept ∈ manager.connections, released (Handle.resource kept) = true ∧
        place kept = number := by
    rw [List.any_eq_true]
    constructor
    · rintro ⟨effect, member, disposes⟩
      cases effect
      case disposeConnection connection =>
        obtain ⟨tracked, isReleased⟩ := (releases.disposes connection).mp member
        exact ⟨connection, tracked, isReleased, by simpa [disposesAt] using disposes⟩
      all_goals exact absurd disposes Bool.false_ne_true
    · rintro ⟨kept, tracked, isReleased, here⟩
      exact ⟨_, (releases.disposes kept).mpr ⟨tracked, isReleased⟩, by simpa [disposesAt]⟩
  rw [foldl_standingsAfter_getElem?, ← told]
  cases known : standings[number]? with
  | some standing => simp
  | none =>
      have untold : ¬change.2.any (disposesAt place number) = true := by
        rw [told]
        rintro ⟨kept, tracked, -, rfl⟩
        obtain ⟨standing, there⟩ := present kept tracked
        cases known.symm.trans there
      simp [untold]

end Managers

namespace World

def desk? (id : ManagerId) (world : World) : Option Desk :=
  match id with
  | .kernels number =>
      (world.kernelManager? number).bind fun object =>
        deskOf KernelHandle.connection object.manager
  | .sessions number =>
      (world.sessionManager? number).bind fun object =>
        deskOf SessionHandle.connection object.manager

/-- Whether a connection to a resource of the kind of a manager is disposed. -/
def IsConnectionDisposed (id : ManagerId) (world : World) (number : Nat) : Prop :=
  match id with
  | .kernels _ => world.IsKernelDisposed number
  | .sessions _ => world.IsSessionDisposed number

theorem exists_of_desk?_kernels {number : Nat} {desk : Desk} {world : World}
    (shown : world.desk? (.kernels number) = some desk) :
    ∃ object, world.kernelManager? number = some object ∧ object.manager.isDisposed = false ∧
      desk.listed = object.manager.running.map Resource.id := by
  obtain ⟨object, known, shown⟩ := Option.bind_eq_some_iff.mp shown
  obtain ⟨alive, listed, -⟩ := deskOf_eq_some_iff.mp shown
  exact ⟨object, known, alive, listed⟩

theorem exists_of_desk?_sessions {number : Nat} {desk : Desk} {world : World}
    (shown : world.desk? (.sessions number) = some desk) :
    ∃ object, world.sessionManager? number = some object ∧ object.manager.isDisposed = false ∧
      desk.listed = object.manager.running.map Resource.id := by
  obtain ⟨object, known, shown⟩ := Option.bind_eq_some_iff.mp shown
  obtain ⟨alive, listed, -⟩ := deskOf_eq_some_iff.mp shown
  exact ⟨object, known, alive, listed⟩

/-- A manager lists other resources, and has let go of the connections to some resources, which are
disposed. -/
structure Releases (id : ManagerId) (released : String → Bool) (listed : List String)
    (tracked : List (String × Nat)) (before after : World) : Prop where
  desk : after.desk? id = some ⟨listed, tracked.filter fun entry => !released entry.1⟩
  disposed : ∀ number, after.IsConnectionDisposed id number ↔
    before.IsConnectionDisposed id number ∨
      ∃ entry ∈ tracked, released entry.1 = true ∧ entry.2 = number

variable {world before middle after : World} {id : ManagerId} {listed : List String}
  {tracked : List (String × Nat)}

theorem Releases.trans {first second : String → Bool} {later : List String}
    (early : Releases id first listed tracked before middle)
    (late : Releases id second later (tracked.filter fun entry => !first entry.1) middle after) :
    Releases id (fun resource => first resource || second resource) later tracked before after where
  desk := by
    rw [late.desk, List.filter_filter]
    simp [Bool.and_comm]
  disposed number := by
    rw [late.disposed, early.disposed, or_assoc, ← exists_or]
    refine or_congr_right (exists_congr fun entry => ?_)
    cases released : first entry.1 <;> simp [released]

theorem Managed.releases_kernels (managed : world.Managed) {number : Nat}
    {object : ManagerObject KernelModel KernelHandle}
    (known : world.kernelManager? number = some object)
    (shown : world.desk? (.kernels number) = some ⟨listed, tracked⟩)
    {released : String → Bool} {models : List KernelModel}
    (step : KernelManager → Manager.Change KernelModel KernelHandle)
    (releases : object.manager.Releases released models (step object.manager)) :
    Releases (.kernels number) released (models.map Resource.id) tracked world
      (world.changeKernelManager number step) where
  desk := by
    rw [desk?, known] at shown
    rw [desk?, kernelManager?_change known step, Option.bind_some, ManagerObject.take_manager]
    exact deskOf_released releases shown
  disposed kernel := by
    rw [desk?, known] at shown
    obtain ⟨-, -, rfl⟩ := deskOf_eq_some_iff.mp shown
    have present (handle : KernelHandle) (member : handle ∈ object.manager.connections) :
        ∃ standing, world.kernelStandings[handle.connection]? = some standing := by
      obtain ⟨standing, there, -⟩ := managed.standsAsKernel known handle member
      exact ⟨standing, there⟩
    rw [IsConnectionDisposed, IsConnectionDisposed, isKernelDisposed_iff, isKernelDisposed_iff,
      kernelStandings_changeKernelManager known, isDisposed_released releases present]
    simp

theorem Managed.releases_sessions (managed : world.Managed) {number : Nat}
    {object : ManagerObject SessionModel SessionHandle}
    (known : world.sessionManager? number = some object)
    (shown : world.desk? (.sessions number) = some ⟨listed, tracked⟩)
    {released : String → Bool} {models : List SessionModel}
    (step : SessionManager → Manager.Change SessionModel SessionHandle)
    (releases : object.manager.Releases released models (step object.manager)) :
    Releases (.sessions number) released (models.map Resource.id) tracked world
      (world.changeSessionManager number step) where
  desk := by
    rw [desk?, known] at shown
    rw [desk?, sessionManager?_change known step, Option.bind_some, ManagerObject.take_manager]
    exact deskOf_released releases shown
  disposed session := by
    rw [desk?, known] at shown
    obtain ⟨-, -, rfl⟩ := deskOf_eq_some_iff.mp shown
    have present (handle : SessionHandle) (member : handle ∈ object.manager.connections) :
        ∃ standing, world.sessionStandings[handle.connection]? = some standing := by
      obtain ⟨held, there, -⟩ := managed.standsAsSession known handle member
      exact ⟨.ofSession held, by rw [sessionStandings, List.getElem?_map, there]; rfl⟩
    rw [IsConnectionDisposed, IsConnectionDisposed, isSessionDisposed_iff, isSessionDisposed_iff,
      sessionStandings_changeSessionManager known, isDisposed_released releases present]
    simp

theorem desk?_of_same (same : SameObjects world after) : after.desk? id = world.desk? id := by
  cases id with
  | kernels number => rw [desk?, desk?, kernelManager?, same.kernelManagers]; rfl
  | sessions number => rw [desk?, desk?, sessionManager?, same.sessionManagers]; rfl

theorem isConnectionDisposed_of_same (same : SameObjects world after) (number : Nat) :
    after.IsConnectionDisposed id number ↔ world.IsConnectionDisposed id number := by
  cases id with
  | kernels => simp [IsConnectionDisposed, IsKernelDisposed, kernel?, same.kernels]
  | sessions => simp [IsConnectionDisposed, IsSessionDisposed, session?, same.sessions]

/-- Nothing is let go of when the objects stay as they are. -/
theorem Releases.of_same (same : SameObjects world after)
    (shown : world.desk? id = some ⟨listed, tracked⟩) :
    Releases id (fun _ => false) listed tracked world after where
  desk := by
    rw [desk?_of_same same, shown]
    simp
  disposed number := by
    rw [isConnectionDisposed_of_same same]
    simp

theorem Releases.after_same {released : String → Bool} (same : SameObjects before middle)
    (late : Releases id released listed tracked middle after) :
    Releases id released listed tracked before after where
  desk := late.desk
  disposed number := by rw [late.disposed, isConnectionDisposed_of_same same]

theorem Managed.releases_manager (managed : world.Managed)
    (shown : world.desk? id = some ⟨listed, tracked⟩) {released : String → Bool}
    {change : AnyChange}
    (kernels : change.kernels =
      Manager.release fun connection => released (Handle.resource connection))
    (sessions : change.sessions =
      Manager.release fun connection => released (Handle.resource connection)) :
    Releases id released listed tracked world (world.changeManager id change) := by
  cases id with
  | kernels number =>
      obtain ⟨object, known, -, rfl⟩ := exists_of_desk?_kernels shown
      rw [changeManager, kernels]
      exact managed.releases_kernels known shown _ (Manager.releases_release released)
  | sessions number =>
      obtain ⟨object, known, -, rfl⟩ := exists_of_desk?_sessions shown
      rw [changeManager, sessions]
      exact managed.releases_sessions known shown _ (Manager.releases_release released)

theorem contact_changeManager (id : ManagerId) (change : AnyChange) (world : World) :
    (world.changeManager id change).contact = world.contact := by
  cases id with
  | kernels number => exact contact_changeKernelManager number change.kernels world
  | sessions number => exact contact_changeSessionManager number change.sessions world

/-- The shutdown of the first resource begins with the others listed. -/
theorem Managed.beginManagerShutdown (managed : world.Managed) {resource : String}
    {rest : List String} (shown : world.desk? id = some ⟨resource :: rest, tracked⟩) :
    ∃ begun, world.beginManagerShutdown id resource = (.ok true, begun) ∧
      Releases id (fun _ => false) rest tracked world begun ∧ begun.contact = world.contact := by
  cases id with
  | kernels number =>
      obtain ⟨object, known, alive, listed⟩ := exists_of_desk?_kernels shown
      obtain ⟨model, others, running, rfl, rfl⟩ := List.map_eq_cons_iff.mp listed.symm
      obtain ⟨change, begins, releases⟩ := Manager.exists_beginShutdown alive running
      refine ⟨world.changeKernelManager number fun _ => change, ?_,
        managed.releases_kernels known shown _ releases, contact_changeKernelManager number _ world⟩
      simp only [World.beginManagerShutdown, known, begins]
  | sessions number =>
      obtain ⟨object, known, alive, listed⟩ := exists_of_desk?_sessions shown
      obtain ⟨model, others, running, rfl, rfl⟩ := List.map_eq_cons_iff.mp listed.symm
      obtain ⟨change, begins, releases⟩ := Manager.exists_beginShutdown alive running
      refine ⟨world.changeSessionManager number fun _ => change, ?_,
        managed.releases_sessions known shown _ releases,
        contact_changeSessionManager number _ world⟩
      simp only [World.beginManagerShutdown, known, begins]

/-- The shutdown of all resources begins with none listed. -/
theorem Managed.beginManagerShutdownAll (managed : world.Managed)
    (shown : world.desk? id = some ⟨listed, tracked⟩) :
    ∃ begun, world.beginManagerShutdownAll id = (.ok listed, begun) ∧
      Releases id (fun _ => false) [] tracked world begun ∧ begun.contact = world.contact := by
  cases id with
  | kernels number =>
      obtain ⟨object, known, alive, rfl⟩ := exists_of_desk?_kernels shown
      obtain ⟨change, begins, releases⟩ := Manager.exists_beginShutdownAll alive
      have emptied := managed.releases_kernels known shown (fun _ => change) releases
      refine ⟨_, ?_, emptied, contact_changeKernelManager number _ world⟩
      simp only [World.beginManagerShutdownAll, known, begins]
  | sessions number =>
      obtain ⟨object, known, alive, rfl⟩ := exists_of_desk?_sessions shown
      obtain ⟨change, begins, releases⟩ := Manager.exists_beginShutdownAll alive
      have emptied := managed.releases_sessions known shown (fun _ => change) releases
      refine ⟨_, ?_, emptied, contact_changeSessionManager number _ world⟩
      simp only [World.beginManagerShutdownAll, known, begins]

end World

end Simulation

end KernelClient
