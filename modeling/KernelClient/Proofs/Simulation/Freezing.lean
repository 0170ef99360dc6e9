import KernelClient.Proofs.Simulation.Refresh

/-!
# What is left of a disposed manager

To dispose a manager is to dispose all connections that it tracks and to tell it once. Whatever goes
on afterwards, and whatever was under way, finds a manager that tracks nothing, keeps both copies as
they are and refuses its calls before anything is sent.
-/

namespace KernelClient.Simulation

namespace ManagerObject

variable {Model Connection : Type} {before after object : ManagerObject Model Connection}

/-- Nobody has heard of the disposal of a manager that is not disposed. -/
def IsUntold (object : ManagerObject Model Connection) : Prop :=
  object.manager.isDisposed = false → object.disposed.IsIdle

/-- All that the disposal makes of a manager itself. -/
theorem take_dispose (alive : object.manager.isDisposed = false) :
    object.take object.manager.dispose = { object with
      manager := { object.manager with isDisposed := true, connections := [] }
      disposed := object.disposed.emit () } := by
  have silent (start : ManagerObject Model Connection) :
      (object.manager.connections.map Manager.Effect.disposeConnection).foldl emit start =
        start := by
    rw [List.foldl_map]
    exact List.foldl_fixed _
  rw [take, Manager.dispose, if_neg (Bool.eq_false_iff.mp alive), List.foldl_append, silent]
  rfl

variable [DecidableEq Model] [Resource Model] [Handle Connection]

theorem IsUntold.step {Allowed : Manager.Event Model Connection → Prop}
    (untold : before.IsUntold) (step : before.Step Allowed after) : after.IsUntold := by
  intro alive
  cases step with
  | event event allowed =>
      obtain ⟨isDisposed, told⟩ := event.disposes before.manager
      rw [take_manager, isDisposed, Bool.or_eq_false_iff] at alive
      rw [take_eq, told, alive.2]
      exact untold alive.1
  | heard heard => exact heard.disposed.quiet.isIdle (untold (heard.manager ▸ alive))
  | closed => exact (Signal.quiet_close _).isIdle (untold alive)

theorem IsNew.isUntold (isNew : object.IsNew) : object.IsUntold := by
  obtain ⟨options, isVisible, becomes⟩ := isNew
  induction becomes with
  | refl => exact fun _ => Signal.isIdle_create Signal.usualCapacity
  | tail _ step untold => exact untold.step step

/-- What the disposal makes of a manager, of the connections that it tracked, and of all that comes
later: it is told once, the connections are disposed, and from then on the manager is frozen. -/
structure Disposal (IsGone : Connection → Prop)
    (before disposed later : ManagerObject Model Connection) : Prop where
  untold : before.disposed.IsIdle
  taken : disposed = { before with
    manager := { before.manager with isDisposed := true, connections := [] }
    disposed := before.disposed.emit () }
  connections : ∀ connection ∈ before.manager.connections, IsGone connection
  freezes : disposed.Freezes later

end ManagerObject

namespace World

variable {world later : World}

def IsKernelDisposed (world : World) (number : Nat) : Prop :=
  ∃ object, world.kernel? number = some object ∧ object.connection.isDisposed = true

def IsSessionDisposed (world : World) (number : Nat) : Prop :=
  ∃ object, world.session? number = some object ∧ object.session.isDisposed = true

theorem isKernelDisposed_iff {number : Nat} :
    world.IsKernelDisposed number ↔
      world.kernelStandings[number]?.any Standing.isDisposed = true := by
  rw [kernelStandings, List.getElem?_map, tables_connections_getElem?]
  cases known : world.kernel? number with
  | none => simp [IsKernelDisposed, known]
  | some object => simp [IsKernelDisposed, known, Standing.ofConnection]

theorem isSessionDisposed_iff {number : Nat} :
    world.IsSessionDisposed number ↔
      world.sessionStandings[number]?.any Standing.isDisposed = true := by
  rw [sessionStandings, List.getElem?_map, tables_sessions_getElem?]
  cases known : world.session? number with
  | none => simp [IsSessionDisposed, known]
  | some object => simp [IsSessionDisposed, known, Standing.ofSession]

theorem IsKernelDisposed.steps {number : Nat} (disposed : world.IsKernelDisposed number)
    (steps : Steps world later) : later.IsKernelDisposed number := by
  obtain ⟨object, known, isDisposed⟩ := disposed
  obtain ⟨after, present, continues⟩ := steps.evolves.kernel known
  exact ⟨after, present, continues.disposed isDisposed⟩

theorem IsSessionDisposed.steps {number : Nat} (disposed : world.IsSessionDisposed number)
    (steps : Steps world later) : later.IsSessionDisposed number := by
  obtain ⟨object, known, isDisposed⟩ := disposed
  obtain ⟨after, present, becomes⟩ := steps.proceeds.sessions.kept number object known
  exact ⟨after, present, (becomes.rests isDisposed).isDisposed⟩

/-- The disposal of a manager announces the disposal of each connection that it tracks. -/
theorem any_disposesAt_dispose {Model Connection : Type} {manager : Manager Model Connection}
    (alive : manager.isDisposed = false) (place : Connection → Nat) {connection : Connection}
    (tracked : connection ∈ manager.connections) :
    manager.dispose.2.any (disposesAt place (place connection)) = true := by
  rw [Manager.dispose, if_neg (Bool.eq_false_iff.mp alive)]
  refine List.any_eq_true.mpr ⟨.disposeConnection connection, ?_, by simp [disposesAt]⟩
  exact List.mem_append_left _ (List.mem_map_of_mem tracked)

theorem Managed.isKernelDisposed (managed : world.Managed) {number : Nat}
    {object : ManagerObject KernelModel KernelHandle}
    (known : world.kernelManager? number = some object)
    (alive : object.manager.isDisposed = false) {handle : KernelHandle}
    (tracked : handle ∈ object.manager.connections) :
    (world.changeManager (.kernels number) disposeManager).IsKernelDisposed handle.connection := by
  obtain ⟨standing, there, -⟩ := managed.standsAsKernel known handle tracked
  have disposed := any_disposesAt_dispose alive KernelHandle.connection tracked
  rw [isKernelDisposed_iff, changeManager,
    kernelStandings_changeKernelManager known disposeManager.kernels,
    foldl_standingsAfter_getElem?, there]
  simp [disposeManager, disposed]

theorem Managed.isSessionDisposed (managed : world.Managed) {number : Nat}
    {object : ManagerObject SessionModel SessionHandle}
    (known : world.sessionManager? number = some object)
    (alive : object.manager.isDisposed = false) {handle : SessionHandle}
    (tracked : handle ∈ object.manager.connections) :
    (world.changeManager (.sessions number) disposeManager).IsSessionDisposed
      handle.connection := by
  obtain ⟨session, there, -⟩ := managed.standsAsSession known handle tracked
  have disposed := any_disposesAt_dispose alive SessionHandle.connection tracked
  rw [isSessionDisposed_iff, changeManager,
    sessionStandings_changeSessionManager known disposeManager.sessions,
    foldl_standingsAfter_getElem?, sessionStandings, List.getElem?_map, there]
  simp [disposeManager, disposed]

theorem Arises.newKernelManager (arises : world.Arises) {number : Nat}
    {object : ManagerObject KernelModel KernelHandle}
    (known : world.kernelManager? number = some object) : object.IsNew := by
  obtain ⟨settings, protocol, steps⟩ := arises
  exact steps.proceeds.kernelManagers.added number object rfl known

theorem Arises.newSessionManager (arises : world.Arises) {number : Nat}
    {object : ManagerObject SessionModel SessionHandle}
    (known : world.sessionManager? number = some object) : object.IsNew := by
  obtain ⟨settings, protocol, steps⟩ := arises
  exact steps.proceeds.sessionManagers.added number object rfl known

theorem Arises.kernelManagerDisposal (arises : world.Arises) {number : Nat}
    {object : ManagerObject KernelModel KernelHandle}
    (known : world.kernelManager? number = some object)
    (alive : object.manager.isDisposed = false)
    (steps : Steps (world.changeManager (.kernels number) disposeManager) later) :
    ∃ disposed final,
      (world.changeManager (.kernels number) disposeManager).kernelManager? number =
        some disposed ∧
      later.kernelManager? number = some final ∧
      object.Disposal (fun handle => later.IsKernelDisposed handle.connection) disposed final := by
  have taken := kernelManager?_change known Manager.dispose
  obtain ⟨final, present, becomes⟩ := steps.proceeds.kernelManagers.kept number _ taken
  have disposed := ManagerObject.take_dispose alive
  refine ⟨_, final, taken, present, ?_⟩
  exact {
    untold := (arises.newKernelManager known).isUntold alive
    taken := disposed
    connections := fun handle tracked =>
      (arises.reachable.managed.isKernelDisposed known alive tracked).steps steps
    freezes := becomes.freezes (by rw [disposed]) (by rw [disposed]) }

theorem Arises.sessionManagerDisposal (arises : world.Arises) {number : Nat}
    {object : ManagerObject SessionModel SessionHandle}
    (known : world.sessionManager? number = some object)
    (alive : object.manager.isDisposed = false)
    (steps : Steps (world.changeManager (.sessions number) disposeManager) later) :
    ∃ disposed final,
      (world.changeManager (.sessions number) disposeManager).sessionManager? number =
        some disposed ∧
      later.sessionManager? number = some final ∧
      object.Disposal (fun handle => later.IsSessionDisposed handle.connection) disposed
        final := by
  have taken := sessionManager?_change known Manager.dispose
  obtain ⟨final, present, becomes⟩ := steps.proceeds.sessionManagers.kept number _ taken
  have disposed := ManagerObject.take_dispose alive
  refine ⟨_, final, taken, present, ?_⟩
  exact {
    untold := (arises.newSessionManager known).isUntold alive
    taken := disposed
    connections := fun handle tracked =>
      (arises.reachable.managed.isSessionDisposed known alive tracked).steps steps
    freezes := becomes.freezes (by rw [disposed]) (by rw [disposed]) }

def IsManagerDisposed (world : World) (id : ManagerId) : Prop :=
  ∃ view, world.manager? id = some view ∧ view.isDisposed = true

/-- What a server answers to a request for something new registers nothing, and neither is anything
new asked for nor an old resource connected to. -/
def RefusesOpening (world : World) : ManagerId → Prop
  | .kernels number =>
      (∀ options name,
        world.beginCall (.startKernel number options name) =
          (.finished (.error .disposed), world)) ∧
      (∀ model, world.connectThroughKernels number model = .error .disposed) ∧
      ∀ name model, world.runStartingKernel number name (.settled (.ok model)) =
        (.finished (.error .disposed), world)
  | .sessions number =>
      (∀ request name,
        world.beginCall (.startSession number request name) =
          (.finished (.error .disposed), world)) ∧
      (∀ model, world.connectThroughSessions number model = .error .disposed) ∧
      ∀ name model, world.runStartingSession number name (.settled (.ok model)) =
        (.finished (.error .disposed), world)

/-- Every call to a manager is refused because it was disposed, and as the world stays as it is,
nothing is sent. -/
structure RefusesCalls (world : World) (id : ManagerId) : Prop where
  refresh : ∀ copy, world.beginCall (.refresh id copy) = (.finished (.error .disposed), world)
  shutdown : ∀ resource,
    world.beginCall (.shutdown id resource) = (.finished (.error .disposed), world)
  shutdownAll : world.beginCall (.shutdownAll id) = (.finished (.error .disposed), world)
  opening : world.RefusesOpening id

theorem beginRefresh_of_isDisposed {id : ManagerId} (disposed : world.IsManagerDisposed id)
    (copy : Copy) : world.beginRefresh id copy = (.done (.error .disposed), world) := by
  obtain ⟨view, known, isDisposed⟩ := disposed
  simp only [beginRefresh, known, isDisposed, if_true]

theorem start_of_isDisposed {α : Type} {id : ManagerId} (disposed : world.IsManagerDisposed id)
    (exchange : Settings → Exchange α) (run : Slot α → World → Progress × World) :
    world.start id exchange run = (.finished (.error .disposed), world) := by
  obtain ⟨view, known, isDisposed⟩ := disposed
  simp only [start, known, isDisposed, if_true]

/-- A disposed manager of kernels refuses all calls. -/
theorem refusesCalls_kernels {number : Nat} {object : ManagerObject KernelModel KernelHandle}
    (known : world.kernelManager? number = some object)
    (disposed : object.manager.isDisposed = true) : world.RefusesCalls (.kernels number) := by
  have viewed : world.IsManagerDisposed (.kernels number) :=
    ⟨_, by rw [manager?, known]; rfl, disposed⟩
  have connect (model : KernelModel) :
      world.connectThroughKernels number model = .error .disposed := by
    simp only [connectThroughKernels, known, Manager.checkOpen, disposed, if_true]
    rfl
  exact {
    refresh := fun copy => by
      rw [beginCall, beginRefresh_of_isDisposed viewed]
      rfl
    shutdown := fun resource => by
      simp only [beginCall, beginShutdown, beginManagerShutdown, known, Manager.beginShutdown,
        disposed, if_true]
      rfl
    shutdownAll := by
      simp only [beginCall, beginShutdownAll, beginManagerShutdownAll, known,
        Manager.beginShutdownAll, disposed, if_true]
    opening := by
      refine ⟨fun options name => ?_, connect, fun name model => ?_⟩
      · rw [beginCall]
        exact start_of_isDisposed viewed _ _
      · simp only [runStartingKernel, connect] }

/-- A disposed manager of sessions refuses all calls. -/
theorem refusesCalls_sessions {number : Nat} {object : ManagerObject SessionModel SessionHandle}
    (known : world.sessionManager? number = some object)
    (disposed : object.manager.isDisposed = true) : world.RefusesCalls (.sessions number) := by
  have viewed : world.IsManagerDisposed (.sessions number) :=
    ⟨_, by rw [manager?, known]; rfl, disposed⟩
  have connect (model : SessionModel) :
      world.connectThroughSessions number model = .error .disposed := by
    simp only [connectThroughSessions, known, Manager.checkOpen, disposed, if_true]
    rfl
  exact {
    refresh := fun copy => by
      rw [beginCall, beginRefresh_of_isDisposed viewed]
      rfl
    shutdown := fun resource => by
      simp only [beginCall, beginShutdown, beginManagerShutdown, known, Manager.beginShutdown,
        disposed, if_true]
      rfl
    shutdownAll := by
      simp only [beginCall, beginShutdownAll, beginManagerShutdownAll, known,
        Manager.beginShutdownAll, disposed, if_true]
    opening := by
      refine ⟨fun request name => ?_, connect, fun name model => ?_⟩
      · rw [beginCall]
        exact start_of_isDisposed viewed _ _
      · simp only [runStartingSession, connect] }

/-- A manager that is disposed is frozen. However much was under way, its connections are disposed
and the disposal is told, which it was not before; whatever goes on later, it tracks nothing, both
copies stay as they are, neither they nor the disposal are told again, and it refuses all calls. In
no run is the disposal told more than once. -/
theorem Arises.disposal_freezes (arises : world.Arises) :
    (∀ number object later, world.kernelManager? number = some object →
      object.manager.isDisposed = false →
      Steps (world.changeManager (.kernels number) disposeManager) later →
      ∃ disposed final,
        (world.changeManager (.kernels number) disposeManager).kernelManager? number =
          some disposed ∧
        later.kernelManager? number = some final ∧
        object.Disposal (fun handle => later.IsKernelDisposed handle.connection) disposed final ∧
        later.RefusesCalls (.kernels number)) ∧
    (∀ number object later, world.sessionManager? number = some object →
      object.manager.isDisposed = false →
      Steps (world.changeManager (.sessions number) disposeManager) later →
      ∃ disposed final,
        (world.changeManager (.sessions number) disposeManager).sessionManager? number =
          some disposed ∧
        later.sessionManager? number = some final ∧
        object.Disposal (fun handle => later.IsSessionDisposed handle.connection) disposed final ∧
        later.RefusesCalls (.sessions number)) ∧
    (∀ events, Manager.disposalsIn ((Manager.create : KernelManager).run events).2 =
      if ((Manager.create : KernelManager).run events).1.isDisposed then [()] else []) ∧
    ∀ events, Manager.disposalsIn ((Manager.create : SessionManager).run events).2 =
      if ((Manager.create : SessionManager).run events).1.isDisposed then [()] else [] := by
  refine ⟨?_, ?_, fun events => (Manager.closed_run events).told,
    fun events => (Manager.closed_run events).told⟩
  · intro number object later known alive steps
    obtain ⟨disposed, final, taken, present, disposal⟩ :=
      arises.kernelManagerDisposal known alive steps
    exact ⟨disposed, final, taken, present, disposal,
      refusesCalls_kernels present disposal.freezes.isDisposed⟩
  · intro number object later known alive steps
    obtain ⟨disposed, final, taken, present, disposal⟩ :=
      arises.sessionManagerDisposal known alive steps
    exact ⟨disposed, final, taken, present, disposal,
      refusesCalls_sessions present disposal.freezes.isDisposed⟩

/-- Lists that arrive after the disposal of both managers: each keeps its copy, and what they
tracked is disposed. -/
theorem disposal_freezes_before_lists :
    tracking.Arises ∧
    (∃ final,
      ((tracking.changeManager (.kernels 0) disposeManager).applyListing (.kernels 0)
        (.kernels [])).kernelManager? 0 = some final ∧
      final.manager.running = [⟨"k", "python3"⟩] ∧ final.manager.connections = []) ∧
    ((tracking.changeManager (.kernels 0) disposeManager).applyListing (.kernels 0)
      (.kernels [])).IsKernelDisposed 0 ∧
    (∃ final,
      ((tracking.changeManager (.sessions 0) disposeManager).applyListing (.sessions 0)
        (.sessions [])).sessionManager? 0 = some final ∧
      final.manager.running = [sessionA, sessionB] ∧ final.manager.connections = []) ∧
    ((tracking.changeManager (.sessions 0) disposeManager).applyListing (.sessions 0)
      (.sessions [])).IsSessionDisposed 1 := by
  obtain ⟨kernels, sessions, -, -⟩ := arises_tracking.disposal_freezes
  obtain ⟨disposed, final, -, present, disposal, -⟩ :=
    kernels 0 _ _ rfl rfl (.step (.listed (.kernels 0) (.kernels [])))
  obtain ⟨disposedSessions, finalSessions, -, presentSessions, disposalSessions, -⟩ :=
    sessions 0 _ _ rfl rfl (.step (.listed (.sessions 0) (.sessions [])))
  refine ⟨arises_tracking, ⟨final, present, ?_, disposal.freezes.connections⟩, ?_,
    ⟨finalSessions, presentSessions, ?_, disposalSessions.freezes.connections⟩, ?_⟩
  · rw [disposal.freezes.running, disposal.taken]
    rfl
  · exact disposal.connections ⟨0, "k", _⟩ (List.mem_singleton_self _)
  · rw [disposalSessions.freezes.running, disposalSessions.taken]
    rfl
  · exact disposalSessions.connections ⟨1, "b"⟩
      (List.mem_cons_of_mem _ (List.mem_singleton_self _))

end World

end KernelClient.Simulation
