import KernelClient.Proofs.Simulation.Freezing

/-!
# Lists that come after a connection

A list is applied as it arrives, however long ago it was asked for. Nothing is known of the time at
which the server wrote it, so one that was asked for before a connection was made, and that the
server wrote before it knew the resource, is taken as one from which the resource is gone.
-/

namespace KernelClient.Simulation

/-- The result of an exchange at a time, if its answer has arrived. -/
def Slot.resultAt {α : Type} (clock : Nat) : Slot α → Option (Except ServiceError α)
  | .waiting exchange timer answer =>
    if timer.isDue clock then some (exchange.settle answer).1 else none
  | .settled result => some result

/-- The request for a list that a task waits for. -/
def Task.asked? (id : ManagerId) : Task → Option (Slot Listing)
  | .load asker (.loading (.running slot) _) => if asker = id then some slot else none
  | .poll asker _ _ (.refreshing _ (.running slot)) => if asker = id then some slot else none
  | .call _ (.refreshing asker (.running slot)) => if asker = id then some slot else none
  | .call _ (.finding asker _ (.running slot)) => if asker = id then some slot else none
  | _ => none

namespace World

/-- Neither the objects nor the clock change. -/
structure Aside (before after : World) : Prop extends SameObjects before after where
  clock : after.clock = before.clock

namespace Aside

theorem refl (world : World) : Aside world world :=
  ⟨⟨rfl, rfl, rfl, rfl⟩, rfl⟩

theorem trans {before middle after : World} (first : Aside before middle)
    (second : Aside middle after) : Aside before after where
  toSameObjects := first.toSameObjects.trans second.toSameObjects
  clock := second.clock.trans first.clock

theorem wake (world : World) : Aside world world.wake := by
  unfold World.wake
  split <;> exact ⟨⟨rfl, rfl, rfl, rfl⟩, rfl⟩

end Aside

/-- To look whether an answer has arrived may log something, and that is all. -/
theorem aside_check {α : Type} (slot : Slot α) (world : World) :
    Aside world (world.check slot).2 := by
  cases slot with
  | waiting exchange timer answer =>
      simp only [check]
      split
      · exact ⟨⟨rfl, rfl, rfl, rfl⟩, rfl⟩
      · exact .refl world
  | settled result => exact .refl world

/-- To ask the server changes what it is asked and what is waited for, and that is all. -/
theorem aside_ask {α : Type} (exchange : Exchange α) (world : World) :
    Aside world (world.ask exchange).2 := by
  unfold ask
  split
  · exact .refl world
  · dsimp only
    split
    · exact ⟨⟨rfl, rfl, rfl, rfl⟩, rfl⟩
    · split
      · exact ⟨⟨rfl, rfl, rfl, rfl⟩, rfl⟩
      · exact ⟨⟨rfl, rfl, rfl, rfl⟩, rfl⟩

theorem result_check {α : Type} (slot : Slot α) (world : World) :
    (world.check slot).1.result? = slot.resultAt world.clock := by
  cases slot with
  | waiting exchange timer answer =>
      simp only [check, Slot.resultAt]
      split <;> rfl
  | settled result => rfl

/-- A manager that stays as it is and announces nothing. -/
theorem aside_changeKernelManager {world : World} {number : Nat}
    {step : KernelManager → Manager.Change KernelModel KernelHandle}
    {object : ManagerObject KernelModel KernelHandle}
    (known : world.kernelManager? number = some object)
    (same : step object.manager = (object.manager, [])) :
    Aside world (world.changeKernelManager number step) := by
  -- The manager is written back as it was, and the tasks that can go on are woken.
  have sameKernels : world.kernelManagers.modify number (fun managing =>
      { managing with manager := object.manager }) = world.kernelManagers := by
    refine (modify_congr known ?_).trans (List.modify_id number world.kernelManagers)
    rfl
  have placed : Aside world (world.modifyKernelManager number fun managing =>
      { managing with manager := object.manager }) :=
    ⟨⟨rfl, rfl, sameKernels, rfl⟩, rfl⟩
  simp only [changeKernelManager, known, same, List.foldl_nil]
  exact placed.trans (.wake _)

theorem aside_changeSessionManager {world : World} {number : Nat}
    {step : SessionManager → Manager.Change SessionModel SessionHandle}
    {object : ManagerObject SessionModel SessionHandle}
    (known : world.sessionManager? number = some object)
    (same : step object.manager = (object.manager, [])) :
    Aside world (world.changeSessionManager number step) := by
  have sameSessions : world.sessionManagers.modify number (fun managing =>
      { managing with manager := object.manager }) = world.sessionManagers := by
    refine (modify_congr known ?_).trans (List.modify_id number world.sessionManagers)
    rfl
  have placed : Aside world (world.modifySessionManager number fun managing =>
      { managing with manager := object.manager }) :=
    ⟨⟨rfl, rfl, rfl, sameSessions⟩, rfl⟩
  simp only [changeSessionManager, known, same, List.foldl_nil]
  exact placed.trans (.wake _)

/-- A list is applied as it arrives. -/
theorem checkRefresh_running (id : ManagerId) (slot : Slot Listing) (world : World) :
    (world.checkRefresh id (.running slot)).2 =
      match slot.resultAt world.clock with
      | some (.ok listing) => (world.check slot).2.applyListing id listing
      | _ => (world.check slot).2 := by
  rw [← result_check slot world]
  simp only [checkRefresh]
  cases (world.check slot).1 with
  | waiting exchange timer answer => rfl
  | settled result => cases result <;> rfl

end World

theorem Standing.isListed_eq_false {Model : Type} [Resource Model] {models : List Model}
    {standing : Standing} :
    standing.isListed models = false ↔ ∀ model ∈ models, Resource.id model ≠ standing.id := by
  simp [isListed]

/-- A list disposes exactly those that a manager tracks and that it does not name. -/
theorem Refreshed.isDisposed_iff {Model Connection : Type} [Resource Model] {models : List Model}
    {place : Connection → Nat} {manager refreshed : Manager Model Connection}
    {before after : List Standing} {number : Nat} {standing : Standing}
    (changes : Refreshed models place manager refreshed before after)
    (known : before[number]? = some standing) :
    after[number]?.any Standing.isDisposed = true ↔
      before[number]?.any Standing.isDisposed = true ∨
        (∃ connection ∈ manager.connections, place connection = number) ∧
          standing.isListed models = false := by
  rw [changes.standings, List.getElem?_mapIdx, known]
  simp [List.any_eq_true]

namespace World

variable {world sent registered arrived : World}

/-- A manager that is not disposed tracks a connection to a kernel. -/
def TracksKernel (world : World) (manager kernel : Nat) : Prop :=
  ∃ object, world.kernelManager? manager = some object ∧ object.manager.isDisposed = false ∧
    ∃ handle ∈ object.manager.connections, handle.connection = kernel

/-- A manager that is not disposed tracks a session. -/
def TracksSession (world : World) (manager session : Nat) : Prop :=
  ∃ object, world.sessionManager? manager = some object ∧ object.manager.isDisposed = false ∧
    ∃ handle ∈ object.manager.connections, handle.connection = session

theorem Aside.isKernelDisposed_iff {after : World} (aside : Aside world after) (kernel : Nat) :
    after.IsKernelDisposed kernel ↔ world.IsKernelDisposed kernel := by
  simp only [IsKernelDisposed, kernel?, aside.kernels]

theorem Aside.tracksKernel_iff {after : World} (aside : Aside world after)
    (manager kernel : Nat) :
    after.TracksKernel manager kernel ↔ world.TracksKernel manager kernel := by
  simp only [TracksKernel, kernelManager?, aside.kernelManagers]

theorem Managed.applyListing_kernels (managed : world.Managed) (number : Nat)
    (models : List KernelModel) {kernel : Nat} {object : KernelObject}
    (present : world.kernel? kernel = some object) :
    (world.applyListing (.kernels number) (.kernels models)).IsKernelDisposed kernel ↔
      world.IsKernelDisposed kernel ∨ world.TracksKernel number kernel ∧
        ∀ model ∈ models, model.id ≠ object.connection.model.id := by
  cases known : world.kernelManager? number with
  | none =>
      simp [applyListing, changeKernelManager, TracksKernel, known]
  | some managing =>
      cases alive : managing.manager.isDisposed with
      | true =>
          have dropped : Aside world (world.changeKernelManager number
              (Manager.applyRunning models)) :=
            aside_changeKernelManager known (Manager.applyRunning_of_isDisposed alive models)
          rw [applyListing, dropped.isKernelDisposed_iff]
          simp [TracksKernel, known, alive]
      | false =>
          obtain ⟨refreshed, -, changes⟩ := managed.refreshed_kernels known alive models
          have standing : world.kernelStandings[kernel]? =
              some (.ofConnection object.connection) := by
            rw [kernelStandings, List.getElem?_map, tables_connections_getElem?, present]
            rfl
          rw [isKernelDisposed_iff, isKernelDisposed_iff, changes.isDisposed_iff standing,
            Standing.isListed_eq_false]
          simp [TracksKernel, known, alive, Standing.ofConnection, Resource.id]

/-- A connection that was made stays at its place under its identifier. -/
theorem exists_of_connectThroughKernels {number : Nat} {model : KernelModel}
    (connects : sent.connectThroughKernels number model = .ok registered)
    (steps : Steps registered arrived) :
    ∃ object, arrived.kernel? sent.kernels.length = some object ∧
      object.connection.model = model := by
  have made (options : ConnectionOptions) : ∃ object,
      (sent.connectKernel model options).kernel? sent.kernels.length = some object ∧
        object.connection.model = model := by
    cases chosen : options.clientId <;>
      simp [connectKernel, kernel?, spawn, chosen, freshClient, KernelObject.create,
        Connection.create]
  unfold connectThroughKernels Manager.checkOpen at connects
  split at connects
  case h_1 managing known =>
    split at connects
    · cases connects
    · obtain rfl := Except.ok.inj connects
      obtain ⟨object, there, rfl⟩ := made managing.options.kernel
      have later := (evolves_registerKernel number sent.kernels.length).trans steps.evolves
      obtain ⟨after, present, continues⟩ := later.kernel there
      exact ⟨after, present, continues.model⟩
  case h_2 => cases connects

theorem Aside.isSessionDisposed_iff {after : World} (aside : Aside world after) (session : Nat) :
    after.IsSessionDisposed session ↔ world.IsSessionDisposed session := by
  simp only [IsSessionDisposed, session?, aside.sessions]

theorem Aside.tracksSession_iff {after : World} (aside : Aside world after)
    (manager session : Nat) :
    after.TracksSession manager session ↔ world.TracksSession manager session := by
  simp only [TracksSession, sessionManager?, aside.sessionManagers]

theorem Managed.applyListing_sessions (managed : world.Managed) (number : Nat)
    (models : List SessionModel) {session : Nat} {object : SessionObject}
    (present : world.session? session = some object) :
    (world.applyListing (.sessions number) (.sessions models)).IsSessionDisposed session ↔
      world.IsSessionDisposed session ∨ world.TracksSession number session ∧
        ∀ model ∈ models, model.id ≠ object.session.model.id := by
  cases known : world.sessionManager? number with
  | none =>
      simp [applyListing, changeSessionManager, TracksSession, known]
  | some managing =>
      cases alive : managing.manager.isDisposed with
      | true =>
          have dropped : Aside world (world.changeSessionManager number
              (Manager.applyRunning models)) :=
            aside_changeSessionManager known (Manager.applyRunning_of_isDisposed alive models)
          rw [applyListing, dropped.isSessionDisposed_iff]
          simp [TracksSession, known, alive]
      | false =>
          obtain ⟨refreshed, -, changes⟩ := managed.refreshed_sessions known alive models
          have standing : world.sessionStandings[session]? = some (.ofSession object.session) := by
            rw [sessionStandings, List.getElem?_map, tables_sessions_getElem?, present]
            rfl
          rw [isSessionDisposed_iff, isSessionDisposed_iff, changes.isDisposed_iff standing,
            Standing.isListed_eq_false]
          simp [TracksSession, known, alive, Standing.ofSession, Resource.id]

/-- A session that was connected to stays at its place under its identifier. -/
theorem exists_of_connectThroughSessions {number : Nat} {model : SessionModel}
    (connects : sent.connectThroughSessions number model = .ok registered)
    (steps : Steps registered arrived) :
    ∃ object, arrived.session? sent.sessions.length = some object ∧
      object.session.model.id = model.id := by
  have made (options : ConnectionOptions) :
      (sent.connectSession model options).HasSession ⟨sent.sessions.length, model.id⟩ := by
    have sessions := (sessionOnly_connectSession model options sent).1
    refine ⟨.create (Session.create model sent.kernels.length).1 options, ?_, ?_⟩
    · rw [session?, sessions]
      exact List.getElem?_concat_length
    · unfold Session.create
      cases model.kernel <;> rfl
  unfold connectThroughSessions Manager.checkOpen at connects
  split at connects
  case h_1 managing known =>
    split at connects
    · cases connects
    · obtain rfl := Except.ok.inj connects
      have later := (evolves_registerSession number sent.sessions.length).trans steps.evolves
      exact later.hasSession (made managing.options.kernel)
  case h_2 => cases connects

/-- A connection that a manager made, or a session that it connected to, is disposed by the result
of a request for the list, whenever that was sent, exactly if it is not disposed yet, the manager
still tracks it and is not disposed, and a list has arrived that does not name it. -/
theorem Arises.list_disposes_iff (arises : sent.Arises) :
    (∀ number model registered arrived slot,
      sent.connectThroughKernels number model = .ok registered → Steps registered arrived →
      ((arrived.checkRefresh (.kernels number) (.running slot)).2.IsKernelDisposed
          sent.kernels.length ↔
        arrived.IsKernelDisposed sent.kernels.length ∨
          arrived.TracksKernel number sent.kernels.length ∧
            ∃ models, slot.resultAt arrived.clock = some (.ok (.kernels models)) ∧
              ∀ listed ∈ models, listed.id ≠ model.id)) ∧
    (∀ number model registered arrived slot,
      sent.connectThroughSessions number model = .ok registered → Steps registered arrived →
      ((arrived.checkRefresh (.sessions number) (.running slot)).2.IsSessionDisposed
          sent.sessions.length ↔
        arrived.IsSessionDisposed sent.sessions.length ∨
          arrived.TracksSession number sent.sessions.length ∧
            ∃ models, slot.resultAt arrived.clock = some (.ok (.sessions models)) ∧
              ∀ listed ∈ models, listed.id ≠ model.id)) := by
  constructor
  · intro number model registered arrived slot connects steps
    have later := (arises.steps (steps_connectThroughKernels connects)).steps steps
    obtain ⟨object, present, rfl⟩ := exists_of_connectThroughKernels connects steps
    have checked := aside_check slot arrived
    have there : (arrived.check slot).2.kernel? sent.kernels.length = some object := by
      rw [kernel?, checked.kernels]
      exact present
    have managed := (later.steps (steps_check slot)).reachable.managed
    rw [checkRefresh_running]
    rcases result : slot.resultAt arrived.clock with - | (error | (models | models))
    · simp [checked.isKernelDisposed_iff]
    · simp [checked.isKernelDisposed_iff]
    · simp only [managed.applyListing_kernels number models there, checked.isKernelDisposed_iff,
        checked.tracksKernel_iff]
      simp
    · simp [applyListing, checked.isKernelDisposed_iff]
  · intro number model registered arrived slot connects steps
    have later := (arises.steps (steps_connectThroughSessions connects)).steps steps
    obtain ⟨object, present, sameId⟩ := exists_of_connectThroughSessions connects steps
    have checked := aside_check slot arrived
    have there : (arrived.check slot).2.session? sent.sessions.length = some object := by
      rw [session?, checked.sessions]
      exact present
    have managed := (later.steps (steps_check slot)).reachable.managed
    rw [checkRefresh_running, ← sameId]
    rcases result : slot.resultAt arrived.clock with - | (error | (models | models))
    · simp [checked.isSessionDisposed_iff]
    · simp [checked.isSessionDisposed_iff]
    · simp [applyListing, checked.isSessionDisposed_iff]
    · simp only [managed.applyListing_sessions number models there, checked.isSessionDisposed_iff,
        checked.tracksSession_iff]
      simp

/-- A world in which a list of kernels was asked for, and the server takes a second to answer that
there are none. -/
def listAwaited : World :=
  scripted [
    ⟨.createManager "m" .kernels ⟨.off, .usual⟩ true, false⟩,
    answering .get "/api/kernels" 200 "[]" 1000,
    ⟨.callAboutManager "r" "m" fun id => .refresh id .running, false⟩]

/-- A connection is made before the answer arrives, and the answer disposes it. -/
theorem exists_registered_listAwaited :
    ∃ task ∈ listAwaited.waiting, ∃ slot registered, task.asked? (.kernels 0) = some slot ∧
      listAwaited.connectThroughKernels 0 ⟨"a", "python3"⟩ = .ok registered ∧
      ¬(registered.setClock 1000).IsKernelDisposed listAwaited.kernels.length ∧
      ((registered.setClock 1000).checkRefresh (.kernels 0)
        (.running slot)).2.IsKernelDisposed listAwaited.kernels.length := by
  have evaluated : (listAwaited.waiting.any fun task =>
      (task.asked? (.kernels 0)).any fun slot =>
        (listAwaited.connectThroughKernels 0 ⟨"a", "python3"⟩).toOption.any fun registered =>
          !(registered.setClock 1000).kernelStandings[listAwaited.kernels.length]?.any
            Standing.isDisposed &&
          ((registered.setClock 1000).checkRefresh (.kernels 0)
            (.running slot)).2.kernelStandings[listAwaited.kernels.length]?.any
              Standing.isDisposed) = true := by
    decide +kernel
  obtain ⟨task, member, evaluated⟩ := List.any_eq_true.mp evaluated
  obtain ⟨slot, asked, evaluated⟩ := (Option.any_eq_true _ _).mp evaluated
  obtain ⟨registered, connects, evaluated⟩ := (Option.any_eq_true _ _).mp evaluated
  rw [Bool.and_eq_true, Bool.not_eq_true', Bool.eq_false_iff] at evaluated
  refine ⟨task, member, slot, registered, asked, ?_, ?_, ?_⟩
  · cases outcome : listAwaited.connectThroughKernels 0 ⟨"a", "python3"⟩ with
    | error error =>
        rw [outcome] at connects
        cases connects
    | ok connected =>
        rw [outcome] at connects
        exact congrArg Except.ok (Option.some.inj connects)
  · rw [isKernelDisposed_iff]
    exact evaluated.1
  · rw [isKernelDisposed_iff]
    exact evaluated.2

/-- The answer names no kernel, so it disposes a connection that was made meanwhile because the
manager tracks it. -/
theorem list_disposes_iff_of_listAwaited :
    listAwaited.Arises ∧ ∃ (slot : Slot Listing) (registered : World),
      listAwaited.connectThroughKernels 0 ⟨"a", "python3"⟩ = .ok registered ∧
      Steps registered (registered.setClock 1000) ∧
      (registered.setClock 1000).TracksKernel 0 listAwaited.kernels.length ∧
      ∃ models, slot.resultAt (registered.setClock 1000).clock = some (.ok (.kernels models)) ∧
        ∀ listed ∈ models, listed.id ≠ "a" := by
  obtain ⟨-, -, slot, registered, -, connects, alive, disposed⟩ := exists_registered_listAwaited
  have steps : Steps registered (registered.setClock 1000) := steps_setClock 1000
  have lost := ((arises_scripted _).list_disposes_iff.1 0 _ registered _ slot connects steps).mp
    disposed
  exact ⟨arises_scripted _, slot, registered, connects, steps, lost.resolve_left alive⟩

/-- A list that was asked for before a connection was made disposes it. -/
theorem earlier_list_disposes :
    listAwaited.Arises ∧
    ∃ task ∈ listAwaited.waiting, ∃ slot registered, task.asked? (.kernels 0) = some slot ∧
      listAwaited.connectThroughKernels 0 ⟨"a", "python3"⟩ = .ok registered ∧
      Steps registered (registered.setClock 1000) ∧
      ¬(registered.setClock 1000).IsKernelDisposed listAwaited.kernels.length ∧
      ((registered.setClock 1000).checkRefresh (.kernels 0)
        (.running slot)).2.IsKernelDisposed listAwaited.kernels.length := by
  obtain ⟨task, member, slot, registered, asked, connects, lasts⟩ := exists_registered_listAwaited
  exact ⟨arises_scripted _, task, member, slot, registered, asked, connects, steps_setClock 1000,
    lasts⟩

end World

end KernelClient.Simulation
