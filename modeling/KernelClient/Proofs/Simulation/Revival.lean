import KernelClient.Proofs.Simulation.LateLists

/-!
# Sessions that come back

The task that watches a session for its manager takes what the signals of the session still hold,
also after the session has ended: first that it was shut down, for which it leaves the list, and
then that a property or the kernel changed, for which it is put into the list. So a session that
ended comes back into the list if such a change was waiting, and of all that goes on otherwise only
a list of the server and a new connection can bring it back.
-/

namespace KernelClient

namespace Manager

variable {Model Connection : Type} [Resource Model] {manager : Manager Model Connection}

/-- A manager has a resource with an identifier in its list. -/
def Lists (id : String) (manager : Manager Model Connection) : Prop :=
  ∃ model ∈ manager.running, Resource.id model = id

instance (id : String) (manager : Manager Model Connection) : Decidable (manager.Lists id) :=
  inferInstanceAs (Decidable (∃ model ∈ manager.running, Resource.id model = id))

/-- Unless a manager is disposed, a resource that ended leaves its list. -/
theorem lists_terminated_iff (id other : String) :
    (manager.terminated id).1.Lists other ↔
      manager.Lists other ∧ ¬(manager.isDisposed = false ∧ other = id) := by
  cases kind : manager.isDisposed with
  | true => simp [Manager.terminated, kind]
  | false =>
      have left : (manager.terminated id).1.running =
          manager.running.filter fun model => Resource.id model != id := by
        simp only [Manager.terminated, kind, Bool.false_eq_true, false_or]
        split
        case isTrue same =>
          exact (List.filter_eq_self.mpr (List.length_filter_eq_length_iff.mp same)).symm
        case isFalse => rfl
      simp only [Lists, left, List.mem_filter, bne_iff_ne, true_and]
      constructor
      · rintro ⟨model, ⟨member, different⟩, rfl⟩
        exact ⟨⟨model, member, rfl⟩, different⟩
      · rintro ⟨⟨model, member, rfl⟩, different⟩
        exact ⟨model, ⟨member, different⟩, rfl⟩

theorem terminated_isDisposed (id : String) :
    (manager.terminated id).1.isDisposed = manager.isDisposed := by
  simp only [Manager.terminated]
  split <;> rfl

omit [Resource Model] in
theorem track_running (connection : Connection) :
    (manager.track connection).1.running = manager.running := by
  unfold track
  split <;> rfl

theorem exists_mem_replace_iff (model : Model) (models : List Model) (id : String) :
    (∃ known ∈ replace model models, Resource.id known = id) ↔
      (∃ known ∈ models, Resource.id known = id) ∨ Resource.id model = id := by
  induction models with
  | nil => simp [replace]
  | cons known rest ih =>
      unfold replace
      split
      case isTrue same =>
        simp only [List.exists_mem_cons_iff, same]
        constructor
        · rintro (first | later)
          · exact .inr first
          · exact .inl (.inr later)
        · rintro ((first | later) | first)
          · exact .inl first
          · exact .inr later
          · exact .inl first
      case isFalse => simp only [List.exists_mem_cons_iff, ih, or_assoc]

/-- Unless a manager is disposed, its list has what is put into it. -/
theorem lists_put_iff [DecidableEq Model] (model : Model) (id : String) :
    (manager.put model).1.Lists id ↔
      manager.Lists id ∨ manager.isDisposed = false ∧ Resource.id model = id := by
  cases kind : manager.isDisposed with
  | true => simp [Manager.put, kind]
  | false =>
      simp only [Manager.put, kind, Bool.false_eq_true, false_or, true_and]
      split
      case isTrue known =>
        have member := List.mem_of_find?_eq_some known
        refine ⟨.inl, ?_⟩
        rintro (listed | same)
        · exact listed
        · exact ⟨model, member, same⟩
      case isFalse => exact exists_mem_replace_iff model manager.running id

/-- No minor event brings a resource into the list. -/
theorem running_subset_of_minor [DecidableEq Model] [Handle Connection]
    {event : Event Model Connection} (minor : event.IsMinor) :
    (event.change manager).1.running ⊆ manager.running := by
  cases event with
  | listed | tracked | added | put | loadFailed | refreshFailed => exact minor.elim
  | specsArrived specs =>
      by_cases disposed : manager.isDisposed
      · rw [Event.change, applySpecs, if_pos disposed]
        exact List.Subset.refl _
      · rw [Event.change, applySpecs_of_not_isDisposed disposed]
        have kept := updateReadiness_running { manager with areSpecsLoaded := true }
        dsimp only
        split <;> exact fun model member => by rwa [← kept]
  | terminated id =>
      simp only [Event.change, Manager.terminated]
      split
      · exact List.Subset.refl _
      · exact List.filter_subset_self _
  | forgotten isForgotten => exact List.Subset.refl _
  | shutdownBegun id =>
      simp only [Event.change, beginShutdown]
      split
      case h_1 change begun =>
        split at begun
        · cases begun
        · split at begun <;> cases begun
          exact List.eraseP_subset
      case h_2 => exact List.Subset.refl _
  | shutdownEnded id => exact List.Subset.refl _
  | shutdownAllBegun =>
      simp only [Event.change, beginShutdownAll]
      split
      case h_1 ids change begun =>
        split at begun
        · cases begun
        · split at begun <;> cases begun
          · exact List.Subset.refl _
          · exact List.nil_subset _
      case h_2 => exact List.Subset.refl _
  | shutdownAllEnded ids => exact List.Subset.refl _
  | disposed =>
      simp only [Event.change, dispose]
      split <;> exact List.Subset.refl _

end Manager

/-- To register a session brings only it into the list. -/
theorem SessionManager.lists_register {handle : SessionHandle} {model : SessionModel}
    {manager : SessionManager} {id : String} (lists : (register handle model manager).1.Lists id) :
    manager.Lists id ∨ model.id = id := by
  have same : (register handle model manager).1 = ((manager.track handle).1.put model).1 := rfl
  rw [same, Manager.lists_put_iff, Manager.Lists, Manager.track_running] at lists
  exact lists.imp_right And.right

namespace Simulation

/-- A subscriber finds news exactly if something waits for it. -/
theorem hasNews_drain_iff {α : Type} (signal : Signal α) (subscriber : Nat) :
    World.hasNews (signal.drain subscriber).1 = true ↔ signal.waiting subscriber ≠ ([], 0) := by
  cases known : signal.subscription? subscriber with
  | none => simp [Signal.drain, Signal.waiting, World.hasNews, known]
  | some kept =>
      have drained : (signal.drain subscriber).1 = kept.drain.1 := by
        simp only [Signal.drain, known]
        split <;> rfl
      rw [drained, Signal.waiting, known]
      obtain ⟨capacity, pending, lost, isClosed⟩ := kept
      cases pending <;> cases lost <;> cases isClosed <;>
        simp [Subscription.drain, World.hasNews]

theorem ManagerObject.Becomes.running_subset
    {before after : ManagerObject SessionModel SessionHandle}
    (becomes : before.Becomes Manager.Event.IsMinor after) :
    after.manager.running ⊆ before.manager.running := by
  induction becomes with
  | refl => exact List.Subset.refl _
  | tail _ step ih =>
      refine List.Subset.trans ?_ ih
      cases step with
      | event event minor =>
          rw [ManagerObject.take_manager]
          exact Manager.running_subset_of_minor minor
      | heard heard => rw [heard.manager]; exact List.Subset.refl _
      | closed => exact List.Subset.refl _

namespace World

variable {world ended later : World}

/-- What a manager of sessions has become, its signals apart. -/
def sessionManaging? (manager : Nat) (world : World) : Option SessionManager :=
  (world.sessionManager? manager).map ManagerObject.manager

/-- A manager of sessions has one with an identifier in its list. -/
def Lists (manager : Nat) (id : String) (world : World) : Prop :=
  ∃ held, world.sessionManaging? manager = some held ∧ held.Lists id

theorem sessionManaging?_change (manager : Nat)
    (step : SessionManager → Manager.Change SessionModel SessionHandle) :
    (world.changeSessionManager manager step).sessionManaging? manager =
      (world.sessionManaging? manager).map fun held => (step held).1 := by
  cases known : world.sessionManager? manager with
  | none => simp [sessionManaging?, changeSessionManager, known]
  | some object =>
      rw [sessionManaging?, sessionManager?_change known, sessionManaging?, known, Option.map_some,
        ManagerObject.take_manager]
      rfl

/-- A manager of sessions goes on and is not disposed. -/
def IsManaging (manager : Nat) (world : World) : Prop :=
  ∃ held, world.sessionManaging? manager = some held ∧ held.isDisposed = false ∧
    world.isSessionManagerAlive manager = true

/-- The task that watches a session is going to be told that it was shut down. -/
structure Removes (manager session terminated : Nat) (world : World) : Prop where
  isManaging : world.IsManaging manager
  told : ∃ object, world.session? session = some object ∧
    hasValue (object.terminated.drain terminated).1 = true

/-- The task that watches a session is going to find a change of its model, and everything that it
takes to put the model into the list. -/
structure Revives (manager session terminated property kernel : Nat) (world : World) : Prop where
  isManaging : world.IsManaging manager
  waiting : ∃ object, world.session? session = some object ∧ object.isAlive = true ∧
    hasEnd (object.terminated.drain terminated).1 = false ∧
    (object.property.waiting property ≠ ([], 0) ∨ object.kernel.waiting kernel ≠ ([], 0))

theorem lists_runSessionWatch_iff {manager session terminated property kernel disposed : Nat}
    {object : SessionObject} (present : world.session? session = some object) (id : String) :
    (world.runSessionWatch manager session terminated property kernel disposed).1.Lists manager
        id ↔
      (world.Revives manager session terminated property kernel ∧ object.session.model.id = id) ∨
        world.Lists manager id ∧
          ¬(world.Removes manager session terminated ∧ object.session.model.id = id) := by
  have heard (change : SessionObject → SessionObject) :
      (world.modifySession session change).sessionManaging? manager =
        world.sessionManaging? manager := rfl
  have alive (change : SessionObject → SessionObject) :
      (world.modifySession session change).isSessionManagerAlive manager =
        world.isSessionManagerAlive manager := rfl
  have revives : world.Revives manager session terminated property kernel ↔
      world.IsManaging manager ∧ object.isAlive = true ∧
        hasEnd (object.terminated.drain terminated).1 = false ∧
        (hasNews (object.property.drain property).1 ||
          hasNews (object.kernel.drain kernel).1) = true := by
    rw [Bool.or_eq_true, hasNews_drain_iff, hasNews_drain_iff]
    constructor
    · rintro ⟨managing, other, there, waiting⟩
      cases present.symm.trans there
      exact ⟨managing, waiting⟩
    · rintro ⟨managing, waiting⟩
      exact ⟨managing, object, present, waiting⟩
  have removes : world.Removes manager session terminated ↔
      world.IsManaging manager ∧ hasValue (object.terminated.drain terminated).1 = true := by
    constructor
    · rintro ⟨managing, other, there, told⟩
      cases present.symm.trans there
      exact ⟨managing, told⟩
    · rintro ⟨managing, told⟩
      exact ⟨managing, object, present, told⟩
  rw [revives, removes]
  unfold runSessionWatch
  simp only [present, Lists, IsManaging, apply_ite Prod.fst, apply_ite (sessionManaging? manager),
    sessionManaging?_change, heard, alive]
  -- What the task finds it finds before anything changes; the rest is a distinction of cases.
  generalize world.isSessionManagerAlive manager = isManagerAlive
  generalize hasValue (object.terminated.drain terminated).1 = told
  generalize hasEnd (object.terminated.drain terminated).1 = ended
  generalize (hasNews (object.property.drain property).1 ||
    hasNews (object.kernel.drain kernel).1) = news
  generalize (hasEnd (object.property.drain property).1 ||
    hasEnd (object.kernel.drain kernel).1 || !(object.disposed.drain disposed).1.isEmpty) = isLast
  cases world.sessionManaging? manager with
  | none => simp
  | some held =>
      have forgotten (held : SessionManager) :
          (SessionManager.forgetConnection session held).Lists id ↔ held.Lists id := .rfl
      simp only [Option.map_some, Option.some.injEq, ← apply_ite some, exists_eq_left',
        apply_ite (Manager.Lists id), apply_ite Manager.isDisposed, forgotten,
        Manager.lists_terminated_iff, Manager.lists_put_iff, Manager.terminated_isDisposed,
        ite_self, Resource.id]
      grind

/-- What brings a session with an identifier into the list of a manager: a list of the server that
has it, a connection to it, or the task that watches one. -/
inductive Brings (manager : Nat) (id : String) : World → World → Prop where
  | listed {world : World} (models : List SessionModel) (named : ∃ model ∈ models, model.id = id) :
      Brings manager id world (world.applyListing (.sessions manager) (.sessions models))
  | registered {world : World} {session : Nat} {object : SessionObject}
      (present : world.session? session = some object) (named : object.session.model.id = id) :
      Brings manager id world (world.registerSession manager session)
  | watched {world : World} {session terminated property kernel : Nat} {object : SessionObject}
      (disposed : Nat) (present : world.session? session = some object)
      (named : object.session.model.id = id)
      (revives : world.Revives manager session terminated property kernel) :
      Brings manager id world
        (world.runSessionWatch manager session terminated property kernel disposed).1

theorem sessionManaging?_changeOther {manager other : Nat} (different : manager ≠ other)
    (step : SessionManager → Manager.Change SessionModel SessionHandle) :
    (world.changeSessionManager manager step).sessionManaging? other =
      world.sessionManaging? other := by
  rw [sessionManaging?, sessionManager?_changeOther different, sessionManaging?]

theorem sessionManaging?_changeKernelManager (manager other : Nat)
    (step : KernelManager → Manager.Change KernelModel KernelHandle) :
    (world.changeKernelManager manager step).sessionManaging? other =
      world.sessionManaging? other := by
  simp only [sessionManaging?, sessionManager?,
    (kernelManagerOnly_change manager step world).sessionManagers]

/-- A change that leaves the list of a manager as it is. -/
theorem lists_change_of_running {manager other : Nat} {id : String}
    {step : SessionManager → Manager.Change SessionModel SessionHandle}
    (same : ∀ held : SessionManager, (step held).1.running = held.running)
    (lists : (world.changeSessionManager manager step).Lists other id) : world.Lists other id := by
  obtain ⟨after, present, model, member, named⟩ := lists
  by_cases here : manager = other
  · subst here
    rw [sessionManaging?_change] at present
    obtain ⟨held, known, rfl⟩ := Option.map_eq_some_iff.mp present
    rw [same held] at member
    exact ⟨held, known, model, member, named⟩
  · rw [sessionManaging?_changeOther here] at present
    exact ⟨after, present, model, member, named⟩

theorem sessionManaging?_runSessionWatchOther {manager other : Nat} (different : manager ≠ other)
    (session terminated property kernel disposed : Nat) :
    (world.runSessionWatch manager session terminated property kernel
      disposed).1.sessionManaging? other = world.sessionManaging? other := by
  have heard (change : SessionObject → SessionObject) :
      (world.modifySession session change).sessionManaging? other =
        world.sessionManaging? other := rfl
  unfold runSessionWatch
  split
  · rfl
  · simp only [apply_ite Prod.fst, apply_ite (sessionManaging? other),
      sessionManaging?_changeOther different, heard, ite_self]

theorem sessionManaging?_registerKernel (manager kernel other : Nat) :
    (world.registerKernel manager kernel).sessionManaging? other =
      world.sessionManaging? other := by
  cases known : world.kernelManager? manager with
  | none => simp only [registerKernel, known]
  | some managing =>
      cases present : world.kernel? kernel with
      | none => simp only [registerKernel, known, present]
      | some object =>
          simp only [sessionManaging?, sessionManager?,
            (kernelManagerOnly_register known present).sessionManagers]

theorem Lists.of_same {after : World} {manager : Nat} {id : String}
    (lists : after.Lists manager id)
    (same : after.sessionManaging? manager = world.sessionManaging? manager) :
    world.Lists manager id := by
  rw [Lists, ← same]
  exact lists

/-- A list of kernels is none of sessions. -/
theorem lists_applyKernels {number manager : Nat} {id : String} {listing : Listing}
    (lists : (world.applyListing (.kernels number) listing).Lists manager id) :
    world.Lists manager id := by
  cases listing with
  | kernels models =>
      rw [applyListing] at lists
      exact lists.of_same (sessionManaging?_changeKernelManager number manager _)
  | sessions models => exact lists

/-- A list of sessions is that of a manager, unless it is disposed. -/
theorem lists_applySessions {number manager : Nat} {id : String} {listing : Listing}
    (lists : (world.applyListing (.sessions number) listing).Lists manager id) :
    world.Lists manager id ∨ number = manager ∧
      ∃ models, listing = .sessions models ∧ ∃ model ∈ models, model.id = id := by
  cases listing with
  | kernels models => exact .inl lists
  | sessions models =>
      rw [applyListing] at lists
      by_cases here : number = manager
      · subst here
        obtain ⟨later, present, model, member, named⟩ := lists
        rw [sessionManaging?_change] at present
        obtain ⟨held, known, rfl⟩ := Option.map_eq_some_iff.mp present
        cases kind : held.isDisposed with
        | true =>
            rw [Manager.applyRunning_of_isDisposed kind] at member
            exact .inl ⟨held, known, model, member, named⟩
        | false =>
            rw [Manager.applyRunning_running kind] at member
            exact .inr ⟨rfl, models, rfl, model, member, named⟩
      · exact .inl (lists.of_same (sessionManaging?_changeOther here _))

/-- To register a session brings it into the list. -/
theorem lists_registerSession {number session manager : Nat} {id : String}
    (lists : (world.registerSession number session).Lists manager id) :
    world.Lists manager id ∨ number = manager ∧
      ∃ object, world.session? session = some object ∧ object.session.model.id = id := by
  cases known : world.sessionManager? number with
  | none =>
      simp only [registerSession, known] at lists
      exact .inl lists
  | some managing =>
      cases present : world.session? session with
      | none =>
          simp only [registerSession, known, present] at lists
          exact .inl lists
      | some object =>
          have registered : (world.registerSession number session).Lists manager id ↔
              (world.changeSessionManager number (SessionManager.register
                ⟨session, object.session.model.id⟩ object.session.model)).Lists manager id := by
            simp only [Lists, sessionManaging?, sessionManager?,
              (sessionManagerOnly_register known present).sessionManagers,
              (sessionManagerOnly_change number (SessionManager.register
                ⟨session, object.session.model.id⟩ object.session.model) world).sessionManagers]
          rw [registered] at lists
          by_cases here : number = manager
          · subst here
            obtain ⟨later, there, lists⟩ := lists
            rw [sessionManaging?_change] at there
            obtain ⟨held, same, rfl⟩ := Option.map_eq_some_iff.mp there
            rcases SessionManager.lists_register lists with before | named
            · exact .inl ⟨held, same, before⟩
            · exact .inr ⟨rfl, object, rfl, named⟩
          · exact .inl (lists.of_same (sessionManaging?_changeOther here _))

end World

/-- What brings a session into the list of a manager in one step is a list of the server, a
connection to it or the task that watches one. -/
theorem Step.brings {start next : World} {manager : Nat} {id : String} (step : Step start next)
    {held : SessionManager} (known : start.sessionManaging? manager = some held)
    (absent : ¬start.Lists manager id) (lists : next.Lists manager id) :
    World.Brings manager id start next := by
  cases step with
  | minor proceeds =>
      refine absurd ?_ absent
      obtain ⟨object, there, rfl⟩ := Option.map_eq_some_iff.mp known
      obtain ⟨after, present, becomes⟩ := proceeds.sessionManagers.kept manager object there
      obtain ⟨later, same, model, member, named⟩ := lists
      obtain ⟨other, found, rfl⟩ := Option.map_eq_some_iff.mp same
      cases present.symm.trans found
      exact ⟨_, known, model, becomes.running_subset member, named⟩
  | listed target listing =>
      cases target with
      | kernels number => exact absurd (World.lists_applyKernels lists) absent
      | sessions number =>
          rcases World.lists_applySessions lists with before | ⟨rfl, models, rfl, named⟩
          · exact absurd before absent
          · exact .listed models named
  | registeredKernel target kernel =>
      refine absurd (lists.of_same ?_) absent
      exact World.sessionManaging?_registerKernel target kernel manager
  | registeredSession target session =>
      rcases World.lists_registerSession lists with before | ⟨rfl, object, present, named⟩
      · exact absurd before absent
      · exact .registered present named
  | watched target session terminated property kernel disposed =>
      by_cases here : target = manager
      · subst here
        cases present : start.session? session with
        | none =>
            rw [World.runSessionWatch, present] at lists
            exact absurd lists absent
        | some object =>
            rcases (World.lists_runSessionWatch_iff present id).mp lists with
              ⟨revives, named⟩ | ⟨before, -⟩
            · exact .watched disposed present named revives
            · exact absurd before absent
      · refine absurd (lists.of_same ?_) absent
        exact World.sessionManaging?_runSessionWatchOther here session terminated property kernel
          disposed
  | refreshFailed target what error =>
      refine absurd ?_ absent
      cases target with
      | kernels number => exact lists.of_same (World.sessionManaging?_changeKernelManager _ _ _)
      | sessions number =>
          refine World.lists_change_of_running (fun held => ?_) lists
          simp only [World.reportFailure]
          rw [Manager.reportFailure_eq]
  | loadFailed target what error =>
      refine absurd ?_ absent
      cases target with
      | kernels number => exact lists.of_same (World.sessionManaging?_changeKernelManager _ _ _)
      | sessions number =>
          refine World.lists_change_of_running (fun held => ?_) lists
          simp only [World.reportInitialFailure]
          rw [Manager.reportInitialFailure_eq]

namespace World

variable {ended later : World}

/-- What becomes of a session that has ended. Its model stays, and what the task that watches it has
not been told of yet was waiting when it ended. A run of that task brings the session into the list
exactly if such a change still waits; without one the session is in the list afterwards only if it
was before and the task was not told that it was shut down.

Once a session is not in the list of a manager, it is brought back by nothing but a list of the
server that has it, a connection to it, or such a run. -/
theorem ended_session_returns_iff {session : Nat} {object : SessionObject}
    (present : ended.session? session = some object) (hasEnded : object.session.isDisposed = true)
    (steps : Steps ended later) :
    ∃ after, later.session? session = some after ∧ object.Rests after ∧
      (∀ manager terminated property kernel disposed,
        (later.runSessionWatch manager session terminated property kernel disposed).1.Lists
            manager object.session.model.id ↔
          later.Revives manager session terminated property kernel ∨
            later.Lists manager object.session.model.id ∧
              ¬later.Removes manager session terminated) ∧
      (∀ manager terminated property kernel,
        later.Revives manager session terminated property kernel →
          object.property.waiting property ≠ ([], 0) ∨ object.kernel.waiting kernel ≠ ([], 0)) ∧
      ∀ manager held, ended.sessionManaging? manager = some held →
        ¬held.Lists object.session.model.id →
        later.Lists manager object.session.model.id →
        ∃ start next, Steps ended start ∧ Brings manager object.session.model.id start next ∧
          Steps next later := by
  obtain ⟨after, there, becomes⟩ := steps.proceeds.sessions.kept session object present
  have rests := becomes.rests hasEnded
  refine ⟨after, there, rests, ?_, ?_, ?_⟩
  · intro manager terminated property kernel disposed
    rw [lists_runSessionWatch_iff there, rests.model]
    simp
  · rintro manager terminated property kernel ⟨-, other, found, -, -, waiting⟩
    cases there.symm.trans found
    refine waiting.imp (fun changed none => ?_) fun changed none => ?_
    · exact changed ((rests.property property).elim (fun same => same.trans none) id)
    · exact changed ((rests.kernel kernel).elim (fun same => same.trans none) id)
  · intro manager held known absent lists
    have missing : ¬ended.Lists manager object.session.model.id := by
      rintro ⟨other, same, named⟩
      cases known.symm.trans same
      exact absent named
    -- Of all steps only the one counts in which the session comes into the list.
    let IsMissing (world : World) : Prop := ¬world.Lists manager object.session.model.id
    have brought : ¬IsMissing later := not_not_intro lists
    obtain ⟨start, next, begins, step, goesOn, before, brought⟩ :=
      steps.exists_step missing brought
    have still : ∃ held, start.sessionManaging? manager = some held := by
      obtain ⟨managing, there, -⟩ := Option.map_eq_some_iff.mp known
      obtain ⟨later, kept, -⟩ := begins.proceeds.sessionManagers.kept manager managing there
      exact ⟨later.manager, by rw [sessionManaging?, sessionManager?, kept]; rfl⟩
    obtain ⟨held, known⟩ := still
    exact ⟨start, next, begins, step.brings known before (not_not.mp brought), goesOn⟩

/-- A session at a path. -/
def sessionAt (path : String) : SessionModel := ⟨"s", path, "", "notebook", none⟩

/-- A manager that was asked to connect to a session. -/
def connectedToSession : World :=
  scripted [
    ⟨.createManager "m" .sessions ⟨.off, .usual⟩ true, false⟩,
    ⟨.connectThrough "m" "c" ⟨none, some (sessionAt "a")⟩, false⟩]

/-- The session was moved and then left out of a list of the server, before the task that watches it
had its turn. -/
def movedAndGone : World :=
  (connectedToSession.updateSession 0 (sessionAt "b")).applyListing (.sessions 0) (.sessions [])

theorem arises_movedAndGone : movedAndGone.Arises := by
  have moved : Steps connectedToSession (connectedToSession.updateSession 0 (sessionAt "b")) :=
    steps_updateSession 0 (sessionAt "b")
  exact (arises_scripted _).steps (moved.trans (.step (.listed (.sessions 0) (.sessions []))))

/-- The session has ended and is not in the list, and its watcher, which is ready to go on, puts it
there. -/
theorem exists_watcher_movedAndGone :
    ∃ object held, movedAndGone.session? 0 = some object ∧ object.session.isDisposed = true ∧
      object.session.model.id = "s" ∧ movedAndGone.sessionManaging? 0 = some held ∧
      ¬held.Lists "s" ∧
      ∃ terminated property kernel disposed,
        .watchSession 0 0 terminated property kernel disposed ∈ movedAndGone.ready ∧
        (movedAndGone.runSessionWatch 0 0 terminated property kernel disposed).1.Lists 0 "s" := by
  have ended : (movedAndGone.session? 0).any (fun object =>
      object.session.isDisposed && object.session.model.id == "s") = true := by
    decide +kernel
  have gone : (movedAndGone.sessionManaging? 0).any (fun held => !held.Lists "s") = true := by
    decide +kernel
  have returns : (movedAndGone.ready.any fun task =>
      match task with
      | .watchSession manager session terminated property kernel disposed =>
          manager == 0 && session == 0 && ((movedAndGone.runSessionWatch 0 0 terminated property
            kernel disposed).1.sessionManaging? 0).any fun held => held.Lists "s"
      | _ => false) = true := by
    decide +kernel
  obtain ⟨object, present, ended⟩ := (Option.any_eq_true _ _).mp ended
  obtain ⟨held, known, gone⟩ := (Option.any_eq_true _ _).mp gone
  -- The numbers under which the task has subscribed are those of the task that was found.
  obtain ⟨task, ready, returns⟩ := List.any_eq_true.mp returns
  simp only [Bool.and_eq_true, beq_iff_eq, Bool.not_eq_true', decide_eq_false_iff_not] at ended gone
  refine ⟨object, held, present, ended.1, ended.2, known, gone, ?_⟩
  cases task
  case watchSession manager session terminated property kernel disposed =>
    simp only [Bool.and_eq_true, beq_iff_eq, Option.any_eq_true, decide_eq_true_eq] at returns
    obtain ⟨⟨rfl, rfl⟩, lists⟩ := returns
    exact ⟨terminated, property, kernel, disposed, ready, lists⟩
  all_goals cases returns

/-- The session comes back because it was moved before it ended, which its watcher had not been told
of. -/
theorem ended_session_returns_iff_of_moved :
    movedAndGone.Arises ∧
    ∃ object held, movedAndGone.session? 0 = some object ∧ object.session.isDisposed = true ∧
      movedAndGone.sessionManaging? 0 = some held ∧ ¬held.Lists object.session.model.id ∧
      ∃ terminated property kernel disposed,
        movedAndGone.Revives 0 0 terminated property kernel ∧
        (object.property.waiting property ≠ ([], 0) ∨ object.kernel.waiting kernel ≠ ([], 0)) ∧
        ∃ start next, Steps movedAndGone start ∧ Brings 0 "s" start next ∧
          Steps next (movedAndGone.runSessionWatch 0 0 terminated property kernel disposed).1 := by
  obtain ⟨object, held, present, hasEnded, named, known, gone, watcher⟩ :=
    exists_watcher_movedAndGone
  obtain ⟨terminated, property, kernel, disposed, -, returns⟩ := watcher
  have ran : Steps movedAndGone
      (movedAndGone.runSessionWatch 0 0 terminated property kernel disposed).1 :=
    .step (.watched 0 0 terminated property kernel disposed)
  obtain ⟨-, -, -, iff, waiting, -⟩ :=
    ended_session_returns_iff present hasEnded (.refl movedAndGone)
  obtain ⟨-, -, -, -, -, brought⟩ := ended_session_returns_iff present hasEnded ran
  rw [named] at iff brought
  have revives : movedAndGone.Revives 0 0 terminated property kernel := by
    refine ((iff 0 terminated property kernel disposed).mp returns).resolve_right ?_
    rintro ⟨⟨other, same, lists⟩, -⟩
    cases known.symm.trans same
    exact gone lists
  exact ⟨arises_movedAndGone, object, held, present, hasEnded, known, named ▸ gone, terminated,
    property, kernel, disposed, revives, waiting 0 terminated property kernel revives,
    brought 0 held known gone returns⟩

/-- A session that has ended and left the list is put back by its watcher. -/
theorem watcher_revives_ended_session :
    movedAndGone.Arises ∧ movedAndGone.IsSessionDisposed 0 ∧ ¬movedAndGone.Lists 0 "s" ∧
    ∃ terminated property kernel disposed,
      .watchSession 0 0 terminated property kernel disposed ∈ movedAndGone.ready ∧
      (movedAndGone.runSessionWatch 0 0 terminated property kernel disposed).1.Lists 0 "s" := by
  obtain ⟨object, held, present, hasEnded, -, known, gone, watcher⟩ := exists_watcher_movedAndGone
  refine ⟨arises_movedAndGone, ⟨object, present, hasEnded⟩, ?_, watcher⟩
  rintro ⟨other, same, lists⟩
  cases known.symm.trans same
  exact gone lists

end World

end Simulation

end KernelClient
