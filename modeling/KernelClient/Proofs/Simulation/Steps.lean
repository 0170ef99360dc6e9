import KernelClient.Proofs.Simulation.Proceeding

/-!
# Steps of a world

What brings a resource into the list of a manager, what a list does and each report of a failure are
steps of their own; whatever else goes on is a minor step. All that tasks and scripts do is composed
of steps, so what can be seen of an object at any time follows from what each kind of step does to
it.
-/

namespace KernelClient

/-- Whether an event neither brings a resource or a connection nor reports a failure. -/
def Manager.Event.IsMinor {Model Connection : Type} : Event Model Connection → Prop
  | .listed _ | .tracked _ | .added _ | .put _ | .loadFailed _ _ | .refreshFailed _ _ => False
  | _ => True

namespace Simulation

/-- One of the steps of which all that goes on in a world is composed. -/
inductive Step : World → World → Prop where
  | minor {before after : World} (proceeds : Proceeds Manager.Event.IsMinor before after) :
      Step before after
  | listed {world : World} (id : ManagerId) (listing : Listing) :
      Step world (world.applyListing id listing)
  | registeredKernel {world : World} (manager kernel : Nat) :
      Step world (world.registerKernel manager kernel)
  | registeredSession {world : World} (manager session : Nat) :
      Step world (world.registerSession manager session)
  | watched {world : World} (manager session terminated property kernel disposed : Nat) :
      Step world (world.runSessionWatch manager session terminated property kernel disposed).1
  | refreshFailed {world : World} (id : ManagerId) (what : String) (error : ServiceError) :
      Step world (world.changeManager id (World.reportFailure what error))
  | loadFailed {world : World} (id : ManagerId) (what : String) (error : ServiceError) :
      Step world (world.changeManager id (World.reportInitialFailure what error))

/-- A step that is no report of a failure. -/
theorem Step.calm_or_report {before after : World} (step : Step before after) :
    Proceeds Manager.Event.IsCalm before after ∨
      ∃ id what error, after = before.changeManager id (World.reportFailure what error) ∨
        after = before.changeManager id (World.reportInitialFailure what error) := by
  cases step with
  | minor proceeds => exact .inl (proceeds.mono fun event minor => by cases event <;> trivial)
  | listed id listing => exact .inl (World.proceeds_applyListing id listing)
  | registeredKernel manager kernel => exact .inl (World.proceeds_registerKernel manager kernel)
  | registeredSession manager session => exact .inl (World.proceeds_registerSession manager session)
  | watched => exact .inl (World.proceeds_runSessionWatch _ _ _ _ _ _)
  | refreshFailed id what error => exact .inr ⟨id, what, error, .inl rfl⟩
  | loadFailed id what error => exact .inr ⟨id, what, error, .inr rfl⟩

theorem Step.proceeds {before after : World} (step : Step before after) :
    Proceeds World.anyEvent before after := by
  rcases step.calm_or_report with calm | ⟨id, what, error, rfl | rfl⟩
  · exact calm.mono fun _ _ => trivial
  · exact World.proceeds_reportFailure id what error
  · exact World.proceeds_reportInitialFailure id what error

/-- What a world can become by steps one after the other. -/
def Steps : World → World → Prop := Relation.ReflTransGen Step

namespace Steps

variable {before middle after : World}

theorem refl (world : World) : Steps world world :=
  Relation.ReflTransGen.refl

theorem trans (first : Steps before middle) (second : Steps middle after) : Steps before after :=
  Relation.ReflTransGen.trans first second

theorem step (step : Step before after) : Steps before after :=
  Relation.ReflTransGen.single step

theorem minor (proceeds : Proceeds Manager.Event.IsMinor before after) : Steps before after :=
  step (.minor proceeds)

theorem aside (same : SameObjects before after) : Steps before after :=
  minor same.proceeds

theorem ite {condition : Prop} [Decidable condition] {yes no : World}
    (ifTrue : Steps before yes) (ifFalse : Steps before no) :
    Steps before (if condition then yes else no) := by
  split
  · exact ifTrue
  · exact ifFalse

theorem proceeds (steps : Steps before after) : Proceeds World.anyEvent before after := by
  induction steps with
  | refl => exact .refl before
  | tail _ step ih => exact ih.trans step.proceeds

theorem evolves (steps : Steps before after) : Evolves before after :=
  steps.proceeds.evolves

/-- What no longer holds at the end was lost in one of the steps. -/
theorem exists_step {Holds : World → Prop} (steps : Steps before after) (first : Holds before)
    (last : ¬Holds after) :
    ∃ start next, Steps before start ∧ Step start next ∧ Steps next after ∧
      Holds start ∧ ¬Holds next := by
  induction steps with
  | refl => exact absurd first last
  | @tail middle after earlier step ih =>
      -- It was lost in the last step, or else before.
      by_cases holds : Holds middle
      · exact ⟨middle, after, earlier, step, .refl after, holds, last⟩
      · obtain ⟨start, next, begins, loses, goesOn, held, lost⟩ := ih holds
        exact ⟨start, next, begins, loses, goesOn.trans (Steps.step step), held, lost⟩

end Steps

namespace World

variable {world : World}

theorem steps_kernelsOnly {after : World} (only : KernelsOnly world after)
    (evolves : Evolves world after) : Steps world after :=
  .minor (only.proceeds evolves)

theorem steps_wake : Steps world world.wake :=
  steps_kernelsOnly (kernelsOnly_wake world) evolves_wake

theorem steps_setClock (time : Nat) : Steps world (world.setClock time) := by
  have set : Steps world { world with clock := time } := .aside ⟨rfl, rfl, rfl, rfl⟩
  exact set.trans steps_wake

theorem steps_modifyKernel {kernel : Nat} {change : KernelObject → KernelObject}
    (continues : ∀ object, world.kernel? kernel = some object →
      object.connection.Continues (change object).connection) :
    Steps world (world.modifyKernel kernel change) :=
  steps_kernelsOnly ⟨rfl, rfl, rfl⟩ (evolves_modifyKernel continues)

theorem steps_applyKernel {kernel : Nat} {change : Connection.Change}
    (continues : ∀ object, world.kernel? kernel = some object →
      object.connection.Continues change.1) :
    Steps world (world.applyKernel kernel change) :=
  steps_kernelsOnly (kernelsOnly_applyKernel kernel change) (evolves_applyKernel continues)

theorem steps_changeKernel {kernel : Nat} {step : Connection → Connection.Change}
    (continues : ∀ connection : Connection, connection.Continues (step connection).1) :
    Steps world (world.changeKernel kernel step) :=
  steps_kernelsOnly (kernelsOnly_changeKernel kernel step) (evolves_changeKernel continues)

theorem steps_connectKernel (model : KernelModel) (options : ConnectionOptions) :
    Steps world (world.connectKernel model options) :=
  steps_kernelsOnly (kernelsOnly_connectKernel model options) (evolves_connectKernel model options)

theorem steps_hearSession {session : Nat} {change : SessionObject → SessionObject}
    (heard : ∀ object, world.session? session = some object → object.Heard (change object)) :
    Steps world (world.modifySession session change) :=
  .minor (proceeds_hearSession heard)

theorem steps_updateSession (session : Nat) (model : SessionModel) :
    Steps world (world.updateSession session model) :=
  .minor (proceeds_updateSession session model)

theorem steps_disposeSession (session : Nat) :
    Steps world (world.changeSession session Session.dispose) :=
  .minor (proceeds_disposeSession session)

theorem steps_shutDownSession (session : Nat) :
    Steps world (world.changeSession session Session.shutDown) :=
  .minor (proceeds_shutDownSession session)

theorem steps_connectSession (model : SessionModel) (options : ConnectionOptions) :
    Steps world (world.connectSession model options) :=
  .minor (proceeds_connectSession model options)

theorem steps_hearKernelManager {manager : Nat}
    {change : ManagerObject KernelModel KernelHandle → ManagerObject KernelModel KernelHandle}
    (heard : ∀ object, world.kernelManager? manager = some object → object.Heard (change object)) :
    Steps world (world.modifyKernelManager manager change) :=
  .minor {
    evolves := evolves_modifyKernelManager fun object known =>
      .of_eq (heard object known).manager
    sessions := .of_eq rfl
    kernelManagers := .modify fun object known => .heard (heard object known)
    sessionManagers := .of_eq rfl }

theorem steps_hearSessionManager {manager : Nat}
    {change : ManagerObject SessionModel SessionHandle → ManagerObject SessionModel SessionHandle}
    (heard : ∀ object, world.sessionManager? manager = some object → object.Heard (change object)) :
    Steps world (world.modifySessionManager manager change) :=
  .minor {
    evolves := evolves_modifySessionManager fun object known =>
      .of_eq (heard object known).manager
    sessions := .of_eq rfl
    kernelManagers := .of_eq rfl
    sessionManagers := .modify fun object known => .heard (heard object known) }

/-- A minor event of a manager, however its change is written. -/
theorem steps_kernelEvent (manager : Nat)
    {step : KernelManager → Manager.Change KernelModel KernelHandle}
    (event : Manager.Event KernelModel KernelHandle) (minor : event.IsMinor)
    (same : ∀ object, world.kernelManager? manager = some object →
      step object.manager = event.change object.manager) :
    Steps world (world.changeKernelManager manager step) :=
  .minor (proceeds_kernelEvent manager event minor
    (fun handle tracks => by rw [tracks] at minor; exact minor) same)

theorem steps_sessionEvent (manager : Nat)
    {step : SessionManager → Manager.Change SessionModel SessionHandle}
    (event : Manager.Event SessionModel SessionHandle) (minor : event.IsMinor)
    (same : ∀ object, world.sessionManager? manager = some object →
      step object.manager = event.change object.manager) :
    Steps world (world.changeSessionManager manager step) :=
  .minor (proceeds_sessionEvent manager event minor
    (fun handle tracks => by rw [tracks] at minor; exact minor) same)

theorem steps_connectThroughKernels {manager : Nat} {model : KernelModel} {connected : World}
    (connects : world.connectThroughKernels manager model = .ok connected) :
    Steps world connected := by
  unfold connectThroughKernels Manager.checkOpen at connects
  split at connects
  · split at connects
    · cases connects
    · obtain rfl := Except.ok.inj connects
      exact (steps_connectKernel model _).trans (.step (.registeredKernel manager _))
  · cases connects

theorem steps_connectThroughSessions {manager : Nat} {model : SessionModel} {connected : World}
    (connects : world.connectThroughSessions manager model = .ok connected) :
    Steps world connected := by
  unfold connectThroughSessions Manager.checkOpen at connects
  split at connects
  · split at connects
    · cases connects
    · obtain rfl := Except.ok.inj connects
      exact (steps_connectSession model _).trans (.step (.registeredSession manager _))
  · cases connects

theorem steps_releaseManagers (holds : Holds) : Steps world (world.releaseManagers holds) := by
  refine .minor ⟨evolves_releaseManagers holds, .of_eq rfl, .mapIdx ?_, .mapIdx ?_⟩
  · intro number object _
    split
    · exact .close object
    · exact .refl object
  · intro number object _
    split
    · exact .close object
    · exact .refl object

theorem steps_releaseSessions (held : List Nat) : Steps world (world.releaseSessions held) := by
  refine .minor ⟨evolves_releaseSessions held, .mapIdx ?_, .of_eq rfl, .of_eq rfl⟩
  intro number object _
  split
  · exact .step .closed
  · exact .refl object

end World

end Simulation

end KernelClient
