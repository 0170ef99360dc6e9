import KernelClient.Proofs.Manager.Readiness
import KernelClient.Proofs.Simulation.LateLists

/-!
# Who settles the readiness of a manager

Every manager of a world is at the end of a run, so it is ready if both of its copies were applied,
and else tells the first failure of its first load. Only the report of a first load that failed sets
an error. A poll or a refresh, whether it succeeds or fails, leaves the readiness as it is unless it
completes both copies. A call that waits for the manager ends with what is settled at that time.
-/

namespace KernelClient

open Manager (Loads Event)

/-- The readiness stays as it is, or both copies have been loaded. -/
def Manager.Loads.Improves (before after : Loads) : Prop :=
  after.readiness = before.readiness ∨ after.readiness = some (.ok ())

namespace Manager.Loads.Improves

theorem refl (loads : Loads) : loads.Improves loads :=
  .inl rfl

theorem trans {before middle after : Loads} (first : before.Improves middle)
    (second : middle.Improves after) : before.Improves after := by
  rcases second with same | ready
  · rcases first with still | ready
    · exact .inl (same.trans still)
    · exact .inr (same.trans ready)
  · exact .inr ready

end Manager.Loads.Improves

/-- Whether an event reports no failure of a first load. -/
def Manager.Event.FailsNoLoad {Model Connection : Type} (event : Event Model Connection) : Prop :=
  event.loadFailure? = none

theorem Manager.Event.IsCalm.failsNoLoad {Model Connection : Type}
    {event : Event Model Connection} (calm : event.IsCalm) : event.FailsNoLoad := by
  cases event <;> first | exact calm.elim | rfl

/-- Only a first load that failed sets an error. -/
theorem Manager.Event.Settles.stays_or_loaded {Model Connection : Type}
    {event : Event Model Connection} {before after : Option (Except ServiceError Unit)}
    (settles : event.Settles before after) (failsNot : event.FailsNoLoad) :
    after = before ∨ after = some (.ok ()) := by
  cases settles with
  | stays => exact .inl rfl
  | failed first => cases failsNot.symm.trans first
  | loaded => exact .inr rfl

namespace Simulation

namespace ManagerObject

variable {Model Connection : Type} [DecidableEq Model] [Resource Model] [Handle Connection]
  {before after : ManagerObject Model Connection}

theorem Step.improves (step : before.Step Event.FailsNoLoad after) :
    before.manager.loads.Improves after.manager.loads := by
  cases step with
  | event event failsNot =>
      rw [take_manager]
      exact (event.settles before.manager).stays_or_loaded failsNot
  | heard heard => exact heard.manager ▸ .refl _
  | closed => exact .inl rfl

theorem Becomes.improves (becomes : before.Becomes Event.FailsNoLoad after) :
    before.manager.loads.Improves after.manager.loads := by
  induction becomes with
  | refl => exact .refl _
  | tail _ step ih => exact ih.trans step.improves

end ManagerObject

namespace World

variable {world after : World} {id : ManagerId}

/-- What a manager of the world knows of its loads. -/
def loads? (id : ManagerId) (world : World) : Option Loads :=
  match id with
  | .kernels number => (world.kernelManager? number).map fun object => object.manager.loads
  | .sessions number => (world.sessionManager? number).map fun object => object.manager.loads

/-- Nobody sets an error for those who wait for a manager. -/
def Improves (before after : World) : Prop :=
  ∀ id loads, before.loads? id = some loads →
    ∃ next, after.loads? id = some next ∧ loads.Improves next

namespace Improves

theorem refl (world : World) : Improves world world :=
  fun _ loads known => ⟨loads, known, .refl loads⟩

theorem trans {before middle after : World} (first : Improves before middle)
    (second : Improves middle after) : Improves before after := by
  intro id loads known
  obtain ⟨between, there, earlier⟩ := first id loads known
  obtain ⟨next, present, later⟩ := second id between there
  exact ⟨next, present, earlier.trans later⟩

theorem ite {condition : Prop} [Decidable condition] {before yes no : World}
    (ifTrue : Improves before yes) (ifFalse : Improves before no) :
    Improves before (if condition then yes else no) := by
  split
  · exact ifTrue
  · exact ifFalse

theorem of_proceeds (proceeds : Proceeds Event.FailsNoLoad world after) :
    Improves world after := by
  intro id loads known
  cases id with
  | kernels number =>
      obtain ⟨object, there, rfl⟩ := Option.map_eq_some_iff.mp known
      obtain ⟨later, present, becomes⟩ := proceeds.kernelManagers.kept number object there
      exact ⟨_, congrArg (Option.map _) present, becomes.improves⟩
  | sessions number =>
      obtain ⟨object, there, rfl⟩ := Option.map_eq_some_iff.mp known
      obtain ⟨later, present, becomes⟩ := proceeds.sessionManagers.kept number object there
      exact ⟨_, congrArg (Option.map _) present, becomes.improves⟩

theorem of_calm (proceeds : Proceeds Event.IsCalm world after) : Improves world after :=
  of_proceeds (proceeds.mono fun _ calm => calm.failsNoLoad)

end Improves

theorem Aside.loads? (aside : Aside world after) (id : ManagerId) :
    after.loads? id = world.loads? id := by
  cases id with
  | kernels number => rw [World.loads?, kernelManager?, aside.kernelManagers]; rfl
  | sessions number => rw [World.loads?, sessionManager?, aside.sessionManagers]; rfl

theorem Aside.improves (aside : Aside world after) : Improves world after :=
  fun id loads known => ⟨loads, (aside.loads? id).trans known, .refl loads⟩

/-- A report to one manager leaves what others know of their loads. -/
theorem loads?_changeOther {other : ManagerId} (different : other ≠ id) {change : AnyChange} :
    (world.changeManager other change).loads? id = world.loads? id := by
  cases other with
  | kernels changed =>
      cases id with
      | kernels number =>
          have elsewhere : changed ≠ number := fun same => different (by rw [same])
          simp only [loads?, changeManager, kernelManager?_changeOther elsewhere]
      | sessions number =>
          simp only [loads?, changeManager, sessionManager?,
            (kernelManagerOnly_change changed change.kernels world).sessionManagers]
  | sessions changed =>
      cases id with
      | kernels number =>
          simp only [loads?, changeManager, kernelManager?,
            (sessionManagerOnly_change changed change.sessions world).kernelManagers]
      | sessions number =>
          have elsewhere : changed ≠ number := fun same => different (by rw [same])
          simp only [loads?, changeManager, sessionManager?_changeOther elsewhere]

/-- What a manager knows of its loads after a change of it, however the change is written. -/
theorem loads?_changeManager {loads next : Loads} (known : world.loads? id = some loads)
    {change : AnyChange}
    (kernels : ∀ manager, manager.loads = loads → (change.kernels manager).1.loads = next)
    (sessions : ∀ manager, manager.loads = loads → (change.sessions manager).1.loads = next) :
    (world.changeManager id change).loads? id = some next := by
  cases id with
  | kernels number =>
      obtain ⟨object, there, same⟩ := Option.map_eq_some_iff.mp known
      have changed := kernels object.manager same
      simp only [loads?, changeManager, kernelManager?_change there, Option.map_some,
        ManagerObject.take_manager, changed]
  | sessions number =>
      obtain ⟨object, there, same⟩ := Option.map_eq_some_iff.mp known
      have changed := sessions object.manager same
      simp only [loads?, changeManager, sessionManager?_change there, Option.map_some,
        ManagerObject.take_manager, changed]

/-- The failure of a poll is not told to those who wait for a manager. -/
theorem loads?_reportFailure (reported : ManagerId) (what : String) (error : ServiceError)
    (id : ManagerId) :
    (world.changeManager reported (reportFailure what error)).loads? id = world.loads? id := by
  by_cases here : reported = id
  · subst here
    cases known : world.loads? reported with
    | some loads =>
        exact loads?_changeManager known
          (fun manager same => (Manager.loads_reportFailure what error manager).trans same)
          (fun manager same => (Manager.loads_reportFailure what error manager).trans same)
    | none =>
        cases reported with
        | kernels number =>
            have absent := Option.map_eq_none_iff.mp known
            rw [changeManager, changeKernelManager, absent]
            exact known
        | sessions number =>
            have absent := Option.map_eq_none_iff.mp known
            rw [changeManager, changeSessionManager, absent]
            exact known
  · exact loads?_changeOther here

/-- The failure of a first load is told unless something was told before. -/
theorem loads?_reportInitialFailure {loads : Loads} (known : world.loads? id = some loads)
    (what : String) (error : ServiceError) :
    (world.changeManager id (reportInitialFailure what error)).loads? id =
      some { loads with
        readiness :=
          loads.readiness.or (if error.isDisposed then none else some (.error error)) } := by
  refine loads?_changeManager known ?_ ?_
  all_goals
    rintro manager rfl
    exact Manager.loads_reportInitialFailure what error manager

/-- The load of a copy can only complete what a manager has loaded, and if it fails it changes
nothing. -/
structure Refreshes (world : World) (outcome : Refresh × World) : Prop where
  improves : Improves world outcome.2
  failed : ∀ error, outcome.1.result? = some (.error error) → Aside world outcome.2

theorem Refreshes.of_aside {outcome : Refresh × World} (aside : Aside world outcome.2) :
    Refreshes world outcome :=
  ⟨aside.improves, fun _ _ => aside⟩

theorem Refreshes.later {middle : World} {outcome : Refresh × World} (aside : Aside world middle)
    (refreshes : Refreshes middle outcome) : Refreshes world outcome :=
  ⟨aside.improves.trans refreshes.improves, fun error failed =>
    aside.trans (refreshes.failed error failed)⟩

theorem improves_applySpecs (id : ManagerId) (specs : KernelSpecs) :
    Improves world (world.changeManager id (applySpecs specs)) := by
  cases id with
  | kernels number =>
      exact .of_calm
        (proceeds_kernelEvent number (.specsArrived specs) trivial (by simp) fun _ _ => rfl)
  | sessions number =>
      exact .of_calm
        (proceeds_sessionEvent number (.specsArrived specs) trivial (by simp) fun _ _ => rfl)

theorem refreshes_checkRefresh (id : ManagerId) (refresh : Refresh) :
    Refreshes world (world.checkRefresh id refresh) := by
  cases refresh with
  | running slot =>
      have checked := aside_check slot world
      simp only [checkRefresh]
      split
      case h_1 listing _ =>
        refine ⟨checked.improves.trans (.of_calm (proceeds_applyListing id listing)), ?_⟩
        intro error failed
        cases failed
      all_goals exact .of_aside checked
  | specs slot =>
      have checked := aside_check slot world
      simp only [checkRefresh]
      split
      case h_1 specs _ =>
        refine ⟨checked.improves.trans (improves_applySpecs id specs), ?_⟩
        intro error failed
        cases failed
      all_goals exact .of_aside checked
  | done result => exact .of_aside (.refl world)

theorem refreshes_beginRefresh (id : ManagerId) (copy : Copy) :
    Refreshes world (world.beginRefresh id copy) := by
  unfold beginRefresh
  split
  case h_1 view _ =>
    split
    · exact .of_aside (.refl world)
    · cases copy with
      | running => exact .later (aside_ask _ world) (refreshes_checkRefresh id _)
      | specs => exact .later (aside_ask _ world) (refreshes_checkRefresh id _)
  case h_2 => exact .of_aside (.refl world)

theorem improves_afterPoll (id : ManagerId) (copy : Copy) (interval : Interval)
    (refresh : Refresh) : Improves world (world.afterPoll id copy interval refresh).2 := by
  unfold afterPoll
  split
  · exact .refl world
  · exact .refl world
  · exact fun other loads known =>
      ⟨loads, (loads?_reportFailure id _ _ other).trans known, .refl loads⟩

theorem improves_pollTick (id : ManagerId) (copy : Copy) (interval : Interval) :
    Improves world (world.pollTick id copy interval).2 := by
  unfold pollTick
  simp only [apply_ite Prod.snd]
  refine .ite ?_ (.refl world)
  exact (refreshes_beginRefresh id copy).improves.trans (improves_afterPoll id copy _ _)

theorem improves_awaitTick (id : ManagerId) (copy : Copy) (interval : Interval) :
    Improves world (world.awaitTick id copy interval).2 := by
  unfold awaitTick
  simp only [apply_ite Prod.snd]
  have waits : Aside world { world with nextTimer := world.nextTimer + 1 } :=
    ⟨⟨rfl, rfl, rfl, rfl⟩, rfl⟩
  exact .ite (.refl world) (.ite (improves_pollTick id copy interval) waits.improves)

theorem improves_pollTurn (id : ManagerId) (copy : Copy) (period : Nat) (wait : PollWait) :
    Improves world (world.pollTurn id copy period wait).2 := by
  unfold pollTurn
  split
  · exact improves_awaitTick id copy _
  · exact improves_awaitTick id copy _
  · simp only [apply_ite Prod.snd]
    exact .ite (.refl world) (.ite (improves_pollTick id copy _) (.refl world))
  · exact (refreshes_checkRefresh id _).improves.trans (improves_afterPoll id copy _ _)

theorem improves_runPoll (id : ManagerId) (copy : Copy) (period : Nat) (wait : PollWait) :
    Improves world (world.runPoll id copy period wait).2 := by
  unfold runPoll
  -- Each turn starts from the world that the one before has left.
  induction budget generalizing wait world with
  | zero => exact .refl world
  | succ budget ih =>
      have turned : Improves world (world.pollTurn id copy period wait).2 :=
        improves_pollTurn id copy period wait
      unfold goOn
      split
      case h_1 next after taken =>
        rw [taken] at turned
        exact turned.trans (ih next)
      case h_2 next after taken =>
        rw [taken] at turned
        exact turned
      case h_3 after taken =>
        rw [taken] at turned
        exact turned

/-- A poll that fails is reported, but not to those who wait for the manager. -/
theorem loads?_pollTurn_of_failed {asker : ManagerId} {refresh : Refresh} {error : ServiceError}
    (failed : (world.checkRefresh asker refresh).1.result? = some (.error error)) (copy : Copy)
    (period : Nat) (interval : Interval) (id : ManagerId) :
    (world.pollTurn asker copy period (.refreshing interval refresh)).2.loads? id =
      world.loads? id := by
  have checks : Refreshes world (world.checkRefresh asker refresh) :=
    refreshes_checkRefresh asker refresh
  simp only [pollTurn, afterPoll, failed, loads?_reportFailure]
  exact (checks.failed error failed).loads? id

/-- Whether a call is one that loads a list or kernelspecs again. -/
def isRefresh : CallStage → Bool
  | .begin (.refresh _ _) | .begin (.find _ _) | .refreshing _ _ | .finding _ _ _ => true
  | _ => false

/-- A call that loads a copy again can only complete what a manager has loaded, and if it fails it
changes nothing. -/
structure Reloads (world : World) (outcome : Progress × World) : Prop where
  improves : Improves world outcome.2
  failed : ∀ error, outcome.1 = .finished (.error error) → Aside world outcome.2

theorem Refreshes.runRefreshing {outcome : Refresh × World} (refreshes : Refreshes world outcome)
    (id : ManagerId) : Reloads world (outcome.2.runRefreshing id outcome.1) := by
  unfold World.runRefreshing
  cases loaded : outcome.1.result? with
  | none => exact ⟨refreshes.improves, nofun⟩
  | some result =>
      cases result with
      | ok value => exact ⟨refreshes.improves, nofun⟩
      | error error => exact ⟨refreshes.improves, fun _ _ => refreshes.failed error loaded⟩

theorem Refreshes.runFinding {outcome : Refresh × World} (refreshes : Refreshes world outcome)
    (id : ManagerId) (wanted : Wanted) :
    Reloads world (outcome.2.runFinding id wanted outcome.1) := by
  unfold World.runFinding
  cases loaded : outcome.1.result? with
  | none => exact ⟨refreshes.improves, nofun⟩
  | some result =>
      cases result with
      | ok value => exact ⟨refreshes.improves, nofun⟩
      | error error => exact ⟨refreshes.improves, fun _ _ => refreshes.failed error loaded⟩

/-- What is told of a manager is what is settled at that time, or that it was disposed. -/
theorem disposed_or_settled {told : Except ServiceError Unit}
    (known : (world.manager? id).bind ManagerView.outcome = some told) :
    told = .error .disposed ∨
      ∃ loads, world.loads? id = some loads ∧ loads.readiness = some told := by
  obtain ⟨view, there, answer⟩ := Option.bind_eq_some_iff.mp known
  cases id with
  | kernels number =>
      obtain ⟨object, present, rfl⟩ := Option.map_eq_some_iff.mp there
      refine (Manager.readyOutcome?_eq answer).imp_right fun settled => ?_
      exact ⟨object.manager.loads, congrArg (Option.map _) present, settled⟩
  | sessions number =>
      obtain ⟨object, present, rfl⟩ := Option.map_eq_some_iff.mp there
      refine (Manager.readyOutcome?_eq answer).imp_right fun settled => ?_
      exact ⟨object.manager.loads, congrArg (Option.map _) present, settled⟩

/-- A call that waits for a manager ends with what is settled at that time, or because the manager
was disposed. -/
theorem runAwaitingReady_finished {outcome : CallOutcome}
    (finished : world.runAwaitingReady id = (.finished outcome, after)) :
    outcome = .error .disposed ∨ ∃ loads result, world.loads? id = some loads ∧
      loads.readiness = some result ∧ outcome = result.map fun () => .nothing := by
  unfold runAwaitingReady at finished
  split at finished
  case h_1 told known =>
    cases finished
    rcases disposed_or_settled known with rfl | ⟨loads, there, settled⟩
    · exact .inl rfl
    · exact .inr ⟨loads, told, there, settled, rfl⟩
  case h_2 => cases finished

theorem reloads_runCall {stage : CallStage} (refreshing : isRefresh stage = true) :
    Reloads world (world.runCall stage) := by
  have still (progress : Progress) : Reloads world (progress, world) :=
    ⟨.refl world, fun _ _ => .refl world⟩
  cases stage with
  | begin call =>
      cases call with
      | refresh id copy => exact (refreshes_beginRefresh id copy).runRefreshing id
      | find id wanted =>
          have found : Reloads world (world.beginFinding id wanted) := by
            unfold beginFinding
            split
            · exact still _
            · exact (refreshes_beginRefresh id .running).runFinding id wanted
          cases id with
          | kernels number =>
              cases wanted with
              | id => exact found
              | path => exact still _
          | sessions number => exact found
      | _ => cases refreshing
  | refreshing id refresh => exact (refreshes_checkRefresh id refresh).runRefreshing id
  | finding id wanted refresh => exact (refreshes_checkRefresh id refresh).runFinding id wanted
  | _ => cases refreshing

end World

/-- How a step changes what is told to those who wait for a manager. -/
theorem Step.settles {world after : World} {id : ManagerId} {loads : Loads}
    (step : Step world after) (known : world.loads? id = some loads) :
    ∃ next, after.loads? id = some next ∧ (loads.Improves next ∨
      ∃ what error, error.isDisposed = false ∧ loads.readiness = none ∧
        next.readiness = some (.error error) ∧
        after = world.changeManager id (World.reportInitialFailure what error)) := by
  rcases step.calm_or_report with calm | ⟨reported, what, error, rfl | rfl⟩
  · obtain ⟨next, present, improves⟩ := World.Improves.of_calm calm id loads known
    exact ⟨next, present, .inl improves⟩
  · exact ⟨loads, (World.loads?_reportFailure reported what error id).trans known,
      .inl (.refl loads)⟩
  · by_cases here : reported = id
    · subst here
      refine ⟨_, World.loads?_reportInitialFailure known what error, ?_⟩
      cases settled : loads.readiness with
      | some outcome => exact .inl (.inl settled.symm)
      | none =>
          cases kind : error.isDisposed with
          | true => exact .inl (.inl settled.symm)
          | false => exact .inr ⟨what, error, kind, rfl, rfl, rfl⟩
    · exact ⟨loads, (World.loads?_changeOther here).trans known, .inl (.refl loads)⟩

/-- Who settles the readiness of the managers of a world. All managers are at the end of runs. Only
the report of a first load that failed sets an error, and only if nothing was settled before. Polls
and calls that load a copy again set none, whether or not they fail. A call that waits for a manager
ends with what is settled at that time, or because the manager was disposed. -/
structure World.SettlesReadiness (world : World) : Prop where
  kernelManagers : ∀ object ∈ world.kernelManagers,
    ∃ events, object.manager = (Manager.create.run events).1
  sessionManagers : ∀ object ∈ world.sessionManagers,
    ∃ events, object.manager = (Manager.create.run events).1
  complete : ∀ id loads, world.loads? id = some loads →
    (loads.readiness = some (.ok ()) ↔ loads.isComplete = true)
  steps : ∀ after, Step world after → ∀ id loads, world.loads? id = some loads →
    ∃ next, after.loads? id = some next ∧ (loads.Improves next ∨
      ∃ what error, error.isDisposed = false ∧ loads.readiness = none ∧
        next.readiness = some (.error error) ∧
        after = world.changeManager id (World.reportInitialFailure what error))
  polls : ∀ id copy period wait, world.Improves (world.runPoll id copy period wait).2
  failedPolls : ∀ asker copy period interval refresh error,
    (world.checkRefresh asker refresh).1.result? = some (.error error) → ∀ id,
      (world.pollTurn asker copy period (.refreshing interval refresh)).2.loads? id =
        world.loads? id
  refreshes : ∀ stage, World.isRefresh stage = true → world.Improves (world.runCall stage).2
  failedRefreshes : ∀ stage, World.isRefresh stage = true → ∀ error after,
    world.runCall stage = (.finished (.error error), after) → ∀ id,
      after.loads? id = world.loads? id
  ready : ∀ id stage, stage = .begin (.ready id) ∨ stage = .awaitingReady id →
    ∀ outcome after, world.runCall stage = (.finished outcome, after) →
      outcome = .error .disposed ∨ ∃ loads result, world.loads? id = some loads ∧
        loads.readiness = some result ∧ outcome = result.map fun () => .nothing

/-- A manager is ready if, and only if, it has loaded both copies. -/
theorem World.Arises.loads_complete {world : World} (arises : world.Arises) {id : ManagerId}
    {loads : Loads} (known : world.loads? id = some loads) :
    loads.readiness = some (.ok ()) ↔ loads.isComplete = true := by
  cases id with
  | kernels number =>
      obtain ⟨object, there, rfl⟩ := Option.map_eq_some_iff.mp known
      obtain ⟨events, same, -⟩ :=
        arises.reachable.managed.kernels object (List.mem_of_getElem? there)
      rw [same]
      exact Manager.loads_run_complete events
  | sessions number =>
      obtain ⟨object, there, rfl⟩ := Option.map_eq_some_iff.mp known
      obtain ⟨events, same, -⟩ :=
        arises.reachable.managed.sessions object (List.mem_of_getElem? there)
      rw [same]
      exact Manager.loads_run_complete events

theorem World.Arises.settlesReadiness {world : World} (arises : world.Arises) :
    world.SettlesReadiness where
  kernelManagers object member := by
    obtain ⟨events, same, -⟩ := arises.reachable.managed.kernels object member
    exact ⟨events, same⟩
  sessionManagers object member := by
    obtain ⟨events, same, -⟩ := arises.reachable.managed.sessions object member
    exact ⟨events, same⟩
  complete _ _ known := arises.loads_complete known
  steps _ step _ _ known := step.settles known
  polls := World.improves_runPoll
  failedPolls _ copy period interval _ _ failed :=
    World.loads?_pollTurn_of_failed failed copy period interval
  refreshes _ refreshing := (World.reloads_runCall refreshing).improves
  failedRefreshes stage refreshing error after finished id := by
    have reloads : World.Reloads world (world.runCall stage) := World.reloads_runCall refreshing
    rw [finished] at reloads
    exact (reloads.failed error rfl).loads? id
  ready _ stage waits outcome after finished := by
    rcases waits with rfl | rfl <;> exact World.runAwaitingReady_finished finished

/-- In every run of a manager of either kind the readiness is settled by what was applied and by the
first failure of a first load, and in every world that arises by nothing else. -/
theorem readiness_is_settled :
    (∀ events : List (Manager.Event KernelModel KernelHandle), Manager.SettledBy events) ∧
      (∀ events : List (Manager.Event SessionModel SessionHandle), Manager.SettledBy events) ∧
      ∀ world : World, world.Arises → world.SettlesReadiness :=
  ⟨Manager.settledBy, Manager.settledBy, fun _ arises => arises.settlesReadiness⟩

namespace World

/-- A manager of kernels whose first load found no kernelspecs. -/
def loadedInPart : World :=
  scripted [
    answering .get "/api/kernels" 200 "[]" 0,
    answering .get "/api/kernelspecs" 500 "" 0,
    ⟨.createManager "m" .kernels ⟨.off, .usual⟩ true, false⟩]

/-- A call that waits for the manager ends with the failure of the first load. -/
theorem ready_loadedInPart :
    ∃ error after, error.isDisposed = false ∧
      loadedInPart.runCall (.begin (.ready (.kernels 0))) = (.finished (.error error), after) := by
  have evaluated : (match (loadedInPart.runCall (.begin (.ready (.kernels 0)))).1 with
      | .finished (.error error) => !error.isDisposed
      | _ => false) = true := by decide +kernel
  split at evaluated
  case h_1 error finished =>
    exact ⟨error, _, by simpa using evaluated, Prod.ext finished rfl⟩
  case h_2 => cases evaluated

/-- What such a call ends with is the readiness at that time. -/
theorem readiness_of_loadedInPart :
    loadedInPart.Arises ∧ ∃ error loads, error.isDisposed = false ∧
      loadedInPart.loads? (.kernels 0) = some loads ∧ loads.readiness = some (.error error) := by
  have settles := readiness_is_settled.2.2 loadedInPart (arises_scripted _)
  obtain ⟨error, after, told, finished⟩ := ready_loadedInPart
  refine ⟨arises_scripted _, error, ?_⟩
  rcases settles.ready _ _ (.inl rfl) _ _ finished with
    disposed | ⟨loads, result, known, ready, same⟩
  · cases disposed
    cases told
  · refine ⟨loads, told, known, ?_⟩
    cases result with
    | ok value => cases same
    | error failure =>
        cases same
        exact ready

end World

end Simulation

end KernelClient
