import KernelClient.Proofs.Simulation.LateLists

/-!
# Failures that come after the disposal

A first load or a poll that was under way when its manager was disposed goes on until its answers
have arrived. A copy that arrives then is dropped, but a failure is reported all the same, unless it
is the error that says that something was disposed. So what is heard of a disposed manager depends
on how the requests end that were under way.
-/

namespace KernelClient.Simulation

/-- What can be heard of the loads of a manager: how the first one ended, and failures. -/
structure Outlook where
  readiness : Option (Except ServiceError Unit)
  failure : Signal ServiceError

namespace Outlook

/-- What a disposed manager answers to those who ask whether it is ready. -/
def answer (outlook : Outlook) : Except ServiceError Unit :=
  outlook.readiness.getD (.error .disposed)

/-- Whether it answers that it was disposed. -/
def saysDisposed (outlook : Outlook) : Bool :=
  match outlook.answer with
  | .error error => error.isDisposed
  | .ok () => false

/-- Report how a load ended. The failure of a first load settles the readiness unless it was settled
before. -/
def report (isFirst : Bool) (result : Except ServiceError Unit) (outlook : Outlook) : Outlook :=
  match result with
  | .ok () => outlook
  | .error error =>
    if error.isDisposed then outlook
    else {
      readiness := outlook.readiness.or (if isFirst then some (.error error) else none)
      failure := outlook.failure.emit error }

/-- Report how a first load ended, once both of its parts have. -/
def afterLoad (running specs : Option (Except ServiceError Unit)) (outlook : Outlook) : Outlook :=
  match running, specs with
  | some first, some second => (outlook.report true first).report true second
  | _, _ => outlook

/-- Report how a poll ended, once it has. -/
def afterPoll (result : Option (Except ServiceError Unit)) (outlook : Outlook) : Outlook :=
  match result with
  | some result => outlook.report false result
  | none => outlook

/-- Nothing was reported meanwhile. -/
structure Quiet (before after : Outlook) : Prop where
  readiness : after.readiness = before.readiness
  failure : before.failure.Quiet after.failure

theorem Quiet.refl (outlook : Outlook) : outlook.Quiet outlook :=
  ⟨rfl, .refl _⟩

theorem Quiet.trans {before middle after : Outlook} (first : before.Quiet middle)
    (second : middle.Quiet after) : before.Quiet after :=
  ⟨second.readiness.trans first.readiness, first.failure.trans second.failure⟩

end Outlook

namespace ManagerObject

variable {Model Connection : Type} {object after : ManagerObject Model Connection}

def outlook (object : ManagerObject Model Connection) : Outlook :=
  ⟨object.manager.readiness, object.failure⟩

/-- A manager that is disposed and tracks nothing, with what can be heard of its loads. -/
structure Left (outlook : Outlook) (object : ManagerObject Model Connection) : Prop where
  isDisposed : object.manager.isDisposed = true
  connections : object.manager.connections = []
  outlook : object.outlook = outlook

variable {heard : Outlook}

theorem Left.readyOutcome? (left : object.Left heard) :
    object.manager.readyOutcome? = some heard.answer := by
  have readiness : object.manager.readiness = heard.readiness :=
    congrArg Outlook.readiness left.outlook
  rw [Manager.readyOutcome?, readiness, Outlook.answer, left.isDisposed]
  cases heard.readiness <;> rfl

variable [DecidableEq Model] [Resource Model] [Handle Connection]

/-- All that can be heard of an event once a manager is disposed. -/
theorem Left.event (left : object.Left heard) (event : Manager.Event Model Connection) :
    (object.take (event.change object.manager)).Left {
      readiness := heard.readiness.or (event.loadFailure?.map .error)
      failure := event.failure?.toList.foldl Signal.emit heard.failure } := by
  obtain ⟨isDisposed, connections, rfl⟩ := left
  rw [take_of_isDisposed isDisposed connections]
  exact ⟨isDisposed, connections, rfl⟩

theorem Left.loadFailed (left : object.Left heard) (what : String) (error : ServiceError) :
    (object.take (object.manager.reportInitialFailure what error)).Left
      (heard.report true (.error error)) := by
  have told := left.event (.loadFailed what error)
  dsimp only [Manager.Event.change, Manager.Event.loadFailure?, Manager.Event.failure?] at told
  rw [Outlook.report]
  cases kind : error.isDisposed <;> simpa [kind] using told

theorem Left.refreshFailed (left : object.Left heard) (what : String) (error : ServiceError) :
    (object.take (object.manager.reportFailure what error)).Left
      (heard.report false (.error error)) := by
  have told := left.event (.refreshFailed what error)
  dsimp only [Manager.Event.change, Manager.Event.loadFailure?, Manager.Event.failure?] at told
  rw [Outlook.report]
  cases kind : error.isDisposed <;> simpa [kind] using told

/-- Whatever is no report leaves what can be heard of a disposed manager as it is. -/
theorem Left.becomes (left : object.Left heard)
    (becomes : object.Becomes Manager.Event.IsCalm after) :
    ∃ later, after.Left later ∧ heard.Quiet later := by
  induction becomes with
  | refl => exact ⟨heard, left, .refl heard⟩
  | tail _ step ih =>
      obtain ⟨later, there, quiet⟩ := ih
      cases step with
      | event event calm =>
          have silent : event.loadFailure? = none ∧ event.failure? = none := by
            cases event <;> first | exact ⟨rfl, rfl⟩ | exact calm.elim
          have told := there.event event
          rw [silent.1, silent.2, Option.map_none, Option.or_none] at told
          exact ⟨later, told, quiet⟩
      | heard told =>
          obtain ⟨isDisposed, connections, rfl⟩ := there
          have same := congrArg Manager.readiness told.manager
          refine ⟨_, ⟨?_, ?_, rfl⟩, quiet.trans ⟨same, told.failure.quiet⟩⟩
          · rw [told.manager, isDisposed]
          · rw [told.manager, connections]
      | closed =>
          obtain ⟨isDisposed, connections, rfl⟩ := there
          exact ⟨_, ⟨isDisposed, rfl, rfl⟩, quiet.trans ⟨rfl, Signal.quiet_close _⟩⟩

end ManagerObject

/-- How the load of a copy has ended at a time, if it has. -/
def Refresh.resultAt (clock : Nat) : Refresh → Option (Except ServiceError Unit)
  | .running slot => (slot.resultAt clock).map fun result => result.map fun _ => ()
  | .specs slot => (slot.resultAt clock).map fun result => result.map fun _ => ()
  | .done result => some result

namespace World

variable {world later : World} {id : ManagerId} {heard : Outlook}

def outlook? (id : ManagerId) (world : World) : Option Outlook :=
  match id with
  | .kernels number => (world.kernelManager? number).map ManagerObject.outlook
  | .sessions number => (world.sessionManager? number).map ManagerObject.outlook

/-- A manager of the world is disposed and tracks nothing. -/
def Left (id : ManagerId) (heard : Outlook) (world : World) : Prop :=
  match id with
  | .kernels number =>
      ∃ object, world.kernelManager? number = some object ∧ object.Left heard
  | .sessions number =>
      ∃ object, world.sessionManager? number = some object ∧ object.Left heard

namespace Left

theorem outlook? (left : world.Left id heard) : world.outlook? id = some heard := by
  cases id with
  | kernels number | sessions number =>
      obtain ⟨object, known, there⟩ := left
      simp only [World.outlook?, known, Option.map_some, there.outlook]

theorem view (left : world.Left id heard) :
    ∃ view, world.manager? id = some view ∧ view.isDisposed = true ∧ view.isStopped = true ∧
      view.outcome = some heard.answer := by
  cases id with
  | kernels number | sessions number =>
      obtain ⟨object, known, there⟩ := left
      refine ⟨_, by simp only [manager?, known]; rfl, there.isDisposed, ?_, there.readyOutcome?⟩
      simp only [viewOf, ManagerObject.isStopped, there.isDisposed, Bool.true_or]

theorem aside {after : World} (left : world.Left id heard) (aside : Aside world after) :
    after.Left id heard := by
  cases id with
  | kernels number =>
      obtain ⟨object, known, there⟩ := left
      exact ⟨object, by rw [kernelManager?, aside.kernelManagers]; exact known, there⟩
  | sessions number =>
      obtain ⟨object, known, there⟩ := left
      exact ⟨object, by rw [sessionManager?, aside.sessionManagers]; exact known, there⟩

theorem aside_applyListing (left : world.Left id heard) (listing : Listing) :
    Aside world (world.applyListing id listing) := by
  cases id with
  | kernels number =>
      obtain ⟨object, known, there⟩ := left
      cases listing with
      | kernels models =>
          show Aside world (world.changeKernelManager number (Manager.applyRunning models))
          exact aside_changeKernelManager known
            (Manager.applyRunning_of_isDisposed there.isDisposed models)
      | sessions models => exact .refl world
  | sessions number =>
      obtain ⟨object, known, there⟩ := left
      cases listing with
      | kernels models => exact .refl world
      | sessions models =>
          show Aside world (world.changeSessionManager number (Manager.applyRunning models))
          exact aside_changeSessionManager known
            (Manager.applyRunning_of_isDisposed there.isDisposed models)

theorem aside_applySpecs (left : world.Left id heard) (specs : KernelSpecs) :
    Aside world (world.changeManager id (applySpecs specs)) := by
  cases id with
  | kernels number =>
      obtain ⟨object, known, there⟩ := left
      show Aside world (world.changeKernelManager number (Manager.applySpecs specs))
      exact aside_changeKernelManager known (if_pos there.isDisposed)
  | sessions number =>
      obtain ⟨object, known, there⟩ := left
      show Aside world (world.changeSessionManager number (Manager.applySpecs specs))
      exact aside_changeSessionManager known (if_pos there.isDisposed)

/-- A copy that arrives after the disposal is dropped. -/
theorem checkRefresh (left : world.Left id heard) (refresh : Refresh) :
    (world.checkRefresh id refresh).1.result? = refresh.resultAt world.clock ∧
      Aside world (world.checkRefresh id refresh).2 := by
  cases refresh with
  | running slot =>
      have checked := aside_check slot world
      have found := result_check slot world
      simp only [World.checkRefresh, Refresh.resultAt, ← found]
      cases (world.check slot).1 with
      | waiting exchange timer answer => exact ⟨rfl, checked⟩
      | settled result =>
          cases result with
          | ok listing => exact ⟨rfl, checked.trans ((left.aside checked).aside_applyListing _)⟩
          | error error => exact ⟨rfl, checked⟩
  | specs slot =>
      have checked := aside_check slot world
      have found := result_check slot world
      simp only [World.checkRefresh, Refresh.resultAt, ← found]
      cases (world.check slot).1 with
      | waiting exchange timer answer => exact ⟨rfl, checked⟩
      | settled result =>
          cases result with
          | ok specs => exact ⟨rfl, checked.trans ((left.aside checked).aside_applySpecs _)⟩
          | error error => exact ⟨rfl, checked⟩
  | done result => exact ⟨rfl, .refl world⟩

theorem loadFailed (left : world.Left id heard) (what : String) (error : ServiceError) :
    (world.changeManager id (reportInitialFailure what error)).Left id
      (heard.report true (.error error)) := by
  cases id with
  | kernels number =>
      obtain ⟨object, known, there⟩ := left
      exact ⟨_, kernelManager?_change known _, there.loadFailed what error⟩
  | sessions number =>
      obtain ⟨object, known, there⟩ := left
      exact ⟨_, sessionManager?_change known _, there.loadFailed what error⟩

theorem refreshFailed (left : world.Left id heard) (what : String) (error : ServiceError) :
    (world.changeManager id (reportFailure what error)).Left id
      (heard.report false (.error error)) := by
  cases id with
  | kernels number =>
      obtain ⟨object, known, there⟩ := left
      exact ⟨_, kernelManager?_change known _, there.refreshFailed what error⟩
  | sessions number =>
      obtain ⟨object, known, there⟩ := left
      exact ⟨_, sessionManager?_change known _, there.refreshFailed what error⟩

theorem reportLoad (left : world.Left id heard) (copy : Copy) (result : Except ServiceError Unit) :
    (world.reportLoad id copy result).Left id (heard.report true result) := by
  cases result with
  | ok value => exact left
  | error error => exact left.loadFailed _ error

/-- A first load that was under way reports how both of its parts ended once they have. -/
theorem runLoad (left : world.Left id heard) (running specs : Refresh) :
    (world.runLoad id (.loading running specs)).1.Left id
      (heard.afterLoad (running.resultAt world.clock) (specs.resultAt world.clock)) := by
  obtain ⟨first, began⟩ := left.checkRefresh running
  obtain ⟨second, ended⟩ := (left.aside began).checkRefresh specs
  rw [began.clock] at second
  have still := (left.aside began).aside ended
  simp only [World.runLoad, afterLoad, first, second]
  cases running.resultAt world.clock with
  | none => exact still
  | some running =>
      cases specs.resultAt world.clock with
      | none => exact still
      | some specs => exact (still.reportLoad .running running).reportLoad .specs specs

/-- A disposed manager is not polled again. -/
theorem awaitTick (left : world.Left id heard) (copy : Copy) (interval : Interval) :
    world.awaitTick id copy interval = (.over, world) := by
  obtain ⟨view, known, -, stopped, -⟩ := left.view
  simp only [World.awaitTick, isManagerStopped, known, stopped, if_true]

theorem runPoll_of_waits {copy : Copy} {period : Nat} {wait next : PollWait} {after : World}
    (turn : pollTurn id copy period wait world = (.waits next, after)) :
    (world.runPoll id copy period wait).2 = after := by
  rw [World.runPoll, budget, goOn, turn]

/-- A poll that takes one turn and is over in the next one. -/
theorem runPoll_of_goesOn {copy : Copy} {period : Nat} {wait next : PollWait} {after final : World}
    (turn : pollTurn id copy period wait world = (.goesOn next, after))
    (last : pollTurn id copy period next after = (.over, final)) :
    (world.runPoll id copy period wait).2 = final := by
  rw [World.runPoll, budget, goOn, turn]
  dsimp only
  rw [goOn, last]

/-- A poll that was under way reports how it ended, and is the last one. -/
theorem runPoll (left : world.Left id heard) (copy : Copy) (period : Nat) (interval : Interval)
    (refresh : Refresh) :
    (world.runPoll id copy period (.refreshing interval refresh)).2.Left id
      (heard.afterPoll (refresh.resultAt world.clock)) := by
  obtain ⟨result, ended⟩ := left.checkRefresh refresh
  have still := left.aside ended
  have turn : pollTurn id copy period (.refreshing interval refresh) world =
    (world.checkRefresh id refresh).2.afterPoll id copy interval
      (world.checkRefresh id refresh).1 := rfl
  rw [afterPoll, result] at turn
  cases found : refresh.resultAt world.clock with
  | none =>
      rw [found] at turn
      exact (runPoll_of_waits turn) ▸ still
  | some ending =>
      rw [found] at turn
      -- In the next turn the poll finds that the manager has stopped.
      cases ending with
      | ok value => exact (runPoll_of_goesOn turn (still.awaitTick copy interval)) ▸ still
      | error error =>
          have reported := still.refreshFailed
            ((world.checkRefresh id refresh).2.copyName id copy) error
          exact (runPoll_of_goesOn turn (reported.awaitTick copy interval)) ▸ reported

theorem changeOther (left : world.Left id heard) {other : ManagerId} (different : other ≠ id)
    (change : AnyChange) : (world.changeManager other change).Left id heard := by
  cases id with
  | kernels number =>
      obtain ⟨object, known, there⟩ := left
      refine ⟨object, ?_, there⟩
      cases other with
      | kernels changed =>
          have elsewhere : changed ≠ number := fun same => different (by rw [same])
          exact (kernelManager?_changeOther elsewhere change.kernels).trans known
      | sessions changed =>
          rw [kernelManager?, changeManager,
            (sessionManagerOnly_change changed change.sessions world).kernelManagers]
          exact known
  | sessions number =>
      obtain ⟨object, known, there⟩ := left
      refine ⟨object, ?_, there⟩
      cases other with
      | kernels changed =>
          rw [sessionManager?, changeManager,
            (kernelManagerOnly_change changed change.kernels world).sessionManagers]
          exact known
      | sessions changed =>
          have elsewhere : changed ≠ number := fun same => different (by rw [same])
          exact (sessionManager?_changeOther elsewhere change.sessions).trans known

theorem proceeds {after : World} (left : world.Left id heard)
    (proceeds : Proceeds Manager.Event.IsCalm world after) :
    ∃ next, after.Left id next ∧ heard.Quiet next := by
  cases id with
  | kernels number =>
      obtain ⟨object, known, there⟩ := left
      obtain ⟨final, present, becomes⟩ := proceeds.kernelManagers.kept number object known
      obtain ⟨next, still, quiet⟩ := there.becomes becomes
      exact ⟨next, ⟨final, present, still⟩, quiet⟩
  | sessions number =>
      obtain ⟨object, known, there⟩ := left
      obtain ⟨final, present, becomes⟩ := proceeds.sessionManagers.kept number object known
      obtain ⟨next, still, quiet⟩ := there.becomes becomes
      exact ⟨next, ⟨final, present, still⟩, quiet⟩

end Left

/-- A report to a manager of an error that does not say that something was disposed. -/
inductive Reports (id : ManagerId) : World → World → Prop where
  | refreshFailed {world : World} (what : String) (error : ServiceError)
      (told : error.isDisposed = false) :
      Reports id world (world.changeManager id (reportFailure what error))
  | loadFailed {world : World} (what : String) (error : ServiceError)
      (told : error.isDisposed = false) :
      Reports id world (world.changeManager id (reportInitialFailure what error))

/-- Of a disposed manager nothing is heard of in one step unless the step is a report to it. -/
theorem Left.step {after : World} (left : world.Left id heard) (step : Step world after) :
    ∃ next, after.Left id next ∧ (heard.Quiet next ∨ Reports id world after) := by
  rcases step.calm_or_report with calm | ⟨other, what, error, report⟩
  · obtain ⟨next, still, quiet⟩ := left.proceeds calm
    exact ⟨next, still, .inl quiet⟩
  · by_cases here : other = id
    · subst here
      cases kind : error.isDisposed with
      | true =>
          have silent (isFirst : Bool) : heard.report isFirst (.error error) = heard := by
            rw [Outlook.report, if_pos kind]
          refine ⟨heard, ?_, .inl (.refl heard)⟩
          rcases report with rfl | rfl
          · exact silent false ▸ left.refreshFailed what error
          · exact silent true ▸ left.loadFailed what error
      | false =>
          rcases report with rfl | rfl
          · exact ⟨_, left.refreshFailed what error, .inr (.refreshFailed what error kind)⟩
          · exact ⟨_, left.loadFailed what error, .inr (.loadFailed what error kind)⟩
    · rcases report with rfl | rfl
      all_goals exact ⟨heard, left.changeOther here _, .inl (.refl heard)⟩

/-- Nothing is heard of a disposed manager unless there is a report to it. -/
theorem Left.steps (left : world.Left id heard) (steps : Steps world later) :
    ∃ next, later.Left id next ∧ (heard.Quiet next ∨
      ∃ start reported, Steps world start ∧ Reports id start reported ∧ Steps reported later) := by
  induction steps with
  | refl => exact ⟨heard, left, .inl (.refl heard)⟩
  | @tail middle after earlier step ih =>
      obtain ⟨between, there, told⟩ := ih
      obtain ⟨next, still, last⟩ := there.step step
      refine ⟨next, still, ?_⟩
      -- Of several reports the first one is kept.
      rcases told with quiet | ⟨start, reported, begins, reports, goesOn⟩
      · rcases last with silent | reports
        · exact .inl (quiet.trans silent)
        · exact .inr ⟨middle, after, earlier, reports, .refl after⟩
      · exact .inr ⟨start, reported, begins, reports, goesOn.trans (.step step)⟩

/-- A disposed manager tracks nothing. -/
theorem Arises.left (arises : world.Arises) (disposed : world.IsManagerDisposed id) :
    ∃ heard, world.Left id heard := by
  obtain ⟨view, known, isDisposed⟩ := disposed
  cases id with
  | kernels number =>
      obtain ⟨object, there, rfl⟩ := Option.map_eq_some_iff.mp known
      obtain ⟨events, same, -⟩ :=
        arises.reachable.managed.kernels object (List.mem_of_getElem? there)
      have empty := (Manager.closed_run events).empty (same ▸ isDisposed)
      exact ⟨_, object, there, isDisposed, same ▸ empty, rfl⟩
  | sessions number =>
      obtain ⟨object, there, rfl⟩ := Option.map_eq_some_iff.mp known
      obtain ⟨events, same, -⟩ :=
        arises.reachable.managed.sessions object (List.mem_of_getElem? there)
      have empty := (Manager.closed_run events).empty (same ▸ isDisposed)
      exact ⟨_, object, there, isDisposed, same ▸ empty, rfl⟩

/-- What can be heard of a manager once it is disposed. It answers as it did before, or that it was
disposed, and no failure is told, unless a failure that does not say so is reported. The first load
reports how both of its parts ended once they have, and so does a poll that was under way. -/
theorem Arises.failures_after_disposal (arises : world.Arises)
    (disposed : world.IsManagerDisposed id) (steps : Steps world later) :
    ∃ before heard, world.outlook? id = some before ∧ later.outlook? id = some heard ∧
      (later.manager? id).bind ManagerView.outcome = some heard.answer ∧
      (before.Quiet heard ∨
        ∃ start reported, Steps world start ∧ Reports id start reported ∧ Steps reported later) ∧
      (∀ running specs, (later.runLoad id (.loading running specs)).1.outlook? id =
        some (heard.afterLoad (running.resultAt later.clock) (specs.resultAt later.clock))) ∧
      ∀ copy period interval refresh,
        (later.runPoll id copy period (.refreshing interval refresh)).2.outlook? id =
          some (heard.afterPoll (refresh.resultAt later.clock)) := by
  obtain ⟨before, left⟩ := arises.left disposed
  obtain ⟨heard, still, told⟩ := left.steps steps
  obtain ⟨view, known, -, -, outcome⟩ := still.view
  refine ⟨before, heard, left.outlook?, still.outlook?, ?_, told, ?_, ?_⟩
  · rw [known]
    exact outcome
  · exact fun running specs => (still.runLoad running specs).outlook?
  · exact fun copy period interval refresh =>
      (still.runPoll copy period interval refresh).outlook?

/-- A manager of kernels that is disposed while the server takes a second to refuse what it asked
for. -/
def disposedWhileLoading : World :=
  scripted [
    answering .get "/api/kernels" 500 "" 1000,
    answering .get "/api/kernelspecs" 500 "" 1000,
    ⟨.createManager "m" .kernels ⟨.off, .usual⟩ true, false⟩,
    ⟨.disposeManager "m", false⟩]

theorem isManagerDisposed_disposedWhileLoading :
    disposedWhileLoading.IsManagerDisposed (.kernels 0) := by
  have disposed :
      (disposedWhileLoading.manager? (.kernels 0)).any ManagerView.isDisposed = true := by
    decide +kernel
  exact (Option.any_eq_true _ _).mp disposed

/-- Before the refusals arrive it answers that it was disposed, and no failure was told. Afterwards
neither is so. -/
theorem outlooks_disposedWhileLoading :
    ∃ before heard, disposedWhileLoading.outlook? (.kernels 0) = some before ∧
      (disposedWhileLoading.advance 1001).outlook? (.kernels 0) = some heard ∧
      before.saysDisposed = true ∧ heard.saysDisposed = false ∧
      ¬before.failure.Quiet heard.failure := by
  have first : (disposedWhileLoading.outlook? (.kernels 0)).any (fun outlook =>
      outlook.saysDisposed && (outlook.failure.waiting 0).1.isEmpty) = true := by
    decide +kernel
  have last : ((disposedWhileLoading.advance 1001).outlook? (.kernels 0)).any (fun outlook =>
      !outlook.saysDisposed && !(outlook.failure.waiting 0).1.isEmpty) = true := by
    decide +kernel
  obtain ⟨before, known, first⟩ := (Option.any_eq_true _ _).mp first
  obtain ⟨heard, present, last⟩ := (Option.any_eq_true _ _).mp last
  simp only [Bool.and_eq_true, Bool.not_eq_true', List.isEmpty_iff, List.isEmpty_eq_false_iff]
    at first last
  refine ⟨before, heard, known, present, first.1, last.1, fun quiet => last.2 ?_⟩
  rcases quiet 0 with same | none
  · rw [same, first.2]
  · rw [none]

/-- The refusals that arrive after a disposal can only be heard of because they are reported. -/
theorem failures_after_disposal_while_loading :
    disposedWhileLoading.Arises ∧ disposedWhileLoading.IsManagerDisposed (.kernels 0) ∧
    Steps disposedWhileLoading (disposedWhileLoading.advance 1001) ∧
    ∃ start reported, Steps disposedWhileLoading start ∧ Reports (.kernels 0) start reported ∧
      Steps reported (disposedWhileLoading.advance 1001) := by
  have disposed := isManagerDisposed_disposedWhileLoading
  have steps : Steps disposedWhileLoading (disposedWhileLoading.advance 1001) := steps_advance 1001
  refine ⟨arises_scripted _, disposed, steps, ?_⟩
  obtain ⟨before, heard, known, present, -, told, -⟩ :=
    (arises_scripted _).failures_after_disposal disposed steps
  obtain ⟨first, last, same, later, -, -, loud⟩ := outlooks_disposedWhileLoading
  cases known.symm.trans same
  cases present.symm.trans later
  exact told.resolve_left fun quiet => loud quiet.failure

/-- A failure that arrives after the disposal is told, and what is answered to those who ask whether
the manager is ready is not any more that it was disposed. -/
theorem failure_told_after_disposal :
    disposedWhileLoading.Arises ∧ disposedWhileLoading.IsManagerDisposed (.kernels 0) ∧
    Steps disposedWhileLoading (disposedWhileLoading.advance 1001) ∧
    ∃ before heard, disposedWhileLoading.outlook? (.kernels 0) = some before ∧
      (disposedWhileLoading.advance 1001).outlook? (.kernels 0) = some heard ∧
      before.saysDisposed = true ∧ heard.saysDisposed = false ∧
      ¬before.failure.Quiet heard.failure :=
  ⟨arises_scripted _, isManagerDisposed_disposedWhileLoading, steps_advance 1001,
    outlooks_disposedWhileLoading⟩

end World

end KernelClient.Simulation
