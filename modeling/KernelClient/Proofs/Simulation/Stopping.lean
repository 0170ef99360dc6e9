import KernelClient.Proofs.Simulation.Dialogue

/-!
# Stop of the session of a path

To stop the session of a path, a manager asks for the list of all sessions. What it does then is
decided when the answer arrives: it deletes a session only if it is not disposed, the answer is a
list, and exactly one entry has the path. In that case its own list becomes the one that has arrived
without the session. In all other cases nothing changes. No failure is ever told.
-/

namespace KernelClient

/-- The shutdown of a resource in the list begins without the first entry of its identifier. -/
theorem Manager.exists_beginShutdown_of_mem {Model Connection : Type} [Resource Model]
    {manager : Manager Model Connection} {model : Model} (alive : manager.isDisposed = false)
    (member : model ∈ manager.running) :
    ∃ change : Manager.Change Model Connection,
      manager.beginShutdown (Resource.id model) = .ok (some change) ∧
        change.1.running =
          manager.running.eraseP fun other => Resource.id other = Resource.id model := by
  have known : (manager.running.any fun other => Resource.id other = Resource.id model) = true :=
    List.any_eq_true.mpr ⟨model, member, decide_eq_true rfl⟩
  simp only [beginShutdown, alive, known, Bool.false_eq_true, if_false, if_true]
  exact ⟨_, rfl, rfl⟩

namespace Simulation

variable {settings : Settings} {manager : Nat} {path : String}
  {result : Except ServiceError (List SessionModel)} {models : List SessionModel}
  {model : SessionModel} {stage other : CallStage} {turns : List CallTurn}
  {outcome : CallOutcome} {requests : List Request}

/-- Whether a manager of sessions is there and not disposed. -/
def World.HasOpenManager (world : World) (manager : Nat) : Prop :=
  ∃ object, world.sessionManager? manager = some object ∧ object.manager.isDisposed = false

/-- Whether a call goes on to wait for the list of sessions. -/
def CallTurn.awaitsList (turn : CallTurn) : Bool :=
  match (turn.before.runCall turn.stage).1 with
  | .waiting (.stopping _ _ _) => true
  | _ => false

/-- What is sent in the turn in which the list arrives. A manager that is not disposed deletes the
only session of the path, which its list is then without. -/
inductive CallTurn.Decides (settings : Settings) (manager : Nat) (path : String)
    (result : Except ServiceError (List SessionModel)) (arrival : CallTurn) :
    List Request → Prop where
  | stops {models : List SessionModel} {model : SessionModel} {request : Request}
      {object : ManagerObject SessionModel SessionHandle}
      (isOpen : arrival.before.HasOpenManager manager) (lists : result = .ok models)
      (only : models.filter (fun model => model.path = path) = [model])
      (deletes : Exchange.ask settings .delete ["api", "sessions", model.id] none = .ok request)
      (sent : [request] <:+ arrival.after.trace.requests)
      (known : arrival.after.sessionManager? manager = some object)
      (leaves : object.manager.running = models.eraseP fun other => other.id = model.id) :
      Decides settings manager path result arrival [request]
  | spares (spares : ∀ models model, result = .ok models →
        models.filter (fun model => model.path = path) = [model] →
        ¬arrival.before.HasOpenManager manager) :
      Decides settings manager path result arrival []

/-- What is sent after the list was asked for is decided in the first turn that does not wait for it
any more. If nothing is sent, then no object changes in any turn. -/
structure Stops (settings : Settings) (manager : Nat) (path : String)
    (result : Except ServiceError (List SessionModel)) (turns : List CallTurn)
    (requests : List Request) : Prop where
  decides : ∃ arrival, turns.find? (fun turn => !turn.awaitsList) = some arrival ∧
    arrival.Decides settings manager path result requests
  spares : requests = [] → ∀ turn ∈ turns, SameObjects turn.before turn.after

theorem onlyAt?_of_filter (only : models.filter (fun model => model.path = path) = [model]) :
    SessionManager.onlyAt? path models = some model.id := by
  rw [SessionManager.onlyAt?, only]

theorem filter_of_onlyAt? {id : String} (only : SessionManager.onlyAt? path models = some id) :
    ∃ model, models.filter (fun model => model.path = path) = [model] ∧ model.id = id := by
  unfold SessionManager.onlyAt? at only
  split at only
  case h_1 model single => exact ⟨model, single, Option.some.inj only⟩
  case h_2 => cases only

namespace World

variable {world : World} {object : ManagerObject SessionModel SessionHandle}

theorem hasOpenManager_of_same {before after : World} (same : SameObjects before after)
    (manager : Nat) : after.HasOpenManager manager ↔ before.HasOpenManager manager := by
  rw [HasOpenManager, HasOpenManager, sessionManager?, sessionManager?, same.sessionManagers]

/-- Whether a session is to be deleted is settled by the result of the list and the manager. -/
theorem stops_or_spares (world : World) (manager : Nat) (path : String)
    (result : Except ServiceError (List SessionModel)) :
    (∃ models model, result = .ok models ∧
      models.filter (fun model => model.path = path) = [model] ∧ world.HasOpenManager manager) ∨
    ∀ models model, result = .ok models →
      models.filter (fun model => model.path = path) = [model] →
      ¬world.HasOpenManager manager := by
  by_cases decided : ∃ models model, result = .ok models ∧
    models.filter (fun model => model.path = path) = [model] ∧ world.HasOpenManager manager
  · exact .inl decided
  · right
    intro models model lists only isOpen
    exact decided ⟨models, model, lists, only, isOpen⟩

theorem isDisposed_of_closed (closed : ¬world.HasOpenManager manager)
    (known : world.sessionManager? manager = some object) : object.manager.isDisposed = true := by
  cases disposed : object.manager.isDisposed with
  | true => rfl
  | false => exact absurd ⟨object, known, disposed⟩ closed

/-- A list that comes too late is not applied. -/
theorem aside_applyRunning_of_closed (closed : ¬world.HasOpenManager manager)
    (models : List SessionModel) :
    Aside world (world.changeSessionManager manager (Manager.applyRunning models)) := by
  cases known : world.sessionManager? manager with
  | none =>
      rw [changeSessionManager, known]
      exact .refl world
  | some object =>
      exact aside_changeSessionManager known
        (Manager.applyRunning_of_isDisposed (isDisposed_of_closed closed known) models)

theorem beginShutdown_of_closed (closed : ¬world.HasOpenManager manager) (id : String) :
    world.beginShutdown (.sessions manager) id true = (bare (.ok ()), world) := by
  cases known : world.sessionManager? manager with
  | none => simp only [beginShutdown, beginManagerShutdown, known, if_true]
  | some object =>
      have refuses : object.manager.beginShutdown id = .error .disposed :=
        if_pos (isDisposed_of_closed closed known)
      simp only [beginShutdown, beginManagerShutdown, known, refuses, if_true]

/-- Nothing is changed or sent if the list does not say what to delete, or comes too late. -/
theorem runStopping_spares (spares : ∀ models model, result = .ok models →
      models.filter (fun model => model.path = path) = [model] → ¬world.HasOpenManager manager) :
    ∃ after, world.runStopping manager path (.settled result) = (bare (.ok ()), after) ∧
      SameObjects world after ∧ after.trace.requests = world.trace.requests := by
  cases result with
  | error error => exact ⟨world, rfl, ⟨rfl, rfl, rfl, rfl⟩, rfl⟩
  | ok models =>
      cases only : SessionManager.onlyAt? path models with
      | none =>
          refine ⟨world, ?_, ⟨rfl, rfl, rfl, rfl⟩, rfl⟩
          simp only [runStopping, only]
      | some id =>
          obtain ⟨model, single, rfl⟩ := filter_of_onlyAt? only
          have closed := spares models model rfl single
          have late := aside_applyRunning_of_closed closed models
          have still : ¬(world.changeSessionManager manager
              (Manager.applyRunning models)).HasOpenManager manager :=
            (hasOpenManager_of_same late.toSameObjects manager).not.mpr closed
          have contact := contact_changeSessionManager manager (Manager.applyRunning models) world
          simp only [runStopping, only, applyListing, beginShutdown_of_closed still]
          exact ⟨_, rfl, late.toSameObjects, congrArg Contact.requests contact⟩

/-- The list is applied before the only session of the path is left out and deleted. -/
theorem runStopping_stops (known : world.sessionManager? manager = some object)
    (alive : object.manager.isDisposed = false)
    (only : models.filter (fun model => model.path = path) = [model]) :
    ∃ (begun : World) (changed : ManagerObject SessionModel SessionHandle),
      begun.contact = world.contact ∧ begun.sessionManager? manager = some changed ∧
      (changed.manager.running = models.eraseP fun other => other.id = model.id) ∧
      world.runStopping manager path (.settled (.ok models)) =
        (begun.ask (Rest.Sessions.shutdown world.settings model.id)).2.runDeletingOne
          (.sessions manager) model.id true
          (begun.ask (Rest.Sessions.shutdown world.settings model.id)).1 := by
  have applied := sessionManager?_change known (Manager.applyRunning models)
  have contact := contact_changeSessionManager manager (Manager.applyRunning models) world
  generalize listed : world.changeSessionManager manager (Manager.applyRunning models) = fresh
    at applied contact
  have still : (object.manager.applyRunning models).1.isDisposed = false :=
    (Manager.spares_applyRunning models object.manager).1.trans alive
  have running := Manager.applyRunning_running alive models
  rw [← ManagerObject.take_manager (object.manager.applyRunning models) object] at still running
  generalize object.take (object.manager.applyRunning models) = shown at applied still running
  have member : model ∈ shown.manager.running := by
    rw [running]
    exact List.mem_of_mem_filter (only ▸ List.mem_singleton_self model)
  obtain ⟨change, begins, leaves⟩ := Manager.exists_beginShutdown_of_mem still member
  have later := (contact_changeSessionManager manager (fun _ => change) fresh).trans contact
  refine ⟨fresh.changeSessionManager manager fun _ => change, shown.take change, later,
    sessionManager?_change applied fun _ => change, ?_, ?_⟩
  · rw [ManagerObject.take_manager, leaves, running]
    rfl
  · have settings : (fresh.changeSessionManager manager fun _ => change).settings =
        world.settings := congrArg Contact.settings later
    have begins : shown.manager.beginShutdown model.id = .ok (some change) := begins
    simp only [runStopping, onlyAt?_of_filter only, applyListing, listed, beginShutdown,
      beginManagerShutdown, applied, begins, deleteExchange, settings]

theorem waitsIn_stopping : WaitsIn (.stopping manager path) := by
  intro slot world pending
  cases waiting : (world.check slot).1 with
  | waiting exchange timer answer => simp only [runCall, runStopping, waiting]
  | settled result =>
      rw [waiting] at pending
      cases pending

/-- A list that arrives goes on as the deletion of the only session of the path. -/
theorem runCall_stopping_stops {before : World} {slot : Slot (List SessionModel)}
    (arrived : (before.check slot).1 = .settled (.ok models))
    (isOpen : before.HasOpenManager manager)
    (only : models.filter (fun model => model.path = path) = [model]) :
    ∃ (begun : World) (changed : ManagerObject SessionModel SessionHandle),
      begun.contact = before.contact ∧ begun.sessionManager? manager = some changed ∧
      (changed.manager.running = models.eraseP fun other => other.id = model.id) ∧
      before.runCall (.stopping manager path slot) =
        (begun.ask (Rest.Sessions.shutdown before.settings model.id)).2.runCall
          (.deletingOne (.sessions manager) model.id true
            (begun.ask (Rest.Sessions.shutdown before.settings model.id)).1) := by
  have idles := idles_check slot before
  have settings : (before.check slot).2.settings = before.settings :=
    congrArg Contact.settings idles.contact
  obtain ⟨object, known, alive⟩ :=
    (hasOpenManager_of_same idles.toSameObjects manager).mpr isOpen
  obtain ⟨begun, changed, contact, shown, leaves, stopping⟩ := runStopping_stops known alive only
  refine ⟨begun, changed, contact.trans idles.contact, shown, leaves, ?_⟩
  rw [settings] at stopping
  simp only [runCall, arrived, stopping, check_ask]

/-- A list that arrives ends the call if nothing is to be deleted. -/
theorem runCall_stopping_spares {before : World} {slot : Slot (List SessionModel)}
    (arrived : (before.check slot).1 = .settled result)
    (closed : ∀ models model, result = .ok models →
      models.filter (fun model => model.path = path) = [model] →
      ¬before.HasOpenManager manager) :
    ∃ after, before.runCall (.stopping manager path slot) = (bare (.ok ()), after) ∧
      SameObjects before after ∧ after.trace.requests = before.trace.requests := by
  have idles := idles_check slot before
  have still (models : List SessionModel) (model : SessionModel) (lists : result = .ok models)
      (only : models.filter (fun model => model.path = path) = [model]) :
      ¬(before.check slot).2.HasOpenManager manager :=
    (hasOpenManager_of_same idles.toSameObjects manager).not.mpr (closed models model lists only)
  obtain ⟨last, stopping, same, requests⟩ := runStopping_spares still
  refine ⟨last, ?_, idles.toSameObjects.trans same,
    requests.trans (congrArg Contact.requests idles.contact)⟩
  rw [← stopping]
  simp only [runCall, arrived]

/-- The end of a deletion sends nothing. -/
theorem requests_runDeletingOne (id : ManagerId) (resource : String) (slot : Slot Unit)
    (world : World) :
    (world.runDeletingOne id resource true slot).2.trace.requests = world.trace.requests := by
  cases slot with
  | waiting exchange timer answer => rfl
  | settled result =>
      cases result with
      | error error => rfl
      | ok value =>
          exact congrArg Contact.requests (contact_changeManager id (endShutdown resource) world)

/-- The end of a deletion leaves the list as it is. -/
theorem running_runDeletingOne (known : world.sessionManager? manager = some object) (id : String)
    (slot : Slot Unit) :
    ∃ changed, (world.runDeletingOne (.sessions manager) id true slot).2.sessionManager? manager =
        some changed ∧ changed.manager.running = object.manager.running := by
  cases slot with
  | waiting exchange timer answer => exact ⟨object, known, rfl⟩
  | settled result =>
      cases result with
      | error error => exact ⟨object, known, rfl⟩
      | ok value =>
          refine ⟨_, sessionManager?_change known (endShutdown id).sessions, ?_⟩
          rw [ManagerObject.take_manager]
          rfl

end World

section Turns

variable {before middle after : World}

theorem awaitsList_of_same (same : before.runCall stage = middle.runCall other)
    (after : World) :
    (CallTurn.mk stage before after).awaitsList = (CallTurn.mk other middle after).awaitsList := by
  rw [CallTurn.awaitsList, CallTurn.awaitsList, same]

theorem awaitsList_deletingOne (id : ManagerId) (resource : String) (isQuiet : Bool)
    (slot : Slot Unit) (before after : World) :
    (CallTurn.mk (.deletingOne id resource isQuiet slot) before after).awaitsList = false := by
  rw [CallTurn.awaitsList]
  cases arrived : (before.check slot).1.result? with
  | none => rw [(World.awaits_deletion id resource isQuiet).waits slot before arrived]
  | some result => rw [(World.awaits_deletion id resource isQuiet).ends slot before result arrived]

/-- What a turn does first, without a change of the objects, does not matter. -/
theorem Stops.ofMiddle (same : before.runCall stage = middle.runCall other)
    (objects : SameObjects before middle)
    (stops : Stops settings manager path result (⟨other, middle, after⟩ :: turns) requests) :
    Stops settings manager path result (⟨stage, before, after⟩ :: turns) requests := by
  obtain ⟨⟨arrival, arrives, decides⟩, spares⟩ := stops
  have isOpen := World.hasOpenManager_of_same objects manager
  constructor
  · rw [List.find?_cons, ← awaitsList_of_same same] at arrives
    rw [List.find?_cons]
    split at arrives
    case h_1 now =>
      obtain rfl := Option.some.inj arrives
      refine ⟨⟨stage, before, after⟩, rfl, ?_⟩
      cases decides with
      | stops isOpenThen lists only deletes sent known leaves =>
          exact .stops (isOpen.mp isOpenThen) lists only deletes sent known leaves
      | spares closed =>
          exact .spares fun models model lists only =>
            isOpen.not.mp (closed models model lists only)
    case h_2 later => exact ⟨arrival, arrives, decides⟩
  · intro nothing
    obtain ⟨first, others⟩ := List.forall_mem_cons.mp (spares nothing)
    exact List.forall_mem_cons.mpr ⟨objects.trans first, others⟩

theorem Stops.requests_of_error {error : ServiceError}
    (stops : Stops settings manager path (.error error) turns requests) : requests = [] := by
  obtain ⟨arrival, -, decides⟩ := stops.decides
  cases decides with
  | stops isOpen lists => cases lists
  | spares => rfl

/-- Turns in which the list is still waited for. -/
theorem Stops.afterWaits {earlier : List CallTurn}
    (waits : ∀ turn ∈ earlier, turn.WaitsIn (.stopping manager path))
    (stops : Stops settings manager path result turns requests) :
    Stops settings manager path result (earlier ++ turns) requests := by
  obtain ⟨⟨arrival, arrives, decides⟩, spares⟩ := stops
  have pending : earlier.find? (fun turn => !turn.awaitsList) = none := by
    apply List.find?_eq_none.mpr
    intro turn member
    obtain ⟨next, waits⟩ := (waits turn member).waits
    rw [CallTurn.awaitsList, waits]
    exact Bool.false_ne_true
  constructor
  · refine ⟨arrival, ?_, decides⟩
    rwa [List.find?_append, pending, Option.none_or]
  · intro nothing turn member
    rcases List.mem_append.mp member with early | late
    · exact (waits turn early).idles.toSameObjects
    · exact spares nothing turn late

/-- The turns from the arrival of a list on if a session is deleted. -/
theorem CallRun.stopping_stops {slot : Slot (List SessionModel)} {request : Request}
    (run : CallRun (.stopping manager path slot)
      (⟨.stopping manager path slot, before, after⟩ :: turns) outcome)
    (kept : before.settings = settings)
    (arrived : (before.check slot).1 = .settled (.ok models))
    (isOpen : before.HasOpenManager manager)
    (only : models.filter (fun model => model.path = path) = [model])
    (composed : Exchange.ask settings .delete ["api", "sessions", model.id] none = .ok request) :
    outcome = .ok .nothing ∧ ∃ answers,
      Sends (⟨.stopping manager path slot, before, after⟩ :: turns) [request] answers ∧
      Stops settings manager path (.ok models)
        (⟨.stopping manager path slot, before, after⟩ :: turns) [request] := by
  obtain ⟨begun, changed, contact, shown, leaves, same⟩ :=
    World.runCall_stopping_stops arrived isOpen only
  rw [kept] at same
  generalize exchanges : Rest.Sessions.shutdown settings model.id = exchange at same
  obtain ⟨sends, ended, last, comes, told⟩ :=
    (World.awaits_deletion (.sessions manager) model.id true).callRun
      (fun result world => congrArg Contact.requests
        (World.contact_afterDeletion (.sessions manager) model.id result world))
      (run.ofMiddle same)
  have sent : (begun.ask exchange).2.trace.requests = before.trace.requests ++ [request] := by
    have requests : begun.trace.requests = before.trace.requests :=
      congrArg Contact.requests contact
    have composed : exchange.request = .ok request := by
      rw [← exchanges]
      exact composed
    rw [World.requests_ask, requests, composed]
    rfl
  obtain ⟨answers, sends⟩ := sends.exists_ofMiddle sent
  have shown : (begun.ask exchange).2.sessionManager? manager = some changed := by
    rw [World.sessionManager?, (World.aside_ask exchange begun).sessionManagers]
    exact shown
  obtain ⟨final, shown, running⟩ :=
    World.running_runDeletingOne shown model.id (begun.ask exchange).1
  refine ⟨told, answers, sends, ⟨⟨_, List.find?_cons_of_pos ?_, ?_⟩, fun nothing => ?_⟩⟩
  · rw [awaitsList_of_same same, awaitsList_deletingOne]
    rfl
  · have last : after = ((begun.ask exchange).2.runDeletingOne (.sessions manager) model.id true
        (begun.ask exchange).1).2 := by
      rw [run.after_eq, same, World.runCall, World.check_ask]
    rw [← last] at shown
    refine .stops isOpen rfl only composed ?_ shown (running.trans leaves)
    exact ⟨before.trace.requests, by rw [last, World.requests_runDeletingOne, sent]⟩
  · cases nothing

/-- The turn in which a list arrives if nothing is deleted. -/
theorem CallRun.stopping_spares {slot : Slot (List SessionModel)}
    (run : CallRun (.stopping manager path slot)
      (⟨.stopping manager path slot, before, after⟩ :: turns) outcome)
    (arrived : (before.check slot).1 = .settled result)
    (closed : ∀ models model, result = .ok models →
      models.filter (fun model => model.path = path) = [model] →
      ¬before.HasOpenManager manager) :
    outcome = .ok .nothing ∧ turns = [] ∧
      Sends (⟨.stopping manager path slot, before, after⟩ :: turns) [] [] ∧
      Stops settings manager path result
        (⟨.stopping manager path slot, before, after⟩ :: turns) [] := by
  obtain ⟨last, turn, objects, quiet⟩ := World.runCall_stopping_spares arrived closed
  cases run with
  | waits waits => cases turn.symm.trans waits
  | ends ends =>
      have awaits : (CallTurn.mk (.stopping manager path slot) before after).awaitsList =
          false := by
        rw [CallTurn.awaitsList, ends]
      cases turn.symm.trans ends
      refine ⟨rfl, rfl, .silent quiet .nothing,
        ⟨⟨_, List.find?_cons_of_pos (by rw [awaits]; rfl), .spares closed⟩, fun _ => ?_⟩⟩
      exact List.forall_mem_singleton.mpr objects

/-- The turns from the request for the list on. -/
theorem CallRun.stopping {slot : Slot (List SessionModel)}
    (run : CallRun (.stopping manager path slot) turns outcome)
    (kept : ∀ turn ∈ turns, turn.before.settings = settings)
    (composes : ∀ models id, slot.outcome? = some (.ok models) →
      ∃ request, Exchange.ask settings .delete ["api", "sessions", id] none = .ok request) :
    outcome = .ok .nothing ∧ ∃ result requests answers, slot.outcome? = some result ∧
      Sends turns requests answers ∧ Stops settings manager path result turns requests := by
  obtain ⟨earlier, last, before, after, rest, result, rfl, waits, run, arrived, comes⟩ :=
    run.exists_arrival World.waitsIn_stopping
  have here : before.settings = settings :=
    kept ⟨.stopping manager path last, before, after⟩ (by simp)
  rcases before.stops_or_spares manager path result with
    ⟨models, model, rfl, only, isOpen⟩ | closed
  · obtain ⟨request, composed⟩ := composes models model.id comes
    obtain ⟨told, answers, sends, stops⟩ := run.stopping_stops here arrived isOpen only composed
    exact ⟨told, .ok models, [request], answers, comes, .afterWaits waits sends,
      .afterWaits waits stops⟩
  · obtain ⟨told, rfl, sends, stops⟩ := run.stopping_spares arrived closed
    exact ⟨told, result, [], [], comes, .afterWaits waits sends, .afterWaits waits stops⟩

end Turns

/-- All that is sent to stop the session of a path. -/
inductive StopsIfNeeded (settings : Settings) (manager : Nat) (path : String)
    (turns : List CallTurn) : Prop where
  /-- There is no URL to ask for the list. -/
  | unasked {error : ServiceError}
      (refused : Exchange.ask settings .get ["api", "sessions"] none = .error error)
      (sends : Sends turns [] [])
      (stops : Stops settings manager path (.error error) turns [])
  /-- The list was asked for. -/
  | asked {list : Request} {answer : Answer} {requests : List Request} {answers : List Answer}
      (asked : Exchange.ask settings .get ["api", "sessions"] none = .ok list)
      (sends : Sends turns (list :: requests) (answer :: answers))
      (stops : Stops settings manager path
        ((Rest.Sessions.list settings).settle answer.outcome).1 turns requests)

theorem World.runCall_stopIfNeeded (manager : Nat) (path : String) (world : World) :
    world.runCall (.begin (.stopIfNeeded (.sessions manager) path)) =
      (world.ask (Rest.Sessions.list world.settings)).2.runCall
        (.stopping manager path (world.ask (Rest.Sessions.list world.settings)).1) := by
  simp only [runCall, beginCall, check_ask]

theorem CallRun.stopIfNeeded
    (run : CallRun (.begin (.stopIfNeeded (.sessions manager) path)) turns outcome)
    (kept : ∀ turn ∈ turns, turn.before.settings = settings) :
    outcome = .ok .nothing ∧ StopsIfNeeded settings manager path turns := by
  obtain ⟨before, after, rest, rfl⟩ := run.exists_first
  obtain ⟨rfl, keptLater⟩ := List.forall_mem_cons.mp kept
  have same := World.runCall_stopIfNeeded manager path before
  have objects := (World.aside_ask (Rest.Sessions.list before.settings) before).toSameObjects
  have begun : (before.ask (Rest.Sessions.list before.settings)).2.settings = before.settings :=
    World.settings_ask _ before
  have stopping := (run.ofMiddle same).stopping (List.forall_mem_cons.mpr ⟨begun, keptLater⟩)
  rw [(World.outcome?_ask _ before).1] at stopping
  cases asked : Exchange.ask before.settings .get ["api", "sessions"] none with
  | error error =>
      have refused : (Rest.Sessions.list before.settings).request = .error error := asked
      rw [Server.outcome, refused] at stopping
      obtain ⟨told, result, requests, answers, comes, sends, stops⟩ :=
        stopping fun models id comes => by cases comes
      cases comes
      obtain rfl := stops.requests_of_error
      obtain rfl := List.length_eq_zero_iff.mp sends.length_eq
      exact ⟨told, .unasked asked (sends.ofMiddle (World.asks_nothing refused before))
        (stops.ofMiddle same objects)⟩
  | ok list =>
      have composed : (Rest.Sessions.list before.settings).request = .ok list := asked
      rw [Server.outcome_of_composed composed] at stopping
      obtain ⟨told, result, requests, answers, comes, sends, stops⟩ :=
        stopping fun models id _ =>
          Exchange.exists_ask asked .delete ["api", "sessions", id] none
      refine ⟨told, .asked asked (sends.ofMiddle (World.asks_ask composed before)) ?_⟩
      unfold Exchange.answered? at comes
      split at comes <;> cases comes
      exact stops.ofMiddle same objects

namespace CallStage

variable {next : CallStage} {world after : World} {slot : Slot (List SessionModel)}

theorem ends_deletingOne {id : ManagerId} {resource : String} {isQuiet : Bool} {slot : Slot Unit}
    {result : Except ServiceError Unit} (comes : slot.outcome? = some result) :
    (CallStage.deletingOne id resource isQuiet slot).Ends := by
  obtain ⟨time, arrives⟩ := Slot.exists_resultAt comes
  apply Ends.of_late time
  intro world late
  have arrived := (World.result_check slot world).trans (arrives _ late)
  exact ⟨_, _, (World.awaits_deletion id resource isQuiet).ends slot world result arrived⟩

/-- Once the list is there, the rest is to wait for a deletion, if there is one. -/
theorem ends_of_listed (arrived : (world.check slot).1 = .settled result)
    (answers : world.server.AnswersAll)
    (waits : world.runCall (.stopping manager path slot) = (.waiting next, after)) :
    next.Ends := by
  rcases world.stops_or_spares manager path result with
    ⟨models, model, rfl, only, isOpen⟩ | closed
  · obtain ⟨begun, -, contact, -, -, same⟩ := World.runCall_stopping_stops arrived isOpen only
    obtain ⟨⟨result, comes⟩, -⟩ := World.exists_outcome_ask
      (answers.congr (congrArg Contact.script contact))
      (Rest.Sessions.shutdown world.settings model.id)
    rw [same] at waits
    generalize begun.ask (Rest.Sessions.shutdown world.settings model.id) = asked at comes waits
    have awaits := World.awaits_deletion (.sessions manager) model.id true
    cases due : (asked.2.check asked.1).1.result? with
    | none =>
        rw [awaits.waits _ _ due] at waits
        cases waits
        exact ends_deletingOne ((World.outcome?_check asked.1 asked.2).trans comes)
    | some result =>
        rw [awaits.ends _ _ result due] at waits
        cases waits
  · obtain ⟨last, ends, -⟩ := World.runCall_stopping_spares arrived closed
    cases ends.symm.trans waits

theorem ends_stopIfNeeded (manager : Nat) (path : String) :
    (CallStage.begin (.stopIfNeeded (.sessions manager) path)).Ends :=
  ends_of_ask World.waitsIn_stopping (fun world => Rest.Sessions.list world.settings)
    (World.runCall_stopIfNeeded manager path)
    fun _ _ _ _ _ arrived answers waits => ends_of_listed arrived answers waits

end CallStage

/-- To stop the session of a path is to ask for the list of all sessions once. In the turn in which
the answer is there, one deletion is sent if the manager is not disposed and the answer is a list in
which exactly one entry has the path. It names the identifier of that entry, and the manager keeps
the list without it. Otherwise nothing more is sent, and no object changes in any turn of the call:
no list, no connection and no signal. Nothing is ever told but that the call is over, and it comes
to an end if all is answered. -/
theorem stopIfNeeded_stops_only (settings : Settings) (manager : Nat) (path : String) :
    (∀ turns outcome, CallRun (.begin (.stopIfNeeded (.sessions manager) path)) turns outcome →
      (∀ turn ∈ turns, turn.before.settings = settings) →
        outcome = .ok .nothing ∧ StopsIfNeeded settings manager path turns) ∧
    (CallStage.begin (.stopIfNeeded (.sessions manager) path)).Ends :=
  ⟨fun _ _ run kept => run.stopIfNeeded kept, CallStage.ends_stopIfNeeded manager path⟩

namespace World

/-- A manager of sessions, and a server that lists two of them and deletes the second one. -/
def listingTwo : World :=
  scripted [
    answering .get "/api/sessions" 200
      ("[\x7b\"id\":\"1\",\"path\":\"a\",\"name\":\"\",\"type\":\"\",\"kernel\":null\x7d," ++
        "\x7b\"id\":\"2\",\"path\":\"b\",\"name\":\"\",\"type\":\"\",\"kernel\":null\x7d]") 50,
    answering .delete "/api/sessions/2" 204 "" 100,
    ⟨.createManager "m" .sessions ⟨.off, .usual⟩ true, false⟩]

/-- The list is asked for in the first turn and the deletion in the second one. -/
theorem stopIfNeeded_stops_only_listingTwo :
    ∃ turns, CallRun (.begin (.stopIfNeeded (.sessions 0) "b")) turns (.ok .nothing) ∧
      (∀ turn ∈ turns, turn.before.settings = localhost) ∧
      turns.map (fun turn => turn.after.trace.requests.length) = [1, 2, 2] ∧
      StopsIfNeeded localhost 0 "b" turns := by
  have evaluated : ((listingTwo.callAt [100, 1000]
      (.begin (.stopIfNeeded (.sessions 0) "b"))).map fun call =>
        (call.1.map fun turn => turn.after.trace.requests.length,
          call.1.all fun turn => turn.before.settings = localhost)) = some ([1, 2, 2], true) := by
    decide +kernel
  obtain ⟨⟨turns, outcome⟩, called, facts⟩ := Option.map_eq_some_iff.mp evaluated
  obtain ⟨counts, settings⟩ := Prod.mk.inj facts
  have kept : ∀ turn ∈ turns, turn.before.settings = localhost := by
    simpa [List.all_eq_true] using settings
  have run := callRun_of_callAt called
  obtain ⟨rfl, stops⟩ := (stopIfNeeded_stops_only localhost 0 "b").1 _ _ run kept
  exact ⟨turns, run, kept, counts, stops⟩

end World

end Simulation

end KernelClient
