import KernelClient.Proofs.Simulation.LateLists

/-!
# Loading copies

A manager keeps two copies, and what loads them goes the same way for both: a request is sent, and
once its reply is there the copy is replaced or the failure is reported. To take in a reply sends
nothing, and it does not stop the manager.
-/

namespace KernelClient.Simulation

/-- What a copy consists of. -/
def Copy.Content : Copy → Type
  | .running => Listing
  | .specs => KernelSpecs

/-- A copy that is loaded by an exchange. -/
def Refresh.ofSlot : (copy : Copy) → Slot copy.Content → Refresh
  | .running, slot => .running slot
  | .specs, slot => .specs slot

namespace World

variable {world : World} {id : ManagerId} {copy : Copy}

/-- The exchange for a copy. -/
def copyExchange (id : ManagerId) : (copy : Copy) → World → Exchange copy.Content
  | .running, world => world.listExchange id
  | .specs, world => Rest.Specs.get world.settings

/-- Replace a copy. -/
def applyCopy (id : ManagerId) : (copy : Copy) → copy.Content → World → World
  | .running, listing, world => world.applyListing id listing
  | .specs, specs, world => world.changeManager id (applySpecs specs)

/-- Take in the result of an exchange for a copy: replace the copy, or report the failure. -/
def takeIn (id : ManagerId) (copy : Copy) (result : Except ServiceError copy.Content)
    (world : World) : World :=
  match result with
  | .ok content => world.applyCopy id copy content
  | .error error => world.changeManager id (reportFailure (world.copyName id copy) error)

/-- Wait for the answer to an exchange, or take in its result and go on to the next tick. -/
def afterExchange (id : ManagerId) (copy : Copy) (interval : Interval) :
    Slot copy.Content × World → Turn PollWait × World
  | (.settled result, world) => (.goesOn (.awaiting interval), world.takeIn id copy result)
  | (.waiting exchange timer answer, world) =>
      (.waits (.refreshing interval (.ofSlot copy (.waiting exchange timer answer))), world)

/-- To look at an exchange is to apply what has arrived, whichever copy it is for. -/
theorem afterPoll_checkRefresh (interval : Interval) (slot : Slot copy.Content) :
    (world.checkRefresh id (.ofSlot copy slot)).2.afterPoll id copy interval
        (world.checkRefresh id (.ofSlot copy slot)).1 =
      afterExchange id copy interval (world.check slot) := by
  cases copy with
  | running | specs =>
      dsimp only [Copy.Content] at slot ⊢
      simp only [Refresh.ofSlot, checkRefresh]
      generalize world.check slot = checked
      obtain ⟨slot, after⟩ := checked
      cases slot with
      | waiting exchange timer answer => rfl
      | settled result => cases result <;> rfl

/-- What has been looked at has nothing new until time passes. -/
theorem check_of_not_isDue {α : Type} {slot : Slot α} (early : slot.isDue world.clock = false) :
    world.check slot = (slot, world) := by
  cases slot with
  | waiting exchange timer answer =>
      have notDue : ¬timer.isDue world.clock = true := Bool.eq_false_iff.mp early
      rw [check, if_neg notDue]
  | settled result => rfl

/-- An answer that takes some time has not arrived as soon as it is asked for. -/
theorem isDue_ask {α : Type} (exchange : Exchange α) (world : World) :
    (world.ask exchange).1.isDue world.clock = false := by
  unfold ask
  split
  · rfl
  · dsimp only
    split
    · rfl
    · split
      · rfl
      case isFalse takesTime =>
        have early := Nat.not_le.mpr
          (Nat.lt_add_of_pos_right (n := world.clock) (Nat.pos_of_ne_zero takesTime))
        simp [timer, Slot.isDue, Timer.isDue, early]

theorem check_ask {α : Type} (exchange : Exchange α) (world : World) :
    (world.ask exchange).2.check (world.ask exchange).1 = world.ask exchange := by
  refine check_of_not_isDue ?_
  rw [(aside_ask exchange world).clock, isDue_ask]

/-- Of a request that was sent, the reply is there at once or waited for, as long as it takes. -/
theorem ask_cases {α : Type} {exchange : Exchange α} {request : Request}
    (composed : exchange.request = .ok request) (world : World) :
    let reply := (world.server.answer request).1
    (reply.isHanging = false ∧ reply.delay = 0 ∧
        (world.ask exchange).1 = .settled (exchange.settle reply.outcome).1) ∨
      ∃ timer, (world.ask exchange).1 = .waiting exchange timer reply.outcome ∧
        timer.due = if reply.isHanging then none else some (world.clock + reply.delay) := by
  simp only [ask, composed]
  split
  case isTrue hangs => exact .inr ⟨_, rfl, by simp [endless]⟩
  case isFalse comes =>
    have comes := Bool.eq_false_iff.mpr comes
    split
    case isTrue atOnce => exact .inl ⟨comes, atOnce, rfl⟩
    case isFalse takesTime => exact .inr ⟨_, rfl, by simp [timer]⟩

/-- An open manager begins to load a copy by asking for it. -/
theorem afterPoll_beginRefresh {view : ManagerView} (known : world.manager? id = some view)
    (isOpen : view.isDisposed = false) (copy : Copy) (interval : Interval) :
    (world.beginRefresh id copy).2.afterPoll id copy interval (world.beginRefresh id copy).1 =
      afterExchange id copy interval (world.ask (world.copyExchange id copy)) := by
  have begun : world.beginRefresh id copy =
      (world.ask (world.copyExchange id copy)).2.checkRefresh id
        (.ofSlot copy (world.ask (world.copyExchange id copy)).1) := by
    simp only [beginRefresh, known, isOpen, Bool.false_eq_true, if_false]
    cases copy <;> rfl
  rw [begun, afterPoll_checkRefresh, check_ask]

/-- To ask is to send the request of an exchange, if it can be composed. -/
theorem requests_ask {α : Type} (exchange : Exchange α) (world : World) :
    (world.ask exchange).2.trace.requests =
      world.trace.requests ++ exchange.request.toOption.toList := by
  unfold ask
  split
  case h_1 error failed => simp [failed, Except.toOption]
  case h_2 request composed =>
    rw [composed]
    dsimp only
    repeat' split
    all_goals rfl

end World

/-- What of a server decides how it answers requests. -/
def Server.script (server : Server) : Server :=
  { server with plans := [], protocol := none, sockets := [] }

/-- What was sent to the server, with which settings, and what it is set to answer. -/
structure Contact where
  requests : List Request
  settings : Settings
  script : Server

namespace World

variable {world : World} {id : ManagerId} {copy : Copy}

def contact (world : World) : Contact where
  requests := world.trace.requests
  settings := world.settings
  script := world.server.script

theorem contact_check {α : Type} (slot : Slot α) (world : World) :
    (world.check slot).2.contact = world.contact := by
  cases slot with
  | waiting exchange timer answer =>
      simp only [check]
      split <;> rfl
  | settled result => rfl

theorem contact_wake (world : World) : world.wake.contact = world.contact := by
  unfold wake
  split <;> rfl

/-- Whatever is carried out one after the other leaves the contact as it is if all of it does. -/
theorem contact_carryAll {Effect : Type} {carry : Effect → World → World}
    (silent : ∀ effect world, (carry effect world).contact = world.contact)
    (effects : List Effect) (world : World) :
    (effects.foldl (fun world effect => (carry effect world).wake) world).contact =
      world.contact := by
  induction effects generalizing world with
  | nil => rfl
  | cons effect rest ih => rw [List.foldl_cons, ih, contact_wake, silent]

theorem contact_carryKernel (kernel : Nat) (effect : Connection.Effect) (world : World) :
    (world.carryKernel kernel effect).contact = world.contact := by
  cases effect <;> rfl

theorem contact_changeKernel (kernel : Nat) (step : Connection → Connection.Change)
    (world : World) :
    (world.changeKernel kernel step).contact = world.contact := by
  unfold changeKernel
  split
  · exact (contact_carryAll (contact_carryKernel kernel) _ _).trans (contact_wake _)
  · rfl

theorem contact_connectKernel (model : KernelModel) (options : ConnectionOptions)
    (world : World) :
    (world.connectKernel model options).contact = world.contact := by
  unfold connectKernel
  cases options.clientId <;> rfl

theorem contact_carrySession (session : Nat) (options : ConnectionOptions)
    (effect : Session.Effect) (world : World) :
    (world.carrySession session options effect).contact = world.contact := by
  cases effect with
  | connectKernel kernel model => exact contact_connectKernel model options world
  | disposeKernel kernel => exact contact_changeKernel kernel Connection.dispose world
  | _ => rfl

theorem contact_changeSession (session : Nat) (step : Session → Session.Change)
    (world : World) :
    (world.changeSession session step).contact = world.contact := by
  unfold changeSession
  split
  · exact (contact_carryAll (contact_carrySession session _) _ _).trans (contact_wake _)
  · rfl

theorem contact_carryKernelManager (manager : Nat)
    (effect : Manager.Effect KernelModel KernelHandle) (world : World) :
    (world.carryKernelManager manager effect).contact = world.contact := by
  cases effect with
  | disposeConnection handle => exact contact_changeKernel _ _ world
  | _ => rfl

theorem contact_carrySessionManager (manager : Nat)
    (effect : Manager.Effect SessionModel SessionHandle) (world : World) :
    (world.carrySessionManager manager effect).contact = world.contact := by
  cases effect with
  | disposeConnection handle => exact contact_changeSession _ _ world
  | updateConnection handle model => exact contact_changeSession _ _ world
  | _ => rfl

theorem contact_changeKernelManager (manager : Nat)
    (step : KernelManager → Manager.Change KernelModel KernelHandle) (world : World) :
    (world.changeKernelManager manager step).contact = world.contact := by
  unfold changeKernelManager
  split
  · exact (contact_carryAll (contact_carryKernelManager manager) _ _).trans (contact_wake _)
  · rfl

theorem contact_changeSessionManager (manager : Nat)
    (step : SessionManager → Manager.Change SessionModel SessionHandle) (world : World) :
    (world.changeSessionManager manager step).contact = world.contact := by
  unfold changeSessionManager
  split
  · exact (contact_carryAll (contact_carrySessionManager manager) _ _).trans (contact_wake _)
  · rfl

theorem Aside.isManagerStopped {after : World} (aside : Aside world after) :
    after.isManagerStopped id = world.isManagerStopped id := by
  cases id with
  | kernels number =>
      rw [World.isManagerStopped, manager?, kernelManager?, aside.kernelManagers]
      rfl
  | sessions number =>
      rw [World.isManagerStopped, manager?, sessionManager?, aside.sessionManagers]
      rfl

/-- Nothing is sent to the server, and a manager goes on if it did before. -/
structure Receives (id : ManagerId) (before after : World) : Prop where
  requests : after.trace.requests = before.trace.requests
  isStopped : after.isManagerStopped id = before.isManagerStopped id

namespace Receives

theorem refl (world : World) : Receives id world world :=
  ⟨rfl, rfl⟩

theorem trans {before middle after : World} (first : Receives id before middle)
    (second : Receives id middle after) : Receives id before after where
  requests := second.requests.trans first.requests
  isStopped := second.isStopped.trans first.isStopped

end Receives

theorem receives_check {α : Type} (slot : Slot α) (world : World) :
    Receives id world (world.check slot).2 where
  requests := congrArg Contact.requests (contact_check slot world)
  isStopped := (aside_check slot world).isManagerStopped

/-- A manager goes on with a change that does not dispose it. -/
theorem receives_changeKernelManager
    {step : KernelManager → Manager.Change KernelModel KernelHandle}
    (spares : ∀ manager, (step manager).1.isDisposed = manager.isDisposed) (number : Nat) :
    Receives (.kernels number) world (world.changeKernelManager number step) where
  requests := congrArg Contact.requests (contact_changeKernelManager number step world)
  isStopped := by
    cases known : world.kernelManager? number with
    | none => rw [changeKernelManager, known]
    | some object =>
        simp only [isManagerStopped, manager?, kernelManager?_change known, known, Option.map_some,
          viewOf, ManagerObject.isStopped, ManagerObject.take_eq, spares]

theorem receives_changeSessionManager
    {step : SessionManager → Manager.Change SessionModel SessionHandle}
    (spares : ∀ manager, (step manager).1.isDisposed = manager.isDisposed) (number : Nat) :
    Receives (.sessions number) world (world.changeSessionManager number step) where
  requests := congrArg Contact.requests (contact_changeSessionManager number step world)
  isStopped := by
    cases known : world.sessionManager? number with
    | none => rw [changeSessionManager, known]
    | some object =>
        simp only [isManagerStopped, manager?, sessionManager?_change known, known,
          Option.map_some, viewOf, ManagerObject.isStopped, ManagerObject.take_eq, spares]

theorem receives_changeManager {change : AnyChange}
    (kernels : ∀ manager, (change.kernels manager).1.isDisposed = manager.isDisposed)
    (sessions : ∀ manager, (change.sessions manager).1.isDisposed = manager.isDisposed) :
    Receives id world (world.changeManager id change) := by
  cases id with
  | kernels number => exact receives_changeKernelManager kernels number
  | sessions number => exact receives_changeSessionManager sessions number

theorem receives_applyListing (id : ManagerId) (listing : Listing) :
    Receives id world (world.applyListing id listing) := by
  cases id with
  | kernels number =>
      cases listing with
      | kernels models =>
          exact receives_changeKernelManager
            (fun manager => (Manager.spares_applyRunning models manager).1) number
      | sessions models => exact .refl world
  | sessions number =>
      cases listing with
      | kernels models => exact .refl world
      | sessions models =>
          exact receives_changeSessionManager
            (fun manager => (Manager.spares_applyRunning models manager).1) number

theorem receives_applySpecs (id : ManagerId) (specs : KernelSpecs) :
    Receives id world (world.changeManager id (applySpecs specs)) :=
  receives_changeManager (fun manager => (Manager.spares_applySpecs specs manager).1)
    fun manager => (Manager.spares_applySpecs specs manager).1

theorem receives_reportFailure (id : ManagerId) (what : String) (error : ServiceError) :
    Receives id world (world.changeManager id (reportFailure what error)) :=
  receives_changeManager (fun manager => (Manager.spares_reportFailure what error manager).1)
    fun manager => (Manager.spares_reportFailure what error manager).1

theorem receives_takeIn (id : ManagerId) (copy : Copy) (result : Except ServiceError copy.Content) :
    Receives id world (world.takeIn id copy result) := by
  cases result with
  | ok content =>
      cases copy with
      | running => exact receives_applyListing id content
      | specs => exact receives_applySpecs id content
  | error error => exact receives_reportFailure id (world.copyName id copy) error

theorem receives_afterExchange (interval : Interval) (asked : Slot copy.Content × World) :
    Receives id asked.2 (afterExchange id copy interval asked).2 := by
  obtain ⟨slot, after⟩ := asked
  cases slot with
  | waiting exchange timer answer => exact .refl after
  | settled result => exact receives_takeIn id copy result

theorem receives_checkRefresh (id : ManagerId) (refresh : Refresh) :
    Receives id world (world.checkRefresh id refresh).2 := by
  cases refresh with
  | running slot =>
      have checked : Receives id world (world.check slot).2 := receives_check slot world
      simp only [checkRefresh]
      split
      · exact checked.trans (receives_applyListing id _)
      all_goals exact checked
  | specs slot =>
      have checked : Receives id world (world.check slot).2 := receives_check slot world
      simp only [checkRefresh]
      split
      · exact checked.trans (receives_applySpecs id _)
      all_goals exact checked
  | done result => exact .refl world

theorem receives_afterPoll (copy : Copy) (interval : Interval) (refresh : Refresh) :
    Receives id world (world.afterPoll id copy interval refresh).2 := by
  unfold afterPoll
  split
  · exact .refl world
  · exact .refl world
  · exact receives_reportFailure id _ _

end World

end KernelClient.Simulation
