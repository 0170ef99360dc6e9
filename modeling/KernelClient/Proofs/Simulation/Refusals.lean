import KernelClient.Proofs.Connection.Refusals
import KernelClient.Proofs.Simulation.Scripts

/-!
# Failing calls leave no trace

A world is unmoved if nothing happened in it but that connections used up numbers of messages and
that somebody began or ceased to listen. What is done at once leaves the world unmoved if it fails.
A call that asks the server first takes several turns, and each of them does as long as the server
has not granted it.
-/

namespace KernelClient.Simulation

/-- A connection that has told nothing and stayed as it was but for numbers of messages. -/
structure KernelObject.Unmoved (before after : KernelObject) : Prop where
  connection : before.connection.SpendsNumbers after.connection
  status : before.status.Quiet after.status
  connectionStatus : after.connectionStatus = before.connectionStatus
  received : after.received = before.received
  unclaimed : after.unclaimed = before.unclaimed
  disposed : before.disposed.Quiet after.disposed
  isAlive : after.isAlive = before.isAlive

namespace KernelObject.Unmoved

theorem refl (object : KernelObject) : object.Unmoved object :=
  ⟨.refl _, .refl _, rfl, rfl, rfl, .refl _, rfl⟩

theorem trans {before middle after : KernelObject} (first : before.Unmoved middle)
    (second : middle.Unmoved after) : before.Unmoved after where
  connection := first.connection.trans second.connection
  status := first.status.trans second.status
  connectionStatus := second.connectionStatus.trans first.connectionStatus
  received := second.received.trans first.received
  unclaimed := second.unclaimed.trans first.unclaimed
  disposed := first.disposed.trans second.disposed
  isAlive := second.isAlive.trans first.isAlive

end KernelObject.Unmoved

namespace World

/-- A world in which nothing has changed but for connections that are unmoved. What waits on the
sockets, for the holders of requests and for comms and their targets is the same. -/
structure Unmoved (before after : World) : Prop where
  count : after.kernels.length = before.kernels.length
  kernels : ∀ number object, before.kernel? number = some object →
    ∃ later, after.kernel? number = some later ∧ object.Unmoved later
  sessions : after.sessions = before.sessions
  kernelManagers : after.kernelManagers = before.kernelManagers
  sessionManagers : after.sessionManagers = before.sessionManagers
  replies : after.replies = before.replies
  comms : after.comms = before.comms
  targets : after.targets = before.targets
  sockets : after.server.sockets = before.server.sockets

variable {world : World}

namespace Unmoved

theorem of_kernels_eq {before after : World} (kernels : after.kernels = before.kernels)
    (sessions : after.sessions = before.sessions)
    (kernelManagers : after.kernelManagers = before.kernelManagers)
    (sessionManagers : after.sessionManagers = before.sessionManagers)
    (replies : after.replies = before.replies) (comms : after.comms = before.comms)
    (targets : after.targets = before.targets)
    (sockets : after.server.sockets = before.server.sockets) : before.Unmoved after where
  count := congrArg List.length kernels
  kernels number object known := ⟨object, (congrArg (·[number]?) kernels).trans known, .refl object⟩
  sessions := sessions
  kernelManagers := kernelManagers
  sessionManagers := sessionManagers
  replies := replies
  comms := comms
  targets := targets
  sockets := sockets

theorem refl (world : World) : world.Unmoved world :=
  of_kernels_eq rfl rfl rfl rfl rfl rfl rfl rfl

theorem trans {before middle after : World} (first : before.Unmoved middle)
    (second : middle.Unmoved after) : before.Unmoved after where
  count := second.count.trans first.count
  kernels number object known := by
    obtain ⟨between, there, earlier⟩ := first.kernels number object known
    obtain ⟨later, present, goesOn⟩ := second.kernels number between there
    exact ⟨later, present, earlier.trans goesOn⟩
  sessions := second.sessions.trans first.sessions
  kernelManagers := second.kernelManagers.trans first.kernelManagers
  sessionManagers := second.sessionManagers.trans first.sessionManagers
  replies := second.replies.trans first.replies
  comms := second.comms.trans first.comms
  targets := second.targets.trans first.targets
  sockets := second.sockets.trans first.sockets

theorem wake (world : World) : world.Unmoved world.wake := by
  unfold World.wake
  split <;> exact of_kernels_eq rfl rfl rfl rfl rfl rfl rfl rfl

theorem modifyKernel {kernel : Nat} {change : KernelObject → KernelObject}
    (unmoved : ∀ object, world.kernel? kernel = some object → object.Unmoved (change object)) :
    world.Unmoved (world.modifyKernel kernel change) where
  count := List.length_modify ..
  kernels number object known := by
    have present : world.kernels[number]? = some object := known
    simp only [kernel?, World.modifyKernel, List.getElem?_modify, present]
    by_cases here : kernel = number
    · exact ⟨change object, by simp [here], unmoved object (here ▸ known)⟩
    · exact ⟨object, by simp [here], .refl object⟩
  sessions := rfl
  kernelManagers := rfl
  sessionManagers := rfl
  replies := rfl
  comms := rfl
  targets := rfl
  sockets := rfl

/-- A change of a connection of which nothing becomes visible. -/
theorem applyKernel {kernel : Nat} {object : KernelObject} {change : Connection.Change}
    (known : world.kernel? kernel = some object)
    (spends : object.connection.SpendsNumbers change.1) (silent : change.2 = []) :
    world.Unmoved (world.applyKernel kernel change) := by
  rw [World.applyKernel, silent]
  refine (modifyKernel fun other present => ?_).trans (wake _)
  cases known.symm.trans present
  exact ⟨spends, .refl _, rfl, rfl, rfl, .refl _, rfl⟩

/-- What is left of a call of a connection that failed. -/
theorem applyFailed {α : Type} {kernel : Nat} {object : KernelObject} {call : Connection.Call α}
    {error : ServiceError} (known : world.kernel? kernel = some object)
    (clean : object.connection.FailsCleanly call) (failed : call.1 = .error error) :
    world.Unmoved (world.applyKernel kernel call.2) := by
  obtain ⟨spends, silent⟩ := clean error failed
  exact applyKernel known spends silent

end Unmoved

/-- If something fails, it leaves the world unmoved. -/
def StaysIfFailing (world : World) (performed : Performed) : Prop :=
  ∀ error, performed.1 = .error error → world.Unmoved performed.2

namespace StaysIfFailing

theorem of_ne {performed : Performed} (succeeds : ∀ error, performed.1 ≠ .error error) :
    world.StaysIfFailing performed :=
  fun error failed => absurd failed (succeeds error)

theorem stay (result : Result) : world.StaysIfFailing (result, world) :=
  fun _ _ => .refl world

theorem ite {condition : Prop} [Decidable condition] {yes no : Performed}
    (ifTrue : world.StaysIfFailing yes) (ifFalse : world.StaysIfFailing no) :
    world.StaysIfFailing (if condition then yes else no) := by
  split
  · exact ifTrue
  · exact ifFalse

theorem withKernel {name : String} {act : Nat → KernelObject → Performed}
    (stays : ∀ number object, world.kernel? number = some object →
      world.StaysIfFailing (act number object)) :
    world.StaysIfFailing (world.withKernel name act) := by
  unfold World.withKernel
  split
  · exact stay _
  · split
    case h_1 object known => exact stays _ object known
    case h_2 => exact stay _

theorem withSession {name : String} {act : Nat → SessionObject → Performed}
    (stays : ∀ number object, world.StaysIfFailing (act number object)) :
    world.StaysIfFailing (world.withSession name act) := by
  unfold World.withSession
  split
  · exact stay _
  · split
    · exact stays _ _
    · exact stay _

theorem withManager {name : String} {act : ManagerId → ManagerView → Performed}
    (stays : ∀ id view, world.StaysIfFailing (act id view)) :
    world.StaysIfFailing (world.withManager name act) := by
  unfold World.withManager
  split
  · exact stay _
  · split
    · exact stays _ _
    · exact stay _

theorem withComm {name : String} {act : CommBox → Performed}
    (stays : ∀ box, world.StaysIfFailing (act box)) :
    world.StaysIfFailing (world.withComm name act) := by
  unfold World.withComm
  split
  · exact stay _
  · split
    · exact stays _
    · exact stay _

theorem withReply {name : String} {act : ReplyBox → Performed}
    (stays : ∀ box, world.StaysIfFailing (act box)) :
    world.StaysIfFailing (world.withReply name act) := by
  unfold World.withReply
  split
  · exact stay _
  · split
    · exact stays _
    · exact stay _

section Calls

variable {kernel : Nat} {object : KernelObject}

theorem afterSend {call : Connection.Call Nat} (known : world.kernel? kernel = some object)
    (clean : object.connection.FailsCleanly call) (msgId : String) (keep : Keep) :
    world.StaysIfFailing (world.afterSend kernel msgId call keep) := by
  dsimp only [World.afterSend]
  split
  · exact .of_ne fun _ => by simp
  case h_2 failed => exact fun _ _ => .applyFailed known clean failed

theorem afterCall {call : Connection.Call Unit} (known : world.kernel? kernel = some object)
    (clean : object.connection.FailsCleanly call) :
    world.StaysIfFailing (world.afterCall kernel call) := by
  dsimp only [World.afterCall]
  split
  · exact .of_ne fun _ => by simp
  case h_2 failed => exact fun _ _ => .applyFailed known clean failed

theorem useComm (box : CommBox) (action : CommAction) (keep : Keep) :
    world.StaysIfFailing (world.useComm box action keep) := by
  unfold World.useComm
  split
  · exact stay _
  case h_2 object known =>
    split
    · exact stay _
    · have sends (outgoing : Connection.CommMessage) :=
        Connection.failsCleanly_sendComm world.now box.comm outgoing object.connection
      have fails {error : ServiceError} {change : Connection.Change}
          (clean : object.connection.FailsCleanly
            ((.error error, change) : Connection.Call (String × Nat))) :
          world.StaysIfFailing (world.afterSend box.kernel "" (.error error, change) keep) :=
        afterSend known (fun _ _ => clean error rfl) "" keep
      dsimp only
      split
      case h_1 data metadata buffers =>
        have clean := sends (.opening box.comm data metadata buffers)
        split
        · exact afterSend known .of_ok _ keep
        case h_2 failed => exact fails (failed ▸ clean)
      case h_2 data metadata buffers =>
        have clean := sends (.sending box.comm data metadata buffers)
        split
        · exact afterSend known .of_ok _ keep
        case h_2 failed => exact fails (failed ▸ clean)
      case h_3 data metadata =>
        have clean := Connection.failsCleanly_closeComm world.now box.comm data metadata
          object.connection
        split
        · exact .of_ne fun _ => by simp [World.afterSend]
        case h_2 error change failed =>
          rw [failed] at clean
          exact fails fun _ _ => clean error rfl

end Calls

end StaysIfFailing

/-- To send parcels from the server fails in ways of its own. -/
theorem sendParcels_ne_error (socket : Nat) (parcels : List Parcel) (world : World) :
    ∀ error, (world.sendParcels socket parcels).1 ≠ .error error := by
  induction parcels generalizing world with
  | nil => simp [sendParcels]
  | cons parcel rest ih =>
      intro error
      simp only [sendParcels]
      split
      · simp [noSuch]
      case h_2 held _ =>
        cases parcel with
        | frame frame =>
            dsimp only
            split
            · exact ih _ error
            · simp
        | message message? =>
            cases message? with
            | none => simp
            | some message =>
                cases encoded : message.encode held.protocol with
                | error fault => simp [encoded]
                | ok frame =>
                    simp only [encoded]
                    split
                    · exact ih _ error
                    · simp

theorem spendsNumbers_outgoingMessage (now : Instant) (outgoing : Outgoing)
    (connection : Connection) :
    connection.SpendsNumbers (outgoingMessage now outgoing connection).2 := by
  cases outgoing with
  | given message => exact .refl connection
  | made => exact ⟨1, rfl⟩

theorem staysIfFailing_connectThrough (id : ManagerId) (name : String) (model : GivenModel) :
    world.StaysIfFailing (world.connectThrough id name model) := by
  cases id with
  | kernels manager =>
      simp only [connectThrough]
      split
      · exact .stay _
      · exact .stay _
      · exact .of_ne fun _ => by simp
  | sessions manager =>
      simp only [connectThrough]
      split
      · exact .stay _
      · exact .stay _
      · exact .of_ne fun _ => by simp

/-- Whatever is done at once. -/
theorem staysIfFailing_perform (operation : Operation) :
    world.StaysIfFailing (world.perform operation) := by
  cases operation with
  | wait | advance | clear | offline | plan | setProtocol | connectKernel | connectSession
  | createManager => exact .of_ne fun _ => by simp [perform]
  | call => exact .of_ne fun _ => by simp [perform, startCall]
  | unreadable result => exact .stay result
  | respond route answer times => cases times <;> exact .of_ne fun _ => by simp [perform]
  | serverSend socket parcels =>
      simp only [perform]
      split
      · exact .stay _
      · exact .of_ne (sendParcels_ne_error socket parcels world)
  | serverClose | serverStopReading | serverDrop =>
      simp only [perform, withSocket]
      split <;> exact .of_ne fun _ => by simp [noSuch]
  | setVisible => exact .withManager fun id _ => .of_ne fun _ => by simp
  | cloneKernel => exact .withKernel fun _ _ _ => .of_ne fun _ => by simp
  | request kernel request keep =>
      exact .withKernel fun number object known =>
        .afterSend known (Connection.failsCleanly_request world.now request _) _ keep
  | send kernel outgoing expectsReply isRaw keep =>
      refine .withKernel fun number object known => ?_
      have made := spendsNumbers_outgoingMessage world.now outgoing object.connection
      split
      case h_1 => exact .of_ne fun _ => by simp
      case h_2 message connection readable =>
        rw [readable] at made
        split
        · exact .afterCall known ((Connection.failsCleanly_sendRaw message _).after made)
        · exact .afterSend known ((Connection.failsCleanly_send message _ _).after made) _ keep
  | sendInput kernel value parent =>
      refine .withKernel fun number object known => ?_
      have sends (parent : Option Message) := StaysIfFailing.afterCall known
        (Connection.failsCleanly_sendInput world.now value parent object.connection)
      cases parent with
      | absent => exact sends none
      | unreadable => exact .stay _
      | present message => exact sends (some message)
  | newMessage | newIds => exact .withKernel fun _ _ _ => .of_ne fun _ => by simp
  | hasComm | describeKernel => exact .withKernel fun _ _ _ => .stay _
  | disposeKernel | removeTarget => exact .withKernel fun _ _ _ => .of_ne fun _ => by simp
  | registerTarget kernel target name isManual =>
      refine .withKernel fun number object known => ?_
      have clean := Connection.failsCleanly_registerTarget target object.connection
      dsimp only
      split
      · exact .of_ne fun _ => by simp
      case h_2 failed => exact fun _ _ => .applyFailed known clean failed
  | createComm kernel target commId name isManual =>
      refine .withKernel fun number object known => ?_
      have clean (commId : String) :=
        Connection.failsCleanly_createComm target commId object.connection
      have fresh : world.Unmoved world.freshClient.2 :=
        .of_kernels_eq rfl rfl rfl rfl rfl rfl rfl rfl
      cases commId with
      | some commId =>
          dsimp only
          split
          · exact .of_ne fun _ => by simp
          case h_2 failed => exact fun _ _ => .applyFailed known (clean _) failed
      | none =>
          dsimp only
          split
          · exact .of_ne fun _ => by simp
          case h_2 failed => exact fun _ _ => fresh.trans (.applyFailed known (clean _) failed)
  | useComm comm action keep => exact .withComm fun box => .useComm box action keep
  | describeComm => exact .withComm fun _ => .stay _
  | receiveComm comm =>
      refine .withComm fun box => ?_
      simp only [receiveComm]
      split
      · exact .of_ne fun _ => by simp
      · exact .of_ne fun _ => by simp
      · split <;> exact .of_ne fun _ => by simp
  | receiveTarget target =>
      simp only [perform, receiveTarget]
      split
      · exact .stay _
      · split
        · exact .of_ne fun _ => by simp
        · exact .ite (.of_ne fun _ => by simp) (.stay _)
  | nextOfReply | outcomeOfReply =>
      refine .withReply fun box => ?_
      split <;> exact .of_ne fun _ => by simp
  | drop kind name =>
      simp only [perform, dropName]
      exact .ite (.of_ne fun _ => by simp) (.of_ne fun _ => by simp)
  | disposeSession => exact .withSession fun _ _ => .of_ne fun _ => by simp
  | kernelOfSession session name =>
      refine .withSession fun _ object => ?_
      split <;> exact .of_ne fun _ => by simp
  | describeSession => exact .withSession fun _ _ => .stay _
  | connectThrough manager name model =>
      exact .withManager fun id _ => staysIfFailing_connectThrough id name model
  | disposeManager => exact .withManager fun _ _ => .of_ne fun _ => by simp
  | specsOfManager | describeManager | baseUrlOfManager => exact .withManager fun _ _ => .stay _
  | callAboutKernel => exact .withKernel fun _ _ _ => .of_ne fun _ => by simp [startCall]
  | callAboutSession => exact .withSession fun _ _ => .of_ne fun _ => by simp [startCall]
  | callAboutManager => exact .withManager fun _ _ => .of_ne fun _ => by simp [startCall]
  | awaitReply => exact .withReply fun _ => .of_ne fun _ => by simp [startCall]

/-- An operation of a script that fails. -/
theorem unmoved_performWithin {operation : Operation} {error : ServiceError} {after : World}
    (failed : world.performWithin operation = (.error error, after)) : world.Unmoved after := by
  unfold performWithin at failed
  dsimp only at failed
  split at failed
  · simp at failed
  · obtain ⟨result, rfl⟩ := Prod.mk.inj failed
    exact staysIfFailing_perform operation error result

end World

/-- Whether a call asks the server to do something with a kernel or a session that is connected
to. -/
def Call.Controls : Call → Prop
  | .interrupt _ | .restart _ | .shutdownKernel _ | .setProperty _ _ _ | .changeKernel _ _ _
  | .shutdownSession _ => True
  | _ => False

/-- Whether such a call is about to begin or waits for the answer of the server. -/
def CallStage.Controls : CallStage → Prop
  | .begin call => call.Controls
  | .interrupting _ _ | .restarting _ _ _ _ | .endingKernel _ _ | .patching _ _
  | .changingKernel _ _ _ | .endingSession _ _ => True
  | _ => False

namespace World

variable {world : World}

/-- The server has answered a restart with the model of a kernel. -/
def HasRestarted (stage : CallStage) (world : World) : Prop :=
  match stage with
  | .begin (.restart kernel) => ∃ object model, world.kernel? kernel = some object ∧
      object.connection.checkOpen = .ok () ∧
      (world.ask (Rest.Kernels.restart world.settings object.connection.model.id)).1 =
        .settled (.ok model)
  | .restarting _ _ _ slot => ∃ model, (world.check slot).1 = .settled (.ok model)
  | .awaitingStart _ _ _ _ => True
  | _ => False

/-- What a turn of a call comes to: unless it succeeds, it leaves the world unmoved, and if it is
not over then it waits for the answer of the server. -/
def StaysUnlessDone (world : World) (turn : Progress × World) : Prop :=
  match turn.1 with
  | .waiting stage => stage.Controls ∧ world.Unmoved turn.2
  | .finished (.error _) => world.Unmoved turn.2
  | .finished (.ok _) => True

theorem StaysUnlessDone.after {middle : World} {turn : Progress × World}
    (stays : middle.StaysUnlessDone turn) (unmoved : world.Unmoved middle) :
    world.StaysUnlessDone turn := by
  unfold StaysUnlessDone at stays ⊢
  split
  case h_1 stage waits =>
    rw [waits] at stays
    exact ⟨stays.1, unmoved.trans stays.2⟩
  case h_2 error failed =>
    rw [failed] at stays
    exact unmoved.trans stays
  case h_3 => trivial

theorem unmoved_ask {α : Type} (exchange : Exchange α) (world : World) :
    world.Unmoved (world.ask exchange).2 := by
  have sockets (request : Request) :
      (world.server.answer request).2.sockets = world.server.sockets := by
    unfold Server.answer
    split
    · rfl
    · dsimp only
      split <;> rfl
  unfold ask
  split
  · exact .refl world
  case h_2 request _ =>
    dsimp only
    split
    · exact .of_kernels_eq rfl rfl rfl rfl rfl rfl rfl (sockets request)
    · split <;> exact .of_kernels_eq rfl rfl rfl rfl rfl rfl rfl (sockets request)

theorem unmoved_check {α : Type} (slot : Slot α) (world : World) :
    world.Unmoved (world.check slot).2 := by
  unfold check
  split
  · split
    · exact .of_kernels_eq rfl rfl rfl rfl rfl rfl rfl rfl
    · exact .refl world
  · exact .refl world

theorem staysUnlessDone_runInterrupting (kernel : Nat) (slot : Slot Unit) (world : World) :
    world.StaysUnlessDone (world.runInterrupting kernel slot) := by
  unfold runInterrupting
  cases slot with
  | waiting exchange timer answer => exact ⟨trivial, .refl world⟩
  | settled result =>
      cases result with
      | error error => exact .refl world
      | ok => trivial

theorem staysUnlessDone_runEndingKernel (kernel : Nat) (slot : Slot Unit) (world : World) :
    world.StaysUnlessDone (world.runEndingKernel kernel slot) := by
  unfold runEndingKernel
  split
  · exact ⟨trivial, .refl world⟩
  · exact .refl world
  · trivial

theorem unmoved_endRestart (kernel status disposed : Nat) (world : World) :
    world.Unmoved (world.endRestart kernel status disposed) :=
  .modifyKernel fun _ _ => ⟨.refl _, Signal.quiet_unsubscribe _ _, rfl, rfl, rfl,
    Signal.quiet_unsubscribe _ _, rfl⟩

/-- A restart that the server has not granted. -/
theorem staysUnlessDone_runRestarting {slot : Slot KernelModel}
    (refused : ∀ model, slot ≠ .settled (.ok model)) (kernel status disposed : Nat)
    (world : World) :
    world.StaysUnlessDone (world.runRestarting kernel status disposed slot) := by
  unfold runRestarting
  split
  · exact ⟨trivial, .refl world⟩
  · exact unmoved_endRestart kernel status disposed world
  case h_3 model => exact absurd rfl (refused model)

/-- The answer of the server does not depend on connections. -/
theorem ask_modifyKernel {α : Type} (exchange : Exchange α) (kernel : Nat)
    (change : KernelObject → KernelObject) (world : World) :
    ((world.modifyKernel kernel change).ask exchange).1 = (world.ask exchange).1 := by
  unfold ask
  cases exchange.request with
  | error error => rfl
  | ok request =>
      dsimp only [modifyKernel]
      by_cases hangs : (world.server.answer request).1.isHanging = true
      · rw [if_pos hangs, if_pos hangs]
        rfl
      · by_cases isInstant : (world.server.answer request).1.delay = 0
        · rw [if_neg hangs, if_neg hangs, if_pos isInstant, if_pos isInstant]
          rfl
        · rw [if_neg hangs, if_neg hangs, if_neg isInstant, if_neg isInstant]
          rfl

theorem staysUnlessDone_beginInterrupt (kernel : Nat) :
    world.StaysUnlessDone (world.beginInterrupt kernel) := by
  unfold beginInterrupt
  split
  · exact .refl world
  · split
    · exact .refl world
    · exact (staysUnlessDone_runInterrupting kernel _ _).after (unmoved_ask _ world)

theorem staysUnlessDone_beginShutdownKernel (kernel : Nat) :
    world.StaysUnlessDone (world.beginShutdownKernel kernel) := by
  unfold beginShutdownKernel
  split
  · exact .refl world
  · split
    · exact .refl world
    · exact staysUnlessDone_runEndingKernel kernel _ world
    · exact (staysUnlessDone_runEndingKernel kernel _ _).after (unmoved_ask _ world)

theorem staysUnlessDone_beginRestart {kernel : Nat}
    (refused : ¬world.HasRestarted (.begin (.restart kernel))) :
    world.StaysUnlessDone (world.beginRestart kernel) := by
  unfold beginRestart
  split
  · exact .refl world
  case h_2 object known =>
    split
    · exact .refl world
    case h_2 accepts =>
      dsimp only
      have listens : world.Unmoved (world.modifyKernel kernel fun held => { held with
          status := object.status.subscribe.2, disposed := object.disposed.subscribe.2 }) := by
        refine .modifyKernel fun held present => ?_
        cases known.symm.trans present
        exact ⟨.refl _, Signal.quiet_subscribe _, rfl, rfl, rfl, Signal.quiet_subscribe _, rfl⟩
      refine (staysUnlessDone_runRestarting (fun model granted => refused ?_) kernel _ _ _).after
        (listens.trans (unmoved_ask _ _))
      exact ⟨object, model, known, accepts, (ask_modifyKernel _ kernel _ world).symm.trans granted⟩

theorem staysUnlessDone_runPatching (session : Nat) (slot : Slot SessionModel) (world : World) :
    world.StaysUnlessDone (world.runPatching session slot) := by
  unfold runPatching
  split
  · exact ⟨trivial, .refl world⟩
  · exact .refl world
  · trivial

theorem staysUnlessDone_runChangingKernel (session : Nat) (name : Option String)
    (slot : Slot SessionModel) (world : World) :
    world.StaysUnlessDone (world.runChangingKernel session name slot) := by
  unfold runChangingKernel
  split
  · exact ⟨trivial, .refl world⟩
  · exact .refl world
  · dsimp only
    split <;> trivial

theorem staysUnlessDone_runEndingSession (session : Nat) (slot : Slot Unit) (world : World) :
    world.StaysUnlessDone (world.runEndingSession session slot) := by
  unfold runEndingSession
  split
  · exact ⟨trivial, .refl world⟩
  · exact .refl world
  · trivial

theorem staysUnlessDone_aboutSession {α : Type} {run : Slot α → World → Progress × World}
    (stays : ∀ slot world, World.StaysUnlessDone world (run slot world)) (session : Nat)
    (exchange : Settings → String → Exchange α) :
    world.StaysUnlessDone (world.aboutSession session exchange run) := by
  unfold aboutSession
  split
  · exact .refl world
  · split
    · exact .refl world
    · exact (stays _ _).after (unmoved_ask _ world)

/-- A turn of a call: one that is over has succeeded or left the world unmoved. -/
theorem staysUnlessDone_runCall {stage : CallStage} (controls : stage.Controls)
    (refused : ¬world.HasRestarted stage) : world.StaysUnlessDone (world.runCall stage) := by
  cases stage with
  | begin call =>
      cases call with
      | interrupt kernel => exact staysUnlessDone_beginInterrupt kernel
      | restart kernel => exact staysUnlessDone_beginRestart refused
      | shutdownKernel kernel => exact staysUnlessDone_beginShutdownKernel kernel
      | setProperty session =>
          exact staysUnlessDone_aboutSession (staysUnlessDone_runPatching session) session _
      | changeKernel session choice name =>
          exact staysUnlessDone_aboutSession (staysUnlessDone_runChangingKernel session name)
            session _
      | shutdownSession session =>
          exact staysUnlessDone_aboutSession (staysUnlessDone_runEndingSession session) session _
      | _ => exact controls.elim
  | interrupting kernel slot =>
      exact (staysUnlessDone_runInterrupting kernel _ _).after (unmoved_check slot world)
  | restarting kernel status disposed slot =>
      exact (staysUnlessDone_runRestarting (fun model granted => refused ⟨model, granted⟩)
        kernel status disposed _).after (unmoved_check slot world)
  | endingKernel kernel slot =>
      exact (staysUnlessDone_runEndingKernel kernel _ _).after (unmoved_check slot world)
  | patching session slot =>
      exact (staysUnlessDone_runPatching session _ _).after (unmoved_check slot world)
  | changingKernel session name slot =>
      exact (staysUnlessDone_runChangingKernel session name _ _).after (unmoved_check slot world)
  | endingSession session slot =>
      exact (staysUnlessDone_runEndingSession session _ _).after (unmoved_check slot world)
  | _ => exact controls.elim

end World

/-- A turn of a call in which it goes on from a stage. -/
structure CallTurn where
  stage : CallStage
  before : World
  after : World

/-- A call in its turns, from a stage to its outcome. What goes on between two turns is left
open. -/
inductive CallRun : CallStage → List CallTurn → CallOutcome → Prop where
  | ends {stage : CallStage} {before after : World} {outcome : CallOutcome}
      (ends : before.runCall stage = (.finished outcome, after)) :
      CallRun stage [⟨stage, before, after⟩] outcome
  | waits {stage next : CallStage} {before after : World} {turns : List CallTurn}
      {outcome : CallOutcome} (waits : before.runCall stage = (.waiting next, after))
      (rest : CallRun next turns outcome) :
      CallRun stage (⟨stage, before, after⟩ :: turns) outcome

/-- A call that fails without having restarted a kernel leaves the world unmoved in all its
turns. -/
theorem CallRun.unmoved {stage : CallStage} {turns : List CallTurn} {error : ServiceError}
    (run : CallRun stage turns (.error error)) (controls : stage.Controls)
    (refused : ∀ turn ∈ turns, ¬turn.before.HasRestarted turn.stage) :
    ∀ turn ∈ turns, turn.before.Unmoved turn.after := by
  generalize failed : (Except.error error : CallOutcome) = outcome at run
  induction run with
  | @ends stage before after outcome ends =>
      have stays := World.staysUnlessDone_runCall controls (refused _ (List.mem_singleton_self _))
      rw [ends, ← failed] at stays
      intro turn member
      cases List.mem_singleton.mp member
      exact stays
  | @waits stage next before after turns outcome waits rest ih =>
      have stays := World.staysUnlessDone_runCall controls (refused _ List.mem_cons_self)
      rw [waits] at stays
      have others := ih stays.1 (fun turn member => refused turn (List.mem_cons_of_mem _ member))
        failed
      intro turn member
      rcases List.mem_cons.mp member with rfl | later
      · exact stays.2
      · exact others turn later

/-- What fails leaves no trace. A call of a connection announces nothing and uses up numbers of
messages at most, and so it is for all that can be refused at once in a world. A call that asks the
server does nothing in any of its turns, whatever goes on between them, if the server does not grant
it. -/
theorem failing_calls_leave_no_trace :
    (∀ connection : Connection, connection.CallsFailCleanly) ∧
    (∀ (world after : World) operation error,
      world.performWithin operation = (.error error, after) → world.Unmoved after) ∧
    ∀ call turns error, call.Controls → CallRun (.begin call) turns (.error error) →
      (∀ turn ∈ turns, ¬turn.before.HasRestarted turn.stage) →
      ∀ turn ∈ turns, turn.before.Unmoved turn.after :=
  ⟨Connection.callsFailCleanly, fun _ _ _ _ failed => World.unmoved_performWithin failed,
    fun _ _ _ controls run refused => run.unmoved controls refused⟩

namespace World

/-- A server that refuses a restart after a second, and two connections, of which one is
disposed. -/
def refusing : World :=
  scripted [
    answering .post "/api/kernels/k/restart" 500 "" 1000,
    ⟨.connectKernel "k" ⟨"k", "python3"⟩ .usual, false⟩,
    ⟨.connectKernel "d" ⟨"d", "python3"⟩ .usual, false⟩,
    ⟨.disposeKernel "d", false⟩]

/-- A restart that waits for its answer and then fails. -/
theorem callRun_refusing :
    ∃ turns error, CallRun (.begin (.restart 0)) turns (.error error) ∧ turns.length = 2 ∧
      ∀ turn ∈ turns, ¬turn.before.HasRestarted turn.stage := by
  have named : (refusing.kernel? 0).map (fun object => object.connection.model.id) = some "k" := by
    decide +kernel
  have asked : (refusing.ask (Rest.Kernels.restart refusing.settings "k")).1.result?.isNone =
      true := by
    decide +kernel
  have evaluated : (match refusing.runCall (.begin (.restart 0)) with
      | (.waiting (.restarting kernel status disposed slot), after) =>
          match ((after.setClock 2000).check slot).1,
            ((after.setClock 2000).runCall (.restarting kernel status disposed slot)).1 with
          | .settled (.error _), .finished (.error _) => true
          | _, _ => false
      | _ => false) = true := by
    decide +kernel
  split at evaluated
  case h_2 => cases evaluated
  case h_1 kernel status disposed slot after waits =>
    split at evaluated
    case h_2 => cases evaluated
    case h_1 refused error answered failed =>
      refine ⟨_, error, .waits waits (.ends (Prod.ext failed rfl)), rfl, ?_⟩
      simp only [List.mem_cons, List.not_mem_nil, or_false]
      rintro turn (rfl | rfl)
      · rintro ⟨object, model, known, -, granted⟩
        have same : object.connection.model.id = "k" := by simpa [known] using named
        rw [same] at granted
        simp [granted, Slot.result?] at asked
      · rintro ⟨model, granted⟩
        cases answered.symm.trans granted

/-- A request through the connection that is disposed, and a restart of the other kernel. -/
theorem no_trace_of_refusing :
    (∃ error after,
      refusing.performWithin (.request "d" .kernelInfo ⟨none, false⟩) = (.error error, after) ∧
      refusing.Unmoved after) ∧
    ∃ turns error, CallRun (.begin (.restart 0)) turns (.error error) ∧ turns.length = 2 ∧
      ∀ turn ∈ turns, turn.before.Unmoved turn.after := by
  obtain ⟨-, atOnce, inTurns⟩ := failing_calls_leave_no_trace
  constructor
  · have evaluated : (match (refusing.performWithin (.request "d" .kernelInfo ⟨none, false⟩)).1 with
        | .error _ => true
        | _ => false) = true := by
      decide +kernel
    split at evaluated
    case h_1 error failed =>
      exact ⟨error, _, Prod.ext failed rfl, atOnce _ _ _ _ (Prod.ext failed rfl)⟩
    case h_2 => cases evaluated
  · obtain ⟨turns, error, run, count, refused⟩ := callRun_refusing
    exact ⟨turns, error, run, count, inTurns (.restart 0) turns error trivial run refused⟩

end World

end KernelClient.Simulation
