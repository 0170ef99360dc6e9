import KernelClient.Proofs.Simulation.Tasks
import KernelClient.Simulation.Report

/-!
# Scripts are composed of acts

Every operation of a script and every report of what can be seen changes the world by acts only, so
whatever a script does, its world is one to which acts lead, and therefore steps.
-/

namespace KernelClient.Simulation

namespace World

variable {world : World}

theorem acts_sendParcels (socket : Nat) (parcels : List Parcel) :
    Acts world (sendParcels socket parcels world).2 := by
  induction parcels generalizing world with
  | nil => exact .refl world
  | cons parcel rest ih =>
      unfold sendParcels
      split
      · exact .refl world
      · dsimp only
        split
        · exact .refl world
        · split
          · exact (acts_changeServer _).trans ih
          · exact .refl world

theorem acts_withSocket (socket : Nat) (change : ServerSocket → ServerSocket) :
    Acts world (world.withSocket socket change).2 := by
  unfold withSocket
  split
  · exact .refl world
  · exact acts_changeServer _

theorem acts_breakOutput (socket : Nat) : Acts world (world.breakOutput socket) :=
  .elsewhere
    (steps_kernelsOnly ⟨rfl, rfl, rfl⟩
      (.move (.kernels (.map fun _ => Connection.continues_outputBroken socket))))
    ⟨Grows.map fun _ => .set (Connection.continues_outputBroken socket), rfl⟩

theorem acts_withKernel {name : String} {act : Nat → KernelObject → Performed}
    (acts : ∀ kernel object, world.kernel? kernel = some object →
      Acts world (act kernel object).2) :
    Acts world (world.withKernel name act).2 := by
  unfold withKernel
  split
  · exact .refl world
  · split
    case h_1 object known => exact acts _ object known
    case h_2 => exact .refl world

theorem acts_withSession {name : String} {act : Nat → SessionObject → Performed}
    (acts : ∀ session object, Acts world (act session object).2) :
    Acts world (world.withSession name act).2 := by
  unfold withSession
  split
  · exact .refl world
  · split
    · exact acts _ _
    · exact .refl world

theorem acts_withManager {name : String} {act : ManagerId → ManagerView → Performed}
    (acts : ∀ id view, Acts world (act id view).2) :
    Acts world (world.withManager name act).2 := by
  unfold withManager
  split
  · exact .refl world
  · split
    · exact acts _ _
    · exact .refl world

theorem acts_withComm {name : String} {act : CommBox → Performed}
    (acts : ∀ box, Acts world (act box).2) :
    Acts world (world.withComm name act).2 := by
  unfold withComm
  split
  · exact .refl world
  · split
    · exact acts _
    · exact .refl world

theorem acts_withReply {name : String} {act : ReplyBox → Performed}
    (acts : ∀ box, Acts world (act box).2) :
    Acts world (world.withReply name act).2 := by
  unfold withReply
  split
  · exact .refl world
  · split
    · exact acts _
    · exact .refl world

theorem acts_keepReply (kernel key : Nat) (keep : Keep) :
    Acts world (world.keepReply kernel key keep) := by
  unfold keepReply
  split
  · exact acts_nameReply _ _ _
  · exact .refl world

theorem acts_afterSend {kernel : Nat} {call : Connection.Call Nat}
    (orderly : ∀ object, world.kernel? kernel = some object →
      object.connection.Orderly call.2) (msgId : String) (keep : Keep) :
    Acts world (world.afterSend kernel msgId call keep).2 := by
  unfold afterSend
  dsimp only
  split
  · exact (acts_applyKernel orderly).trans (acts_keepReply kernel _ keep)
  · exact acts_applyKernel orderly

theorem acts_afterCall {kernel : Nat} {call : Connection.Call Unit}
    (orderly : ∀ object, world.kernel? kernel = some object →
      object.connection.Orderly call.2) :
    Acts world (world.afterCall kernel call).2 := by
  unfold afterCall
  dsimp only
  split <;> exact acts_applyKernel orderly

theorem continues_outgoingMessage (now : Instant) (outgoing : Outgoing) (connection : Connection) :
    connection.Continues (outgoingMessage now outgoing connection).2 := by
  cases outgoing <;> exact ⟨rfl, rfl, id⟩

theorem continues_newIds (now : Instant) (count : Nat) (connection : Connection) :
    connection.Continues (newIds now count connection).2 := by
  induction count generalizing connection with
  | zero => exact .refl connection
  | succ count ih => exact (ih _).startsFrom rfl rfl rfl

theorem acts_setConnection {kernel : Nat} {connection : Connection}
    (continues : ∀ object, world.kernel? kernel = some object →
      object.connection.Continues connection) :
    Acts world (world.setConnection kernel connection) :=
  acts_modifyKernel fun object known => .set (continues object known)

theorem acts_modifyComm (id : CommId) (change : CommBox → CommBox) :
    Acts world (world.modifyComm id change) :=
  .aside ⟨rfl, rfl, rfl, rfl⟩

/-- What holds of a connection that was looked up holds of the one at its place. -/
theorem of_known {kernel : Nat} {object : KernelObject} {Holds : KernelObject → Prop}
    (known : world.kernel? kernel = some object) (holds : Holds object) :
    ∀ other, world.kernel? kernel = some other → Holds other := by
  intro other present
  cases known.symm.trans present
  exact holds

theorem acts_useComm (box : CommBox) (action : CommAction) (keep : Keep) :
    Acts world (world.useComm box action keep).2 := by
  unfold useComm
  split
  · exact .refl world
  case h_2 object known =>
    have sends (outgoing : Connection.CommMessage) : object.connection.Orderly
        (object.connection.sendComm world.now box.comm outgoing).2 :=
      Connection.orderly_sendComm world.now box.comm outgoing
    have closes (data : Json) (metadata : Option Json) : object.connection.Orderly
        (object.connection.closeComm world.now box.comm data metadata).2 :=
      Connection.orderly_closeComm world.now box.comm data metadata
    split
    · exact .refl world
    · split
      case h_1 | h_2 =>
        dsimp only
        split
        case h_1 msgId key change succeeds =>
          have sent : object.connection.Orderly change :=
            (congrArg (fun call => call.2) succeeds).subst (sends _)
          exact acts_afterSend (of_known known sent) msgId keep
        case h_2 error change fails =>
          have sent : object.connection.Orderly change :=
            (congrArg (fun call => call.2) fails).subst (sends _)
          exact acts_afterSend (of_known known sent) "" keep
      case h_3 data metadata =>
        have closed := closes data metadata
        dsimp only
        split
        case h_1 comm msgId key change succeeds =>
          rw [succeeds] at closed
          have kept : Acts world (world.modifyComm box.id fun box => { box with comm := comm }) :=
            acts_modifyComm box.id _
          refine kept.trans (acts_afterSend (fun other present => ?_) msgId keep)
          cases known.symm.trans present
          exact closed
        case h_2 error change fails =>
          rw [fails] at closed
          exact acts_afterSend (of_known known closed) "" keep

theorem acts_receiveComm (box : CommBox) : Acts world (world.receiveComm box).2 := by
  unfold receiveComm
  dsimp only
  split
  · exact acts_modifyComm _ _
  · exact acts_modifyComm _ _
  · simp only [apply_ite Prod.snd]
    exact .ite (acts_modifyComm _ _) (.refl world)

theorem acts_receiveTarget (name : String) : Acts world (world.receiveTarget name).2 := by
  unfold receiveTarget
  split
  · exact .refl world
  · split
    case h_1 taken => exact acts_takeComm taken
    case h_2 =>
      simp only [apply_ite Prod.snd]
      exact .ite (acts_modifyNames _) (.refl world)

theorem acts_createManager (name : String) (kind : ManagerKind) (options : ManagerOptions)
    (isVisible : Bool) : Acts world (world.createManager name kind options isVisible) := by
  cases kind with
  | kernels =>
      have added : Steps world { world with
          kernelManagers := world.kernelManagers ++ [.create options isVisible] } :=
        .minor {
          evolves := .move (.kernelManagers (.snoc (fun object => .refl object.manager) rfl))
          sessions := .of_eq rfl
          kernelManagers := .snoc .refl ⟨options, isVisible, .refl _⟩
          sessionManagers := .of_eq rfl }
      refine .trans (.trans (.keep added (keeps_newKernelManager options isVisible)) (.aside ?_))
        (acts_nameManager name _)
      rcases options with ⟨⟨_ | _ | _, _ | _ | _⟩, kernel⟩ <;> exact ⟨rfl, rfl, rfl, rfl⟩
  | sessions =>
      have added : Steps world { world with
          sessionManagers := world.sessionManagers ++ [.create options isVisible] } :=
        .minor {
          evolves := .move (.sessionManagers (.snoc (fun object => .refl object.manager) rfl))
          sessions := .of_eq rfl
          kernelManagers := .of_eq rfl
          sessionManagers := .snoc .refl ⟨options, isVisible, .refl _⟩ }
      refine .trans (.trans (.elsewhere added ⟨.of_eq rfl, rfl⟩) (.aside ?_))
        (acts_nameManager name _)
      rcases options with ⟨⟨_ | _ | _, _ | _ | _⟩, kernel⟩ <;> exact ⟨rfl, rfl, rfl, rfl⟩

theorem steps_createManager (name : String) (kind : ManagerKind) (options : ManagerOptions)
    (isVisible : Bool) : Steps world (world.createManager name kind options isVisible) :=
  (acts_createManager name kind options isVisible).steps

theorem acts_disposeManager (id : ManagerId) :
    Acts world (world.changeManager id disposeManager) :=
  acts_changeManager id .disposed trivial rfl (fun _ => rfl) .disposed trivial fun _ => rfl

theorem acts_setVisible (id : ManagerId) (isVisible : Bool) :
    Acts world (world.setVisible id isVisible) := by
  cases id with
  | kernels number =>
      exact acts_hearKernelManager fun _ _ => ⟨rfl, rfl, rfl, .refl _, .refl _, .refl _, .refl _⟩
  | sessions number =>
      exact acts_hearSessionManager fun _ _ => ⟨rfl, rfl, rfl, .refl _, .refl _, .refl _, .refl _⟩

theorem acts_connectThrough (id : ManagerId) (name : String) (model : GivenModel) :
    Acts world (world.connectThrough id name model).2 := by
  unfold connectThrough
  split
  · split
    · exact .refl world
    · exact .refl world
    case h_3 connected connects =>
      obtain ⟨given, -, connects⟩ := Option.map_eq_some_iff.mp connects
      exact (acts_connectThroughKernels connects).trans (acts_nameKernel name _)
  · split
    · exact .refl world
    · exact .refl world
    case h_3 connected connects =>
      obtain ⟨given, -, connects⟩ := Option.map_eq_some_iff.mp connects
      exact (acts_connectThroughSessions connects).trans (acts_nameSession name _)

theorem acts_dropName (kind : HandleKind) (name : String) :
    Acts world (world.dropName kind name).2 := by
  unfold dropName
  simp only [apply_ite Prod.snd]
  refine .ite ?_ (.refl world)
  split
  · exact .aside ⟨rfl, rfl, rfl, rfl⟩
  · exact .aside ⟨rfl, rfl, rfl, rfl⟩
  · exact .aside ⟨rfl, rfl, rfl, rfl⟩
  · exact acts_dropReply name
  · exact acts_dropComm name
  · exact acts_dropTarget name

theorem acts_perform (operation : Operation) : Acts world (world.perform operation).2 := by
  cases operation with
  | wait => exact .refl world
  | unreadable result => exact .refl world
  | advance milliseconds => exact acts_advance milliseconds
  | respond route answer times => cases times <;> exact acts_changeServer _
  | clear route => exact acts_changeServer _
  | offline isOffline =>
      dsimp only [perform]
      exact acts_changeServer _
  | plan connects =>
      dsimp only [perform]
      exact acts_changeServer _
  | setProtocol protocol =>
      dsimp only [perform]
      exact acts_changeServer _
  | serverSend socket parcels =>
      unfold perform
      dsimp only
      split
      · exact .refl world
      · exact acts_sendParcels socket parcels
  | serverClose socket => exact acts_withSocket socket _
  | serverStopReading socket =>
      exact (acts_breakOutput socket).trans (acts_withSocket socket _)
  | serverDrop socket =>
      exact (acts_breakOutput socket).trans (acts_withSocket socket _)
  | setVisible manager isVisible =>
      exact acts_withManager fun id _ => acts_setVisible id isVisible
  | connectKernel name model options =>
      exact (acts_connectKernel model options).trans (acts_nameKernel name _)
  | cloneKernel kernel name =>
      exact acts_withKernel fun _ object _ =>
        (acts_connectKernel _ _).trans (acts_nameKernel name _)
  | request kernel request keep =>
      exact acts_withKernel fun number object known =>
        acts_afterSend (of_known known (Connection.orderly_request _ request)) _ keep
  | send kernel outgoing expectsReply isRaw keep =>
      refine acts_withKernel fun number object known => ?_
      have made := continues_outgoingMessage world.now outgoing object.connection
      split
      case h_1 connection unreadable =>
        rw [unreadable] at made
        exact acts_setConnection (of_known known made)
      case h_2 message connection readable =>
        rw [readable] at made
        split
        · exact acts_afterCall
            (of_known known ((Connection.orderly_sendRaw message).startsFrom made))
        · exact acts_afterSend
            (of_known known ((Connection.orderly_send message _).startsFrom made)) _ keep
  | sendInput kernel value parent =>
      refine acts_withKernel fun number object known => ?_
      have sends (parent : Option Message) : Acts world
          (world.afterCall number (object.connection.sendInput world.now value parent)).2 :=
        acts_afterCall
          (of_known known (Connection.orderly_sendInput world.now value parent))
      cases parent with
      | absent => exact sends none
      | unreadable => exact .refl world
      | present message => exact sends (some message)
  | newMessage kernel channel msgType content =>
      exact acts_withKernel fun number object known =>
        acts_setConnection (of_known known ⟨rfl, rfl, id⟩)
  | newIds kernel count =>
      exact acts_withKernel fun number object known =>
        acts_setConnection (of_known known (continues_newIds _ count _))
  | hasComm kernel commId => exact acts_withKernel fun _ _ _ => .refl world
  | describeKernel kernel => exact acts_withKernel fun _ _ _ => .refl world
  | disposeKernel kernel =>
      exact acts_withKernel fun number _ _ =>
        acts_changeKernel fun _ => Connection.orderly_dispose
  | registerTarget kernel target name isManual =>
      refine acts_withKernel fun number object known => ?_
      dsimp only
      have applied : Acts world
          (world.applyKernel number (object.connection.registerTarget target).2) :=
        acts_applyKernel (of_known known (Connection.orderly_registerTarget target))
      split
      · exact applied.trans (acts_nameTarget name _ isManual)
      · exact applied
  | removeTarget kernel target =>
      exact acts_withKernel fun number _ _ =>
        acts_changeKernel fun _ => Connection.orderly_removeTarget target
  | createComm kernel target commId name isManual =>
      refine acts_withKernel fun number object known => ?_
      have applied (world : World) (commId : String)
          (known : world.kernel? number = some object) : Acts world
            (world.applyKernel number (object.connection.createComm target commId).2) :=
        acts_applyKernel
          (of_known known (Connection.orderly_createComm target commId))
      have kept (world : World) (box : CommBox) :
          Acts world { world with comms := world.comms ++ [box] } :=
        .aside ⟨rfl, rfl, rfl, rfl⟩
      cases commId with
      | some commId =>
          have created := applied world commId known
          dsimp only
          split
          · exact (created.trans (kept _ _)).trans (acts_nameComm name _ isManual)
          · exact created
      | none =>
          have created := acts_freshClient.trans
            (applied world.freshClient.2 world.freshClient.1 known)
          dsimp only
          split
          · exact (created.trans (kept _ _)).trans (acts_nameComm name _ isManual)
          · exact created
  | useComm comm action keep => exact acts_withComm fun box => acts_useComm box action keep
  | describeComm comm => exact acts_withComm fun _ => .refl world
  | receiveComm comm => exact acts_withComm fun box => acts_receiveComm box
  | receiveTarget target => exact acts_receiveTarget target
  | nextOfReply reply =>
      refine acts_withReply fun box => ?_
      split
      · exact .aside ⟨rfl, rfl, rfl, rfl⟩
      · exact .refl world
  | outcomeOfReply reply =>
      refine acts_withReply fun box => ?_
      split
      · exact .aside ⟨rfl, rfl, rfl, rfl⟩
      · exact .refl world
  | drop kind name => exact acts_dropName kind name
  | connectSession name model options =>
      exact (acts_connectSession model options).trans (acts_nameSession name _)
  | disposeSession session =>
      exact acts_withSession fun number _ => acts_disposeSession number
  | kernelOfSession session name =>
      refine acts_withSession fun number object => ?_
      split
      · exact acts_nameKernel name _
      · exact .refl world
  | describeSession session => exact acts_withSession fun _ _ => .refl world
  | createManager name kind options isVisible =>
      exact acts_createManager name kind options isVisible
  | connectThrough manager name model =>
      exact acts_withManager fun id _ => acts_connectThrough id name model
  | disposeManager manager =>
      exact acts_withManager fun id _ => acts_disposeManager id
  | specsOfManager manager => exact acts_withManager fun _ _ => .refl world
  | describeManager manager => exact acts_withManager fun _ _ => .refl world
  | baseUrlOfManager manager => exact acts_withManager fun _ _ => .refl world
  | callAboutKernel task kernel call =>
      exact acts_withKernel fun _ _ _ => acts_spawn _
  | callAboutSession task session call =>
      exact acts_withSession fun _ _ => acts_spawn _
  | callAboutManager task manager call =>
      exact acts_withManager fun _ _ => acts_spawn _
  | awaitReply task reply =>
      exact acts_withReply fun _ => (acts_modifyNames _).trans (acts_spawn _)
  | call task call => exact acts_spawn _

theorem acts_performWithin (operation : Operation) :
    Acts world (world.performWithin operation).2 := by
  unfold performWithin
  simp only [apply_ite Prod.snd]
  exact .ite (.refl world) (acts_perform operation)

theorem acts_takeSockets : Acts world world.takeSockets.2 := by
  dsimp only [takeSockets]
  exact acts_changeServer _

theorem acts_takeComms (name : String) (most : Nat) :
    Acts world (takeComms name most world).2 := by
  induction most generalizing world with
  | zero => exact .refl world
  | succ most ih =>
      unfold takeComms
      split
      · exact .refl world
      case h_2 taken => exact (acts_takeComm taken).trans ih

theorem acts_takeTarget (name : String) : Acts world (world.takeTarget name).2 := by
  unfold takeTarget
  split
  · exact .refl world
  · simp only [apply_ite Prod.snd]
    exact .ite (.refl world) ((acts_takeComms name _).trans (acts_modifyNames _))

theorem acts_takeCommEvents (name : String) :
    Acts world (world.takeCommEvents name).2 := by
  unfold takeCommEvents
  split
  · exact .refl world
  · split
    · exact .refl world
    · simp only [apply_ite Prod.snd]
      exact .ite (.refl world) (.aside ⟨rfl, rfl, rfl, rfl⟩)

theorem acts_takeReply (name : String) : Acts world (world.takeReply name).2 := by
  unfold takeReply
  split
  · exact .refl world
  · split
    · exact .refl world
    · simp only [apply_ite Prod.snd]
      exact .ite (.refl world) (.aside ⟨rfl, rfl, rfl, rfl⟩)

theorem acts_takeKernel (observer : KernelObserver) :
    Acts world (world.takeKernel observer).2 := by
  unfold takeKernel
  split
  · exact .refl world
  case h_2 object known =>
    refine acts_modifyKernel (of_known known ?_)
    exact ⟨.refl _, rfl, fun isOpen => isOpen.drain _, fun isOpen => isOpen.drain _,
      fun _ => Signal.quiet_drain _ _⟩

theorem acts_takeSession (observer : SessionObserver) :
    Acts world (world.takeSession observer).2 := by
  unfold takeSession
  split
  · exact .refl world
  case h_2 object known =>
    refine acts_hearSession fun other present => ?_
    cases known.symm.trans present
    exact ⟨rfl, rfl, rfl, .drain _ _, .drain _ _, .drain _ _, .drain _ _⟩

/-- To take what an observer has received is only to listen to a manager. -/
theorem heard_drainManager {Model Connection : Type} (toJson : Model → Json)
    (observer : ManagerObserver) (object : ManagerObject Model Connection) :
    object.Heard (drainManager toJson observer object).2 :=
  ⟨rfl, rfl, rfl, .drain _ _, .drain _ _, .drain _ _, .drain _ _⟩

theorem acts_takeManager (observer : ManagerObserver) :
    Acts world (world.takeManager observer).2 := by
  unfold takeManager
  split
  · split
    · exact .refl world
    case h_2 number object known =>
      refine acts_hearKernelManager fun other present => ?_
      cases known.symm.trans present
      exact heard_drainManager _ observer object
  · split
    · exact .refl world
    case h_2 number object known =>
      refine acts_hearSessionManager fun other present => ?_
      cases known.symm.trans present
      exact heard_drainManager _ observer object

theorem acts_takeAll {κ ε : Type} {take : κ → World → ε × World}
    (acts : ∀ key world, Acts world (take key world).2) (entries : List (String × κ)) :
    Acts world (takeAll take entries world).2 := by
  induction entries generalizing world with
  | nil => exact .refl world
  | cons entry rest ih => exact (acts entry.2 world).trans ih

theorem acts_takeEvents : Acts world world.takeEvents.2 := by
  unfold takeEvents
  dsimp only
  refine Acts.trans ?_ (acts_takeAll (fun observer _ => acts_takeManager observer) _)
  refine Acts.trans ?_ (acts_takeAll (fun observer _ => acts_takeSession observer) _)
  refine Acts.trans ?_ (acts_takeAll (fun observer _ => acts_takeKernel observer) _)
  refine Acts.trans ?_ (acts_takeAll (fun name _ => acts_takeReply name) _)
  refine Acts.trans ?_ (acts_takeAll (fun name _ => acts_takeCommEvents name) _)
  exact acts_takeAll (fun name _ => acts_takeTarget name) _

end World

theorem Run.acts_step (step : ScriptStep) (run : Run) :
    Acts run.world (run.step step).2.world := by
  have performed : Acts run.world (run.world.performWithin step.operation).2 :=
    World.acts_performWithin step.operation
  have rested (world : World) :
      Acts world (if step.isDeferred then world.release else world.release.rest) :=
    .ite World.acts_release (World.acts_release.trans World.acts_rest)
  have named (world : World) : Acts world world.nameArrivals.release :=
    World.acts_nameArrivals.trans World.acts_release
  have taken (world : World) : Acts world world.takeSockets.2.takeEvents.2.release :=
    (World.acts_takeSockets.trans World.acts_takeEvents).trans World.acts_release
  have told (world : World) : Acts world { world with trace := .nothing } :=
    .aside ⟨rfl, rfl, rfl, rfl⟩
  unfold Run.step
  dsimp only
  refine Acts.trans ?_ (told _)
  refine Acts.trans ?_ (taken _)
  refine Acts.trans ?_ (named _)
  exact performed.trans (rested _)

/-- The runs to which the steps of a script lead. -/
def Run.after (run : Run) (steps : List ScriptStep) : Run :=
  steps.foldl (fun run step => (run.step step).2) run

theorem Run.after_snoc (steps : List ScriptStep) (step : ScriptStep) (run : Run) :
    run.after (steps ++ [step]) = ((run.after steps).step step).2 := by
  simp only [Run.after, List.foldl_append, List.foldl_cons, List.foldl_nil]

/-- Worlds to which steps lead from one in which nothing has happened. -/
def World.Arises (world : World) : Prop :=
  ∃ settings protocol, Steps (.create settings protocol) world

theorem World.Arises.steps {before after : World} (arises : before.Arises)
    (steps : Steps before after) : after.Arises := by
  obtain ⟨settings, protocol, earlier⟩ := arises
  exact ⟨settings, protocol, earlier.trans steps⟩

theorem World.Arises.reachable {world : World} (arises : world.Arises) : world.Reachable := by
  obtain ⟨settings, protocol, steps⟩ := arises
  exact ⟨settings, protocol, steps.evolves⟩

/-- Worlds to which acts lead from one in which nothing has happened. -/
def World.Emerges (world : World) : Prop :=
  ∃ settings protocol, Acts (.create settings protocol) world

theorem World.Emerges.acts {before after : World} (emerges : before.Emerges)
    (acts : Acts before after) : after.Emerges := by
  obtain ⟨settings, protocol, earlier⟩ := emerges
  exact ⟨settings, protocol, earlier.trans acts⟩

theorem World.Emerges.arises {world : World} (emerges : world.Emerges) : world.Arises := by
  obtain ⟨settings, protocol, acts⟩ := emerges
  exact ⟨settings, protocol, acts.steps⟩

/-- Whatever a script does leads from its world by acts. -/
theorem Run.acts_after (run : Run) (script : List ScriptStep) :
    Acts run.world (run.after script).world := by
  induction script using List.reverseRecOn with
  | nil => exact .refl _
  | append_singleton script step ih =>
      rw [Run.after_snoc]
      exact ih.trans (Run.acts_step step _)

/-- Whatever a script does, its world emerges. -/
theorem Run.emerges_after (settings : Settings) (protocol : Option String)
    (script : List ScriptStep) : ((Run.create settings protocol).after script).world.Emerges :=
  ⟨settings, protocol, Run.acts_after (.create settings protocol) script⟩

/-- The settings for the server at `http://localhost:8888/`. -/
def localhost : Settings where
  baseUrl := ⟨"http", "", none, some (.domain "localhost"), some 8888, false, .segments [""], none,
    none⟩
  wsUrl := ⟨"ws", "", none, some (.domain "localhost"), some 8888, false, .segments [""], none,
    none⟩
  token := none
  appendsToken := false
  headers := []

namespace World

/-- The world after a script for that server. -/
def scripted (script : List ScriptStep) : World :=
  ((Run.create localhost none).after script).world

theorem emerges_scripted (script : List ScriptStep) : (scripted script).Emerges :=
  Run.emerges_after localhost none script

theorem arises_scripted (script : List ScriptStep) : (scripted script).Arises :=
  (emerges_scripted script).arises

/-- Answer a request after some milliseconds. -/
def answering (method : Method) (path : String) (status : Nat) (body : String) (delay : Nat) :
    ScriptStep :=
  ⟨.respond ⟨method, path⟩
    ⟨.ok ⟨status, [], body.toByteArray.data.toList⟩, delay, false⟩ none, false⟩

end World

end KernelClient.Simulation
