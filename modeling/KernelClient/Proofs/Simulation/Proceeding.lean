import KernelClient.Proofs.Simulation.Evolution
import KernelClient.Proofs.Simulation.Objects
import KernelClient.Simulation.Background

/-!
# How a world goes on

A change of an object is made together with all that it announces. Then it leaves the other objects
of its kind alone, and every object that it does change goes on in one of the ways in which objects
of its kind can. So of a whole world it can be said which events its managers have taken.
-/

namespace KernelClient

/-- Whether an event reports no failure. -/
def Manager.Event.IsCalm {Model Connection : Type} : Event Model Connection → Prop
  | .loadFailed _ _ | .refreshFailed _ _ => False
  | _ => True

namespace Simulation

namespace Grows

variable {Object : Type} {Becomes : Object → Object → Prop} {IsNew : Object → Prop}

theorem of_eq {before after : List Object} (refl : ∀ object, Becomes object object)
    (same : after = before) : Grows Becomes IsNew before after where
  kept number object known := ⟨object, same ▸ known, refl object⟩
  added number later absent present := by
    rw [same, absent] at present
    cases present

theorem trans {before middle after : List Object} (first : Grows Becomes IsNew before middle)
    (second : Grows Becomes IsNew middle after)
    (becomes : ∀ {before middle after}, Becomes before middle → Becomes middle after →
      Becomes before after)
    (isNew : ∀ {before after}, IsNew before → Becomes before after → IsNew after) :
    Grows Becomes IsNew before after where
  kept number object known := by
    obtain ⟨between, there, earlier⟩ := first.kept number object known
    obtain ⟨later, present, after⟩ := second.kept number between there
    exact ⟨later, present, becomes earlier after⟩
  added number later absent present := by
    cases there : middle[number]? with
    | none => exact second.added number later there present
    | some between =>
        obtain ⟨last, same, goesOn⟩ := second.kept number between there
        cases present.symm.trans same
        exact isNew (first.added number between absent there) goesOn

theorem mono {Wider : Object → Object → Prop} {before after : List Object}
    (grows : Grows Becomes IsNew before after)
    (wider : ∀ before after, Becomes before after → Wider before after) :
    Grows Wider IsNew before after where
  kept number object known := by
    obtain ⟨later, present, becomes⟩ := grows.kept number object known
    exact ⟨later, present, wider object later becomes⟩
  added := grows.added

end Grows

/-- Which events can happen to managers of either kind. -/
abbrev Allowing := ∀ {Model Connection : Type}, Manager.Event Model Connection → Prop

/-- A session that was made at some time. -/
def SessionObject.IsNew (later : SessionObject) : Prop :=
  ∃ model connection options,
    (SessionObject.create (Session.create model connection).1 options).Becomes later

/-- A manager that was made at some time. -/
def ManagerObject.IsNew {Model Connection : Type} [DecidableEq Model] [Resource Model]
    [Handle Connection] (later : ManagerObject Model Connection) : Prop :=
  ∃ options isVisible, (ManagerObject.create options isVisible).Becomes (fun _ => True) later

/-- How the managers of one kind go on if only some events happen to them. -/
def ManagersGrow {Model Connection : Type} [DecidableEq Model] [Resource Model]
    [Handle Connection] (Allowed : Manager.Event Model Connection → Prop)
    (before after : List (ManagerObject Model Connection)) : Prop :=
  Grows (ManagerObject.Becomes Allowed) ManagerObject.IsNew before after

/-- How the sessions go on. -/
def SessionsGrow (before after : List SessionObject) : Prop :=
  Grows SessionObject.Becomes SessionObject.IsNew before after

namespace SessionsGrow

theorem of_eq {before after : List SessionObject} (same : after = before) :
    SessionsGrow before after :=
  Grows.of_eq .refl same

theorem trans {before middle after : List SessionObject} (first : SessionsGrow before middle)
    (second : SessionsGrow middle after) : SessionsGrow before after :=
  Grows.trans first second .trans
    fun ⟨model, connection, options, made⟩ becomes =>
      ⟨model, connection, options, made.trans becomes⟩

theorem modify {table : List SessionObject} {number : Nat}
    {change : SessionObject → SessionObject}
    (becomes : ∀ object, table[number]? = some object → object.Becomes (change object)) :
    SessionsGrow table (table.modify number change) :=
  Grows.modify .refl becomes

end SessionsGrow

namespace ManagersGrow

variable {Model Connection : Type} [DecidableEq Model] [Resource Model] [Handle Connection]
  {Allowed : Manager.Event Model Connection → Prop}
  {before middle after table : List (ManagerObject Model Connection)}

theorem of_eq (same : after = before) : ManagersGrow Allowed before after :=
  Grows.of_eq .refl same

theorem trans (first : ManagersGrow Allowed before middle)
    (second : ManagersGrow Allowed middle after) : ManagersGrow Allowed before after :=
  Grows.trans first second .trans
    fun ⟨options, isVisible, made⟩ becomes =>
      ⟨options, isVisible, made.trans (becomes.mono fun _ _ => trivial)⟩

theorem mono {Wider : Manager.Event Model Connection → Prop}
    (grows : ManagersGrow Allowed before after) (wider : ∀ event, Allowed event → Wider event) :
    ManagersGrow Wider before after :=
  Grows.mono grows fun _ _ becomes => becomes.mono wider

theorem modify {number : Nat}
    {change : ManagerObject Model Connection → ManagerObject Model Connection}
    (becomes : ∀ object, table[number]? = some object → object.Becomes Allowed (change object)) :
    ManagersGrow Allowed table (table.modify number change) :=
  Grows.modify .refl becomes

end ManagersGrow

/-- How a world goes on if only some events happen to its managers. -/
structure Proceeds (Allowed : Allowing) (before after : World) : Prop where
  evolves : Evolves before after
  sessions : SessionsGrow before.sessions after.sessions
  kernelManagers : ManagersGrow Allowed before.kernelManagers after.kernelManagers
  sessionManagers : ManagersGrow Allowed before.sessionManagers after.sessionManagers

namespace Proceeds

variable {Allowed : Allowing} {before middle after : World}

theorem refl (world : World) : Proceeds Allowed world world :=
  ⟨.refl world, .of_eq rfl, .of_eq rfl, .of_eq rfl⟩

theorem trans (first : Proceeds Allowed before middle) (second : Proceeds Allowed middle after) :
    Proceeds Allowed before after :=
  ⟨first.evolves.trans second.evolves, first.sessions.trans second.sessions,
    first.kernelManagers.trans second.kernelManagers,
    first.sessionManagers.trans second.sessionManagers⟩

theorem mono {Wider : Allowing} (proceeds : Proceeds Allowed before after)
    (wider : ∀ {Model Connection : Type} (event : Manager.Event Model Connection),
      Allowed event → Wider event) : Proceeds Wider before after :=
  ⟨proceeds.evolves, proceeds.sessions, proceeds.kernelManagers.mono wider,
    proceeds.sessionManagers.mono wider⟩

theorem ite {condition : Prop} [Decidable condition] {yes no : World}
    (ifTrue : Proceeds Allowed before yes) (ifFalse : Proceeds Allowed before no) :
    Proceeds Allowed before (if condition then yes else no) := by
  split
  · exact ifTrue
  · exact ifFalse

end Proceeds

/-- A change that concerns connections to kernels only. -/
structure KernelsOnly (before after : World) : Prop where
  sessions : after.sessions = before.sessions
  kernelManagers : after.kernelManagers = before.kernelManagers
  sessionManagers : after.sessionManagers = before.sessionManagers

namespace KernelsOnly

theorem refl (world : World) : KernelsOnly world world :=
  ⟨rfl, rfl, rfl⟩

theorem trans {before middle after : World} (first : KernelsOnly before middle)
    (second : KernelsOnly middle after) : KernelsOnly before after :=
  ⟨second.sessions.trans first.sessions, second.kernelManagers.trans first.kernelManagers,
    second.sessionManagers.trans first.sessionManagers⟩

theorem foldl {Item : Type} {step : World → Item → World}
    (only : ∀ world item, KernelsOnly world (step world item)) (items : List Item)
    (world : World) : KernelsOnly world (items.foldl step world) := by
  induction items generalizing world with
  | nil => exact .refl world
  | cons item rest ih => exact (only world item).trans (ih _)

theorem proceeds {Allowed : Allowing} {before after : World} (only : KernelsOnly before after)
    (evolves : Evolves before after) : Proceeds Allowed before after :=
  ⟨evolves, .of_eq only.sessions, .of_eq only.kernelManagers, .of_eq only.sessionManagers⟩

end KernelsOnly

theorem SameObjects.kernelsOnly {before after : World} (same : SameObjects before after) :
    KernelsOnly before after :=
  ⟨same.sessions, same.kernelManagers, same.sessionManagers⟩

theorem SameObjects.proceeds {Allowed : Allowing} {before after : World}
    (same : SameObjects before after) : Proceeds Allowed before after :=
  same.kernelsOnly.proceeds (.aside same)

namespace World

variable {world : World}

theorem kernelsOnly_wake (world : World) : KernelsOnly world world.wake := by
  unfold wake
  split <;> exact ⟨rfl, rfl, rfl⟩

theorem kernelsOnly_carryKernel (kernel : Nat) (effect : Connection.Effect) :
    KernelsOnly world (world.carryKernel kernel effect) := by
  cases effect <;> exact ⟨rfl, rfl, rfl⟩

theorem kernelsOnly_applyKernel (kernel : Nat) (change : Connection.Change) :
    KernelsOnly world (world.applyKernel kernel change) := by
  have placed : KernelsOnly world
      (world.modifyKernel kernel fun object => { object with connection := change.1 }) :=
    ⟨rfl, rfl, rfl⟩
  exact (placed.trans (kernelsOnly_wake _)).trans
    (.foldl (fun world effect => (kernelsOnly_carryKernel kernel effect).trans (kernelsOnly_wake _))
      _ _)

theorem kernelsOnly_changeKernel (kernel : Nat) (step : Connection → Connection.Change) :
    KernelsOnly world (world.changeKernel kernel step) := by
  unfold changeKernel
  split
  · exact kernelsOnly_applyKernel kernel _
  · exact .refl world

theorem kernelsOnly_connectKernel (model : KernelModel) (options : ConnectionOptions) :
    KernelsOnly world (world.connectKernel model options) := by
  cases chosen : options.clientId <;>
    · simp only [connectKernel, chosen]
      exact ⟨rfl, rfl, rfl⟩

/-- What a session announces concerns no manager, and of the sessions only itself. -/
structure SessionOnly (session : Nat) (change : SessionObject → SessionObject)
    (before after : World) : Prop where
  sessions : after.sessions = before.sessions.modify session change
  kernelManagers : after.kernelManagers = before.kernelManagers
  sessionManagers : after.sessionManagers = before.sessionManagers

theorem sessionOnly_carrySession (session : Nat) (options : ConnectionOptions)
    (effect : Session.Effect) (world : World) :
    SessionOnly session (fun object => object.emit effect) world
      (world.carrySession session options effect).wake := by
  suffices carried : SessionOnly session (fun object => object.emit effect) world
      (world.carrySession session options effect) by
    obtain ⟨sessions, kernelManagers, sessionManagers⟩ :=
      kernelsOnly_wake (world.carrySession session options effect)
    exact ⟨sessions.trans carried.sessions, kernelManagers.trans carried.kernelManagers,
      sessionManagers.trans carried.sessionManagers⟩
  have aside {after : World} (only : KernelsOnly world after) :
      SessionOnly session id world after :=
    ⟨by rw [only.sessions, List.modify_id], only.kernelManagers, only.sessionManagers⟩
  cases effect
  case connectKernel kernel model => exact aside (kernelsOnly_connectKernel model options)
  case disposeKernel kernel => exact aside (kernelsOnly_changeKernel kernel _)
  all_goals exact ⟨rfl, rfl, rfl⟩

theorem sessionOnly_carrySessions (session : Nat) (options : ConnectionOptions)
    (effects : List Session.Effect) (world : World) :
    SessionOnly session (fun object => effects.foldl SessionObject.emit object) world
      (effects.foldl (fun world effect => (world.carrySession session options effect).wake)
        world) := by
  induction effects generalizing world with
  | nil => exact ⟨(List.modify_id session _).symm, rfl, rfl⟩
  | cons effect rest ih =>
      have first := sessionOnly_carrySession session options effect world
      have others := ih (world.carrySession session options effect).wake
      refine ⟨?_, others.kernelManagers.trans first.kernelManagers,
        others.sessionManagers.trans first.sessionManagers⟩
      rw [List.foldl_cons, others.sessions, first.sessions, List.modify_modify_eq]
      rfl

theorem sessionOnly_applySession (session : Nat) (options : ConnectionOptions)
    (change : Session.Change) (world : World) :
    SessionOnly session (fun object => object.take change) world
      (world.applySession session options change) := by
  let placed := world.modifySession session fun object => { object with session := change.1 }
  have carried := sessionOnly_carrySessions session options change.2 placed.wake
  obtain ⟨sessions, kernelManagers, sessionManagers⟩ := kernelsOnly_wake placed
  refine ⟨?_, carried.kernelManagers.trans kernelManagers,
    carried.sessionManagers.trans sessionManagers⟩
  rw [applySession, carried.sessions, sessions]
  exact List.modify_modify_eq _ _ session world.sessions

theorem sessionOnly_changeSession (session : Nat) (step : Session → Session.Change)
    (world : World) :
    SessionOnly session (fun object => object.take (step object.session)) world
      (world.changeSession session step) := by
  unfold changeSession
  split
  case h_1 object known =>
    obtain ⟨sessions, kernelManagers, sessionManagers⟩ :=
      sessionOnly_applySession session object.options (step object.session) world
    exact ⟨sessions.trans (modify_congr known rfl), kernelManagers, sessionManagers⟩
  case h_2 absent =>
    refine ⟨?_, rfl, rfl⟩
    rw [List.modify_eq_self (List.getElem?_eq_none_iff.mp absent)]

theorem proceeds_changeSession {Allowed : Allowing} {session : Nat}
    {step : Session → Session.Change}
    (continues : ∀ session : Session, session.Continues (step session).1)
    (steps : ∀ object : SessionObject, object.Step (object.take (step object.session))) :
    Proceeds Allowed world (world.changeSession session step) := by
  obtain ⟨sessions, kernelManagers, sessionManagers⟩ :=
    sessionOnly_changeSession session step world
  refine ⟨evolves_changeSession continues, ?_, .of_eq kernelManagers, .of_eq sessionManagers⟩
  rw [sessions]
  exact .modify fun object _ => .step (steps object)

theorem proceeds_updateSession {Allowed : Allowing} (session : Nat) (model : SessionModel) :
    Proceeds Allowed world (world.updateSession session model) :=
  proceeds_changeSession (Session.continues_update model _) fun _ => .updated model _

theorem proceeds_disposeSession {Allowed : Allowing} (session : Nat) :
    Proceeds Allowed world (world.changeSession session Session.dispose) :=
  proceeds_changeSession Session.continues_dispose fun _ => .disposed

theorem proceeds_shutDownSession {Allowed : Allowing} (session : Nat) :
    Proceeds Allowed world (world.changeSession session Session.shutDown) :=
  proceeds_changeSession Session.continues_shutDown fun _ => .shutDown

/-- The signals of a session are listened to. -/
theorem proceeds_hearSession {Allowed : Allowing} {session : Nat}
    {change : SessionObject → SessionObject}
    (heard : ∀ object, world.session? session = some object → object.Heard (change object)) :
    Proceeds Allowed world (world.modifySession session change) where
  evolves := evolves_modifySession fun object known =>
    (heard object known).session ▸ .refl object.session
  sessions := .modify fun object known => .step (.heard (heard object known))
  kernelManagers := .of_eq rfl
  sessionManagers := .of_eq rfl

/-- To connect to a session adds it, and its signals tell nothing yet. -/
theorem sessionOnly_connectSession (model : SessionModel) (options : ConnectionOptions)
    (world : World) :
    (world.connectSession model options).sessions = world.sessions ++
        [.create (Session.create model world.kernels.length).1 options] ∧
      (world.connectSession model options).kernelManagers = world.kernelManagers ∧
      (world.connectSession model options).sessionManagers = world.sessionManagers := by
  let change := Session.create model world.kernels.length
  let created : SessionObject := .create change.1 options
  obtain ⟨sessions, kernelManagers, sessionManagers⟩ := sessionOnly_applySession
    world.sessions.length options change { world with sessions := world.sessions ++ [created] }
  have silent : created.take change = id created := by
    unfold created change Session.create
    cases model.kernel <;> rfl
  have kept : (world.sessions ++ [created]).modify world.sessions.length
      (fun object => object.take change) = world.sessions ++ [created] :=
    (modify_congr List.getElem?_concat_length silent).trans (List.modify_id _ _)
  exact ⟨sessions.trans kept, kernelManagers, sessionManagers⟩

theorem proceeds_connectSession {Allowed : Allowing} (model : SessionModel)
    (options : ConnectionOptions) :
    Proceeds Allowed world (world.connectSession model options) := by
  obtain ⟨sessions, kernelManagers, sessionManagers⟩ :=
    sessionOnly_connectSession model options world
  refine ⟨evolves_connectSession model options, ?_, .of_eq kernelManagers, .of_eq sessionManagers⟩
  rw [sessions]
  exact Grows.snoc .refl ⟨model, _, options, .refl _⟩

/-- What a manager of kernels announces concerns connections, and of the managers only itself. -/
structure KernelManagerOnly (manager : Nat)
    (change : ManagerObject KernelModel KernelHandle → ManagerObject KernelModel KernelHandle)
    (before after : World) : Prop where
  sessions : after.sessions = before.sessions
  kernelManagers : after.kernelManagers = before.kernelManagers.modify manager change
  sessionManagers : after.sessionManagers = before.sessionManagers

theorem kernelManagerOnly_carry (manager : Nat)
    (effect : Manager.Effect KernelModel KernelHandle) (world : World) :
    KernelManagerOnly manager (fun object => object.emit effect) world
      (world.carryKernelManager manager effect).wake := by
  suffices carried : KernelManagerOnly manager (fun object => object.emit effect) world
      (world.carryKernelManager manager effect) by
    obtain ⟨sessions, kernelManagers, sessionManagers⟩ :=
      kernelsOnly_wake (world.carryKernelManager manager effect)
    exact ⟨sessions.trans carried.sessions, kernelManagers.trans carried.kernelManagers,
      sessionManagers.trans carried.sessionManagers⟩
  have aside {after : World} (only : KernelsOnly world after) :
      KernelManagerOnly manager id world after :=
    ⟨only.sessions, by rw [only.kernelManagers, List.modify_id], only.sessionManagers⟩
  cases effect
  case disposeConnection handle => exact aside (kernelsOnly_changeKernel handle.connection _)
  case updateConnection handle model => exact aside (.refl world)
  case log line => exact aside ⟨rfl, rfl, rfl⟩
  all_goals exact ⟨rfl, rfl, rfl⟩

theorem kernelManagerOnly_carryAll (manager : Nat)
    (effects : List (Manager.Effect KernelModel KernelHandle)) (world : World) :
    KernelManagerOnly manager (fun object => effects.foldl ManagerObject.emit object) world
      (effects.foldl (fun world effect => (world.carryKernelManager manager effect).wake)
        world) := by
  induction effects generalizing world with
  | nil => exact ⟨rfl, (List.modify_id manager _).symm, rfl⟩
  | cons effect rest ih =>
      have first := kernelManagerOnly_carry manager effect world
      have others := ih (world.carryKernelManager manager effect).wake
      refine ⟨others.sessions.trans first.sessions, ?_,
        others.sessionManagers.trans first.sessionManagers⟩
      rw [List.foldl_cons, others.kernelManagers, first.kernelManagers, List.modify_modify_eq]
      rfl

theorem kernelManagerOnly_change (manager : Nat)
    (step : KernelManager → Manager.Change KernelModel KernelHandle) (world : World) :
    KernelManagerOnly manager (fun object => object.take (step object.manager)) world
      (world.changeKernelManager manager step) := by
  unfold changeKernelManager
  split
  case h_1 object known =>
    let placed := world.modifyKernelManager manager fun managing =>
      { managing with manager := (step object.manager).1 }
    have carried := kernelManagerOnly_carryAll manager (step object.manager).2 placed.wake
    obtain ⟨sessions, kernelManagers, sessionManagers⟩ := kernelsOnly_wake placed
    refine ⟨carried.sessions.trans sessions, ?_, carried.sessionManagers.trans sessionManagers⟩
    refine carried.kernelManagers.trans ?_
    rw [kernelManagers]
    exact (List.modify_modify_eq _ _ manager world.kernelManagers).trans (modify_congr known rfl)
  case h_2 absent =>
    refine ⟨rfl, ?_, rfl⟩
    rw [List.modify_eq_self (List.getElem?_eq_none_iff.mp absent)]

/-- What a manager of sessions announces concerns sessions, and of the managers only itself. -/
structure SessionManagerOnly (manager : Nat)
    (change : ManagerObject SessionModel SessionHandle → ManagerObject SessionModel SessionHandle)
    (before after : World) : Prop where
  sessions : SessionsGrow before.sessions after.sessions
  kernelManagers : after.kernelManagers = before.kernelManagers
  sessionManagers : after.sessionManagers = before.sessionManagers.modify manager change

theorem sessionManagerOnly_carry (manager : Nat)
    (effect : Manager.Effect SessionModel SessionHandle) (world : World) :
    SessionManagerOnly manager (fun object => object.emit effect) world
      (world.carrySessionManager manager effect).wake := by
  suffices carried : SessionManagerOnly manager (fun object => object.emit effect) world
      (world.carrySessionManager manager effect) by
    obtain ⟨sessions, kernelManagers, sessionManagers⟩ :=
      kernelsOnly_wake (world.carrySessionManager manager effect)
    exact ⟨carried.sessions.trans (.of_eq sessions),
      kernelManagers.trans carried.kernelManagers,
      sessionManagers.trans carried.sessionManagers⟩
  have tells (session : Nat) (step : Session → Session.Change)
      (steps : ∀ object : SessionObject, object.Step (object.take (step object.session))) :
      SessionManagerOnly manager id world (world.changeSession session step) := by
    obtain ⟨sessions, kernelManagers, sessionManagers⟩ :=
      sessionOnly_changeSession session step world
    refine ⟨?_, kernelManagers, by rw [sessionManagers, List.modify_id]⟩
    rw [sessions]
    exact .modify fun object _ => .step (steps object)
  cases effect
  case disposeConnection handle => exact tells handle.connection _ fun _ => .disposed
  case updateConnection handle model => exact tells handle.connection _ fun _ => .updated model _
  case log line => exact ⟨.of_eq rfl, rfl, (List.modify_id manager _).symm⟩
  all_goals exact ⟨.of_eq rfl, rfl, rfl⟩

theorem sessionManagerOnly_carryAll (manager : Nat)
    (effects : List (Manager.Effect SessionModel SessionHandle)) (world : World) :
    SessionManagerOnly manager (fun object => effects.foldl ManagerObject.emit object) world
      (effects.foldl (fun world effect => (world.carrySessionManager manager effect).wake)
        world) := by
  induction effects generalizing world with
  | nil => exact ⟨.of_eq rfl, rfl, (List.modify_id manager _).symm⟩
  | cons effect rest ih =>
      have first := sessionManagerOnly_carry manager effect world
      have others := ih (world.carrySessionManager manager effect).wake
      refine ⟨first.sessions.trans others.sessions,
        others.kernelManagers.trans first.kernelManagers, ?_⟩
      rw [List.foldl_cons, others.sessionManagers, first.sessionManagers, List.modify_modify_eq]
      rfl

theorem sessionManagerOnly_change (manager : Nat)
    (step : SessionManager → Manager.Change SessionModel SessionHandle) (world : World) :
    SessionManagerOnly manager (fun object => object.take (step object.manager)) world
      (world.changeSessionManager manager step) := by
  unfold changeSessionManager
  split
  case h_1 object known =>
    let placed := world.modifySessionManager manager fun managing =>
      { managing with manager := (step object.manager).1 }
    have carried := sessionManagerOnly_carryAll manager (step object.manager).2 placed.wake
    obtain ⟨sessions, kernelManagers, sessionManagers⟩ := kernelsOnly_wake placed
    refine ⟨SessionsGrow.trans (.of_eq sessions) carried.sessions,
      carried.kernelManagers.trans kernelManagers, ?_⟩
    refine carried.sessionManagers.trans ?_
    rw [sessionManagers]
    exact (List.modify_modify_eq _ _ manager world.sessionManagers).trans (modify_congr known rfl)
  case h_2 absent =>
    refine ⟨.of_eq rfl, rfl, ?_⟩
    rw [List.modify_eq_self (List.getElem?_eq_none_iff.mp absent)]

theorem kernelManager?_change {number : Nat} {object : ManagerObject KernelModel KernelHandle}
    (known : world.kernelManager? number = some object)
    (step : KernelManager → Manager.Change KernelModel KernelHandle) :
    (world.changeKernelManager number step).kernelManager? number =
      some (object.take (step object.manager)) := by
  have there : world.kernelManagers[number]? = some object := known
  simp [kernelManager?, (kernelManagerOnly_change number step world).kernelManagers, there]

theorem kernelManager?_changeOther {changed number : Nat} (different : changed ≠ number)
    (step : KernelManager → Manager.Change KernelModel KernelHandle) :
    (world.changeKernelManager changed step).kernelManager? number =
      world.kernelManager? number := by
  rw [kernelManager?, (kernelManagerOnly_change changed step world).kernelManagers,
    List.getElem?_modify_ne _ _ different]
  rfl

theorem sessionManager?_change {number : Nat} {object : ManagerObject SessionModel SessionHandle}
    (known : world.sessionManager? number = some object)
    (step : SessionManager → Manager.Change SessionModel SessionHandle) :
    (world.changeSessionManager number step).sessionManager? number =
      some (object.take (step object.manager)) := by
  have there : world.sessionManagers[number]? = some object := known
  simp [sessionManager?, (sessionManagerOnly_change number step world).sessionManagers, there]

theorem sessionManager?_changeOther {changed number : Nat} (different : changed ≠ number)
    (step : SessionManager → Manager.Change SessionModel SessionHandle) :
    (world.changeSessionManager changed step).sessionManager? number =
      world.sessionManager? number := by
  rw [sessionManager?, (sessionManagerOnly_change changed step world).sessionManagers,
    List.getElem?_modify_ne _ _ different]
  rfl

/-- A change of a manager by events that track only connections which are there. -/
theorem proceeds_changeKernelManager {Allowed : Allowing} {manager : Nat}
    {step : KernelManager → Manager.Change KernelModel KernelHandle}
    (events : List (Manager.Event KernelModel KernelHandle))
    (allowed : ∀ event ∈ events, Allowed event)
    (same : ∀ object, world.kernelManager? manager = some object →
      step object.manager = object.manager.run events)
    (tracks : ∀ handle, .tracked handle ∈ events → world.HasKernel handle) :
    Proceeds Allowed world (world.changeKernelManager manager step) := by
  obtain ⟨sessions, kernelManagers, sessionManagers⟩ :=
    kernelManagerOnly_change manager step world
  refine ⟨?_, .of_eq sessions, ?_, .of_eq sessionManagers⟩
  · exact evolves_changeKernelManager fun object known =>
      ⟨events, congrArg Prod.fst (same object known), tracks⟩
  · rw [kernelManagers]
    refine .modify fun object known => ?_
    rw [same object known]
    exact .run allowed object

theorem proceeds_changeSessionManager {Allowed : Allowing} {manager : Nat}
    {step : SessionManager → Manager.Change SessionModel SessionHandle}
    (events : List (Manager.Event SessionModel SessionHandle))
    (allowed : ∀ event ∈ events, Allowed event)
    (same : ∀ object, world.sessionManager? manager = some object →
      step object.manager = object.manager.run events)
    (tracks : ∀ handle, .tracked handle ∈ events → world.HasSession handle) :
    Proceeds Allowed world (world.changeSessionManager manager step) := by
  obtain ⟨sessions, kernelManagers, sessionManagers⟩ :=
    sessionManagerOnly_change manager step world
  refine ⟨?_, sessions, .of_eq kernelManagers, ?_⟩
  · exact evolves_changeSessionManager fun object known =>
      ⟨events, congrArg Prod.fst (same object known), tracks⟩
  · rw [sessionManagers]
    refine .modify fun object known => ?_
    rw [same object known]
    exact .run allowed object

/-- One event that tracks nothing. -/
theorem proceeds_kernelEvent {Allowed : Allowing} (manager : Nat)
    {step : KernelManager → Manager.Change KernelModel KernelHandle}
    (event : Manager.Event KernelModel KernelHandle) (allowed : Allowed event)
    (free : ∀ handle, event ≠ .tracked handle)
    (same : ∀ object, world.kernelManager? manager = some object →
      step object.manager = event.change object.manager) :
    Proceeds Allowed world (world.changeKernelManager manager step) := by
  have only : ∀ other ∈ [event], other = event := fun other => List.mem_singleton.mp
  exact proceeds_changeKernelManager [event]
    (fun other member => only other member ▸ allowed) same
    fun handle tracked => absurd (only _ tracked).symm (free handle)

theorem proceeds_sessionEvent {Allowed : Allowing} (manager : Nat)
    {step : SessionManager → Manager.Change SessionModel SessionHandle}
    (event : Manager.Event SessionModel SessionHandle) (allowed : Allowed event)
    (free : ∀ handle, event ≠ .tracked handle)
    (same : ∀ object, world.sessionManager? manager = some object →
      step object.manager = event.change object.manager) :
    Proceeds Allowed world (world.changeSessionManager manager step) := by
  have only : ∀ other ∈ [event], other = event := fun other => List.mem_singleton.mp
  exact proceeds_changeSessionManager [event]
    (fun other member => only other member ▸ allowed) same
    fun handle tracked => absurd (only _ tracked).symm (free handle)

theorem proceeds_applyListing (id : ManagerId) (listing : Listing) :
    Proceeds Manager.Event.IsCalm world (world.applyListing id listing) := by
  unfold applyListing
  split
  · exact proceeds_kernelEvent _ (.listed _) trivial (by simp) fun _ _ => rfl
  · exact proceeds_sessionEvent _ (.listed _) trivial (by simp) fun _ _ => rfl
  · exact .refl world

/-- A connection that is handed out is tracked by its manager, and nothing else changes but who
listens to the connection. -/
theorem kernelManagerOnly_register {manager kernel : Nat}
    {managing : ManagerObject KernelModel KernelHandle} {object : KernelObject}
    (known : world.kernelManager? manager = some managing)
    (present : world.kernel? kernel = some object) :
    KernelManagerOnly manager
      (fun held => held.take (KernelManager.register
        ⟨kernel, object.connection.model.id, object.connection.clientId⟩
        object.connection.model held.manager))
      world (world.registerKernel manager kernel) := by
  unfold registerKernel
  rw [known, present]
  dsimp only
  let listened := world.modifyKernel kernel fun held => { held with
    status := object.status.subscribe.2, disposed := object.disposed.subscribe.2 }
  obtain ⟨sessions, kernelManagers, sessionManagers⟩ := kernelManagerOnly_change manager
    (KernelManager.register ⟨kernel, object.connection.model.id, object.connection.clientId⟩
      object.connection.model) listened
  split <;> exact ⟨sessions, kernelManagers, sessionManagers⟩

theorem proceeds_registerKernel (manager kernel : Nat) :
    Proceeds Manager.Event.IsCalm world (world.registerKernel manager kernel) := by
  cases known : world.kernelManager? manager with
  | none =>
      simp only [registerKernel, known]
      exact .refl world
  | some managing =>
      cases present : world.kernel? kernel with
      | none =>
          simp only [registerKernel, known, present]
          exact .refl world
      | some object =>
          obtain ⟨sessions, kernelManagers, sessionManagers⟩ :=
            kernelManagerOnly_register known present
          refine ⟨evolves_registerKernel manager kernel, .of_eq sessions, ?_,
            .of_eq sessionManagers⟩
          rw [kernelManagers]
          refine .modify fun held _ => ?_
          rw [KernelManager.register_eq_run]
          exact .run (by simp [Manager.Event.IsCalm]) held

/-- A session that is handed out is tracked by its manager, and nothing else changes but who listens
to the session. -/
theorem sessionManagerOnly_register {manager session : Nat}
    {managing : ManagerObject SessionModel SessionHandle} {object : SessionObject}
    (known : world.sessionManager? manager = some managing)
    (present : world.session? session = some object) :
    SessionManagerOnly manager
      (fun held => held.take (SessionManager.register ⟨session, object.session.model.id⟩
        object.session.model held.manager))
      world (world.registerSession manager session) := by
  unfold registerSession
  rw [known, present]
  dsimp only
  let listened := world.modifySession session fun held => { held with
    terminated := object.terminated.subscribe.2
    property := object.property.subscribe.2
    kernel := object.kernel.subscribe.2
    disposed := object.disposed.subscribe.2 }
  have heard : SessionsGrow world.sessions listened.sessions := by
    refine .modify fun other there => .step (.heard ?_)
    cases present.symm.trans there
    exact ⟨rfl, rfl, rfl, .subscribe _, .subscribe _, .subscribe _, .subscribe _⟩
  obtain ⟨sessions, kernelManagers, sessionManagers⟩ := sessionManagerOnly_change manager
    (SessionManager.register ⟨session, object.session.model.id⟩ object.session.model) listened
  split <;> exact ⟨heard.trans sessions, kernelManagers, sessionManagers⟩

theorem proceeds_registerSession (manager session : Nat) :
    Proceeds Manager.Event.IsCalm world (world.registerSession manager session) := by
  cases known : world.sessionManager? manager with
  | none =>
      simp only [registerSession, known]
      exact .refl world
  | some managing =>
      cases present : world.session? session with
      | none =>
          simp only [registerSession, known, present]
          exact .refl world
      | some object =>
          obtain ⟨sessions, kernelManagers, sessionManagers⟩ :=
            sessionManagerOnly_register known present
          refine ⟨evolves_registerSession manager session, sessions, .of_eq kernelManagers, ?_⟩
          rw [sessionManagers]
          refine .modify fun held _ => ?_
          rw [SessionManager.register_eq_run]
          exact .run (by simp [Manager.Event.IsCalm]) held

theorem proceeds_runSessionWatch (manager session terminated property kernel disposed : Nat) :
    Proceeds Manager.Event.IsCalm world
      (world.runSessionWatch manager session terminated property kernel disposed).1 := by
  unfold runSessionWatch
  split
  · exact .refl world
  case h_2 object known =>
    simp only [apply_ite Prod.fst]
    have ended (ended : Bool) (world : World) : Proceeds Manager.Event.IsCalm world
        (if ended then
          world.changeSessionManager manager (Manager.terminated object.session.model.id)
        else world) :=
      .ite (proceeds_sessionEvent manager (.terminated _) trivial (by simp) fun _ _ => rfl)
        (.refl world)
    have changed (world : World) : Proceeds Manager.Event.IsCalm world
        (world.changeSessionManager manager (Manager.put object.session.model)) :=
      proceeds_sessionEvent manager (.put _) trivial (by simp) fun _ _ => rfl
    have forgotten (world : World) : Proceeds Manager.Event.IsCalm world
        (world.changeSessionManager manager fun managing =>
          (SessionManager.forgetConnection session managing, [])) :=
      proceeds_sessionEvent manager (.forgotten _) trivial (by simp) fun _ _ => rfl
    refine Proceeds.trans (proceeds_hearSession fun other present => ?_) (.ite (.refl _) ?_)
    · cases known.symm.trans present
      exact ⟨rfl, rfl, rfl, .drain _ _, .drain _ _, .drain _ _, .drain _ _⟩
    · refine (ended (hasValue (object.terminated.drain terminated).1) _).trans ?_
      refine .ite (.ite (forgotten _) (.refl _)) (.ite (.refl _) ?_)
      refine .ite (Proceeds.trans ?_ (.ite (forgotten _) (.refl _))) ?_
      all_goals exact .ite (changed _) (.refl _)

/-- All events are allowed. -/
def anyEvent : Allowing := fun _ => True

theorem proceeds_reportFailure (id : ManagerId) (what : String) (error : ServiceError) :
    Proceeds anyEvent world (world.changeManager id (reportFailure what error)) := by
  cases id with
  | kernels number =>
      exact proceeds_kernelEvent number (.refreshFailed _ _) trivial (by simp) fun _ _ => rfl
  | sessions number =>
      exact proceeds_sessionEvent number (.refreshFailed _ _) trivial (by simp) fun _ _ => rfl

theorem proceeds_reportInitialFailure (id : ManagerId) (what : String) (error : ServiceError) :
    Proceeds anyEvent world (world.changeManager id (reportInitialFailure what error)) := by
  cases id with
  | kernels number =>
      exact proceeds_kernelEvent number (.loadFailed _ _) trivial (by simp) fun _ _ => rfl
  | sessions number =>
      exact proceeds_sessionEvent number (.loadFailed _ _) trivial (by simp) fun _ _ => rfl

end World

end Simulation

end KernelClient
