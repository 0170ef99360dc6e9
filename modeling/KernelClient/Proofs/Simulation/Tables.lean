import KernelClient.Simulation.Changes

/-!
# What changes make of a world

A world without its signals, tasks and server is the tables of its connections, sessions and
managers. What a change announces goes to the signals and to the server, so a change of one object
leaves all other objects as they are, unless it announces a change of one of them.
-/

namespace KernelClient.Simulation

/-- What the objects of a world are, apart from their signals. -/
structure Tables where
  connections : List Connection
  sessions : List Session
  kernelManagers : List KernelManager
  sessionManagers : List SessionManager

section Places

variable {Object State : Type}

/-- What all objects are after one of them was changed. -/
theorem map_modify {state : Object → State} {change : Object → Object} {step : State → State}
    (steps : ∀ object, state (change object) = step (state object)) (number : Nat)
    (table : List Object) :
    (table.modify number change).map state = (table.map state).modify number step := by
  apply List.ext_getElem?
  intro place
  simp only [List.getElem?_map, List.getElem?_modify]
  cases table[place]? with
  | none => rfl
  | some object =>
      by_cases here : number = place <;> simp [here, steps]

theorem map_modify_same {state : Object → State} {change : Object → Object}
    (same : ∀ object, state (change object) = state object) (number : Nat) (table : List Object) :
    (table.modify number change).map state = table.map state := by
  rw [← List.modify_id number (table.map state)]
  exact map_modify same number table

/-- A change depends only on the object at its place. -/
theorem modify_congr {first second : State → State} {table : List State} {number : Nat}
    {state : State} (known : table[number]? = some state) (same : first state = second state) :
    table.modify number first = table.modify number second := by
  apply List.ext_getElem?
  intro place
  rw [List.getElem?_modify, List.getElem?_modify]
  by_cases here : number = place
  · subst here
    simp [known, same]
  · simp [here]

end Places

theorem KernelObject.emit_connection (object : KernelObject) (effect : Connection.Effect) :
    (object.emit effect).connection = object.connection := by
  cases effect <;> rfl

theorem SessionObject.emit_session (object : SessionObject) (effect : Session.Effect) :
    (object.emit effect).session = object.session := by
  cases effect <;> rfl

theorem ManagerObject.emit_manager {Model Connection : Type}
    (object : ManagerObject Model Connection) (effect : Manager.Effect Model Connection) :
    (object.emit effect).manager = object.manager := by
  cases effect <;> rfl

namespace World

variable {world : World}

def tables (world : World) : Tables where
  connections := world.kernels.map KernelObject.connection
  sessions := world.sessions.map SessionObject.session
  kernelManagers := world.kernelManagers.map ManagerObject.manager
  sessionManagers := world.sessionManagers.map ManagerObject.manager

theorem tables_connections_getElem? (number : Nat) :
    world.tables.connections[number]? = (world.kernel? number).map KernelObject.connection :=
  List.getElem?_map

theorem tables_sessions_getElem? (number : Nat) :
    world.tables.sessions[number]? = (world.session? number).map SessionObject.session :=
  List.getElem?_map

theorem tables_kernelManagers_getElem? (number : Nat) :
    world.tables.kernelManagers[number]? =
      (world.kernelManager? number).map ManagerObject.manager :=
  List.getElem?_map

theorem tables_sessionManagers_getElem? (number : Nat) :
    world.tables.sessionManagers[number]? =
      (world.sessionManager? number).map ManagerObject.manager :=
  List.getElem?_map

theorem tables_wake : world.wake.tables = world.tables := by
  unfold wake
  split <;> rfl

theorem tables_foldl {Item : Type} {step : World → Item → World}
    (same : ∀ world item, (step world item).tables = world.tables) (items : List Item)
    (world : World) : (items.foldl step world).tables = world.tables := by
  induction items generalizing world with
  | nil => rfl
  | cons item rest ih => exact (ih _).trans (same world item)

theorem tables_modifyKernel {change : KernelObject → KernelObject}
    {step : Connection → Connection}
    (steps : ∀ object, (change object).connection = step object.connection) (kernel : Nat) :
    (world.modifyKernel kernel change).tables =
      { world.tables with connections := world.tables.connections.modify kernel step } := by
  simp only [tables, modifyKernel, map_modify steps]

/-- What a connection announces goes to its signals, to replies, comms and targets, and to the
server. -/
theorem tables_carryKernel (kernel : Nat) (effect : Connection.Effect) :
    (world.carryKernel kernel effect).tables = world.tables := by
  have emits : (world.modifyKernel kernel fun object => object.emit effect).tables =
      world.tables := by
    simp only [tables, modifyKernel,
      map_modify_same fun object : KernelObject => object.emit_connection effect]
  cases effect
  case status | connectionStatus | received | unclaimed | disposed => exact emits
  all_goals rfl

theorem tables_applyKernel (kernel : Nat) (change : Connection.Change) :
    (world.applyKernel kernel change).tables = { world.tables with
      connections := world.tables.connections.modify kernel fun _ => change.1 } := by
  have carried (world : World) (effect : Connection.Effect) :
      (world.carryKernel kernel effect).wake.tables = world.tables := by
    rw [tables_wake, tables_carryKernel]
  rw [applyKernel, tables_foldl carried, tables_wake]
  exact tables_modifyKernel (fun _ => rfl) kernel

theorem tables_changeKernel (kernel : Nat) (step : Connection → Connection.Change) :
    (world.changeKernel kernel step).tables = { world.tables with
      connections := world.tables.connections.modify kernel fun connection =>
        (step connection).1 } := by
  unfold changeKernel
  cases known : world.kernel? kernel with
  | some object =>
      have placed : world.tables.connections[kernel]? = some object.connection := by
        rw [tables_connections_getElem?, known]
        rfl
      have same : (world.tables.connections.modify kernel fun _ => (step object.connection).1) =
          world.tables.connections.modify kernel fun connection => (step connection).1 :=
        modify_congr placed rfl
      rw [← same]
      exact tables_applyKernel kernel _
  | none =>
      have absent : world.tables.connections[kernel]? = none := by
        rw [tables_connections_getElem?, known]
        rfl
      dsimp only
      rw [List.modify_eq_self (List.getElem?_eq_none_iff.mp absent)]

theorem tables_connectKernel (model : KernelModel) (options : ConnectionOptions) (world : World) :
    ∃ connection, (world.connectKernel model options).tables =
      { world.tables with connections := world.tables.connections ++ [connection] } := by
  cases chosen : options.clientId with
  | some client =>
      refine ⟨.create model client options, ?_⟩
      simp [connectKernel, chosen, tables, spawn, KernelObject.create]
  | none =>
      refine ⟨.create model world.freshClient.1 options, ?_⟩
      simp [connectKernel, chosen, tables, spawn, freshClient, KernelObject.create]

theorem tables_modifySession {change : SessionObject → SessionObject} {step : Session → Session}
    (steps : ∀ object, (change object).session = step object.session) (session : Nat) :
    (world.modifySession session change).tables =
      { world.tables with sessions := world.tables.sessions.modify session step } := by
  simp only [tables, modifySession, map_modify steps]

/-- A change of connections that leaves some of them as they are, and everything else. -/
structure Spares (spared : Nat → Prop) (before after : Tables) : Prop where
  sessions : after.sessions = before.sessions
  kernelManagers : after.kernelManagers = before.kernelManagers
  sessionManagers : after.sessionManagers = before.sessionManagers
  count : before.connections.length ≤ after.connections.length
  connections : ∀ (number : Nat) connection, spared number →
    before.connections[number]? = some connection → after.connections[number]? = some connection

theorem Spares.refl (spared : Nat → Prop) (tables : Tables) : Spares spared tables tables :=
  ⟨rfl, rfl, rfl, Nat.le_refl _, fun _ _ _ known => known⟩

theorem Spares.mono {more fewer : Nat → Prop} {before after : Tables}
    (spares : Spares more before after) (implies : ∀ number, fewer number → more number) :
    Spares fewer before after where
  sessions := spares.sessions
  kernelManagers := spares.kernelManagers
  sessionManagers := spares.sessionManagers
  count := spares.count
  connections number connection spare := spares.connections number connection (implies number spare)

theorem Spares.trans {spared : Nat → Prop} {before middle after : Tables}
    (first : Spares spared before middle) (second : Spares spared middle after) :
    Spares spared before after where
  sessions := second.sessions.trans first.sessions
  kernelManagers := second.kernelManagers.trans first.kernelManagers
  sessionManagers := second.sessionManagers.trans first.sessionManagers
  count := Nat.le_trans first.count second.count
  connections number connection spare known :=
    second.connections number connection spare (first.connections number connection spare known)

/-- What a session announces changes no connection but the one that it disposes. -/
theorem spares_carrySession (session : Nat) (options : ConnectionOptions)
    (effect : Session.Effect) :
    Spares (fun kernel => effect ≠ .disposeKernel kernel) world.tables
      (world.carrySession session options effect).tables := by
  have emits : (world.modifySession session fun object => object.emit effect).tables =
      world.tables := by
    simp only [tables, modifySession,
      map_modify_same fun object : SessionObject => object.emit_session effect]
  cases effect
  case connectKernel kernel model =>
    obtain ⟨connection, connected⟩ := world.tables_connectKernel model options
    dsimp only [carrySession]
    rw [connected]
    refine ⟨rfl, rfl, rfl, by simp, fun number known _ present => ?_⟩
    have bound := (List.getElem?_eq_some_iff.mp present).1
    rw [List.getElem?_append_left bound, present]
  case disposeKernel kernel =>
    dsimp only [carrySession]
    rw [tables_changeKernel]
    refine ⟨rfl, rfl, rfl, by simp, fun number known spare present => ?_⟩
    have other : kernel ≠ number := fun same => spare (same ▸ rfl)
    simp [present, other]
  all_goals
    dsimp only [carrySession]
    rw [emits]
    exact .refl _ _

theorem spares_carrySessions (session : Nat) (options : ConnectionOptions)
    (effects : List Session.Effect) (world : World) :
    Spares (fun kernel => .disposeKernel kernel ∉ effects) world.tables
      (effects.foldl (fun world effect => (world.carrySession session options effect).wake)
        world).tables := by
  induction effects generalizing world with
  | nil => exact .refl _ world.tables
  | cons effect rest ih =>
      have others := ih (world.carrySession session options effect).wake
      rw [tables_wake] at others
      refine .trans ((spares_carrySession session options effect).mono fun kernel spare same => ?_)
        (others.mono fun kernel spare member => spare (List.mem_cons_of_mem effect member))
      exact spare (same ▸ List.mem_cons_self)

theorem spares_changeSession (session : Nat) (step : Session → Session.Change) :
    Spares
      (fun kernel => ∀ known, world.tables.sessions[session]? = some known →
        .disposeKernel kernel ∉ (step known).2)
      { world.tables with
        sessions := world.tables.sessions.modify session fun known => (step known).1 }
      (world.changeSession session step).tables := by
  unfold changeSession
  cases known : world.session? session with
  | some object =>
      have present : world.tables.sessions[session]? = some object.session := by
        rw [tables_sessions_getElem?, known]
        rfl
      have same : (world.tables.sessions.modify session fun _ => (step object.session).1) =
          world.tables.sessions.modify session fun known => (step known).1 :=
        modify_congr present rfl
      let placed := world.modifySession session fun held =>
        { held with session := (step object.session).1 }
      have carried := spares_carrySessions session object.options (step object.session).2
        placed.wake
      have modified : placed.tables = { world.tables with
          sessions := world.tables.sessions.modify session fun _ => (step object.session).1 } :=
        tables_modifySession (fun _ => rfl) session
      rw [tables_wake, modified, same] at carried
      exact carried.mono fun kernel spare => spare object.session present
  | none =>
      have absent : world.tables.sessions[session]? = none := by
        rw [tables_sessions_getElem?, known]
        rfl
      rw [List.modify_eq_self (List.getElem?_eq_none_iff.mp absent)]
      exact .refl _ world.tables

theorem tables_modifyKernelManager {step : KernelManager → KernelManager}
    {change : ManagerObject KernelModel KernelHandle → ManagerObject KernelModel KernelHandle}
    (steps : ∀ object, (change object).manager = step object.manager) (manager : Nat) :
    (world.modifyKernelManager manager change).tables = { world.tables with
      kernelManagers := world.tables.kernelManagers.modify manager step } := by
  simp only [tables, modifyKernelManager, map_modify steps]

theorem tables_modifySessionManager {step : SessionManager → SessionManager}
    {change : ManagerObject SessionModel SessionHandle → ManagerObject SessionModel SessionHandle}
    (steps : ∀ object, (change object).manager = step object.manager) (manager : Nat) :
    (world.modifySessionManager manager change).tables = { world.tables with
      sessionManagers := world.tables.sessionManagers.modify manager step } := by
  simp only [tables, modifySessionManager, map_modify steps]

/-- What a manager of kernels announces changes only the connections that it disposes. -/
theorem tables_carryKernelManager (manager : Nat)
    (effect : Manager.Effect KernelModel KernelHandle) :
    (world.carryKernelManager manager effect).tables =
      match effect with
      | .disposeConnection handle => { world.tables with
          connections := world.tables.connections.modify handle.connection fun connection =>
            connection.dispose.1 }
      | _ => world.tables := by
  have emits : (world.modifyKernelManager manager fun object => object.emit effect).tables =
      world.tables := by
    simp only [tables, modifyKernelManager, map_modify_same
      fun object : ManagerObject KernelModel KernelHandle => object.emit_manager effect]
  cases effect
  case disposeConnection handle => exact tables_changeKernel handle.connection _
  case updateConnection | log => rfl
  all_goals exact emits

/-- What a manager of sessions announces goes to its signals, apart from what it tells sessions. -/
theorem tables_carrySessionManager (manager : Nat)
    {effect : Manager.Effect SessionModel SessionHandle}
    (keeps : ∀ handle, effect ≠ .disposeConnection handle)
    (silent : ∀ handle model, effect ≠ .updateConnection handle model) :
    (world.carrySessionManager manager effect).tables = world.tables := by
  have emits : (world.modifySessionManager manager fun object => object.emit effect).tables =
      world.tables := by
    simp only [tables, modifySessionManager, map_modify_same
      fun object : ManagerObject SessionModel SessionHandle => object.emit_manager effect]
  cases effect
  case disposeConnection handle => exact absurd rfl (keeps handle)
  case updateConnection handle model => exact absurd rfl (silent handle model)
  case log => rfl
  all_goals exact emits

/-- A manager takes its new state before anything is announced. -/
theorem changeKernelManager_known {manager : Nat}
    {object : ManagerObject KernelModel KernelHandle}
    (known : world.kernelManager? manager = some object)
    (step : KernelManager → Manager.Change KernelModel KernelHandle) :
    ∃ placed : World,
      placed.tables = { world.tables with
        kernelManagers := world.tables.kernelManagers.modify manager fun _ =>
          (step object.manager).1 } ∧
      world.changeKernelManager manager step = (step object.manager).2.foldl
        (fun world effect => (world.carryKernelManager manager effect).wake) placed := by
  refine ⟨(world.modifyKernelManager manager fun managing =>
    { managing with manager := (step object.manager).1 }).wake, ?_, ?_⟩
  · rw [tables_wake]
    exact tables_modifyKernelManager (fun _ => rfl) manager
  · simp only [changeKernelManager, known]

theorem changeSessionManager_known {manager : Nat}
    {object : ManagerObject SessionModel SessionHandle}
    (known : world.sessionManager? manager = some object)
    (step : SessionManager → Manager.Change SessionModel SessionHandle) :
    ∃ placed : World,
      placed.tables = { world.tables with
        sessionManagers := world.tables.sessionManagers.modify manager fun _ =>
          (step object.manager).1 } ∧
      world.changeSessionManager manager step = (step object.manager).2.foldl
        (fun world effect => (world.carrySessionManager manager effect).wake) placed := by
  refine ⟨(world.modifySessionManager manager fun managing =>
    { managing with manager := (step object.manager).1 }).wake, ?_, ?_⟩
  · rw [tables_wake]
    exact tables_modifySessionManager (fun _ => rfl) manager
  · simp only [changeSessionManager, known]

end World

end KernelClient.Simulation
