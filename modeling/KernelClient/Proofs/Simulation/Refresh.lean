import KernelClient.Proofs.Simulation.Scripts

/-!
# What a list makes of the connections of a manager

A list that arrives becomes the copy of a manager. The manager keeps the connections whose
identifier is in the list and disposes the others, and sessions that it keeps take on their model.

A session that is disposed, or gets another kernel, has the connection to its kernel disposed. The
steps are taken one after the other in a world that each of them changes, so what a later step finds
is told by an invariant: a session still has its identifier, and the connection to its kernel is
the one that it had before the list arrived, to the same kernel, or is new.
-/

namespace KernelClient.Simulation

/-- Under which identifier a connection stands, and whether it is disposed. -/
structure Standing where
  id : String
  isDisposed : Bool
deriving DecidableEq

namespace Standing

def ofConnection (connection : Connection) : Standing where
  id := connection.model.id
  isDisposed := connection.isDisposed

def ofSession (session : Session) : Standing where
  id := session.model.id
  isDisposed := session.isDisposed

/-- Whether a list has an entry for a connection. -/
def isListed {Model : Type} [Resource Model] (models : List Model) (standing : Standing) : Bool :=
  models.any fun model => Resource.id model = standing.id

def dispose (standing : Standing) : Standing := { standing with isDisposed := true }

end Standing

/-- What a list makes of a manager and of all connections. A place says where a connection that the
manager tracks is among them. -/
structure Refreshed {Model Connection : Type} [Resource Model] (models : List Model)
    (place : Connection → Nat) (manager refreshed : Manager Model Connection)
    (before after : List Standing) : Prop where
  running : refreshed.running = models
  connections : refreshed.connections = manager.connections.filter fun connection =>
    before[place connection]?.any (Standing.isListed models)
  standings : after = before.mapIdx fun number standing => { standing with
    isDisposed := standing.isDisposed ||
      manager.connections.any (fun connection => place connection = number) &&
        !standing.isListed models }

def World.kernelStandings (world : World) : List Standing :=
  world.tables.connections.map .ofConnection

def World.sessionStandings (world : World) : List Standing :=
  world.tables.sessions.map .ofSession

/-- What a list of kernels makes of a world. -/
structure KernelsRefreshed (models : List KernelModel) (manager refreshed : KernelManager)
    (before after : World) : Prop extends
    Refreshed models KernelHandle.connection manager refreshed before.kernelStandings
      after.kernelStandings where
  sessions : after.tables.sessions = before.tables.sessions

/-- Whether a session is gone from a list or has another kernel there. -/
def LosesKernel (models : List SessionModel) (session : Session) : Prop :=
  ∀ model, models.find? (fun model => model.id = session.model.id) = some model →
    Session.kernelId? model ≠ Session.kernelId? session.model

/-- Whether a session is disposed or has the model that is the first one for it in a list. -/
def IsCurrent (models : List SessionModel) (session : Session) : Prop :=
  session.isDisposed = false →
    models.find? (fun model => model.id = session.model.id) = some session.model

/-- The connections to kernels that are lost because of a list: those of sessions that are tracked
and are not in the list with the same kernel. -/
def IsLost (models : List SessionModel) (handles : List SessionHandle) (tables : Tables)
    (kernel : Nat) : Prop :=
  ∃ handle ∈ handles, ∃ session, tables.sessions[handle.connection]? = some session ∧
    session.kernel = some kernel ∧ LosesKernel models session

/-- Whether the session at a place is disposed or has its model in a list. -/
def CurrentAt (models : List SessionModel) (place : Nat) (tables : Tables) : Prop :=
  ∀ session, tables.sessions[place]? = some session → IsCurrent models session

/-- What a list of sessions makes of a world. -/
structure SessionsRefreshed (models : List SessionModel) (manager refreshed : SessionManager)
    (before after : World) : Prop extends
    Refreshed models SessionHandle.connection manager refreshed before.sessionStandings
      after.sessionStandings where
  current : ∀ handle ∈ refreshed.connections, CurrentAt models handle.connection after.tables
  kernels : ∀ (kernel : Nat) connection, before.tables.connections[kernel]? = some connection →
    after.tables.connections[kernel]? = some connection ∨
      IsLost models manager.connections before.tables kernel

section Managers

variable {Model Connection : Type}

/-- Whether an effect disposes the connection at a place. -/
def disposesAt (place : Connection → Nat) (number : Nat) : Manager.Effect Model Connection → Bool
  | .disposeConnection connection => place connection = number
  | _ => false

/-- What an effect makes of the standings of all connections. -/
def standingsAfter (place : Connection → Nat) (standings : List Standing) :
    Manager.Effect Model Connection → List Standing
  | .disposeConnection connection => standings.modify (place connection) Standing.dispose
  | _ => standings

theorem standingsAfter_getElem? (place : Connection → Nat) (number : Nat)
    (standings : List Standing) (effect : Manager.Effect Model Connection) :
    (standingsAfter place standings effect)[number]? = standings[number]?.map fun standing =>
      { standing with isDisposed := standing.isDisposed || disposesAt place number effect } := by
  cases effect
  case disposeConnection connection =>
    rw [standingsAfter, List.getElem?_modify]
    by_cases here : place connection = number <;> simp [disposesAt, here, Standing.dispose]
  all_goals simp [standingsAfter, disposesAt]

theorem foldl_standingsAfter_getElem? (place : Connection → Nat) (number : Nat)
    (effects : List (Manager.Effect Model Connection)) (standings : List Standing) :
    (effects.foldl (standingsAfter place) standings)[number]? =
      standings[number]?.map fun standing => { standing with
        isDisposed := standing.isDisposed || effects.any (disposesAt place number) } := by
  induction effects generalizing standings with
  | nil => simp
  | cons effect rest ih =>
      rw [List.foldl_cons, ih, standingsAfter_getElem?]
      simp [Function.comp_def, Bool.or_assoc]

variable [DecidableEq Model] [Resource Model] [Handle Connection]

/-- A list disposes those connections whose resource is not in it. -/
theorem any_disposesAt_applyRunning {manager : Manager Model Connection}
    (alive : manager.isDisposed = false) (models : List Model) (place : Connection → Nat)
    (number : Nat) :
    (manager.applyRunning models).2.any (disposesAt place number) =
      (manager.stale models).any fun connection => place connection = number := by
  have updates : (Manager.updates models (manager.live models)).any (disposesAt place number) =
      false := by
    refine List.any_eq_false.mpr fun effect member => ?_
    obtain ⟨connection, -, told⟩ := List.mem_filterMap.mp member
    obtain ⟨model, -, rfl⟩ := Option.map_eq_some_iff.mp told
    exact Bool.false_ne_true
  have emitted : (if manager.running = models then [] else
      [Manager.Effect.running models]).any (disposesAt place number) = false := by
    split <;> rfl
  rw [Manager.applyRunning_of_not_isDisposed (Bool.eq_false_iff.mp alive), List.any_append,
    List.any_append, updates, emitted, List.any_map]
  simp [Function.comp_def, disposesAt]

omit [DecidableEq Model] in
/-- Whether a list has an entry for a connection that stands under the identifier by which it is
tracked. -/
theorem isSome_listed? {standing : Standing} {connection : Connection}
    (sameId : standing.id = Handle.resource connection) (models : List Model) :
    (Manager.listed? models connection).isSome = standing.isListed models := by
  rw [Manager.listed?, List.isSome_find?, Standing.isListed, sameId]

/-- A list makes of a manager, and of connections that stand under the identifiers by which they are
tracked, what it should. -/
theorem refreshed_applyRunning {manager : Manager Model Connection}
    (alive : manager.isDisposed = false) {place : Connection → Nat} {before : List Standing}
    (tracked : ∀ connection ∈ manager.connections, ∃ standing,
      before[place connection]? = some standing ∧ standing.id = Handle.resource connection)
    (models : List Model) :
    Refreshed models place manager (manager.applyRunning models).1 before
      ((manager.applyRunning models).2.foldl (standingsAfter place) before) where
  running := Manager.applyRunning_running alive models
  connections := by
    rw [Manager.applyRunning_connections alive]
    refine List.filter_congr fun connection member => ?_
    obtain ⟨standing, known, sameId⟩ := tracked connection member
    rw [isSome_listed? sameId, known]
    rfl
  standings := by
    apply List.ext_getElem?
    intro number
    rw [foldl_standingsAfter_getElem?, any_disposesAt_applyRunning alive, List.getElem?_mapIdx]
    cases present : before[number]? with
    | none => rfl
    | some standing =>
        have gone (connection : Connection) (member : connection ∈ manager.connections)
            (here : place connection = number) :
            (Manager.listed? models connection).isNone = !standing.isListed models := by
          obtain ⟨other, known, sameId⟩ := tracked connection member
          rw [here, present] at known
          cases known
          rw [← isSome_listed? sameId, Option.not_isSome]
        have stale : ((manager.stale models).any fun connection => place connection = number) =
            (manager.connections.any (fun connection => place connection = number) &&
              !standing.isListed models) := by
          rw [List.and_any_distrib_right, Manager.stale, List.any_filter, Bool.eq_iff_iff,
            List.any_eq_true, List.any_eq_true]
          refine exists_congr fun connection => and_congr_right fun member => ?_
          by_cases here : place connection = number
          · simp [here, gone connection member here]
          · simp [here]
        rw [stale]
        rfl

end Managers

namespace World

variable {world : World}

theorem kernelStandings_carryKernelManager (manager : Nat)
    (effect : Manager.Effect KernelModel KernelHandle) (world : World) :
    (world.carryKernelManager manager effect).wake.kernelStandings =
      standingsAfter KernelHandle.connection world.kernelStandings effect := by
  have disposes (connection : Connection) :
      Standing.ofConnection connection.dispose.1 = (Standing.ofConnection connection).dispose := by
    rw [Standing.ofConnection, Connection.continues_dispose.model, Connection.isDisposed_dispose]
    rfl
  rw [kernelStandings, tables_wake, tables_carryKernelManager]
  cases effect
  case disposeConnection handle => exact map_modify disposes handle.connection _
  all_goals rfl

/-- A change of a manager does to the standings what it announces. -/
theorem kernelStandings_changeKernelManager {number : Nat}
    {object : ManagerObject KernelModel KernelHandle}
    (known : world.kernelManager? number = some object)
    (step : KernelManager → Manager.Change KernelModel KernelHandle) :
    (world.changeKernelManager number step).kernelStandings =
      (step object.manager).2.foldl (standingsAfter KernelHandle.connection)
        world.kernelStandings := by
  obtain ⟨placed, tables, applied⟩ := changeKernelManager_known known step
  have same : placed.kernelStandings = world.kernelStandings := by
    rw [kernelStandings, tables]
    rfl
  rw [← same, applied]
  exact (List.foldl_hom kernelStandings fun world effect =>
    (kernelStandings_carryKernelManager number effect world).symm).symm

theorem tables_carryKernelManagers (manager : Nat)
    (effects : List (Manager.Effect KernelModel KernelHandle)) (world : World) :
    ∃ connections, (effects.foldl
      (fun world effect => (world.carryKernelManager manager effect).wake) world).tables =
        { world.tables with connections := connections } := by
  induction effects generalizing world with
  | nil => exact ⟨world.tables.connections, rfl⟩
  | cons effect rest ih =>
      obtain ⟨connections, same⟩ := ih (world.carryKernelManager manager effect).wake
      refine ⟨connections, same.trans ?_⟩
      rw [tables_wake, tables_carryKernelManager]
      cases effect <;> rfl

theorem Managed.standsAsKernel (managed : world.Managed) {number : Nat}
    {object : ManagerObject KernelModel KernelHandle}
    (known : world.kernelManager? number = some object) (handle : KernelHandle)
    (tracked : handle ∈ object.manager.connections) :
    ∃ standing, world.kernelStandings[handle.connection]? = some standing ∧
      standing.id = Handle.resource handle := by
  obtain ⟨held, present, sameId, -⟩ :=
    (managed.kernels object (List.mem_of_getElem? known)).tracks tracked
  refine ⟨.ofConnection held.connection, ?_, sameId⟩
  rw [kernelStandings, List.getElem?_map, tables_connections_getElem?, present]
  rfl

theorem Managed.refreshed_kernels (managed : world.Managed) {number : Nat}
    {object : ManagerObject KernelModel KernelHandle}
    (known : world.kernelManager? number = some object)
    (alive : object.manager.isDisposed = false) (models : List KernelModel) :
    let after := world.applyListing (.kernels number) (.kernels models)
    ∃ refreshed, after.kernelManager? number = some refreshed ∧
      KernelsRefreshed models object.manager refreshed.manager world after := by
  intro after
  obtain ⟨placed, tables, applied⟩ :=
    changeKernelManager_known known (Manager.applyRunning models)
  obtain ⟨connections, carried⟩ :=
    tables_carryKernelManagers number (object.manager.applyRunning models).2 placed
  rw [← applied, tables] at carried
  have taken : after.tables.kernelManagers[number]? =
      some (object.manager.applyRunning models).1 := by
    rw [show after.tables = _ from carried, List.getElem?_modify,
      tables_kernelManagers_getElem?, known]
    simp
  have standings : after.kernelStandings =
      (object.manager.applyRunning models).2.foldl (standingsAfter KernelHandle.connection)
        world.kernelStandings :=
    kernelStandings_changeKernelManager known (Manager.applyRunning models)
  rw [tables_kernelManagers_getElem?] at taken
  obtain ⟨refreshed, present, changed⟩ := Option.map_eq_some_iff.mp taken
  refine ⟨refreshed, present, ?_, ?_⟩
  · rw [changed, standings]
    exact refreshed_applyRunning alive (managed.standsAsKernel known) models
  · rw [show after.tables = _ from carried]

theorem sessions_carrySessionManager (manager : Nat)
    (effect : Manager.Effect SessionModel SessionHandle) (world : World) :
    (world.carrySessionManager manager effect).wake.tables.sessions =
      match effect with
      | .disposeConnection handle => world.tables.sessions.modify handle.connection fun session =>
          session.dispose.1
      | .updateConnection handle model =>
          world.tables.sessions.modify handle.connection fun session =>
            (session.update model world.kernels.length).1
      | _ => world.tables.sessions := by
  rw [tables_wake]
  cases effect
  case disposeConnection handle => exact (spares_changeSession handle.connection _).sessions
  case updateConnection handle model => exact (spares_changeSession handle.connection _).sessions
  all_goals rw [tables_carrySessionManager manager (by simp) (by simp)]

theorem sessionStandings_carrySessionManager (manager : Nat)
    (effect : Manager.Effect SessionModel SessionHandle) (world : World) :
    (world.carrySessionManager manager effect).wake.sessionStandings =
      standingsAfter SessionHandle.connection world.sessionStandings effect := by
  have disposes (session : Session) :
      Standing.ofSession session.dispose.1 = (Standing.ofSession session).dispose := by
    rw [Standing.ofSession, session.dispose_model, session.dispose_isDisposed]
    rfl
  have updates (model : SessionModel) (connection : Nat) (session : Session) :
      Standing.ofSession (session.update model connection).1 = Standing.ofSession session := by
    rw [Standing.ofSession, (session.continues_update model connection).sameId,
      session.update_isDisposed model connection]
    rfl
  rw [sessionStandings, sessions_carrySessionManager]
  cases effect
  case disposeConnection handle => exact map_modify disposes handle.connection _
  case updateConnection handle model =>
    exact map_modify_same (updates model world.kernels.length) handle.connection _
  all_goals rfl

theorem sessionStandings_changeSessionManager {number : Nat}
    {object : ManagerObject SessionModel SessionHandle}
    (known : world.sessionManager? number = some object)
    (step : SessionManager → Manager.Change SessionModel SessionHandle) :
    (world.changeSessionManager number step).sessionStandings =
      (step object.manager).2.foldl (standingsAfter SessionHandle.connection)
        world.sessionStandings := by
  obtain ⟨placed, tables, applied⟩ := changeSessionManager_known known step
  have same : placed.sessionStandings = world.sessionStandings := by
    rw [sessionStandings, tables]
    rfl
  rw [← same, applied]
  exact (List.foldl_hom sessionStandings fun world effect =>
    (sessionStandings_carrySessionManager number effect world).symm).symm

end World

/-- A model is only taken on by its session, so those that a list has for others change nothing. -/
theorem IsCurrent.update {models : List SessionModel} {session : Session} {model : SessionModel}
    (first : models.find? (fun other => other.id = model.id) = some model)
    (current : session.model.id = model.id ∨ IsCurrent models session) (connection : Nat) :
    IsCurrent models (session.update model connection).1 := by
  intro alive
  rw [Session.update_isDisposed] at alive
  rw [Session.update_model]
  by_cases own : session.model.id = model.id
  · rw [if_pos ⟨alive, own⟩]
    exact first
  · rw [if_neg fun both => own both.2]
    exact current.resolve_left own alive

/-- What holds of a world while it is told of a list of sessions: connections to kernels are as they
were before, apart from those that are lost, and so are sessions, apart from their models and the
connections to new kernels. -/
structure Refreshing (lost : Nat → Prop) (start current : Tables) : Prop where
  sessionManagers : current.sessionManagers = start.sessionManagers
  count : start.connections.length ≤ current.connections.length
  connections : ∀ (kernel : Nat) connection, start.connections[kernel]? = some connection →
    current.connections[kernel]? = some connection ∨ lost kernel
  sessions : ∀ (place : Nat) session, current.sessions[place]? = some session →
    ∃ earlier, start.sessions[place]? = some earlier ∧
      earlier.Renewed start.connections.length session

namespace Refreshing

variable {lost : Nat → Prop} {start current after : Tables}

theorem refl (lost : Nat → Prop) (tables : Tables) : Refreshing lost tables tables where
  sessionManagers := rfl
  count := Nat.le_refl _
  connections _ _ known := .inl known
  sessions _ session known := ⟨session, known, .refl _ session⟩

/-- A change of one session, as long as the connections that it disposes are among the lost ones. -/
theorem change (refreshing : Refreshing lost start current) {place : Nat}
    {step : Session → Session.Change}
    (spares : World.Spares
      (fun kernel => ∀ session, current.sessions[place]? = some session →
        .disposeKernel kernel ∉ (step session).2)
      { current with sessions := current.sessions.modify place fun session => (step session).1 }
      after)
    (renews : ∀ earlier session : Session, earlier.Renewed start.connections.length session →
      earlier.Renewed start.connections.length (step session).1)
    (loses : ∀ (earlier session : Session) kernel, start.sessions[place]? = some earlier →
      earlier.Renewed start.connections.length session →
      .disposeKernel kernel ∈ (step session).2 → kernel < start.connections.length → lost kernel) :
    Refreshing lost start after where
  sessionManagers := spares.sessionManagers.trans refreshing.sessionManagers
  count := Nat.le_trans refreshing.count spares.count
  connections kernel connection known := by
    rcases refreshing.connections kernel connection known with present | gone
    · by_cases disposed : ∃ session, current.sessions[place]? = some session ∧
          .disposeKernel kernel ∈ (step session).2
      · obtain ⟨session, held, disposes⟩ := disposed
        obtain ⟨earlier, before, renewed⟩ := refreshing.sessions place session held
        have bound := (List.getElem?_eq_some_iff.mp known).1
        exact .inr (loses earlier session kernel before renewed disposes bound)
      · exact .inl (spares.connections kernel connection
          (fun session held disposes => disposed ⟨session, held, disposes⟩) present)
    · exact .inr gone
  sessions number session known := by
    rw [spares.sessions, List.getElem?_modify] at known
    obtain ⟨held, present, rfl⟩ := Option.map_eq_some_iff.mp known
    obtain ⟨earlier, before, renewed⟩ := refreshing.sessions number held present
    refine ⟨earlier, before, ?_⟩
    split
    · exact renews earlier held renewed
    · exact renewed

end Refreshing

section Telling

variable {models : List SessionModel} {handles : List SessionHandle} {start : Tables}
  {world : World}

/-- Whether sessions stand under the identifiers by which they are tracked. -/
def StandUnder (handles : List SessionHandle) (tables : Tables) : Prop :=
  ∀ handle ∈ handles, ∀ session, tables.sessions[handle.connection]? = some session →
    session.model.id = handle.sessionId

theorem Refreshing.carry {manager : Nat} {effect : Manager.Effect SessionModel SessionHandle}
    (tracked : StandUnder handles start)
    (follows : effect.Follows models handles)
    (refreshing : Refreshing (IsLost models handles start) start world.tables) :
    Refreshing (IsLost models handles start) start
      (world.carrySessionManager manager effect).wake.tables := by
  rw [World.tables_wake]
  cases effect
  case disposeConnection handle =>
    obtain ⟨member, gone⟩ := follows
    refine refreshing.change (World.spares_changeSession handle.connection _)
      (fun _ _ renewed => renewed.dispose) ?_
    intro earlier session kernel before renewed disposes bound
    rcases renewed.kernel kernel (Session.kernel_of_mem_dispose disposes) with new | ⟨held, -⟩
    · omega
    · refine ⟨handle, member, earlier, before, held, fun model found => ?_⟩
      rw [tracked handle member earlier before] at found
      cases gone.symm.trans found
  case updateConnection handle model =>
    obtain ⟨member, first⟩ := follows
    have later : start.connections.length ≤ world.kernels.length := by
      simpa [World.tables] using refreshing.count
    refine refreshing.change (World.spares_changeSession handle.connection _)
      (fun _ _ renewed => renewed.update later) ?_
    intro earlier session kernel before renewed disposes bound
    obtain ⟨holds, other⟩ := Session.kernel_of_mem_update disposes
    rcases renewed.kernel kernel holds with new | ⟨held, agrees⟩
    · omega
    · refine ⟨handle, member, earlier, before, held, fun listed found same => other ?_⟩
      rw [tracked handle member earlier before] at found
      cases first.symm.trans found
      exact agrees.trans same.symm
  all_goals
    rw [World.tables_carrySessionManager manager (by simp) (by simp)]
    exact refreshing

/-- Sessions are told of a list. -/
theorem Refreshing.carryAll (manager : Nat)
    {effects : List (Manager.Effect SessionModel SessionHandle)}
    (tracked : StandUnder handles start)
    (follows : ∀ effect ∈ effects, effect.Follows models handles)
    (refreshing : Refreshing (IsLost models handles start) start world.tables) :
    Refreshing (IsLost models handles start) start (effects.foldl
      (fun world effect => (world.carrySessionManager manager effect).wake) world).tables := by
  induction effects generalizing world with
  | nil => exact refreshing
  | cons effect rest ih =>
      exact ih (fun other member => follows other (List.mem_cons_of_mem effect member))
        (refreshing.carry tracked (follows effect List.mem_cons_self))

theorem CurrentAt.carry {place manager : Nat}
    {effect : Manager.Effect SessionModel SessionHandle}
    (follows : effect.Follows models handles) (current : CurrentAt models place world.tables) :
    CurrentAt models place (world.carrySessionManager manager effect).wake.tables := by
  intro session present
  rw [World.sessions_carrySessionManager] at present
  cases effect
  case disposeConnection handle =>
    rw [List.getElem?_modify] at present
    obtain ⟨held, known, rfl⟩ := Option.map_eq_some_iff.mp present
    split
    · intro alive
      rw [Session.dispose_isDisposed] at alive
      cases alive
    · exact current held known
  case updateConnection handle model =>
    rw [List.getElem?_modify] at present
    obtain ⟨held, known, rfl⟩ := Option.map_eq_some_iff.mp present
    split
    · refine .update ?_ (.inr (current held known)) _
      rw [show model.id = handle.sessionId from Manager.id_of_listed? follows.2]
      exact follows.2
    · exact current held known
  all_goals exact current session present

theorem CurrentAt.carryAll {place : Nat} (manager : Nat)
    {effects : List (Manager.Effect SessionModel SessionHandle)}
    (follows : ∀ effect ∈ effects, effect.Follows models handles)
    (current : CurrentAt models place world.tables) :
    CurrentAt models place (effects.foldl
      (fun world effect => (world.carrySessionManager manager effect).wake) world).tables := by
  induction effects generalizing world with
  | nil => exact current
  | cons effect rest ih =>
      exact ih (fun other member => follows other (List.mem_cons_of_mem effect member))
        (current.carry (follows effect List.mem_cons_self))

/-- A session that is told of its model in a list has it. -/
theorem currentAt_carry {manager : Nat} {handle : SessionHandle} {model : SessionModel}
    (first : Manager.listed? models handle = some model)
    (sameId : ∀ session, world.tables.sessions[handle.connection]? = some session →
      session.model.id = handle.sessionId) :
    CurrentAt models handle.connection
      (world.carrySessionManager manager (.updateConnection handle model)).wake.tables := by
  intro session present
  have own : model.id = handle.sessionId := Manager.id_of_listed? first
  rw [World.sessions_carrySessionManager, List.getElem?_modify] at present
  obtain ⟨held, known, rfl⟩ := Option.map_eq_some_iff.mp present
  rw [if_pos rfl]
  refine .update ?_ (.inl ((sameId held known).trans own.symm)) _
  rw [own]
  exact first

/-- Once a session has its model in a list, nothing that follows from the list changes it. -/
theorem Refreshing.currentAt (manager : Nat) {handle : SessionHandle} {model : SessionModel}
    {effects : List (Manager.Effect SessionModel SessionHandle)}
    (tracked : StandUnder handles start)
    (follows : ∀ effect ∈ effects, effect.Follows models handles)
    (told : .updateConnection handle model ∈ effects)
    (refreshing : Refreshing (IsLost models handles start) start world.tables) :
    CurrentAt models handle.connection (effects.foldl
      (fun world effect => (world.carrySessionManager manager effect).wake) world).tables := by
  obtain ⟨member, first⟩ := follows (.updateConnection handle model) told
  obtain ⟨earlier, later, rfl⟩ := List.append_of_mem told
  have before := refreshing.carryAll manager tracked
    fun effect member => follows effect (List.mem_append_left _ member)
  rw [List.foldl_append, List.foldl_cons]
  refine CurrentAt.carryAll manager (fun effect member => follows effect ?_)
    (currentAt_carry first fun session present => ?_)
  · exact List.mem_append_right earlier (List.mem_cons_of_mem _ member)
  · obtain ⟨known, there, renewed⟩ := before.sessions handle.connection session present
    exact renewed.sameId.trans (tracked handle member known there)

end Telling

namespace World

variable {world : World}

theorem Managed.standsAsSession (managed : world.Managed) {number : Nat}
    {object : ManagerObject SessionModel SessionHandle}
    (known : world.sessionManager? number = some object) (handle : SessionHandle)
    (tracked : handle ∈ object.manager.connections) :
    ∃ session, world.tables.sessions[handle.connection]? = some session ∧
      session.model.id = handle.sessionId := by
  obtain ⟨held, present, sameId⟩ :=
    (managed.sessions object (List.mem_of_getElem? known)).tracks tracked
  refine ⟨held.session, ?_, sameId⟩
  rw [tables_sessions_getElem?, present]
  rfl

theorem Managed.refreshed_sessions (managed : world.Managed) {number : Nat}
    {object : ManagerObject SessionModel SessionHandle}
    (known : world.sessionManager? number = some object)
    (alive : object.manager.isDisposed = false) (models : List SessionModel) :
    let after := world.applyListing (.sessions number) (.sessions models)
    ∃ refreshed, after.sessionManager? number = some refreshed ∧
      SessionsRefreshed models object.manager refreshed.manager world after := by
  intro after
  obtain ⟨placed, tables, applied⟩ :=
    changeSessionManager_known known (Manager.applyRunning models)
  have tracked : StandUnder object.manager.connections placed.tables := by
    intro handle member session present
    obtain ⟨held, there, sameId⟩ := managed.standsAsSession known handle member
    rw [tables] at present
    cases there.symm.trans present
    exact sameId
  have start : Refreshing (IsLost models object.manager.connections placed.tables)
      placed.tables placed.tables := .refl _ _
  have follows := object.manager.applyRunning_follows models
  have told : Refreshing (IsLost models object.manager.connections placed.tables)
      placed.tables after.tables := by
    rw [show after = _ from applied]
    exact start.carryAll number tracked follows
  have taken : after.tables.sessionManagers[number]? =
      some (object.manager.applyRunning models).1 := by
    rw [told.sessionManagers, tables, List.getElem?_modify, tables_sessionManagers_getElem?, known]
    simp
  have standings : after.sessionStandings =
      (object.manager.applyRunning models).2.foldl (standingsAfter SessionHandle.connection)
        world.sessionStandings :=
    sessionStandings_changeSessionManager known (Manager.applyRunning models)
  rw [tables_sessionManagers_getElem?] at taken
  obtain ⟨refreshed, present, changed⟩ := Option.map_eq_some_iff.mp taken
  refine ⟨refreshed, present, ?_, fun handle member => ?_, fun kernel connection there => ?_⟩
  · rw [changed, standings]
    refine refreshed_applyRunning alive (fun handle member => ?_) models
    obtain ⟨session, there, sameId⟩ := managed.standsAsSession known handle member
    refine ⟨.ofSession session, ?_, sameId⟩
    rw [sessionStandings, List.getElem?_map, there]
    rfl
  · rw [changed, Manager.applyRunning_connections alive] at member
    obtain ⟨model, found⟩ := Option.isSome_iff_exists.mp (List.mem_filter.mp member).2
    rw [show after = _ from applied]
    exact start.currentAt number tracked follows (Manager.mem_applyRunning alive member found)
  · rw [tables] at told
    exact told.connections kernel connection there

/-- A list becomes the copy of a manager that is not disposed. The manager keeps exactly the
connections whose identifier is in the list and disposes exactly the others that it tracked. A
session that is kept and is not disposed has the first entry of the list that is for it.

A list of kernels leaves all sessions as they are. A list of sessions leaves all connections to
kernels as they are, apart from those of tracked sessions that it does not name with the same
kernel. -/
theorem Reachable.refresh_agrees (reachable : world.Reachable) :
    (∀ number object models, world.kernelManager? number = some object →
      object.manager.isDisposed = false →
      ∃ refreshed,
        (world.applyListing (.kernels number) (.kernels models)).kernelManager? number =
          some refreshed ∧
        KernelsRefreshed models object.manager refreshed.manager world
          (world.applyListing (.kernels number) (.kernels models))) ∧
    (∀ number object models, world.sessionManager? number = some object →
      object.manager.isDisposed = false →
      ∃ refreshed,
        (world.applyListing (.sessions number) (.sessions models)).sessionManager? number =
          some refreshed ∧
        SessionsRefreshed models object.manager refreshed.manager world
          (world.applyListing (.sessions number) (.sessions models))) :=
  ⟨fun _ _ models known alive => reachable.managed.refreshed_kernels known alive models,
    fun _ _ models known alive => reachable.managed.refreshed_sessions known alive models⟩

/-- A session with a kernel, and one without. -/
def sessionA : SessionModel := ⟨"a", "a.ipynb", "a", "notebook", some ⟨"l", "python3"⟩⟩

def sessionB : SessionModel := ⟨"b", "b.ipynb", "b", "notebook", none⟩

/-- A manager of kernels that tracks one, and a manager of sessions that tracks two. -/
def tracking : World :=
  let world := (create default none).createManager "kernels" .kernels ⟨.off, .usual⟩ true
  let world := world.createManager "sessions" .sessions ⟨.off, .usual⟩ true
  let world := (world.connectKernel ⟨"k", "python3"⟩ .usual).registerKernel 0 0
  let world := (world.connectSession sessionA .usual).registerSession 0 0
  (world.connectSession sessionB .usual).registerSession 0 1

theorem arises_tracking : tracking.Arises := by
  have creates (world : World) (name : String) (kind : ManagerKind) :
      Steps world (world.createManager name kind ⟨.off, .usual⟩ true) :=
    steps_createManager name kind ⟨.off, .usual⟩ true
  have connectsKernel (world : World) (model : KernelModel) (kernel : Nat) :
      Steps world ((world.connectKernel model .usual).registerKernel 0 kernel) :=
    (steps_connectKernel model .usual).trans (.step (.registeredKernel 0 kernel))
  have connectsSession (world : World) (model : SessionModel) (session : Nat) :
      Steps world ((world.connectSession model .usual).registerSession 0 session) :=
    (steps_connectSession model .usual).trans (.step (.registeredSession 0 session))
  have managers := (creates (create default none) "kernels" .kernels).trans
    (creates _ "sessions" .sessions)
  have kernel := managers.trans (connectsKernel _ ⟨"k", "python3"⟩ 0)
  have sessions := (kernel.trans (connectsSession _ sessionA 0)).trans
    (connectsSession _ sessionB 1)
  exact ⟨default, none, sessions⟩

theorem reachable_tracking : tracking.Reachable :=
  arises_tracking.reachable

/-- No kernel is left, and of the sessions the second one, under another path. -/
theorem refresh_agrees_after_removal :
    tracking.Reachable ∧
    (∃ refreshed, (tracking.applyListing (.kernels 0) (.kernels [])).kernelManager? 0 =
        some refreshed ∧
      refreshed.manager.connections = [] ∧
      (tracking.applyListing (.kernels 0) (.kernels [])).kernelStandings =
        [⟨"k", true⟩, ⟨"l", false⟩]) ∧
    ∃ refreshed, (tracking.applyListing (.sessions 0)
        (.sessions [{ sessionB with path := "c.ipynb" }])).sessionManager? 0 = some refreshed ∧
      refreshed.manager.connections = [⟨1, "b"⟩] ∧
      (tracking.applyListing (.sessions 0)
        (.sessions [{ sessionB with path := "c.ipynb" }])).sessionStandings =
        [⟨"a", true⟩, ⟨"b", false⟩] ∧
      CurrentAt [{ sessionB with path := "c.ipynb" }] 1 (tracking.applyListing (.sessions 0)
        (.sessions [{ sessionB with path := "c.ipynb" }])).tables := by
  obtain ⟨kernels, sessions⟩ := reachable_tracking.refresh_agrees
  refine ⟨reachable_tracking, ?_, ?_⟩
  · obtain ⟨refreshed, present, agrees⟩ := kernels 0 _ [] rfl rfl
    exact ⟨refreshed, present, agrees.connections.trans rfl, agrees.standings.trans rfl⟩
  · obtain ⟨refreshed, present, agrees⟩ :=
      sessions 0 _ [{ sessionB with path := "c.ipynb" }] rfl rfl
    have kept : refreshed.manager.connections = [⟨1, "b"⟩] := agrees.connections.trans rfl
    exact ⟨refreshed, present, kept, agrees.standings.trans rfl,
      agrees.current ⟨1, "b"⟩ (kept ▸ List.mem_singleton_self _)⟩

end World

end KernelClient.Simulation
