import KernelClient.Proofs.Connection.Identity
import KernelClient.Proofs.Manager.Run
import KernelClient.Proofs.Session.Identity
import KernelClient.Proofs.Simulation.Tables
import KernelClient.Simulation.Holding
import Mathlib.Logic.Relation

/-!
# How a world evolves

Whatever goes on in a world changes its objects in small moves. A move made aside leaves all of them
alone; each of the others changes one table, in which every object stays at its place. A connection
goes on with what it is for, a manager goes on as one of its runs does, and what is added is new. A
manager tracks only connections that are there, under their identifiers.
-/

namespace KernelClient

/-- A manager goes on as a run does in which it tracks only some connections. -/
def Manager.Follows {Model Connection : Type} [DecidableEq Model] [Resource Model]
    [Handle Connection] (Tracks : Connection → Prop) (before after : Manager Model Connection) :
    Prop :=
  ∃ events, after = (before.run events).1 ∧
    ∀ connection, .tracked connection ∈ events → Tracks connection

namespace Manager.Follows

variable {Model Connection : Type} [DecidableEq Model] [Resource Model] [Handle Connection]
  {Tracks : Connection → Prop}

theorem of_eq {before after : Manager Model Connection} (same : after = before) :
    before.Follows Tracks after :=
  ⟨[], same, by simp⟩

theorem refl (manager : Manager Model Connection) : manager.Follows Tracks manager :=
  of_eq rfl

theorem trans {before middle after : Manager Model Connection}
    (first : before.Follows Tracks middle) (second : middle.Follows Tracks after) :
    before.Follows Tracks after := by
  obtain ⟨earlier, rfl, earlierTracks⟩ := first
  obtain ⟨later, rfl, laterTracks⟩ := second
  refine ⟨earlier ++ later, by simp [run_append, Change.andThen], fun connection tracked => ?_⟩
  rcases List.mem_append.mp tracked with inFirst | inSecond
  · exact earlierTracks connection inFirst
  · exact laterTracks connection inSecond

theorem mono {Later : Connection → Prop} {before after : Manager Model Connection}
    (follows : before.Follows Tracks after)
    (implies : ∀ connection, Tracks connection → Later connection) :
    before.Follows Later after := by
  obtain ⟨events, same, tracks⟩ := follows
  exact ⟨events, same, fun connection tracked => implies connection (tracks connection tracked)⟩

/-- What a manager tracks is among what it tracked at some time. -/
theorem tracks {manager : Manager Model Connection} (follows : create.Follows Tracks manager)
    {connection : Connection} (member : connection ∈ manager.connections) : Tracks connection := by
  obtain ⟨events, rfl, tracks⟩ := follows
  rcases mem_connections_run member with before | tracked
  · cases before
  · exact tracks connection tracked

end Manager.Follows

namespace Simulation

/-- How a table of objects grows: each object stays at its place and becomes one that it can
become, and those that are added are new. -/
structure Grows {Object : Type} (Becomes : Object → Object → Prop) (IsNew : Object → Prop)
    (before after : List Object) : Prop where
  kept : ∀ (number : Nat) object, before[number]? = some object →
    ∃ later, after[number]? = some later ∧ Becomes object later
  added : ∀ (number : Nat) later, before[number]? = none → after[number]? = some later → IsNew later

namespace Grows

variable {Object : Type} {Becomes : Object → Object → Prop} {IsNew : Object → Prop}
  {table : List Object}

theorem mapIdx {change : Nat → Object → Object}
    (becomes : ∀ number object, table[number]? = some object →
      Becomes object (change number object)) :
    Grows Becomes IsNew table (table.mapIdx change) where
  kept number object known := by
    refine ⟨change number object, ?_, becomes number object known⟩
    rw [List.getElem?_mapIdx, known]
    rfl
  added number later absent present := by
    rw [List.getElem?_mapIdx, absent] at present
    cases present

theorem map {change : Object → Object} (becomes : ∀ object, Becomes object (change object)) :
    Grows Becomes IsNew table (table.map change) where
  kept number object known := by
    refine ⟨change object, ?_, becomes object⟩
    rw [List.getElem?_map, known]
    rfl
  added number later absent present := by
    rw [List.getElem?_map, absent] at present
    cases present

theorem modify {number : Nat} {change : Object → Object} (refl : ∀ object, Becomes object object)
    (becomes : ∀ object, table[number]? = some object → Becomes object (change object)) :
    Grows Becomes IsNew table (table.modify number change) where
  kept place object known := by
    rw [List.getElem?_modify, known]
    by_cases here : number = place
    · subst here
      exact ⟨change object, by simp, becomes object known⟩
    · exact ⟨object, by simp [here], refl object⟩
  added place later absent present := by
    rw [List.getElem?_modify, absent] at present
    cases present

theorem snoc {object : Object} (refl : ∀ object, Becomes object object) (isNew : IsNew object) :
    Grows Becomes IsNew table (table ++ [object]) where
  kept number known present := by
    have bound := (List.getElem?_eq_some_iff.mp present).1
    exact ⟨known, by rw [List.getElem?_append_left bound, present], refl known⟩
  added number later absent present := by
    have bound := List.getElem?_eq_none_iff.mp absent
    rw [List.getElem?_append_right bound] at present
    have same := List.mem_singleton.mp (List.mem_of_getElem? present)
    exact same ▸ isNew

end Grows

/-- Two worlds with the same objects. -/
structure SameObjects (before after : World) : Prop where
  kernels : after.kernels = before.kernels
  sessions : after.sessions = before.sessions
  kernelManagers : after.kernelManagers = before.kernelManagers
  sessionManagers : after.sessionManagers = before.sessionManagers

theorem SameObjects.trans {before middle after : World} (first : SameObjects before middle)
    (second : SameObjects middle after) : SameObjects before after where
  kernels := second.kernels.trans first.kernels
  sessions := second.sessions.trans first.sessions
  kernelManagers := second.kernelManagers.trans first.kernelManagers
  sessionManagers := second.sessionManagers.trans first.sessionManagers

/-- Whether what a manager of kernels tracks is there. -/
def World.HasKernel (world : World) (handle : KernelHandle) : Prop :=
  ∃ object, world.kernel? handle.connection = some object ∧
    object.connection.model.id = handle.kernelId ∧
    object.connection.clientId = handle.clientId

/-- Whether what a manager of sessions tracks is there. -/
def World.HasSession (world : World) (handle : SessionHandle) : Prop :=
  ∃ object, world.session? handle.connection = some object ∧
    object.session.model.id = handle.sessionId

/-- One of the moves of which all that goes on in a world is composed. -/
inductive Move : World → World → Prop where
  | aside {before after : World} (same : SameObjects before after) : Move before after
  | kernels {world : World} {table : List KernelObject}
      (grows : Grows (fun before after => before.connection.Continues after.connection)
        (fun object => ∃ model client options, object.connection = .create model client options)
        world.kernels table) :
      Move world { world with kernels := table }
  | sessions {world : World} {table : List SessionObject}
      (grows : Grows (fun before after => before.session.Continues after.session)
        (fun object => ∃ model kernel, object.session = (Session.create model kernel).1)
        world.sessions table) :
      Move world { world with sessions := table }
  | kernelManagers {world : World} {table : List (ManagerObject KernelModel KernelHandle)}
      (grows : Grows (fun before after => before.manager.Follows world.HasKernel after.manager)
        (fun object => object.manager = .create) world.kernelManagers table) :
      Move world { world with kernelManagers := table }
  | sessionManagers {world : World} {table : List (ManagerObject SessionModel SessionHandle)}
      (grows : Grows (fun before after => before.manager.Follows world.HasSession after.manager)
        (fun object => object.manager = .create) world.sessionManagers table) :
      Move world { world with sessionManagers := table }

/-- What a world can become by moves one after the other. -/
def Evolves : World → World → Prop := Relation.ReflTransGen Move

namespace Evolves

theorem refl (world : World) : Evolves world world :=
  Relation.ReflTransGen.refl

theorem trans {before middle after : World} (first : Evolves before middle)
    (second : Evolves middle after) : Evolves before after :=
  Relation.ReflTransGen.trans first second

theorem move {before after : World} (move : Move before after) : Evolves before after :=
  Relation.ReflTransGen.single move

theorem aside {before after : World} (same : SameObjects before after) : Evolves before after :=
  move (.aside same)

theorem foldl {Item : Type} {step : World → Item → World}
    (evolves : ∀ world item, Evolves world (step world item)) (items : List Item) (world : World) :
    Evolves world (items.foldl step world) := by
  induction items generalizing world with
  | nil => exact .refl world
  | cons item rest ih => exact (evolves world item).trans (ih _)

end Evolves

/-- A manager that is let go of forgets what it tracks. -/
theorem ManagerObject.follows_close {Model Connection : Type} [DecidableEq Model]
    [Resource Model] [Handle Connection] {Tracks : Connection → Prop}
    (object : ManagerObject Model Connection) :
    object.manager.Follows Tracks object.close.manager := by
  have none : object.manager.connections.filter (fun _ => !true) = [] := by simp
  refine ⟨[.forgotten fun _ => true], ?_, by simp⟩
  change { object.manager with connections := [] } = { object.manager with
    connections := object.manager.connections.filter fun _ => !true }
  rw [none]

namespace World

variable {world : World}

theorem evolves_wake : Evolves world world.wake := by
  unfold wake
  split <;> exact .aside ⟨rfl, rfl, rfl, rfl⟩

theorem evolves_modifyKernel {kernel : Nat} {change : KernelObject → KernelObject}
    (continues : ∀ object, world.kernel? kernel = some object →
      object.connection.Continues (change object).connection) :
    Evolves world (world.modifyKernel kernel change) :=
  .move (.kernels (.modify (fun _ => .refl _) continues))

theorem evolves_carryKernel (kernel : Nat) (effect : Connection.Effect) :
    Evolves world (world.carryKernel kernel effect) := by
  have emits : Evolves world (world.modifyKernel kernel fun object => object.emit effect) :=
    evolves_modifyKernel fun object _ =>
      object.emit_connection effect ▸ .refl object.connection
  cases effect
  case status | connectionStatus | received | unclaimed | disposed => exact emits
  all_goals exact .aside ⟨rfl, rfl, rfl, rfl⟩

theorem evolves_applyKernel {kernel : Nat} {change : Connection.Change}
    (continues : ∀ object, world.kernel? kernel = some object →
      object.connection.Continues change.1) :
    Evolves world (world.applyKernel kernel change) := by
  have placed : Evolves world
      (world.modifyKernel kernel fun object => { object with connection := change.1 }) :=
    evolves_modifyKernel continues
  have carried (world : World) (effect : Connection.Effect) :
      Evolves world (world.carryKernel kernel effect).wake :=
    (evolves_carryKernel kernel effect).trans evolves_wake
  exact (placed.trans evolves_wake).trans (.foldl carried _ _)

theorem evolves_changeKernel {kernel : Nat} {step : Connection → Connection.Change}
    (continues : ∀ connection : Connection, connection.Continues (step connection).1) :
    Evolves world (world.changeKernel kernel step) := by
  unfold changeKernel
  split
  case h_1 object known =>
    refine evolves_applyKernel fun other present => ?_
    cases known.symm.trans present
    exact continues object.connection
  case h_2 => exact .refl world

theorem evolves_freshClient : Evolves world world.freshClient.2 :=
  .aside ⟨rfl, rfl, rfl, rfl⟩

theorem evolves_spawn (task : Task) : Evolves world (world.spawn task) :=
  .aside ⟨rfl, rfl, rfl, rfl⟩

theorem evolves_connectKernel (model : KernelModel) (options : ConnectionOptions) :
    Evolves world (world.connectKernel model options) := by
  have added (world : World) (client : String) : Evolves world { world with
      kernels := world.kernels ++ [.create (.create model client options)] } :=
    .move (.kernels (.snoc (fun _ => .refl _) ⟨model, client, options, rfl⟩))
  cases chosen : options.clientId with
  | some client =>
      simp only [connectKernel, chosen]
      exact (added world client).trans (evolves_spawn _)
  | none =>
      simp only [connectKernel, chosen]
      exact evolves_freshClient.trans ((added _ _).trans (evolves_spawn _))

theorem evolves_modifySession {session : Nat} {change : SessionObject → SessionObject}
    (continues : ∀ object, world.session? session = some object →
      object.session.Continues (change object).session) :
    Evolves world (world.modifySession session change) :=
  .move (.sessions (.modify (fun _ => .refl _) continues))

theorem evolves_carrySession (session : Nat) (options : ConnectionOptions)
    (effect : Session.Effect) : Evolves world (world.carrySession session options effect) := by
  have emits : Evolves world (world.modifySession session fun object => object.emit effect) :=
    evolves_modifySession fun object _ =>
      object.emit_session effect ▸ .refl object.session
  cases effect
  case connectKernel kernel model => exact evolves_connectKernel model options
  case disposeKernel kernel =>
    exact evolves_changeKernel fun connection => Connection.continues_dispose
  all_goals exact emits

theorem evolves_applySession {session : Nat} {options : ConnectionOptions}
    {change : Session.Change}
    (continues : ∀ object, world.session? session = some object →
      object.session.Continues change.1) :
    Evolves world (world.applySession session options change) := by
  have placed : Evolves world
      (world.modifySession session fun object => { object with session := change.1 }) :=
    evolves_modifySession continues
  have carried (world : World) (effect : Session.Effect) :
      Evolves world (world.carrySession session options effect).wake :=
    (evolves_carrySession session options effect).trans evolves_wake
  exact (placed.trans evolves_wake).trans (.foldl carried _ _)

theorem evolves_changeSession {session : Nat} {step : Session → Session.Change}
    (continues : ∀ session : Session, session.Continues (step session).1) :
    Evolves world (world.changeSession session step) := by
  unfold changeSession
  split
  case h_1 object known =>
    refine evolves_applySession fun other present => ?_
    cases known.symm.trans present
    exact continues object.session
  case h_2 => exact .refl world

theorem evolves_updateSession (session : Nat) (model : SessionModel) :
    Evolves world (world.updateSession session model) :=
  evolves_changeSession (Session.continues_update model _)

theorem evolves_connectSession (model : SessionModel) (options : ConnectionOptions) :
    Evolves world (world.connectSession model options) := by
  have added : Evolves world { world with
      sessions := world.sessions ++
        [.create (Session.create model world.kernels.length).1 options] } :=
    .move (.sessions (.snoc (fun _ => .refl _) ⟨model, _, rfl⟩))
  refine added.trans (evolves_applySession fun object present => ?_)
  have last : some (SessionObject.create (Session.create model world.kernels.length).1 options) =
      some object := by
    rw [← present]
    exact List.getElem?_concat_length.symm
  cases last
  exact .refl _

theorem evolves_modifyKernelManager {manager : Nat}
    {change : ManagerObject KernelModel KernelHandle → ManagerObject KernelModel KernelHandle}
    (follows : ∀ object, world.kernelManager? manager = some object →
      object.manager.Follows world.HasKernel (change object).manager) :
    Evolves world (world.modifyKernelManager manager change) :=
  .move (.kernelManagers (.modify (fun object => .refl object.manager) follows))

theorem evolves_modifySessionManager {manager : Nat}
    {change : ManagerObject SessionModel SessionHandle → ManagerObject SessionModel SessionHandle}
    (follows : ∀ object, world.sessionManager? manager = some object →
      object.manager.Follows world.HasSession (change object).manager) :
    Evolves world (world.modifySessionManager manager change) :=
  .move (.sessionManagers (.modify (fun object => .refl object.manager) follows))

theorem evolves_logLines (lines : List LogLine) : Evolves world (world.logLines lines) :=
  .aside ⟨rfl, rfl, rfl, rfl⟩

theorem evolves_carryKernelManager (manager : Nat)
    (effect : Manager.Effect KernelModel KernelHandle) :
    Evolves world (world.carryKernelManager manager effect) := by
  have emits : Evolves world
      (world.modifyKernelManager manager fun object => object.emit effect) :=
    evolves_modifyKernelManager fun object _ =>
      .of_eq (object.emit_manager effect)
  cases effect
  case disposeConnection handle =>
    exact evolves_changeKernel fun connection => Connection.continues_dispose
  case updateConnection handle model => exact .refl world
  case log line => exact evolves_logLines [line]
  all_goals exact emits

theorem evolves_carrySessionManager (manager : Nat)
    (effect : Manager.Effect SessionModel SessionHandle) :
    Evolves world (world.carrySessionManager manager effect) := by
  have emits : Evolves world
      (world.modifySessionManager manager fun object => object.emit effect) :=
    evolves_modifySessionManager fun object _ =>
      .of_eq (object.emit_manager effect)
  cases effect
  case disposeConnection handle => exact evolves_changeSession Session.continues_dispose
  case updateConnection handle model => exact evolves_updateSession handle.connection model
  case log line => exact evolves_logLines [line]
  all_goals exact emits

theorem evolves_changeKernelManager {manager : Nat}
    {step : KernelManager → Manager.Change KernelModel KernelHandle}
    (follows : ∀ object, world.kernelManager? manager = some object →
      object.manager.Follows world.HasKernel (step object.manager).1) :
    Evolves world (world.changeKernelManager manager step) := by
  unfold changeKernelManager
  split
  case h_1 object known =>
    have placed : Evolves world (world.modifyKernelManager manager fun managing =>
        { managing with manager := (step object.manager).1 }) := by
      refine evolves_modifyKernelManager fun other present => ?_
      cases known.symm.trans present
      exact follows object known
    have carried (world : World) (effect : Manager.Effect KernelModel KernelHandle) :
        Evolves world (world.carryKernelManager manager effect).wake :=
      (evolves_carryKernelManager manager effect).trans evolves_wake
    exact (placed.trans evolves_wake).trans (.foldl carried _ _)
  case h_2 => exact .refl world

theorem evolves_changeSessionManager {manager : Nat}
    {step : SessionManager → Manager.Change SessionModel SessionHandle}
    (follows : ∀ object, world.sessionManager? manager = some object →
      object.manager.Follows world.HasSession (step object.manager).1) :
    Evolves world (world.changeSessionManager manager step) := by
  unfold changeSessionManager
  split
  case h_1 object known =>
    have placed : Evolves world (world.modifySessionManager manager fun managing =>
        { managing with manager := (step object.manager).1 }) := by
      refine evolves_modifySessionManager fun other present => ?_
      cases known.symm.trans present
      exact follows object known
    have carried (world : World) (effect : Manager.Effect SessionModel SessionHandle) :
        Evolves world (world.carrySessionManager manager effect).wake :=
      (evolves_carrySessionManager manager effect).trans evolves_wake
    exact (placed.trans evolves_wake).trans (.foldl carried _ _)
  case h_2 => exact .refl world

/-- A manager tracks a connection whose signals were changed. -/
theorem evolves_trackKernel {manager kernel : Nat} {object : KernelObject}
    {change : KernelObject → KernelObject} (known : world.kernel? kernel = some object)
    (same : ∀ other, (change other).connection = other.connection) :
    Evolves world ((world.modifyKernel kernel change).changeKernelManager manager
      (KernelManager.register
        ⟨kernel, object.connection.model.id, object.connection.clientId⟩
        object.connection.model)) := by
  have present : (world.modifyKernel kernel change).HasKernel
      ⟨kernel, object.connection.model.id, object.connection.clientId⟩ := by
    have found : world.kernels[kernel]? = some object := known
    exact ⟨change object, by simp [kernel?, modifyKernel, found], by rw [same], by rw [same]⟩
  have changed : Evolves world (world.modifyKernel kernel change) :=
    evolves_modifyKernel fun other _ => same other ▸ .refl other.connection
  refine changed.trans (evolves_changeKernelManager fun managing _ => ?_)
  rw [KernelManager.register_eq_run]
  refine ⟨_, rfl, fun handle tracked => ?_⟩
  obtain rfl : handle = _ := by simpa using tracked
  exact present

theorem evolves_registerKernel (manager kernel : Nat) :
    Evolves world (world.registerKernel manager kernel) := by
  unfold registerKernel
  split
  case h_1 managing object _ known =>
    dsimp only
    split
    · exact evolves_trackKernel known fun _ => rfl
    · refine Evolves.trans ?_ (evolves_spawn _)
      exact evolves_trackKernel known fun _ => rfl
  case h_2 => exact .refl world

/-- A manager tracks a session whose signals were changed. -/
theorem evolves_trackSession {manager session : Nat} {object : SessionObject}
    {change : SessionObject → SessionObject} (known : world.session? session = some object)
    (same : ∀ other, (change other).session = other.session) :
    Evolves world ((world.modifySession session change).changeSessionManager manager
      (SessionManager.register ⟨session, object.session.model.id⟩ object.session.model)) := by
  have present : (world.modifySession session change).HasSession
      ⟨session, object.session.model.id⟩ := by
    have found : world.sessions[session]? = some object := known
    exact ⟨change object, by simp [session?, modifySession, found], by rw [same]⟩
  have changed : Evolves world (world.modifySession session change) :=
    evolves_modifySession fun other _ => same other ▸ .refl other.session
  refine changed.trans (evolves_changeSessionManager fun managing _ => ?_)
  rw [SessionManager.register_eq_run]
  refine ⟨_, rfl, fun handle tracked => ?_⟩
  obtain rfl : handle = _ := by simpa using tracked
  exact present

theorem evolves_registerSession (manager session : Nat) :
    Evolves world (world.registerSession manager session) := by
  unfold registerSession
  split
  case h_1 managing object _ known =>
    dsimp only
    split
    · exact evolves_trackSession known fun _ => rfl
    · refine Evolves.trans ?_ (evolves_spawn _)
      exact evolves_trackSession known fun _ => rfl
  case h_2 => exact .refl world

theorem evolves_releaseManagers (holds : Holds) :
    Evolves world (world.releaseManagers holds) := by
  refine Evolves.trans (.move (.kernelManagers (.mapIdx fun number object _ => ?_)))
    (.move (.sessionManagers (.mapIdx fun number object _ => ?_)))
  · split
    · exact object.follows_close
    · exact .refl object.manager
  · split
    · exact object.follows_close
    · exact .refl object.manager

theorem evolves_releaseSessions (held : List Nat) :
    Evolves world (world.releaseSessions held) := by
  refine .move (.sessions (.mapIdx fun number object _ => ?_))
  split
  · exact ⟨rfl, id⟩
  · exact .refl object.session

end World

/-- Worlds to which moves lead from one in which nothing has happened. -/
def World.Reachable (world : World) : Prop :=
  ∃ settings protocol, Evolves (.create settings protocol) world

section Tracking

variable {before after world : World}

/-- A connection stays at its place and goes on. -/
theorem Move.kernel {number : Nat} {object : KernelObject} (move : Move before after)
    (known : before.kernel? number = some object) :
    ∃ later, after.kernel? number = some later ∧
      object.connection.Continues later.connection := by
  cases move with
  | aside same =>
      exact ⟨object, (congrArg (·[number]?) same.kernels).trans known, .refl object.connection⟩
  | kernels grows => exact grows.kept number object known
  | sessions | kernelManagers | sessionManagers => exact ⟨object, known, .refl object.connection⟩

theorem Evolves.kernel {number : Nat} {object : KernelObject} (evolves : Evolves before after)
    (known : before.kernel? number = some object) :
    ∃ later, after.kernel? number = some later ∧
      object.connection.Continues later.connection := by
  induction evolves with
  | refl => exact ⟨object, known, .refl object.connection⟩
  | tail _ move ih =>
      obtain ⟨middle, there, earlier⟩ := ih
      obtain ⟨later, present, continues⟩ := move.kernel there
      exact ⟨later, present, earlier.trans continues⟩

theorem Move.hasKernel {handle : KernelHandle} (move : Move before after)
    (there : before.HasKernel handle) : after.HasKernel handle := by
  obtain ⟨object, known, id, clientId⟩ := there
  obtain ⟨later, present, continues⟩ := move.kernel known
  exact ⟨later, present, by rw [continues.model, id], by rw [continues.clientId, clientId]⟩

theorem Move.hasSession {handle : SessionHandle} (move : Move before after)
    (there : before.HasSession handle) : after.HasSession handle := by
  obtain ⟨object, known, id⟩ := there
  cases move with
  | aside same =>
      have present := (congrArg (·[handle.connection]?) same.sessions).trans known
      exact ⟨object, present, id⟩
  | sessions grows =>
      obtain ⟨later, present, continues⟩ := grows.kept _ object known
      exact ⟨later, present, by rw [continues.sameId, id]⟩
  | kernels | kernelManagers | sessionManagers => exact ⟨object, known, id⟩

theorem Evolves.hasSession {handle : SessionHandle} (evolves : Evolves before after)
    (there : before.HasSession handle) : after.HasSession handle := by
  induction evolves with
  | refl => exact there
  | tail _ move ih => exact move.hasSession ih

/-- Every manager in a table is at the end of a run in which it tracked only some connections. -/
def AllRun {Model Connection : Type} [DecidableEq Model] [Resource Model] [Handle Connection]
    (Tracks : Connection → Prop) (table : List (ManagerObject Model Connection)) : Prop :=
  ∀ object ∈ table, Manager.create.Follows Tracks object.manager

section Tables

variable {Model Connection : Type} [DecidableEq Model] [Resource Model] [Handle Connection]
  {Tracks : Connection → Prop} {table : List (ManagerObject Model Connection)}

theorem AllRun.mono {Later : Connection → Prop} (all : AllRun Tracks table)
    (implies : ∀ connection, Tracks connection → Later connection) : AllRun Later table :=
  fun object member => (all object member).mono implies

theorem AllRun.grows {later : List (ManagerObject Model Connection)} (all : AllRun Tracks table)
    (grows : Grows (fun before after => before.manager.Follows Tracks after.manager)
      (fun object => object.manager = .create) table later) :
    AllRun Tracks later := by
  intro object member
  obtain ⟨number, present⟩ := List.mem_iff_getElem?.mp member
  cases known : table[number]? with
  | none => exact .of_eq (grows.added number object known present)
  | some earlier =>
      obtain ⟨later, same, follows⟩ := grows.kept number earlier known
      cases present.symm.trans same
      exact (all earlier (List.mem_of_getElem? known)).trans follows

end Tables

/-- All managers are at the end of runs, and what they tracked is there. -/
structure World.Managed (world : World) : Prop where
  kernels : AllRun world.HasKernel world.kernelManagers
  sessions : AllRun world.HasSession world.sessionManagers

theorem Move.managed (move : Move before after) (managed : before.Managed) : after.Managed := by
  have kernels := managed.kernels.mono fun _ there => move.hasKernel there
  have sessions := managed.sessions.mono fun _ there => move.hasSession there
  cases move with
  | aside same =>
      exact ⟨same.kernelManagers ▸ kernels, same.sessionManagers ▸ sessions⟩
  | kernels | sessions => exact ⟨kernels, sessions⟩
  | kernelManagers grows => exact ⟨managed.kernels.grows grows, sessions⟩
  | sessionManagers grows => exact ⟨kernels, managed.sessions.grows grows⟩

theorem World.Reachable.managed (reachable : world.Reachable) : world.Managed := by
  obtain ⟨settings, protocol, evolves⟩ := reachable
  induction evolves with
  | refl => exact ⟨by simp [AllRun, World.create], by simp [AllRun, World.create]⟩
  | tail _ move ih => exact move.managed ih

end Tracking

end Simulation

end KernelClient
