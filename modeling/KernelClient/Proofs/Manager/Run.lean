import KernelClient.Manager.Kernels
import KernelClient.Manager.Sessions
import Mathlib.Data.List.Induction

/-!
# Runs of a manager

What happens to a manager comes one event after the other: lists and kernelspecs arrive or cannot
be loaded, connections are handed out and let go of, resources end or are shut down, and the manager
is disposed. Each event is taken without interruption and can come at any time, so any list of
events is a run.
-/

namespace KernelClient

namespace Manager

variable {Model Connection : Type}

/-- A change followed by another one. -/
def Change.andThen (change : Change Model Connection)
    (next : Manager Model Connection → Change Model Connection) : Change Model Connection :=
  let (manager, effects) := next change.1
  (manager, change.2 ++ effects)

/-- What can happen to a manager. -/
inductive Event (Model Connection : Type) where
  | listed (models : List Model)
  | specsArrived (specs : KernelSpecs)
  | loadFailed (what : String) (error : ServiceError)
  | refreshFailed (what : String) (error : ServiceError)
  | tracked (connection : Connection)
  | added (model : Model)
  | put (model : Model)
  | terminated (id : String)
  | forgotten (isForgotten : Connection → Bool)
  | shutdownBegun (id : String)
  | shutdownEnded (id : String)
  | shutdownAllBegun
  | shutdownAllEnded (ids : List String)
  | disposed
deriving Inhabited

variable [DecidableEq Model] [Resource Model] [Handle Connection]

/-- What an event does to a manager. A shutdown that is refused, or of what is not in the list,
changes nothing. -/
def Event.change (event : Event Model Connection) (manager : Manager Model Connection) :
    Change Model Connection :=
  match event with
  | .listed models => manager.applyRunning models
  | .specsArrived specs => manager.applySpecs specs
  | .loadFailed what error => manager.reportInitialFailure what error
  | .refreshFailed what error => manager.reportFailure what error
  | .tracked connection => manager.track connection
  | .added model => manager.add model
  | .put model => Manager.put model manager
  | .terminated id => Manager.terminated id manager
  | .forgotten isForgotten => (manager.forget isForgotten, [])
  | .shutdownBegun id =>
    match manager.beginShutdown id with
    | .ok (some change) => change
    | _ => (manager, [])
  | .shutdownEnded id => manager.endShutdown id
  | .shutdownAllBegun =>
    match manager.beginShutdownAll with
    | .ok (_, change) => change
    | .error _ => (manager, [])
  | .shutdownAllEnded ids => manager.endShutdownAll ids
  | .disposed => manager.dispose

/-- What events do to a manager one after the other. -/
def run (events : List (Event Model Connection)) (manager : Manager Model Connection) :
    Change Model Connection :=
  events.foldl (fun change event => change.andThen event.change) (manager, [])

@[simp]
theorem run_nil (manager : Manager Model Connection) : manager.run [] = (manager, []) :=
  rfl

@[simp]
theorem run_snoc (events : List (Event Model Connection)) (event : Event Model Connection)
    (manager : Manager Model Connection) :
    manager.run (events ++ [event]) = (manager.run events).andThen event.change := by
  simp [run]

/-- A run goes on from where its first part led. -/
theorem run_append (first second : List (Event Model Connection))
    (manager : Manager Model Connection) :
    manager.run (first ++ second) = (manager.run first).andThen (run second) := by
  induction second using List.reverseRecOn with
  | nil => simp [Change.andThen]
  | append_singleton second event ih =>
      rw [← List.append_assoc, run_snoc, ih]
      simp [Change.andThen]

section Readiness

omit [DecidableEq Model] [Resource Model] [Handle Connection]

theorem updateReadiness_running (manager : Manager Model Connection) :
    manager.updateReadiness.running = manager.running := by
  unfold updateReadiness
  split <;> rfl

theorem updateReadiness_specs (manager : Manager Model Connection) :
    manager.updateReadiness.specs = manager.specs := by
  unfold updateReadiness
  split <;> rfl

theorem updateReadiness_connections (manager : Manager Model Connection) :
    manager.updateReadiness.connections = manager.connections := by
  unfold updateReadiness
  split <;> rfl

end Readiness

section Lists

omit [DecidableEq Model]

/-- The first entry of a list for the resource of a connection. -/
def listed? (models : List Model) (connection : Connection) : Option Model :=
  models.find? fun model => Resource.id model = Handle.resource connection

theorem id_of_listed? {models : List Model} {connection : Connection} {model : Model}
    (found : listed? models connection = some model) :
    Resource.id model = Handle.resource connection := by
  simpa using List.find?_some found

/-- The connections whose resource is in a list. -/
def live (models : List Model) (manager : Manager Model Connection) : List Connection :=
  manager.connections.filter fun connection => (listed? models connection).isSome

/-- The connections whose resource is not in a list. -/
def stale (models : List Model) (manager : Manager Model Connection) : List Connection :=
  manager.connections.filter fun connection => (listed? models connection).isNone

/-- What connections hear of a list. -/
def updates (models : List Model) (connections : List Connection) :
    List (Effect Model Connection) :=
  connections.filterMap fun connection =>
    (listed? models connection).map fun model => .updateConnection connection model

end Lists

theorem applyRunning_of_isDisposed {manager : Manager Model Connection}
    (disposed : manager.isDisposed = true) (models : List Model) :
    manager.applyRunning models = (manager, []) :=
  if_pos disposed

theorem applyRunning_of_not_isDisposed {manager : Manager Model Connection}
    (alive : ¬manager.isDisposed = true) (models : List Model) :
    manager.applyRunning models =
      (updateReadiness { manager with
        running := models, connections := manager.live models, isRunningLoaded := true },
        (manager.stale models).map .disposeConnection ++
          (if manager.running = models then [] else [.running models]) ++
          updates models (manager.live models)) :=
  if_neg alive

theorem applyRunning_running {manager : Manager Model Connection}
    (alive : manager.isDisposed = false) (models : List Model) :
    (manager.applyRunning models).1.running = models := by
  rw [applyRunning_of_not_isDisposed (Bool.eq_false_iff.mp alive), updateReadiness_running]

theorem applyRunning_connections {manager : Manager Model Connection}
    (alive : manager.isDisposed = false) (models : List Model) :
    (manager.applyRunning models).1.connections = manager.live models := by
  rw [applyRunning_of_not_isDisposed (Bool.eq_false_iff.mp alive), updateReadiness_connections]

/-- A connection that is kept hears of its entry in the list. -/
theorem mem_applyRunning {manager : Manager Model Connection} {connection : Connection}
    {model : Model} (alive : manager.isDisposed = false) {models : List Model}
    (kept : connection ∈ manager.live models) (found : listed? models connection = some model) :
    .updateConnection connection model ∈ (manager.applyRunning models).2 := by
  rw [applyRunning_of_not_isDisposed (Bool.eq_false_iff.mp alive)]
  exact List.mem_append_right _
    (List.mem_filterMap.mpr ⟨connection, kept, by rw [found, Option.map_some]⟩)

/-- Whether an effect on a connection is one that a list has. -/
def Effect.Follows (models : List Model) (connections : List Connection) :
    Effect Model Connection → Prop
  | .disposeConnection connection => connection ∈ connections ∧ listed? models connection = none
  | .updateConnection connection model =>
      connection ∈ connections ∧ listed? models connection = some model
  | _ => True

theorem applyRunning_follows (models : List Model) (manager : Manager Model Connection) :
    ∀ effect ∈ (manager.applyRunning models).2, effect.Follows models manager.connections := by
  by_cases disposed : manager.isDisposed
  · simp [applyRunning_of_isDisposed disposed]
  · rw [applyRunning_of_not_isDisposed disposed]
    intro effect member
    rcases List.mem_append.mp member with earlier | update
    · rcases List.mem_append.mp earlier with disposal | emitted
      · obtain ⟨connection, stale, rfl⟩ := List.mem_map.mp disposal
        obtain ⟨tracked, gone⟩ := List.mem_filter.mp stale
        exact ⟨tracked, Option.isNone_iff_eq_none.mp gone⟩
      · split at emitted
        · cases emitted
        · cases List.mem_singleton.mp emitted
          trivial
    · obtain ⟨connection, live, told⟩ := List.mem_filterMap.mp update
      obtain ⟨model, listed, rfl⟩ := Option.map_eq_some_iff.mp told
      exact ⟨(List.mem_filter.mp live).1, listed⟩

omit [DecidableEq Model] [Resource Model] [Handle Connection] in
theorem applySpecs_of_not_isDisposed {manager : Manager Model Connection}
    (alive : ¬manager.isDisposed = true) (specs : KernelSpecs) :
    manager.applySpecs specs =
      let loaded := updateReadiness { manager with areSpecsLoaded := true }
      if manager.specs.any (fun known => known.agrees specs) then (loaded, [])
      else ({ loaded with specs := some specs }, [.specs specs]) := by
  rw [applySpecs, if_neg alive]
  cases manager.specs <;> rfl

/-- Whether an event may change what is tracked. -/
def Event.concernsTracking : Event Model Connection → Bool
  | .listed _ | .tracked _ | .forgotten _ | .shutdownEnded _ | .shutdownAllEnded _ | .disposed =>
      true
  | _ => false

theorem Event.connections_change {event : Event Model Connection}
    (concerns : event.concernsTracking = false) (manager : Manager Model Connection) :
    (event.change manager).1.connections = manager.connections := by
  cases event with
  | specsArrived specs =>
      by_cases disposed : manager.isDisposed
      · rw [Event.change, applySpecs, if_pos disposed]
      · rw [Event.change, applySpecs_of_not_isDisposed disposed]
        simp only [apply_ite Prod.fst, apply_ite Manager.connections,
          updateReadiness_connections, ite_self]
  | loadFailed what error =>
      simp only [Event.change, reportInitialFailure, reportFailure]
      split <;> split <;> rfl
  | refreshFailed what error =>
      simp only [Event.change, reportFailure]
      split <;> rfl
  | added model =>
      simp only [Event.change, add]
      split <;> rfl
  | put model =>
      simp only [Event.change, Manager.put]
      split <;> rfl
  | terminated id =>
      simp only [Event.change, Manager.terminated]
      split <;> rfl
  | shutdownBegun id =>
      simp only [Event.change, beginShutdown]
      split
      case h_1 change begun =>
        split at begun
        · cases begun
        · split at begun <;> cases begun
          rfl
      case h_2 => rfl
  | shutdownAllBegun =>
      simp only [Event.change, beginShutdownAll]
      split
      case h_1 change begun =>
        split at begun
        · cases begun
        · split at begun <;> cases begun <;> rfl
      case h_2 => rfl
  | _ => cases concerns

/-- An event adds a connection only by tracking it. -/
theorem Event.mem_connections_change {event : Event Model Connection}
    {manager : Manager Model Connection} {connection : Connection}
    (member : connection ∈ (event.change manager).1.connections) :
    connection ∈ manager.connections ∨ event = .tracked connection := by
  cases event with
  | listed models =>
      by_cases disposed : manager.isDisposed
      · rw [Event.change, applyRunning_of_isDisposed disposed] at member
        exact .inl member
      · rw [Event.change, applyRunning_of_not_isDisposed disposed,
          updateReadiness_connections] at member
        exact .inl (List.mem_filter.mp member).1
  | tracked tracked =>
      simp only [Event.change, track] at member
      split at member
      · exact .inl member
      · rcases List.mem_append.mp member with before | last
        · exact .inl before
        · exact .inr (congrArg Event.tracked (List.mem_singleton.mp last).symm)
  | forgotten | shutdownEnded | shutdownAllEnded => exact .inl (List.mem_filter.mp member).1
  | disposed =>
      simp only [Event.change, dispose] at member
      split at member
      · exact .inl member
      · cases member
  | _ =>
      rw [connections_change rfl] at member
      exact .inl member

/-- Whether an event lets go of connections without disposing them. -/
def Event.forgets : Event Model Connection → Bool
  | .forgotten _ => true
  | _ => false

omit [DecidableEq Model] [Resource Model] [Handle Connection] in
/-- What is released is disposed. -/
theorem release_keeps_or_disposes {manager : Manager Model Connection} {connection : Connection}
    (tracked : connection ∈ manager.connections) (isReleased : Connection → Bool) :
    connection ∈ (manager.release isReleased).1.connections ∨
      .disposeConnection connection ∈ (manager.release isReleased).2 := by
  cases released : isReleased connection with
  | false => exact .inl (List.mem_filter.mpr ⟨tracked, by simp [released]⟩)
  | true => exact .inr (List.mem_map_of_mem (List.mem_filter.mpr ⟨tracked, released⟩))

/-- An event that lets go of a connection disposes it, unless it is to forget it. -/
theorem Event.keeps_or_disposes {event : Event Model Connection} (keeps : event.forgets = false)
    {manager : Manager Model Connection} {connection : Connection}
    (tracked : connection ∈ manager.connections) :
    connection ∈ (event.change manager).1.connections ∨
      .disposeConnection connection ∈ (event.change manager).2 := by
  cases event with
  | listed models =>
      by_cases disposed : manager.isDisposed
      · rw [Event.change, applyRunning_of_isDisposed disposed]
        exact .inl tracked
      · rw [Event.change, applyRunning_of_not_isDisposed disposed, updateReadiness_connections]
        cases listed : listed? models connection with
        | some model => exact .inl (List.mem_filter.mpr ⟨tracked, by rw [listed]; rfl⟩)
        | none =>
            have stale : connection ∈ manager.stale models :=
              List.mem_filter.mpr ⟨tracked, by rw [listed]; rfl⟩
            refine .inr (List.mem_append_left _ (List.mem_append_left _ ?_))
            exact List.mem_map_of_mem stale
  | tracked other =>
      simp only [Event.change, track]
      split
      · exact .inl tracked
      · exact .inl (List.mem_append_left _ tracked)
  | forgotten => cases keeps
  | shutdownEnded | shutdownAllEnded => exact release_keeps_or_disposes tracked _
  | disposed =>
      simp only [Event.change, dispose]
      split
      · exact .inl tracked
      · exact .inr (List.mem_append_left _ (List.mem_map_of_mem tracked))
  | _ =>
      rw [connections_change rfl]
      exact .inl tracked

/-- A run adds a connection only by tracking it. -/
theorem mem_connections_run {events : List (Event Model Connection)}
    {manager : Manager Model Connection} {connection : Connection}
    (member : connection ∈ (manager.run events).1.connections) :
    connection ∈ manager.connections ∨ .tracked connection ∈ events := by
  induction events using List.reverseRecOn with
  | nil => exact .inl member
  | append_singleton events event ih =>
      rw [run_snoc] at member
      rcases event.mem_connections_change member with earlier | rfl
      · exact (ih earlier).imp_right (List.mem_append_left _)
      · exact .inr (List.mem_append_right _ (List.mem_singleton_self _))

end Manager

/-- A connection to a kernel is tracked first, and then its kernel is added to the list. -/
theorem KernelManager.register_eq_run (handle : KernelHandle) (model : KernelModel)
    (manager : KernelManager) :
    manager.register handle model = manager.run [.tracked handle, .added model] := by
  simp [KernelManager.register, Manager.run, Manager.Change.andThen, Manager.Event.change]

/-- A connection to a session is tracked first, and then its model is put into the list. -/
theorem SessionManager.register_eq_run (handle : SessionHandle) (model : SessionModel)
    (manager : SessionManager) :
    manager.register handle model = manager.run [.tracked handle, .put model] := by
  simp [SessionManager.register, Manager.run, Manager.Change.andThen, Manager.Event.change]

end KernelClient
