import KernelClient.Proofs.Manager.Copies

/-!
# Disposed managers

A manager is disposed by one event at most, which is told once. From then on it tracks nothing, both
of its copies stay as they are, and of all that can still happen to it only failures leave a trace:
each one that is not itself a consequence of the disposal is told, and the first one of a first load
settles the readiness.
-/

namespace KernelClient.Manager

variable {Model Connection : Type}

/-- The failures that effects tell. -/
def failuresIn (effects : List (Effect Model Connection)) : List ServiceError :=
  effects.filterMap fun effect =>
    match effect with
    | .failure error => some error
    | _ => none

/-- The disposals that effects tell. -/
def disposalsIn (effects : List (Effect Model Connection)) : List Unit :=
  effects.filterMap fun effect =>
    match effect with
    | .disposed => some ()
    | _ => none

@[simp]
theorem failuresIn_append (first second : List (Effect Model Connection)) :
    failuresIn (first ++ second) = failuresIn first ++ failuresIn second :=
  List.filterMap_append

@[simp]
theorem disposalsIn_append (first second : List (Effect Model Connection)) :
    disposalsIn (first ++ second) = disposalsIn first ++ disposalsIn second :=
  List.filterMap_append

theorem disposalsIn_eq_nil {effects : List (Effect Model Connection)}
    (silent : .disposed ∉ effects) : disposalsIn effects = [] := by
  refine List.filterMap_eq_nil_iff.mpr fun effect member => ?_
  cases effect
  case disposed => exact absurd member silent
  all_goals rfl

/-- The error of a failed load or refresh. To have been disposed is not reported as a failure. -/
def Event.failure? : Event Model Connection → Option ServiceError
  | .loadFailed _ error | .refreshFailed _ error => if error.isDisposed then none else some error
  | _ => none

/-- The error of a first load that failed. -/
def Event.loadFailure? : Event Model Connection → Option ServiceError
  | .loadFailed _ error => if error.isDisposed then none else some error
  | _ => none

variable [DecidableEq Model] [Resource Model] [Handle Connection]

/-- What becomes visible of an event once the manager is disposed. -/
def Event.remains : Event Model Connection → List (Effect Model Connection)
  | .loadFailed what error | .refreshFailed what error =>
      (reportFailure what error (create : Manager Model Connection)).2
  | .tracked connection => [.disposeConnection connection]
  | _ => []

omit [DecidableEq Model] [Handle Connection] in
theorem reportFailure_eq (what : String) (error : ServiceError)
    (manager : Manager Model Connection) :
    manager.reportFailure what error =
      (manager, (reportFailure what error (create : Manager Model Connection)).2) := by
  unfold reportFailure
  split <;> rfl

omit [DecidableEq Model] [Handle Connection] in
/-- A first load that failed settles the readiness unless it was settled before. -/
theorem reportInitialFailure_eq (what : String) (error : ServiceError)
    (manager : Manager Model Connection) :
    manager.reportInitialFailure what error =
      ({ manager with readiness :=
          manager.readiness.or (if error.isDisposed then none else some (.error error)) },
        (manager.reportFailure what error).2) := by
  have kept {readiness : Option (Except ServiceError Unit)}
      (same : manager.readiness = readiness) :
      manager.reportFailure what error =
        ({ manager with readiness := readiness }, (manager.reportFailure what error).2) := by
    rw [← same, reportFailure_eq]
  unfold reportInitialFailure
  cases settled : manager.readiness with
  | some outcome => simpa using kept settled
  | none =>
      cases isDisposal : error.isDisposed with
      | true => simpa [isDisposal] using kept settled
      | false =>
          simp only [Bool.false_eq_true, Option.isSome_none, or_self, if_false, Option.none_or]
          rw [reportFailure_eq, reportFailure_eq what error manager]

/-- Whatever happens to a disposed manager, both copies stay, nothing is tracked, and only failures
and connections that come too late are heard of. -/
theorem Event.change_of_isDisposed {manager : Manager Model Connection}
    (disposed : manager.isDisposed = true) (empty : manager.connections = [])
    (event : Event Model Connection) :
    event.change manager =
      ({ manager with readiness := manager.readiness.or (event.loadFailure?.map .error) },
        event.remains) := by
  obtain ⟨running, connections, specs, isRunningLoaded, areSpecsLoaded, readiness, isDisposed⟩ :=
    manager
  obtain rfl : isDisposed = true := disposed
  obtain rfl : connections = [] := empty
  cases event
  case loadFailed what error =>
    dsimp only [Event.change, Event.remains]
    rw [reportInitialFailure_eq, reportFailure_eq]
    cases isDisposal : error.isDisposed <;> simp [Event.loadFailure?, isDisposal]
  case refreshFailed what error =>
    dsimp only [Event.change, Event.remains, Event.loadFailure?]
    rw [reportFailure_eq, Option.map_none, Option.or_none]
  all_goals
    simp [Event.change, Event.loadFailure?, Event.remains, applyRunning, applySpecs, add,
      Manager.put, Manager.terminated, track, forget, release, beginShutdown, endShutdown,
      beginShutdownAll, endShutdownAll, dispose]

/-- Whether an event is the disposal of the manager. -/
def Event.isDisposal : Event Model Connection → Bool
  | .disposed => true
  | _ => false

/-- How an event bears on the disposal of a manager. -/
structure Event.Disposes (event : Event Model Connection) (manager : Manager Model Connection) :
    Prop where
  isDisposed : (event.change manager).1.isDisposed = (manager.isDisposed || event.isDisposal)
  told : disposalsIn (event.change manager).2 =
    if event.isDisposal && !manager.isDisposed then [()] else []

/-- A change in which a manager is not disposed. -/
def Spares (manager : Manager Model Connection) (change : Change Model Connection) : Prop :=
  change.1.isDisposed = manager.isDisposed ∧ .disposed ∉ change.2

omit [Resource Model] [Handle Connection] [DecidableEq Model] in
theorem updateReadiness_isDisposed (manager : Manager Model Connection) :
    manager.updateReadiness.isDisposed = manager.isDisposed := by
  unfold updateReadiness
  split <;> rfl

theorem spares_applyRunning (models : List Model) (manager : Manager Model Connection) :
    Spares manager (manager.applyRunning models) := by
  by_cases disposed : manager.isDisposed
  · rw [applyRunning_of_isDisposed disposed]
    exact ⟨rfl, List.not_mem_nil⟩
  · rw [applyRunning_of_not_isDisposed disposed]
    refine ⟨updateReadiness_isDisposed _, ?_⟩
    simp only [List.mem_append, List.mem_map, updates, List.mem_filterMap, Option.map_eq_some_iff]
    split <;> simp

omit [Resource Model] [Handle Connection] [DecidableEq Model] in
theorem spares_applySpecs (specs : KernelSpecs) (manager : Manager Model Connection) :
    Spares manager (manager.applySpecs specs) := by
  by_cases disposed : manager.isDisposed
  · rw [applySpecs, if_pos disposed]
    exact ⟨rfl, List.not_mem_nil⟩
  · rw [applySpecs_of_not_isDisposed disposed]
    dsimp only
    split
    · exact ⟨updateReadiness_isDisposed _, List.not_mem_nil⟩
    · exact ⟨updateReadiness_isDisposed _, by simp⟩

omit [Handle Connection] [DecidableEq Model] in
theorem spares_reportFailure (what : String) (error : ServiceError)
    (manager : Manager Model Connection) : Spares manager (manager.reportFailure what error) := by
  unfold reportFailure
  split
  · exact ⟨rfl, List.not_mem_nil⟩
  · exact ⟨rfl, by simp⟩

/-- Only one event disposes a manager. -/
theorem Event.spares {event : Event Model Connection} (other : event.isDisposal = false)
    (manager : Manager Model Connection) : Spares manager (event.change manager) := by
  cases event with
  | listed models => exact spares_applyRunning models manager
  | specsArrived specs => exact spares_applySpecs specs manager
  | loadFailed what error =>
      rw [Event.change, reportInitialFailure_eq]
      exact ⟨rfl, (spares_reportFailure what error manager).2⟩
  | refreshFailed what error => exact spares_reportFailure what error manager
  | tracked connection =>
      simp only [Event.change, track]
      split <;> exact ⟨rfl, by simp⟩
  | added model =>
      simp only [Event.change, add]
      split <;> exact ⟨rfl, by simp⟩
  | put model =>
      simp only [Event.change, Manager.put]
      split <;> exact ⟨rfl, by simp⟩
  | terminated id =>
      simp only [Event.change, Manager.terminated]
      split <;> exact ⟨rfl, by simp⟩
  | forgotten isForgotten => exact ⟨rfl, List.not_mem_nil⟩
  | shutdownBegun id =>
      simp only [Event.change, beginShutdown]
      split
      case h_1 change begun =>
        split at begun
        · cases begun
        · split at begun <;> cases begun
          exact ⟨rfl, by simp⟩
      case h_2 => exact ⟨rfl, List.not_mem_nil⟩
  | shutdownEnded id => exact ⟨rfl, by simp [Event.change, endShutdown, release]⟩
  | shutdownAllBegun =>
      simp only [Event.change, beginShutdownAll]
      split
      case h_1 change begun =>
        split at begun
        · cases begun
        · split at begun <;> cases begun <;> exact ⟨rfl, by simp⟩
      case h_2 => exact ⟨rfl, List.not_mem_nil⟩
  | shutdownAllEnded ids => exact ⟨rfl, by simp [Event.change, endShutdownAll, release]⟩
  | disposed => cases other

theorem Event.disposes (event : Event Model Connection) (manager : Manager Model Connection) :
    event.Disposes manager := by
  cases kind : event.isDisposal with
  | false =>
      obtain ⟨kept, silent⟩ := Event.spares kind manager
      exact ⟨by rw [kept, kind, Bool.or_false], by rw [disposalsIn_eq_nil silent, kind]; rfl⟩
  | true =>
      cases event <;> cases kind
      cases known : manager.isDisposed <;>
        constructor <;> simp [Event.change, Event.isDisposal, dispose, known, disposalsIn]

/-- A manager that is disposed tracks nothing, and its disposal was told once. -/
structure Closed (manager : Manager Model Connection) (effects : List (Effect Model Connection)) :
    Prop where
  empty : manager.isDisposed = true → manager.connections = []
  told : disposalsIn effects = if manager.isDisposed then [()] else []

theorem Closed.next {manager : Manager Model Connection} {effects : List (Effect Model Connection)}
    (closed : manager.Closed effects) (event : Event Model Connection) :
    (event.change manager).1.Closed (effects ++ (event.change manager).2) where
  empty later := by
    cases known : manager.isDisposed with
    | true =>
        rw [event.change_of_isDisposed known (closed.empty known)]
        exact closed.empty known
    | false =>
        rw [(event.disposes manager).isDisposed, known, Bool.false_or] at later
        cases event <;> cases later
        simp [Event.change, dispose, known]
  told := by
    rw [disposalsIn_append, closed.told, (event.disposes manager).told,
      (event.disposes manager).isDisposed]
    cases manager.isDisposed <;> cases event.isDisposal <;> rfl

/-- However often a manager is disposed in a run, it is told once, and once it is disposed it tracks
nothing. -/
theorem closed_run (events : List (Event Model Connection)) :
    (create.run events).1.Closed (create.run events).2 := by
  induction events using List.reverseRecOn with
  | nil => exact ⟨nofun, rfl⟩
  | append_singleton events event closed =>
      rw [run_snoc]
      exact closed.next event

end KernelClient.Manager
