import KernelClient.Proofs.Manager.Disposal

/-!
# Readiness of managers

A manager is ready once a list and the kernelspecs have arrived before it was disposed, in whatever
order and after whatever failures. Until then the first failure of a first load is told to those who
wait for it, and no other failure is. Both follow from what a manager knows of its loads and from
how a single event bears on that.
-/

namespace KernelClient.Manager

variable {Model Connection : Type}

/-- What a manager knows of its loads, and how they settle its readiness. -/
structure Loads where
  isRunningLoaded : Bool
  areSpecsLoaded : Bool
  readiness : Option (Except ServiceError Unit)

def loads (manager : Manager Model Connection) : Loads :=
  ⟨manager.isRunningLoaded, manager.areSpecsLoaded, manager.readiness⟩

namespace Loads

/-- Whether both copies were loaded. -/
def isComplete (loads : Loads) : Bool :=
  loads.isRunningLoaded && loads.areSpecsLoaded

/-- Settle the readiness well if both copies were loaded. -/
def settle (loads : Loads) : Loads :=
  if loads.isComplete then { loads with readiness := some (.ok ()) } else loads

/-- The loads after an event. -/
def next (isDisposed : Bool) (event : Event Model Connection) (loads : Loads) : Loads :=
  match event with
  | .listed _ => if isDisposed then loads else settle { loads with isRunningLoaded := true }
  | .specsArrived _ =>
      if isDisposed then loads else settle { loads with areSpecsLoaded := true }
  | .loadFailed _ _ =>
      { loads with readiness := loads.readiness.or (event.loadFailure?.map .error) }
  | _ => loads

end Loads

theorem isReady_iff (manager : Manager Model Connection) :
    manager.isReady = true ↔ manager.readiness = some (.ok ()) := by
  unfold isReady
  split
  case h_1 ready => simp [ready]
  case h_2 unready => simpa using unready

theorem loads_updateReadiness (manager : Manager Model Connection) :
    manager.updateReadiness.loads = manager.loads.settle := by
  unfold updateReadiness
  split
  case isTrue loaded => exact (if_pos loaded).symm
  case isFalse missing => exact (if_neg missing).symm

section Events

variable [DecidableEq Model] [Resource Model] [Handle Connection]

theorem loads_applyRunning (models : List Model) (manager : Manager Model Connection) :
    (manager.applyRunning models).1.loads =
      manager.loads.next manager.isDisposed (.listed models : Event Model Connection) := by
  by_cases disposed : manager.isDisposed
  · rw [applyRunning_of_isDisposed disposed, Loads.next, if_pos disposed]
  · rw [applyRunning_of_not_isDisposed disposed, loads_updateReadiness, Loads.next,
      if_neg disposed]
    rfl

omit [DecidableEq Model] [Resource Model] [Handle Connection] in
theorem loads_applySpecs (specs : KernelSpecs) (manager : Manager Model Connection) :
    (manager.applySpecs specs).1.loads =
      manager.loads.next manager.isDisposed (.specsArrived specs : Event Model Connection) := by
  by_cases disposed : manager.isDisposed
  · rw [applySpecs, if_pos disposed, Loads.next, if_pos disposed]
  · have settled := loads_updateReadiness { manager with areSpecsLoaded := true }
    rw [applySpecs_of_not_isDisposed disposed, Loads.next, if_neg disposed]
    dsimp only
    split <;> exact settled

omit [DecidableEq Model] [Handle Connection] in
theorem loads_reportFailure (what : String) (error : ServiceError)
    (manager : Manager Model Connection) :
    (manager.reportFailure what error).1.loads = manager.loads := by
  rw [reportFailure_eq]

omit [DecidableEq Model] [Handle Connection] in
theorem loads_reportInitialFailure (what : String) (error : ServiceError)
    (manager : Manager Model Connection) :
    (manager.reportInitialFailure what error).1.loads = { manager.loads with
      readiness :=
        manager.readiness.or (if error.isDisposed then none else some (.error error)) } := by
  rw [reportInitialFailure_eq]
  rfl

/-- How an event bears on what a manager knows of its loads. -/
theorem Event.loads_change (event : Event Model Connection)
    (manager : Manager Model Connection) :
    (event.change manager).1.loads = manager.loads.next manager.isDisposed event := by
  cases event with
  | listed models => exact loads_applyRunning models manager
  | specsArrived specs => exact loads_applySpecs specs manager
  | loadFailed what error =>
      rw [Event.change, loads_reportInitialFailure]
      dsimp only [Loads.next, Event.loadFailure?]
      cases error.isDisposed <;> rfl
  | refreshFailed what error => exact loads_reportFailure what error manager
  | tracked connection =>
      simp only [Event.change, track]
      split <;> rfl
  | added model =>
      simp only [Event.change, add]
      split <;> rfl
  | put model =>
      simp only [Event.change, Manager.put]
      split <;> rfl
  | terminated id =>
      simp only [Event.change, Manager.terminated]
      split <;> rfl
  | forgotten isForgotten => rfl
  | shutdownBegun id =>
      simp only [Event.change, beginShutdown]
      split
      case h_1 change begun =>
        split at begun
        · cases begun
        · split at begun <;> cases begun
          rfl
      case h_2 => rfl
  | shutdownEnded id => rfl
  | shutdownAllBegun =>
      simp only [Event.change, beginShutdownAll]
      split
      case h_1 change begun =>
        split at begun
        · cases begun
        · split at begun <;> cases begun <;> rfl
      case h_2 => rfl
  | shutdownAllEnded ids => rfl
  | disposed =>
      simp only [Event.change, dispose]
      split <;> rfl

/-- Whether an event brings a list of what runs. -/
def Event.bringsRunning : Event Model Connection → Bool
  | .listed _ => true
  | _ => false

/-- Whether an event brings kernelspecs. -/
def Event.bringsSpecs : Event Model Connection → Bool
  | .specsArrived _ => true
  | _ => false

/-- Whether something was brought before the manager was disposed. -/
def isApplied (brings : Event Model Connection → Bool)
    (events : List (Event Model Connection)) : Bool :=
  (events.takeWhile fun event => !event.isDisposal).any brings

/-- The loads that follow from which copies were brought and which failure came first. -/
def Loads.of (running specs : Bool) (failure : Option ServiceError) : Loads where
  isRunningLoaded := running
  areSpecsLoaded := specs
  readiness := if running && specs then some (.ok ()) else failure.map .error

omit [DecidableEq Model] [Resource Model] [Handle Connection] in
theorem Loads.next_of (running specs isDisposed : Bool) (failure : Option ServiceError)
    (event : Event Model Connection) :
    (Loads.of running specs failure).next isDisposed event =
      .of (running || (!isDisposed && event.bringsRunning))
        (specs || (!isDisposed && event.bringsSpecs)) (failure.or event.loadFailure?) := by
  cases event
  case listed | specsArrived =>
    cases isDisposed <;> cases running <;> cases specs <;>
      simp [Loads.of, Loads.next, Loads.settle, Loads.isComplete, Event.bringsRunning,
        Event.bringsSpecs, Event.loadFailure?]
  case loadFailed what error =>
    cases running <;> cases specs <;> cases failure <;>
      simp [Loads.of, Loads.next, Event.bringsRunning, Event.bringsSpecs]
  all_goals
    simp [Loads.of, Loads.next, Event.bringsRunning, Event.bringsSpecs, Event.loadFailure?]

omit [DecidableEq Model] [Resource Model] [Handle Connection] in
theorem isApplied_snoc (brings : Event Model Connection → Bool)
    (events : List (Event Model Connection)) (event : Event Model Connection)
    (lasting : event.isDisposal = true → brings event = false) :
    isApplied brings (events ++ [event]) =
      (isApplied brings events || (!events.any Event.isDisposal && brings event)) := by
  induction events with
  | nil =>
      unfold isApplied
      cases kind : event.isDisposal with
      | true => simp [kind, lasting kind]
      | false => simp [kind]
  | cons first rest ih =>
      unfold isApplied at ih ⊢
      cases kind : first.isDisposal with
      | true => simp [kind]
      | false => simp [kind, ih, Bool.or_assoc]

theorem isDisposed_run (events : List (Event Model Connection)) :
    (create.run events).1.isDisposed = events.any Event.isDisposal := by
  induction events using List.reverseRecOn with
  | nil => rfl
  | append_singleton events event ih =>
      rw [run_snoc, List.any_append, ← ih]
      simpa [Change.andThen] using (event.disposes (create.run events).1).isDisposed

/-- What a manager knows of its loads after a run. -/
theorem loads_run (events : List (Event Model Connection)) :
    (create.run events).1.loads =
      .of (isApplied Event.bringsRunning events) (isApplied Event.bringsSpecs events)
        (events.findSome? Event.loadFailure?) := by
  induction events using List.reverseRecOn with
  | nil => rfl
  | append_singleton events event ih =>
      have running := isApplied_snoc Event.bringsRunning events event
        (by cases event <;> simp [Event.isDisposal, Event.bringsRunning])
      have specs := isApplied_snoc Event.bringsSpecs events event
        (by cases event <;> simp [Event.isDisposal, Event.bringsSpecs])
      rw [run_snoc, running, specs, List.findSome?_append, List.findSome?_singleton,
        ← Loads.next_of, ← ih, ← isDisposed_run]
      exact event.loads_change _

omit [DecidableEq Model] [Resource Model] [Handle Connection] in
/-- What was brought stays brought. -/
theorem isApplied_append {brings : Event Model Connection → Bool}
    {events : List (Event Model Connection)} (applied : isApplied brings events = true)
    (later : List (Event Model Connection)) : isApplied brings (events ++ later) = true := by
  induction events with
  | nil => cases applied
  | cons first rest ih =>
      unfold isApplied at ih applied ⊢
      cases kind : first.isDisposal with
      | true => simp [kind] at applied
      | false =>
          simp only [List.cons_append, List.takeWhile_cons, kind, Bool.not_false, if_true,
            List.any_cons, Bool.or_eq_true] at applied ⊢
          exact applied.imp_right ih

/-- How an event can change what is told to those who wait for a manager. -/
inductive Event.Settles (event : Event Model Connection) :
    Option (Except ServiceError Unit) → Option (Except ServiceError Unit) → Prop where
  | stays (readiness : Option (Except ServiceError Unit)) : event.Settles readiness readiness
  | failed {error : ServiceError} (first : event.loadFailure? = some error) :
      event.Settles none (some (.error error))
  | loaded (readiness : Option (Except ServiceError Unit))
      (brings : event.bringsRunning = true ∨ event.bringsSpecs = true) :
      event.Settles readiness (some (.ok ()))

omit [DecidableEq Model] [Resource Model] [Handle Connection] in
theorem Loads.settles_next (isDisposed : Bool) (event : Event Model Connection)
    (loads : Loads) :
    event.Settles loads.readiness (loads.next isDisposed event).readiness := by
  have settle {loaded : Loads} (same : loaded.readiness = loads.readiness)
      (brings : event.bringsRunning = true ∨ event.bringsSpecs = true) :
      event.Settles loads.readiness loaded.settle.readiness := by
    unfold Loads.settle
    split
    · exact .loaded _ brings
    · exact same ▸ .stays _
  cases event
  case listed models =>
    dsimp only [Loads.next]
    split
    · exact .stays _
    · exact settle rfl (.inl rfl)
  case specsArrived specs =>
    dsimp only [Loads.next]
    split
    · exact .stays _
    · exact settle rfl (.inr rfl)
  case loadFailed what error =>
    dsimp only [Loads.next]
    cases settled : loads.readiness with
    | some outcome => exact .stays _
    | none =>
        cases failure : Event.loadFailure? (.loadFailed what error : Event Model Connection) with
        | none => exact .stays _
        | some first => exact .failed failure
  all_goals exact .stays _

theorem Event.settles (event : Event Model Connection) (manager : Manager Model Connection) :
    event.Settles manager.readiness (event.change manager).1.readiness := by
  have same : (event.change manager).1.readiness =
      (manager.loads.next manager.isDisposed event).readiness :=
    congrArg Loads.readiness (event.loads_change manager)
  rw [same]
  exact manager.loads.settles_next manager.isDisposed event

/-- What is told of a manager to those who wait for it, given all that has happened to it. It is
ready if both copies were applied, and stays so. Otherwise the first failure of a first load is
told. Each event changes this in one of three ways at most, and what is told is what it is at that
time, or that the manager was disposed. -/
structure SettledBy (events : List (Event Model Connection)) : Prop where
  isReady : (create.run events).1.isReady =
    (isApplied Event.bringsRunning events && isApplied Event.bringsSpecs events)
  lasting : (create.run events).1.isReady = true →
    ∀ later, (create.run (events ++ later)).1.isReady = true
  readiness : (create.run events).1.readiness =
    if (create.run events).1.isReady then some (.ok ())
    else (events.findSome? Event.loadFailure?).map .error
  settles : ∀ event : Event Model Connection,
    event.Settles (create.run events).1.readiness (create.run (events ++ [event])).1.readiness
  answer : ∀ outcome, (create.run events).1.readyOutcome? = some outcome →
    outcome = .error .disposed ∨ (create.run events).1.readiness = some outcome

/-- The readiness is settled well if, and only if, both copies were loaded. -/
theorem loads_run_complete (events : List (Event Model Connection)) :
    (create.run events).1.loads.readiness = some (.ok ()) ↔
      (create.run events).1.loads.isComplete = true := by
  rw [loads_run]
  dsimp only [Loads.of, Loads.isComplete]
  split
  case isTrue loaded => simp [loaded]
  case isFalse missing =>
    refine iff_of_false (fun failed => ?_) missing
    obtain ⟨error, -, wrong⟩ := Option.map_eq_some_iff.mp failed
    cases wrong

theorem isReady_run (events : List (Event Model Connection)) :
    (create.run events).1.isReady =
      (isApplied Event.bringsRunning events && isApplied Event.bringsSpecs events) := by
  rw [Bool.eq_iff_iff, isReady_iff]
  refine (loads_run_complete events).trans ?_
  rw [loads_run]
  rfl

omit [DecidableEq Model] [Resource Model] [Handle Connection] in
/-- Those who wait hear how the readiness was settled, or that the manager was disposed before. -/
theorem readyOutcome?_eq {manager : Manager Model Connection} {outcome : Except ServiceError Unit}
    (told : manager.readyOutcome? = some outcome) :
    outcome = .error .disposed ∨ manager.readiness = some outcome := by
  unfold readyOutcome? at told
  split at told
  case h_1 readiness => exact .inr (readiness.trans told)
  case h_2 =>
    split at told
    · exact .inl (Option.some.inj told).symm
    · cases told

theorem settledBy (events : List (Event Model Connection)) : SettledBy events where
  isReady := isReady_run events
  lasting ready later := by
    rw [isReady_run, Bool.and_eq_true] at ready ⊢
    exact ready.imp (isApplied_append · later) (isApplied_append · later)
  readiness := by
    rw [isReady_run]
    exact congrArg Loads.readiness (loads_run events)
  settles event := by
    rw [run_snoc]
    exact event.settles (create.run events).1
  answer _ told := readyOutcome?_eq told

end Events

end KernelClient.Manager
