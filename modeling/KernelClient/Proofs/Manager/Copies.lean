import KernelClient.Proofs.Manager.Run
import Mathlib.Data.List.Chain

/-!
# Copies and their signals

A manager tells its copy of the list and its copy of the kernelspecs whenever it replaces one of
them, and it replaces a copy only by a value that differs from it. So whoever has heard every value
knows the copy.
-/

namespace KernelClient.Manager

variable {Model Connection : Type}

/-- The lists that effects tell. -/
def runningIn (effects : List (Effect Model Connection)) : List (List Model) :=
  effects.filterMap fun effect =>
    match effect with
    | .running models => some models
    | _ => none

/-- The kernelspecs that effects tell. -/
def specsIn (effects : List (Effect Model Connection)) : List KernelSpecs :=
  effects.filterMap fun effect =>
    match effect with
    | .specs specs => some specs
    | _ => none

@[simp]
theorem runningIn_append (first second : List (Effect Model Connection)) :
    runningIn (first ++ second) = runningIn first ++ runningIn second :=
  List.filterMap_append

@[simp]
theorem specsIn_append (first second : List (Effect Model Connection)) :
    specsIn (first ++ second) = specsIn first ++ specsIn second :=
  List.filterMap_append

/-- How a change treats a copy: it keeps it and tells nothing, or it replaces it by a value that
differs from it and tells that value. -/
inductive Retold {α : Type} (Differ : α → α → Prop) (before : Option α) :
    Option α → List α → Prop where
  | kept : Retold Differ before before []
  | told (value : α) (new : ∀ known ∈ before, Differ known value) :
      Retold Differ before (some value) [value]

theorem Retold.same {α : Type} {Differ : α → α → Prop} {before after : Option α}
    (same : after = before) : Retold Differ before after [] :=
  same ▸ .kept

/-- A copy is the last of the values that were told, each of which differs from the one before. -/
structure Replayed {α : Type} (Differ : α → α → Prop) (copy : Option α) (told : List α) : Prop where
  last : told.getLast? = copy
  varies : told.IsChain Differ

theorem Replayed.next {α : Type} {Differ : α → α → Prop} {before after : Option α}
    {told more : List α} (replayed : Replayed Differ before told)
    (retold : Retold Differ before after more) : Replayed Differ after (told ++ more) := by
  cases retold with
  | kept =>
      rw [List.append_nil]
      exact replayed
  | told value new =>
      refine ⟨List.getLast?_concat, ?_⟩
      refine List.isChain_append.mpr ⟨replayed.varies, .singleton value, ?_⟩
      intro known isLast next isNext
      rw [replayed.last] at isLast
      obtain rfl : value = next := by simpa using isNext
      exact new known isLast

/-- A change that tells both copies of a manager as it treats them. -/
structure Retells (manager : Manager Model Connection) (change : Change Model Connection) :
    Prop where
  running : Retold (· ≠ ·) (some manager.running) (some change.1.running) (runningIn change.2)
  specs : Retold (fun known next => known.agrees next = false) manager.specs change.1.specs
    (specsIn change.2)

section Operations

variable {manager : Manager Model Connection}

/-- Whether an effect tells nothing of a copy. -/
def Effect.isQuiet : Effect Model Connection → Bool
  | .running _ | .specs _ => false
  | _ => true

theorem runningIn_of_isQuiet {effects : List (Effect Model Connection)}
    (quiet : ∀ effect ∈ effects, effect.isQuiet) : runningIn effects = [] := by
  refine List.filterMap_eq_nil_iff.mpr fun effect member => ?_
  have silent := quiet effect member
  cases effect <;> simp_all [Effect.isQuiet]

theorem specsIn_of_isQuiet {effects : List (Effect Model Connection)}
    (quiet : ∀ effect ∈ effects, effect.isQuiet) : specsIn effects = [] := by
  refine List.filterMap_eq_nil_iff.mpr fun effect member => ?_
  have silent := quiet effect member
  cases effect <;> simp_all [Effect.isQuiet]

namespace Retells

theorem quietly {after : Manager Model Connection} {effects : List (Effect Model Connection)}
    (running : after.running = manager.running) (specs : after.specs = manager.specs)
    (quiet : ∀ effect ∈ effects, effect.isQuiet) : Retells manager (after, effects) where
  running := by
    rw [runningIn_of_isQuiet quiet]
    exact .same (congrArg some running)
  specs := by
    rw [specsIn_of_isQuiet quiet]
    exact .same specs

theorem refl (manager : Manager Model Connection) : Retells manager (manager, []) :=
  quietly rfl rfl (by simp)

/-- To replace the list by another one and tell it. -/
theorem relisted {models : List Model} (other : manager.running ≠ models) :
    Retells manager ({ manager with running := models }, [.running models]) where
  running := .told models (by simpa using other)
  specs := .kept

end Retells

theorem isQuiet_of_mem_disposals {connections : List Connection} :
    ∀ effect ∈ (connections.map .disposeConnection : List (Effect Model Connection)),
      effect.isQuiet := by
  intro effect member
  obtain ⟨connection, -, rfl⟩ := List.mem_map.mp member
  rfl

theorem isQuiet_of_mem_updates [Resource Model] [Handle Connection] {models : List Model}
    {connections : List Connection} :
    ∀ effect ∈ updates models connections, effect.isQuiet := by
  intro effect member
  obtain ⟨connection, -, told⟩ := List.mem_filterMap.mp member
  obtain ⟨model, -, rfl⟩ := Option.map_eq_some_iff.mp told
  rfl

theorem retells_release (isReleased : Connection → Bool) :
    Retells manager (manager.release isReleased) :=
  .quietly rfl rfl isQuiet_of_mem_disposals

theorem retells_track (connection : Connection) : Retells manager (manager.track connection) := by
  unfold track
  split
  · exact .quietly rfl rfl (by simp [Effect.isQuiet])
  · exact .quietly rfl rfl (by simp)

theorem retells_dispose : Retells manager manager.dispose := by
  unfold dispose
  split
  · exact .refl manager
  · refine .quietly rfl rfl fun effect member => ?_
    rcases List.mem_append.mp member with disposal | last
    · exact isQuiet_of_mem_disposals effect disposal
    · rw [List.mem_singleton.mp last]
      rfl

/-- Kernelspecs that arrive are told unless they agree with the copy. -/
theorem specsIn_applySpecs (specs : KernelSpecs) (manager : Manager Model Connection) :
    specsIn (manager.applySpecs specs).2 =
      if manager.isDisposed ∨ manager.specs.any (fun known => known.agrees specs) then []
      else [specs] := by
  by_cases disposed : manager.isDisposed
  · rw [applySpecs, if_pos disposed, if_pos (.inl disposed)]
    rfl
  · rw [applySpecs_of_not_isDisposed disposed]
    by_cases same : manager.specs.any fun known => known.agrees specs
    · simp [same, specsIn]
    · simp [same, disposed, specsIn]

theorem retells_applySpecs (specs : KernelSpecs) :
    Retells manager (manager.applySpecs specs) := by
  by_cases disposed : manager.isDisposed
  · rw [applySpecs, if_pos disposed]
    exact .refl manager
  · rw [applySpecs_of_not_isDisposed disposed]
    have running := updateReadiness_running { manager with areSpecsLoaded := true }
    by_cases same : manager.specs.any fun known => known.agrees specs
    · rw [if_pos same]
      exact .quietly running (updateReadiness_specs _) (by simp)
    · rw [if_neg same]
      refine ⟨.same (congrArg some running), .told specs fun known isCopy => ?_⟩
      rw [Option.mem_def.mp isCopy] at same
      exact Bool.eq_false_iff.mpr same

variable [Resource Model]

theorem retells_reportFailure (what : String) (error : ServiceError) :
    Retells manager (manager.reportFailure what error) := by
  unfold reportFailure
  split
  · exact .refl manager
  · exact .quietly rfl rfl (by simp [Effect.isQuiet])

theorem retells_reportInitialFailure (what : String) (error : ServiceError) :
    Retells manager (manager.reportInitialFailure what error) := by
  unfold reportInitialFailure
  split
  · exact retells_reportFailure what error
  · have told : Retells { manager with readiness := some (.error error) }
        (reportFailure what error { manager with readiness := some (.error error) }) :=
      retells_reportFailure what error
    exact ⟨told.running, told.specs⟩

/-- A list that arrives is told if it differs from the copy. -/
theorem runningIn_applyRunning [DecidableEq Model] [Handle Connection] (models : List Model)
    (manager : Manager Model Connection) :
    runningIn (manager.applyRunning models).2 =
      if manager.isDisposed ∨ manager.running = models then [] else [models] := by
  by_cases disposed : manager.isDisposed
  · rw [applyRunning_of_isDisposed disposed, if_pos (.inl disposed)]
    rfl
  · rw [applyRunning_of_not_isDisposed disposed, runningIn_append, runningIn_append,
      runningIn_of_isQuiet isQuiet_of_mem_disposals, runningIn_of_isQuiet isQuiet_of_mem_updates,
      List.nil_append, List.append_nil]
    by_cases same : manager.running = models
    · rw [if_pos same, if_pos (.inr same)]
      rfl
    · rw [if_neg same, if_neg (by simp [disposed, same])]
      rfl

theorem retells_applyRunning [DecidableEq Model] [Handle Connection] (models : List Model) :
    Retells manager (manager.applyRunning models) := by
  have told := runningIn_applyRunning models manager
  by_cases disposed : manager.isDisposed
  · rw [applyRunning_of_isDisposed disposed]
    exact .refl manager
  · rw [applyRunning_of_not_isDisposed disposed] at told ⊢
    have specs : specsIn
        ((manager.stale models).map Effect.disposeConnection ++
          (if manager.running = models then [] else [.running models]) ++
          updates models (manager.live models)) = [] := by
      rw [specsIn_append, specsIn_append, specsIn_of_isQuiet isQuiet_of_mem_disposals,
        specsIn_of_isQuiet isQuiet_of_mem_updates, List.nil_append, List.append_nil]
      split <;> rfl
    constructor
    · rw [told, updateReadiness_running]
      by_cases same : manager.running = models
      · rw [if_pos (.inr same)]
        exact .same (congrArg some same.symm)
      · rw [if_neg (by simp [disposed, same])]
        exact .told models (by simpa using same)
    · rw [specs]
      exact .same (updateReadiness_specs _)

theorem retells_add (model : Model) : Retells manager (manager.add model) := by
  unfold add
  split
  · exact .refl manager
  · exact .relisted (by simp)

/-- To put a resource into a list changes the list, unless the first resource with its identifier
is that one. -/
theorem replace_ne {model : Model} {models : List Model}
    (other : models.find? (fun known => Resource.id known = Resource.id model) ≠ some model) :
    replace model models ≠ models := by
  induction models with
  | nil => simp [replace]
  | cons known rest ih =>
      unfold replace
      split
      case isTrue same =>
        intro kept
        have kept : model = known := (List.cons.inj kept).1
        exact other (by simp [kept])
      case isFalse different =>
        intro kept
        refine ih ?_ (List.cons.inj kept).2
        rwa [List.find?_cons_of_neg (by simpa using different)] at other

theorem retells_put [DecidableEq Model] (model : Model) : Retells manager (manager.put model) := by
  simp only [put]
  split
  · exact .refl manager
  case isFalse differs =>
    exact .relisted (replace_ne fun same => differs (.inr same)).symm

theorem retells_shutdownBegun [DecidableEq Model] [Handle Connection] (id : String) :
    Retells manager ((Event.shutdownBegun id).change manager) := by
  simp only [Event.change, beginShutdown]
  split
  case h_1 change begun =>
    split at begun
    · cases begun
    · split at begun
      case isTrue known =>
        obtain rfl := Option.some.inj (Except.ok.inj begun)
        obtain ⟨model, member, wanted⟩ := List.any_eq_true.mp known
        exact .relisted fun same => List.eraseP_eq_self_iff.mp same.symm model member wanted
      · cases begun
  case h_2 => exact .refl manager

theorem retells_shutdownAllBegun [DecidableEq Model] [Handle Connection] :
    Retells manager (Event.shutdownAllBegun.change manager) := by
  simp only [Event.change, beginShutdownAll]
  split
  case h_1 ids change begun =>
    split at begun
    · cases begun
    · split at begun
      case isTrue =>
        obtain ⟨-, rfl⟩ := Prod.mk.inj (Except.ok.inj begun)
        exact .refl manager
      case isFalse known =>
        obtain ⟨-, rfl⟩ := Prod.mk.inj (Except.ok.inj begun)
        exact .relisted fun same => known (List.isEmpty_iff.mpr same)
  case h_2 => exact .refl manager

theorem retells_terminated (id : String) : Retells manager (manager.terminated id) := by
  simp only [terminated]
  split
  · exact .refl manager
  case isFalse differs =>
    exact .relisted fun same => differs (.inr (congrArg List.length same).symm)

end Operations

variable [DecidableEq Model] [Resource Model] [Handle Connection]

/-- Every event tells the copies that it replaces. -/
theorem Event.retells (event : Event Model Connection) (manager : Manager Model Connection) :
    Retells manager (event.change manager) := by
  cases event with
  | listed models => exact retells_applyRunning models
  | specsArrived specs => exact retells_applySpecs specs
  | loadFailed what error => exact retells_reportInitialFailure what error
  | refreshFailed what error => exact retells_reportFailure what error
  | tracked connection => exact retells_track connection
  | added model => exact retells_add model
  | put model => exact retells_put model
  | terminated id => exact retells_terminated id
  | forgotten isForgotten => exact .quietly rfl rfl (by simp)
  | shutdownBegun id => exact retells_shutdownBegun id
  | shutdownEnded id => exact retells_release _
  | shutdownAllBegun => exact retells_shutdownAllBegun
  | shutdownAllEnded ids => exact retells_release _
  | disposed => exact retells_dispose

/-- At the end of every run both copies of a new manager are what their signals told last. The list
is empty before the first. -/
theorem replayed_run (events : List (Event Model Connection)) :
    Replayed (· ≠ ·) (some (create.run events).1.running) ([] :: runningIn (create.run events).2) ∧
      Replayed (fun known next => known.agrees next = false) (create.run events).1.specs
        (specsIn (create.run events).2) := by
  induction events using List.reverseRecOn with
  | nil => exact ⟨⟨rfl, .singleton []⟩, ⟨rfl, .nil⟩⟩
  | append_singleton events event replayed =>
      obtain ⟨running, specs⟩ := event.retells (create.run events).1
      rw [run_snoc]
      refine ⟨?_, ?_⟩
      · have next := replayed.1.next running
        rwa [List.cons_append, ← runningIn_append] at next
      · have next := replayed.2.next specs
        rwa [← specsIn_append] at next

/-- The signals of a manager replay its copies: after any events the list is the one that was told
last, or empty if there was none, and the kernelspecs are those told last; each list that was told
differs from the one before, the first one from the empty list, and each kernelspecs from those
before. So what a manager fetches is told exactly if it differs from the copy, unless the manager
was disposed meanwhile. -/
theorem signals_replay_copies (events : List (Event Model Connection)) :
    let (manager, effects) := create.run events
    manager.running = (runningIn effects).getLast?.getD [] ∧
      ([] :: runningIn effects).IsChain (· ≠ ·) ∧
      manager.specs = (specsIn effects).getLast? ∧
      (specsIn effects).IsChain (fun known next => known.agrees next = false) ∧
      (∀ models, runningIn (manager.applyRunning models).2 =
        if manager.isDisposed ∨ manager.running = models then [] else [models]) ∧
      ∀ specs, specsIn (manager.applySpecs specs).2 =
        if manager.isDisposed ∨ manager.specs.any (fun known => known.agrees specs) then []
        else [specs] := by
  obtain ⟨running, specs⟩ := replayed_run events
  have last := running.last
  rw [List.getLast?_cons, Option.some_inj] at last
  exact ⟨last.symm, running.varies, specs.last.symm, specs.varies,
    fun models => runningIn_applyRunning models _, fun specs => specsIn_applySpecs specs _⟩

/-- A list that arrives again is not told again. -/
example : runningIn ((create : KernelManager).run
    [.listed [⟨"a", "python3"⟩], .listed [⟨"a", "python3"⟩], .terminated "a"]).2 =
      [[⟨"a", "python3"⟩], []] :=
  rfl

end KernelClient.Manager
