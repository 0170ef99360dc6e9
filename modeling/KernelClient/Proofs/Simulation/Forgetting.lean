import KernelClient.Proofs.Simulation.LateLists

/-!
# Connections that a manager forgets

A manager of kernels forgets a connection by its client once the watcher of the connection hears of
its end. Other connections of the same client are forgotten with it: nothing is told of them and
they go on, but neither a list nor the disposal of the manager disposes them. Apart from that a
connection that is not disposed stays tracked as long as its manager goes on.
-/

namespace KernelClient.Simulation

namespace KernelObject

/-- Whether those who receive what is left under two numbers learn that a connection has ended. -/
def tellsEnd (status disposed : Nat) (object : KernelObject) : Bool :=
  (object.status.drain status).1.contains .closed || !(object.disposed.drain disposed).1.isEmpty

/-- Nobody learns of an end before it. -/
theorem IsFaithful.isStopped {object : KernelObject} (faithful : object.IsFaithful)
    {status disposed : Nat} (ended : object.tellsEnd status disposed = true) :
    object.isStopped = true := by
  by_contra goesOn
  obtain ⟨alive, held⟩ := Bool.or_eq_false_iff.mp (Bool.eq_false_iff.mpr goesOn)
  have isAlive : object.isAlive = true := by simpa using held
  have noEnd := (faithful.statusOpen isAlive).closed_notMem_drain status
  have nothing := (faithful.disposedOpen isAlive).drain_of_isIdle (faithful.disposal alive) disposed
  rw [tellsEnd, nothing, List.isEmpty_nil, Bool.not_true, Bool.or_false,
    List.contains_iff_mem] at ended
  exact noEnd ended

end KernelObject

/-- A manager of kernels that goes on at some time went on before. -/
theorem Steps.goesOn {before after : World} (steps : Steps before after) {number : Nat}
    {object : ManagerObject KernelModel KernelHandle}
    (known : before.kernelManager? number = some object)
    (goesOn : after.isManagerStopped (.kernels number) = false) :
    before.isManagerStopped (.kernels number) = false := by
  obtain ⟨later, present, becomes⟩ := steps.proceeds.kernelManagers.kept number object known
  rw [World.isManagerStopped_of_known present] at goesOn
  rw [World.isManagerStopped_of_known known]
  exact Bool.eq_false_iff.mpr fun stopped =>
    Bool.eq_false_iff.mp goesOn (becomes.isStopped stopped)

namespace World

variable {world : World}

/-- An event that does not concern tracking leaves it alone. -/
theorem registers_kernelEvent (event : Manager.Event KernelModel KernelHandle)
    (aside : event.concernsTracking = false) (manager number : Nat) (handle : KernelHandle) :
    (world.changeKernelManager manager event.change).Registers number handle ↔
      world.Registers number handle := by
  cases known : world.kernelManager? manager with
  | none => rw [changeKernelManager_of_absent known]
  | some managing =>
      rw [registers_changeKernelManager known, Manager.Event.connections_change aside]
      split
      case isTrue here =>
        subst here
        simp [Registers, known]
      case isFalse => rfl

/-- To forget a client is to forget all its connections. -/
theorem registers_forgetClient (manager : Nat) (client : String) (number : Nat)
    (handle : KernelHandle) :
    (world.changeKernelManager manager fun managing =>
        (KernelManager.forgetClient client managing, [])).Registers number handle ↔
      world.Registers number handle ∧ ¬(number = manager ∧ handle.clientId = client) := by
  cases known : world.kernelManager? manager with
  | none =>
      rw [changeKernelManager_of_absent known, iff_self_and]
      rintro ⟨object, present, -⟩ ⟨rfl, -⟩
      cases known.symm.trans present
  | some managing =>
      rw [registers_changeKernelManager known]
      split
      case isTrue here =>
        subst here
        simp [Registers, known, KernelManager.forgetClient, Manager.forget]
      case isFalse elsewhere => simp [elsewhere]

theorem isKernelManagerAlive_change (manager number : Nat)
    (step : KernelManager → Manager.Change KernelModel KernelHandle) :
    (world.changeKernelManager manager step).isKernelManagerAlive number =
      world.isKernelManagerAlive number := by
  by_cases here : manager = number
  · subst here
    cases known : world.kernelManager? manager with
    | none => rw [changeKernelManager_of_absent known]
    | some managing =>
        simp only [isKernelManagerAlive, kernelManager?_change known, known,
          ManagerObject.take_eq]
  · simp only [isKernelManagerAlive, kernelManager?_changeOther here]

/-- A watcher first takes what is left and may tell its manager of a death, which does not concern
what is tracked. Then it makes the manager forget the client, if it learned of the end. -/
theorem exists_runKernelWatch {kernel : Nat} {object : KernelObject}
    (known : world.kernel? kernel = some object) (manager status disposed : Nat) :
    ∃ told, KernelsGrow world told ∧
      (∀ number handle, told.Registers number handle ↔ world.Registers number handle) ∧
      (world.runKernelWatch manager kernel status disposed).1 =
        if object.tellsEnd status disposed && world.isKernelManagerAlive manager then
          told.changeKernelManager manager fun managing =>
            (KernelManager.forgetClient object.connection.clientId managing, [])
        else told := by
  let drained := world.modifyKernel kernel fun held => { held with
    status := (object.status.drain status).2
    disposed := (object.disposed.drain disposed).2 }
  have grows : KernelsGrow world drained := kernelsGrow_drain known status disposed
  have same (number : Nat) (handle : KernelHandle) :
      drained.Registers number handle ↔ world.Registers number handle := .rfl
  have alive : drained.isKernelManagerAlive manager = world.isKernelManagerAlive manager := rfl
  let died := drained.changeKernelManager manager (Manager.terminated object.connection.model.id)
  have registers (number : Nat) (handle : KernelHandle) :
      died.Registers number handle ↔ world.Registers number handle :=
    registers_kernelEvent (.terminated object.connection.model.id) rfl manager number handle
  have tells : KernelsGrow world died :=
    grows.trans (kernelsGrow_changeKernelManager manager _)
  have stays : died.isKernelManagerAlive manager = world.isKernelManagerAlive manager :=
    (isKernelManagerAlive_change manager manager _).trans alive
  let forgetting (told : World) : World := told.changeKernelManager manager fun managing =>
    (KernelManager.forgetClient object.connection.clientId managing, [])
  have ran : (world.runKernelWatch manager kernel status disposed).1 =
      if (object.status.drain status).1.contains (.value .dead) &&
          !drained.isKernelManagerAlive manager then drained
      else
        let told := if (object.status.drain status).1.contains (.value .dead) then died else drained
        if object.tellsEnd status disposed then
          if told.isKernelManagerAlive manager then forgetting told else told
        else told := by
    simp only [runKernelWatch, known, apply_ite Prod.fst]
    rfl
  rw [ran, alive]
  clear_value drained died
  cases lives : world.isKernelManagerAlive manager with
  | false =>
      -- Nobody is there to be told of anything.
      refine ⟨drained, grows, same, ?_⟩
      cases (object.status.drain status).1.contains (.value .dead) <;> simp [alive, lives]
  | true =>
      rw [lives] at alive stays
      cases (object.status.drain status).1.contains (.value .dead) with
      | false => exact ⟨drained, grows, same, by simp [alive, forgetting]⟩
      | true => exact ⟨died, tells, registers, by simp [stays, forgetting]⟩

theorem kernelsGrow_runKernelWatch (manager kernel status disposed : Nat) :
    KernelsGrow world (world.runKernelWatch manager kernel status disposed).1 := by
  cases known : world.kernel? kernel with
  | none =>
      rw [runKernelWatch, known]
      exact .refl world
  | some object =>
      obtain ⟨told, grows, -, ran⟩ := exists_runKernelWatch known manager status disposed
      rw [ran]
      split
      · exact grows.trans (kernelsGrow_changeKernelManager manager _)
      · exact grows

/-- What a watcher makes its manager forget: the connections of the client of a connection that it
learns to have ended. -/
def Drops (world : World) (manager kernel status disposed : Nat) (handle : KernelHandle) : Prop :=
  world.isKernelManagerAlive manager = true ∧ ∃ object, world.kernel? kernel = some object ∧
    object.tellsEnd status disposed = true ∧ handle.clientId = object.connection.clientId

theorem registers_runKernelWatch (manager kernel status disposed number : Nat)
    (handle : KernelHandle) :
    (world.runKernelWatch manager kernel status disposed).1.Registers number handle ↔
      world.Registers number handle ∧
        ¬(number = manager ∧ world.Drops manager kernel status disposed handle) := by
  cases known : world.kernel? kernel with
  | none => simp [runKernelWatch, known, Drops]
  | some object =>
      obtain ⟨told, -, same, ran⟩ := exists_runKernelWatch known manager status disposed
      simp only [Drops, known, Option.some.injEq, exists_eq_left']
      rw [ran, ← same]
      split
      case isTrue drops =>
        obtain ⟨ended, lives⟩ := Bool.and_eq_true_iff.mp drops
        rw [registers_forgetClient]
        simp [ended, lives]
      case isFalse keeps =>
        rw [Bool.and_eq_true] at keeps
        refine (and_iff_left ?_).symm
        rintro ⟨-, lives, ended, -⟩
        exact keeps ⟨ended, lives⟩

end World

variable {before after : World}

theorem Act.sound (act : Act before after) (sound : before.Sound) : after.Sound := by
  cases act with
  | kept _ keeps => exact keeps.sound sound
  | watched manager kernel status disposed =>
      refine sound.grows (World.kernelsGrow_runKernelWatch manager kernel status disposed) ?_
      exact fun number handle registered =>
        .inl ((World.registers_runKernelWatch _ _ _ _ _ _).mp registered).1

theorem Act.adds (act : Act before after) {manager : Nat} {handle : KernelHandle}
    (registered : after.Registers manager handle) :
    before.Registers manager handle ∨ before.kernels.length ≤ handle.connection := by
  cases act with
  | kept _ keeps => exact keeps.adds manager handle registered
  | watched => exact .inl ((World.registers_runKernelWatch _ _ _ _ _ _).mp registered).1

theorem World.sound_create (settings : Settings) (protocol : Option String) :
    (World.create settings protocol).Sound where
  faithful object member := by
    rw [create] at member
    exact absurd member List.not_mem_nil
  held := by
    rintro manager handle ⟨object, known, -⟩
    simp [kernelManager?, create] at known

namespace Acts

theorem sound (acts : Acts before after) (sound : before.Sound) : after.Sound := by
  induction acts with
  | refl => exact sound
  | tail _ act ih => exact act.sound ih

theorem kernel (acts : Acts before after) {number : Nat} {object : KernelObject}
    (known : before.kernel? number = some object) :
    ∃ later, after.kernel? number = some later ∧
      object.connection.Continues later.connection :=
  acts.steps.evolves.kernel known

/-- A connection that was made before is not tracked again. -/
theorem registered (acts : Acts before after) {manager : Nat} {handle : KernelHandle}
    {object : KernelObject} (known : before.kernel? handle.connection = some object)
    (registered : after.Registers manager handle) : before.Registers manager handle := by
  induction acts with
  | refl => exact registered
  | tail earlier act ih =>
      obtain ⟨later, present, -⟩ := Acts.kernel earlier known
      have made := (List.getElem?_eq_some_iff.mp present).1
      exact ih ((act.adds registered).resolve_right (Nat.not_le.mpr made))

end Acts

theorem World.Emerges.sound {world : World} (emerges : world.Emerges) : world.Sound := by
  obtain ⟨settings, protocol, acts⟩ := emerges
  exact acts.sound (World.sound_create settings protocol)

/-- The watcher of another connection, which has ended, makes a manager forget a connection because
both are of the same client. -/
structure Forgets (manager kernel other : Nat) (before after : World) : Prop where
  ran : ∃ status disposed, after = (before.runKernelWatch manager other status disposed).1
  another : other ≠ kernel
  sameClient : ∃ ended kept, before.kernel? other = some ended ∧
    before.kernel? kernel = some kept ∧ ended.isStopped = true ∧
    ended.connection.clientId = kept.connection.clientId
  tracked : before.TracksKernel manager kernel
  lost : ¬after.TracksKernel manager kernel

theorem Forgets.act {manager kernel other : Nat}
    (forgets : Forgets manager kernel other before after) : Act before after := by
  obtain ⟨status, disposed, rfl⟩ := forgets.ran
  exact .watched manager other status disposed

namespace World

variable {world : World}

/-- While a manager goes on it is enough to know what it tracks. -/
theorem tracksKernel_iff {manager kernel : Nat}
    (goesOn : world.isManagerStopped (.kernels manager) = false) :
    world.TracksKernel manager kernel ↔
      ∃ handle, world.Registers manager handle ∧ handle.connection = kernel := by
  constructor
  · rintro ⟨object, known, -, handle, tracked, here⟩
    exact ⟨handle, ⟨object, known, tracked⟩, here⟩
  · rintro ⟨handle, ⟨object, known, tracked⟩, here⟩
    rw [isManagerStopped_of_known known] at goesOn
    exact ⟨object, known, (Bool.or_eq_false_iff.mp goesOn).1, handle, tracked, here⟩

end World

theorem Acts.tracksKernel (acts : Acts before after) {manager kernel : Nat} {object : KernelObject}
    (known : before.kernel? kernel = some object)
    (goesOn : after.isManagerStopped (.kernels manager) = false)
    (tracked : after.TracksKernel manager kernel) : before.TracksKernel manager kernel := by
  obtain ⟨handle, registered, rfl⟩ := (World.tracksKernel_iff goesOn).mp tracked
  have earlier := acts.registered known registered
  obtain ⟨managing, present, -⟩ := id earlier
  exact (World.tracksKernel_iff (acts.steps.goesOn present goesOn)).mpr ⟨handle, earlier, rfl⟩

namespace World

variable {world : World}

/-- A connection is tracked under its identifier and its client. -/
theorem Managed.hasKernel (managed : world.Managed) {manager : Nat} {handle : KernelHandle}
    (registered : world.Registers manager handle) : world.HasKernel handle := by
  obtain ⟨object, known, tracked⟩ := registered
  exact (managed.kernels object (List.mem_of_getElem? known)).tracks tracked

theorem Managed.handle_eq (managed : world.Managed) {manager other : Nat}
    {first second : KernelHandle} (registered : world.Registers manager first)
    (also : world.Registers other second) (same : first.connection = second.connection) :
    first = second := by
  obtain ⟨object, present, kernelId, clientId⟩ := managed.hasKernel registered
  obtain ⟨held, there, sameId, sameClient⟩ := managed.hasKernel also
  rw [same] at present
  cases present.symm.trans there
  cases first
  cases second
  simp_all

/-- A run of a watcher makes its manager lose a connection that is not disposed only by forgetting
it with another one. -/
theorem Emerges.forgets (emerges : world.Emerges) {manager kernel status disposed : Nat}
    {handle : KernelHandle} (registered : world.Registers manager handle)
    (goesOn : world.isManagerStopped (.kernels manager) = false)
    (alive : ¬world.IsKernelDisposed handle.connection)
    (drops : world.Drops manager kernel status disposed handle) :
    Forgets manager handle.connection kernel world
      (world.runKernelWatch manager kernel status disposed).1 := by
  have managed := emerges.arises.reachable.managed
  obtain ⟨lives, ended, known, tells, sameClient⟩ := drops
  obtain ⟨kept, present, -, client⟩ := managed.hasKernel registered
  have faithful := emerges.sound.faithful ended (List.mem_of_getElem? known)
  have stopped := faithful.isStopped tells
  refine ⟨⟨status, disposed, rfl⟩, ?_, ⟨ended, kept, known, present, stopped, ?_⟩, ?_, ?_⟩
  · -- Its own end would be its disposal, since a manager that tracks it holds it.
    rintro rfl
    obtain ⟨held, there, isAlive⟩ := emerges.sound.held manager handle registered
    cases known.symm.trans there
    rw [KernelObject.isStopped, isAlive, Bool.not_true, Bool.or_false] at stopped
    exact alive ⟨ended, known, stopped⟩
  · rw [← sameClient, client]
  · exact (tracksKernel_iff goesOn).mpr ⟨handle, registered, rfl⟩
  · -- There is one handle for each connection, so it is not tracked under another one.
    rintro ⟨object, there, -, other, tracked, here⟩
    obtain ⟨earlier, kept⟩ :=
      (registers_runKernelWatch manager kernel status disposed manager other).mp
        ⟨object, there, tracked⟩
    cases managed.handle_eq earlier registered here
    exact kept ⟨rfl, lives, ended, known, tells, sameClient⟩

/-- What an act makes of a connection that a manager tracks: it stays tracked as long as the manager
goes on and it is not disposed, unless it is forgotten with another one. -/
theorem Emerges.keeps_or_forgets {later : World} (emerges : world.Emerges) (act : Act world later)
    {manager : Nat} {handle : KernelHandle} (registered : world.Registers manager handle)
    (goesOn : later.isManagerStopped (.kernels manager) = false)
    (alive : ¬later.IsKernelDisposed handle.connection) :
    later.Registers manager handle ∨
      ∃ other, Forgets manager handle.connection other world later := by
  have steps : Steps world later := (Acts.act act).steps
  cases act with
  | kept _ keeps =>
      rcases keeps.keeps emerges.sound manager handle registered with still | stopped | disposed
      · exact .inl still
      · cases goesOn.symm.trans stopped
      · exact absurd disposed alive
  | watched watcher kernel status disposed =>
      by_cases drops : manager = watcher ∧ world.Drops watcher kernel status disposed handle
      · obtain ⟨rfl, drops⟩ := drops
        obtain ⟨managing, known, -⟩ := id registered
        exact .inr ⟨kernel, emerges.forgets registered (steps.goesOn known goesOn)
          (fun before => alive (before.steps steps)) drops⟩
      · exact .inl ((registers_runKernelWatch _ _ _ _ _ _).mpr ⟨registered, drops⟩)

/-- What becomes of a connection that a manager tracks. -/
theorem Emerges.tracked_or_forgotten {later : World} (emerges : world.Emerges)
    (acts : Acts world later) {manager : Nat} {handle : KernelHandle}
    (registered : world.Registers manager handle)
    (goesOn : later.isManagerStopped (.kernels manager) = false)
    (alive : ¬later.IsKernelDisposed handle.connection) :
    later.Registers manager handle ∨ ∃ other start next, Acts world start ∧
      Forgets manager handle.connection other start next ∧ Acts next later := by
  induction acts with
  | refl => exact .inl registered
  | @tail middle last earlier act ih =>
      have step : Steps middle last := (Acts.act act).steps
      obtain ⟨managing, known, -⟩ := id registered
      obtain ⟨held, there, -⟩ :=
        (Acts.steps earlier).proceeds.kernelManagers.kept manager managing known
      have before : ¬middle.IsKernelDisposed handle.connection :=
        fun disposed => alive (disposed.steps step)
      rcases ih (step.goesOn there goesOn) before with kept | ⟨other, start, next, first, lost⟩
      · -- It is lost in the last act if at all.
        rcases (emerges.acts earlier).keeps_or_forgets act kept goesOn alive with still | lost
        · exact .inl still
        · obtain ⟨other, forgets⟩ := lost
          exact .inr ⟨other, middle, last, earlier, forgets, .refl last⟩
      · exact .inr ⟨other, start, next, first, lost.1, lost.2.trans (.act act)⟩

/-- The disposal of a manager disposes exactly those connections that it tracks. -/
theorem disposeManager_kernels (number : Nat) {kernel : Nat} {object : KernelObject}
    (present : world.kernel? kernel = some object) :
    (world.changeManager (.kernels number) disposeManager).IsKernelDisposed kernel ↔
      world.IsKernelDisposed kernel ∨ world.TracksKernel number kernel := by
  rw [changeManager]
  cases known : world.kernelManager? number with
  | none =>
      rw [changeKernelManager_of_absent known]
      simp [TracksKernel, known]
  | some managing =>
      cases alive : managing.manager.isDisposed with
      | true =>
          have done : Aside world (world.changeKernelManager number disposeManager.kernels) :=
            aside_changeKernelManager known (if_pos alive)
          rw [done.isKernelDisposed_iff]
          simp [TracksKernel, known, alive]
      | false =>
          have standing : world.kernelStandings[kernel]? =
              some (.ofConnection object.connection) := by
            rw [kernelStandings, List.getElem?_map, tables_connections_getElem?, present]
            rfl
          rw [isKernelDisposed_iff, isKernelDisposed_iff,
            kernelStandings_changeKernelManager known, foldl_standingsAfter_getElem?, standing]
          simp [TracksKernel, known, alive, disposeManager, Manager.dispose, disposesAt]

/-- While its manager goes on and it is not disposed, a connection that the manager made is tracked
exactly if it was not forgotten with another connection of its client. A list that does not name its
kernel disposes it exactly if it is tracked, and so does the disposal of the manager. -/
theorem Emerges.made_is_tracked_iff {connected later : World} (emerges : world.Emerges)
    {manager : Nat} {model : KernelModel}
    (connects : world.connectThroughKernels manager model = .ok connected)
    (acts : Acts connected later)
    (goesOn : later.isManagerStopped (.kernels manager) = false)
    (alive : ¬later.IsKernelDisposed world.kernels.length) :
    (later.TracksKernel manager world.kernels.length ↔
      ¬∃ other start next, Acts connected start ∧
        Forgets manager world.kernels.length other start next ∧ Acts next later) ∧
    (∀ models : List KernelModel, (∀ listed ∈ models, listed.id ≠ model.id) →
      ((later.applyListing (.kernels manager) (.kernels models)).IsKernelDisposed
          world.kernels.length ↔ later.TracksKernel manager world.kernels.length)) ∧
    ((later.changeManager (.kernels manager) disposeManager).IsKernelDisposed
        world.kernels.length ↔ later.TracksKernel manager world.kernels.length) := by
  have emerged : connected.Emerges := emerges.acts (acts_connectThroughKernels connects)
  have managed : later.Managed := (emerged.acts acts).arises.reachable.managed
  obtain ⟨object, present, rfl⟩ := exists_of_connectThroughKernels connects acts.steps
  obtain ⟨handle, place, -, ⟨held, made, -⟩, -, registers⟩ :=
    registers_connectThroughKernels connects
  have registered : connected.Registers manager handle := (registers _ _).mpr (.inr ⟨rfl, rfl⟩)
  rw [place] at made
  refine ⟨⟨?_, fun kept => ?_⟩, fun models unnamed => ?_, ?_⟩
  · rintro tracked ⟨other, start, next, first, forgets, rest⟩
    obtain ⟨start, there, -⟩ := Acts.kernel (first.trans (.act forgets.act)) made
    exact forgets.lost (rest.tracksKernel there goesOn tracked)
  · rw [tracksKernel_iff goesOn]
    refine ⟨handle, ?_, place⟩
    rw [← place] at alive kept
    exact (emerged.tracked_or_forgotten acts registered goesOn alive).resolve_right kept
  · rw [managed.applyListing_kernels manager models present, or_iff_right alive,
      and_iff_left unnamed]
  · rw [disposeManager_kernels manager present, or_iff_right alive]

instance (kernel : Nat) : Decidable (world.IsKernelDisposed kernel) :=
  decidable_of_iff _ isKernelDisposed_iff.symm

instance (manager kernel : Nat) : Decidable (world.TracksKernel manager kernel) :=
  decidable_of_iff
    ((world.kernelManager? manager).any fun object => !object.manager.isDisposed &&
      object.manager.connections.any fun handle => handle.connection = kernel)
    (by simp [TracksKernel, Option.any_eq_true])

/-- A world with a manager whose options name the client, and a connection that it made. -/
def clientShared : World :=
  scripted [
    ⟨.createManager "m" .kernels ⟨.off, { ConnectionOptions.usual with clientId := some "c" }⟩ true,
      false⟩,
    ⟨.connectThrough "m" "a" ⟨some ⟨"a", "python3"⟩, none⟩, false⟩]

/-- The second connection gets a name, the first one is disposed, and everything comes to rest. -/
def disposeFirst (connected : World) : World :=
  ((connected.nameKernel "b" 1).changeKernel 0 Connection.dispose).rest

theorem acts_disposeFirst : Acts world world.disposeFirst :=
  ((acts_nameKernel "b" 1).trans (acts_changeKernel fun _ => Connection.orderly_dispose)).trans
    acts_rest

/-- Nothing is left to run, and the manager goes on without the second connection, which is not
disposed. -/
def HasLostSecond (later : World) : Prop :=
  (later.ready.isEmpty = true ∧ later.paused.isEmpty = true) ∧
    later.isManagerStopped (.kernels 0) = false ∧
    ¬later.IsKernelDisposed 1 ∧ ¬later.TracksKernel 0 1

instance (later : World) : Decidable later.HasLostSecond :=
  inferInstanceAs (Decidable ((_ ∧ _) ∧ _ ∧ _ ∧ _))

/-- The manager makes a second connection, and loses it when the first one is disposed. Then neither
a list without kernels nor the disposal of the manager disposes it. -/
theorem exists_second :
    ∃ connected, clientShared.connectThroughKernels 0 ⟨"b", "python3"⟩ = .ok connected ∧
      connected.TracksKernel 0 1 ∧ connected.disposeFirst.HasLostSecond ∧
      ¬(connected.disposeFirst.applyListing (.kernels 0) (.kernels [])).IsKernelDisposed 1 ∧
      ¬(connected.disposeFirst.changeManager (.kernels 0) disposeManager).IsKernelDisposed 1 := by
  have evaluated : ((clientShared.connectThroughKernels 0 ⟨"b", "python3"⟩).toOption.any
      fun connected => decide (connected.TracksKernel 0 1 ∧ connected.disposeFirst.HasLostSecond ∧
        ¬(connected.disposeFirst.applyListing (.kernels 0) (.kernels [])).IsKernelDisposed 1 ∧
        ¬(connected.disposeFirst.changeManager (.kernels 0)
          disposeManager).IsKernelDisposed 1)) = true := by
    decide +kernel
  obtain ⟨connected, connects, evaluated⟩ := (Option.any_eq_true _ _).mp evaluated
  refine ⟨connected, ?_, of_decide_eq_true evaluated⟩
  cases outcome : clientShared.connectThroughKernels 0 ⟨"b", "python3"⟩ with
  | error error =>
      rw [outcome] at connects
      cases connects
  | ok made =>
      rw [outcome] at connects
      exact congrArg Except.ok (Option.some.inj connects)

/-- The second connection is not tracked any more, so it was forgotten with another one. -/
theorem made_is_tracked_iff_of_clientShared :
    clientShared.Emerges ∧ ∃ connected later,
      clientShared.connectThroughKernels 0 ⟨"b", "python3"⟩ = .ok connected ∧
      Acts connected later ∧ later.isManagerStopped (.kernels 0) = false ∧
      ¬later.IsKernelDisposed clientShared.kernels.length ∧
      ∃ other start next, Acts connected start ∧
        Forgets 0 clientShared.kernels.length other start next ∧ Acts next later := by
  obtain ⟨connected, connects, -, ⟨-, goesOn, alive, lost⟩, -⟩ := exists_second
  have second : clientShared.kernels.length = 1 := by decide +kernel
  rw [← second] at alive lost
  have emerges : clientShared.Emerges := emerges_scripted _
  have tracked := (emerges.made_is_tracked_iff connects acts_disposeFirst goesOn alive).1
  exact ⟨emerges, connected, connected.disposeFirst, connects, acts_disposeFirst, goesOn, alive,
    not_not.mp (tracked.not.mp lost)⟩

/-- A manager whose options name the client makes two connections, and the first one is disposed.
When everything has come to rest the manager goes on and the second connection is not disposed, but
it is not tracked any more, and neither a list without its kernel nor the disposal of the manager
disposes it. -/
theorem second_of_client_is_forgotten :
    clientShared.Emerges ∧ clientShared.kernels.length = 1 ∧
    ∃ connected, clientShared.connectThroughKernels 0 ⟨"b", "python3"⟩ = .ok connected ∧
      connected.TracksKernel 0 1 ∧ Acts connected connected.disposeFirst ∧
      connected.disposeFirst.HasLostSecond ∧
      ¬(connected.disposeFirst.applyListing (.kernels 0) (.kernels [])).IsKernelDisposed 1 ∧
      ¬(connected.disposeFirst.changeManager (.kernels 0) disposeManager).IsKernelDisposed 1 := by
  obtain ⟨connected, connects, tracked, lost⟩ := exists_second
  exact ⟨emerges_scripted _, by decide +kernel, connected, connects, tracked, acts_disposeFirst,
    lost⟩

end World

end KernelClient.Simulation
