import KernelClient.Proofs.Session.Handover
import KernelClient.Proofs.Simulation.Freezing
import KernelClient.Proofs.Simulation.Tasks

/-!
# The connection that a session owns

A session makes a connection when it gets another kernel and disposes the one before. What it has
made in all is kept beside the world here: at any time all of it is disposed but for the connection
to the kernel of its model, and once the session is disposed, all of it.
-/

namespace KernelClient.Simulation

/-- Each connection stays at its place and goes on with what it is for. -/
def KernelsContinue (before after : World) : Prop :=
  ∀ number object, before.kernel? number = some object →
    ∃ later, after.kernel? number = some later ∧ object.connection.Continues later.connection

/-- The connections that came to be between two worlds. -/
def newKernels (before after : World) : List Nat :=
  List.range' before.kernels.length (after.kernels.length - before.kernels.length)

theorem newKernels_congr {before placed : World} (same : placed.kernels = before.kernels)
    (after : World) : newKernels before after = newKernels placed after := by
  rw [newKernels, newKernels, same]

theorem KernelsContinue.isKernelDisposed {before after : World}
    (continues : KernelsContinue before after) {kernel : Nat}
    (disposed : before.IsKernelDisposed kernel) : after.IsKernelDisposed kernel := by
  obtain ⟨object, known, isDisposed⟩ := disposed
  obtain ⟨later, present, goesOn⟩ := continues kernel object known
  exact ⟨later, present, goesOn.disposed isDisposed⟩

theorem Evolves.kernelsContinue {before after : World} (evolves : Evolves before after) :
    KernelsContinue before after :=
  fun _ _ known => evolves.kernel known

theorem KernelsGrow.kernelsContinue {before after : World} (grows : KernelsGrow before after) :
    KernelsContinue before after := by
  intro number object known
  obtain ⟨later, present, goesOn⟩ := grows.kernel known
  exact ⟨later, present, goesOn.continues⟩

namespace World

variable {world : World}

/-- Carry out all that a session announces, in order. -/
def carrySessions (session : Nat) (options : ConnectionOptions) (effects : List Session.Effect)
    (world : World) : World :=
  effects.foldl (fun world effect => (world.carrySession session options effect).wake) world

theorem kernelsContinue_carrySessions (session : Nat) (options : ConnectionOptions)
    (effects : List Session.Effect) (world : World) :
    KernelsContinue world (world.carrySessions session options effects) :=
  KernelsGrow.kernelsContinue
    (.foldl (fun _ effect => kernelsGrow_carrySession session options effect) effects world)

/-- Only an effect that connects adds a connection. -/
theorem kernels_length_carrySession {effect : Session.Effect} (silent : effect.connects = false)
    (session : Nat) (options : ConnectionOptions) :
    (world.carrySession session options effect).wake.kernels.length = world.kernels.length := by
  rw [kernels_wake]
  cases effect
  case connectKernel => cases silent
  case disposeKernel kernel =>
    dsimp only [carrySession, changeKernel]
    split
    · rw [kernels_applyKernel, List.length_modify]
    · rfl
  all_goals rfl

theorem kernels_length_carrySessions {effects : List Session.Effect}
    (silent : ∀ effect ∈ effects, effect.connects = false) (session : Nat)
    (options : ConnectionOptions) (world : World) :
    (world.carrySessions session options effects).kernels.length = world.kernels.length := by
  induction effects generalizing world with
  | nil => rfl
  | cons effect rest ih =>
      rw [List.forall_mem_cons] at silent
      exact (ih silent.2 _).trans (kernels_length_carrySession silent.1 session options)

/-- What a session announces to dispose is disposed in the end. -/
theorem isKernelDisposed_carrySessions {kernel : Nat} {effects : List Session.Effect}
    (announced : .disposeKernel kernel ∈ effects) (session : Nat) (options : ConnectionOptions)
    {object : KernelObject} (known : world.kernel? kernel = some object) :
    (world.carrySessions session options effects).IsKernelDisposed kernel := by
  obtain ⟨earlier, rest, rfl⟩ := List.append_of_mem announced
  rw [carrySessions, List.foldl_append, List.foldl_cons]
  obtain ⟨before, there, -⟩ := kernelsContinue_carrySessions session options earlier world _ _ known
  have disposed : (world.carrySessions session options earlier |>.changeKernel kernel
      Connection.dispose).IsKernelDisposed kernel :=
    exists_disposed_of_disposeKernel there
  exact (kernelsContinue_carrySessions session options rest _).isKernelDisposed
    (kernelsGrow_wake.kernelsContinue.isKernelDisposed disposed)

theorem carrySessions_append (session : Nat) (options : ConnectionOptions)
    (first second : List Session.Effect) :
    world.carrySessions session options (first ++ second) =
      (world.carrySessions session options first).carrySessions session options second :=
  List.foldl_append

/-- A connection that is announced first is the next one. -/
theorem carrySessions_connect (model? : Option KernelModel) (next session : Nat)
    (options : ConnectionOptions) (world : World) :
    let connected := world.carrySessions session options
      (model?.map (Session.Effect.connectKernel next)).toList
    connected.kernels.length = world.kernels.length + model?.toList.length ∧
      ∀ model, model? = some model → ∃ object,
        connected.kernel? world.kernels.length = some object ∧
        object.connection.model = model := by
  cases model? with
  | none => exact ⟨rfl, by simp⟩
  | some model =>
      have carried : (world.carrySessions session options [.connectKernel next model]).kernels =
          (world.connectKernel model options).kernels :=
        kernels_wake
      refine ⟨?_, ?_⟩
      · obtain ⟨connection, tables⟩ := world.tables_connectKernel model options
        have count := congrArg (fun tables => tables.connections.length) tables
        simpa [carried, World.tables] using count
      · rintro _ ⟨⟩
        obtain ⟨client, known⟩ := world.kernel?_connectKernel model options
        exact ⟨_, (congrArg (·[world.kernels.length]?) carried).trans known, rfl⟩

end World

/-- Of the connections that a session has made, it has the one to the kernel that it should be
connected to, and all others are disposed. -/
structure Owns (world : World) (made : List Nat) (session : Session) : Prop where
  present : session.kernel.isSome = session.wanted?.isSome
  owned : ∀ kernel, session.kernel = some kernel → kernel ∈ made ∧
    ∃ object, world.kernel? kernel = some object ∧
      session.wanted?.map KernelModel.id = some object.connection.model.id
  others : ∀ kernel ∈ made, session.kernel ≠ some kernel → world.IsKernelDisposed kernel

namespace Owns

variable {before after world : World} {made : List Nat} {session : Session}

theorem continues (owns : Owns before made session) (continues : KernelsContinue before after) :
    Owns after made session where
  present := owns.present
  owned kernel held := by
    obtain ⟨member, object, known, named⟩ := owns.owned kernel held
    obtain ⟨later, there, goesOn⟩ := continues kernel object known
    exact ⟨member, later, there, by rw [named, goesOn.model]⟩
  others kernel member other := continues.isKernelDisposed (owns.others kernel member other)

/-- A change that leaves the connection alone, and all that it announces. -/
theorem leaves {change : Session.Change} (owns : Owns world made session)
    (leaves : session.Leaves change) (number : Nat) (options : ConnectionOptions) :
    Owns (world.carrySessions number options change.2)
      (made ++ newKernels world (world.carrySessions number options change.2)) change.1 := by
  have noneNew : newKernels world (world.carrySessions number options change.2) = [] := by
    rw [newKernels, World.kernels_length_carrySessions leaves.silent, Nat.sub_self]
    rfl
  have same : Owns world made change.1 := {
    present := by
      have wanted := congrArg Option.isSome leaves.wanted
      rw [Option.isSome_map, Option.isSome_map] at wanted
      rw [leaves.kernel, wanted, owns.present]
    owned := by
      rw [leaves.kernel, leaves.wanted]
      exact owns.owned
    others := by
      rw [leaves.kernel]
      exact owns.others }
  rw [noneNew, List.append_nil]
  exact same.continues (World.kernelsContinue_carrySessions number options change.2 world)

/-- A change that hands over, and all that it announces. -/
theorem handsOver {change : Session.Change} {previous : Option Nat}
    (handsOver : Session.HandsOver world.kernels.length previous change)
    (there : ∀ kernel, previous = some kernel → ∃ object, world.kernel? kernel = some object)
    (others : ∀ kernel ∈ made, previous ≠ some kernel → world.IsKernelDisposed kernel)
    (number : Nat) (options : ConnectionOptions) :
    Owns (world.carrySessions number options change.2)
      (made ++ newKernels world (world.carrySessions number options change.2)) change.1 := by
  obtain ⟨held, rest, effects, silent, disposes⟩ := handsOver
  obtain ⟨count, connects⟩ := World.carrySessions_connect change.1.wanted? world.kernels.length
    number options world
  have later := World.kernelsContinue_carrySessions number options rest
    (world.carrySessions number options
      (change.1.wanted?.map (.connectKernel world.kernels.length)).toList)
  have new : newKernels world (world.carrySessions number options change.2) =
      List.range' world.kernels.length change.1.wanted?.toList.length := by
    rw [newKernels, effects, World.carrySessions_append,
      World.kernels_length_carrySessions silent, count, Nat.add_sub_cancel_left]
  rw [new]
  refine ⟨by rw [held, Option.isSome_map], fun kernel owned => ?_, fun kernel member other => ?_⟩
  · obtain ⟨model, wanted, rfl⟩ := Option.map_eq_some_iff.mp (held ▸ owned)
    obtain ⟨object, known, named⟩ := connects model wanted
    obtain ⟨last, present, goesOn⟩ := later _ object known
    rw [effects, World.carrySessions_append]
    exact ⟨by simp [wanted], last, present, by rw [goesOn.model, named, wanted]; rfl⟩
  · -- What is new is what the session has now, so a connection that it does not have is older.
    have older : kernel ∈ made := by
      refine (List.mem_append.mp member).resolve_right fun isNew => other ?_
      cases wanted : change.1.wanted? with
      | none => simp [wanted] at isNew
      | some model =>
          obtain rfl : kernel = world.kernels.length := by simpa [wanted] using isNew
          rw [held, wanted]
          rfl
    by_cases had : previous = some kernel
    · obtain ⟨object, known⟩ := there kernel had
      refine World.isKernelDisposed_carrySessions ?_ number options known
      rw [effects]
      exact List.mem_append_right _ (disposes kernel had)
    · exact (World.kernelsContinue_carrySessions number options change.2 world).isKernelDisposed
        (others kernel older had)

/-- A session that is changed, with all that it announces. -/
theorem changeSession {number : Nat} {object : SessionObject}
    {step : Session → Session.Change} (known : world.session? number = some object)
    (owns : Owns world made object.session)
    (changes : object.session.Leaves (step object.session) ∨
      Session.HandsOver world.kernels.length object.session.kernel (step object.session)) :
    ∃ later, (world.changeSession number step).session? number = some later ∧
      Owns (world.changeSession number step)
        (made ++ newKernels world (world.changeSession number step)) later.session := by
  let placed := (world.modifySession number fun held =>
    { held with session := (step object.session).1 }).wake
  have sameKernels : placed.kernels = world.kernels := World.kernels_wake
  have continues : KernelsContinue world placed :=
    (KernelsGrow.of_eq sameKernels).kernelsContinue
  have changed : world.changeSession number step =
      placed.carrySessions number object.options (step object.session).2 := by
    rw [World.changeSession, known]
    rfl
  refine ⟨object.take (step object.session), ?_, ?_⟩
  · have present : world.sessions[number]? = some object := known
    obtain ⟨sessions, -, -⟩ := World.sessionOnly_changeSession number step world
    simp [World.session?, sessions, present]
  · rw [changed, newKernels_congr sameKernels, SessionObject.take_session]
    rcases changes with leaves | handsOver
    · exact (owns.continues continues).leaves leaves number object.options
    · rw [← sameKernels] at handsOver
      refine .handsOver handsOver (fun kernel held => ?_) (fun kernel member other => ?_) _ _
      · obtain ⟨-, earlier, there, -⟩ := owns.owned kernel held
        obtain ⟨later, present, -⟩ := continues kernel earlier there
        exact ⟨later, present⟩
      · exact continues.isKernelDisposed (owns.others kernel member other)

/-- A session that is new. -/
theorem connectSession (model : SessionModel) (options : ConnectionOptions) (world : World) :
    ∃ object,
      (world.connectSession model options).session? world.sessions.length = some object ∧
      Owns (world.connectSession model options)
        (newKernels world (world.connectSession model options)) object.session := by
  let change := Session.create model world.kernels.length
  let added : World := { world with sessions := world.sessions ++ [.create change.1 options] }
  let placed := (added.modifySession world.sessions.length fun held =>
    { held with session := change.1 }).wake
  have sameKernels : placed.kernels = world.kernels := World.kernels_wake
  refine ⟨.create change.1 options, ?_, ?_⟩
  · obtain ⟨sessions, -, -⟩ := World.sessionOnly_connectSession model options world
    rw [World.session?, sessions]
    exact List.getElem?_concat_length
  · have connects : Session.HandsOver placed.kernels.length none change :=
      sameKernels ▸ Session.handsOver_create model world.kernels.length
    rw [newKernels_congr sameKernels, ← List.nil_append (newKernels placed _)]
    exact handsOver connects (by simp) (by simp) world.sessions.length options

end Owns

/-- What a session has made in a world. It begins with a model; after that fresh models arrive and
it is disposed or shut down, in any order, and in between goes on whatever else there is that does
not change it. -/
inductive World.HasMade (number : Nat) : World → List Nat → Prop where
  | begins {world : World} (model : SessionModel) (options : ConnectionOptions)
      (next : world.sessions.length = number) :
      HasMade number (world.connectSession model options)
        (newKernels world (world.connectSession model options))
  | updated {world : World} {made : List Nat} (hasMade : HasMade number world made)
      (model : SessionModel) :
      HasMade number (world.updateSession number model)
        (made ++ newKernels world (world.updateSession number model))
  | disposed {world : World} {made : List Nat} (hasMade : HasMade number world made) :
      HasMade number (world.changeSession number Session.dispose)
        (made ++ newKernels world (world.changeSession number Session.dispose))
  | shutDown {world : World} {made : List Nat} (hasMade : HasMade number world made) :
      HasMade number (world.changeSession number Session.shutDown)
        (made ++ newKernels world (world.changeSession number Session.shutDown))
  | aside {world after : World} {made : List Nat} (hasMade : HasMade number world made)
      (kernels : KernelsContinue world after)
      (session : ∀ object, world.session? number = some object →
        ∃ later, after.session? number = some later ∧ later.session = object.session) :
      HasMade number after made

namespace World.HasMade

variable {world : World} {number : Nat} {made : List Nat}

theorem owns (hasMade : world.HasMade number made) :
    ∃ object, world.session? number = some object ∧ Owns world made object.session := by
  induction hasMade with
  | begins model options next => exact next ▸ Owns.connectSession model options _
  | updated _ model ih =>
      obtain ⟨object, known, owns⟩ := ih
      exact owns.changeSession known (Session.leaves_or_handsOver_update model _ _)
  | disposed _ ih =>
      obtain ⟨object, known, owns⟩ := ih
      exact owns.changeSession known (Session.leaves_or_handsOver_dispose _ _)
  | shutDown _ ih =>
      obtain ⟨object, known, owns⟩ := ih
      exact owns.changeSession known (Session.leaves_or_handsOver_shutDown _ _)
  | aside _ kernels session ih =>
      obtain ⟨object, known, owns⟩ := ih
      obtain ⟨later, present, same⟩ := session object known
      exact ⟨later, present, same ▸ owns.continues kernels⟩

end World.HasMade

/-- A run of a session goes on from one world to another. -/
def RunsOn (number : Nat) (before after : World) : Prop :=
  ∀ made, before.HasMade number made → ∃ more, after.HasMade number (made ++ more)

namespace RunsOn

variable {number : Nat} {before middle after : World}

theorem refl (number : Nat) (world : World) : RunsOn number world world :=
  fun _ hasMade => ⟨[], (List.append_nil _).symm ▸ hasMade⟩

theorem trans (first : RunsOn number before middle) (second : RunsOn number middle after) :
    RunsOn number before after := by
  intro made hasMade
  obtain ⟨more, earlier⟩ := first made hasMade
  obtain ⟨last, later⟩ := second _ earlier
  exact ⟨more ++ last, List.append_assoc made more last ▸ later⟩

theorem foldl {Item : Type} {step : World → Item → World}
    (runsOn : ∀ world item, RunsOn number world (step world item)) (items : List Item)
    (world : World) : RunsOn number world (items.foldl step world) := by
  induction items generalizing world with
  | nil => exact .refl number world
  | cons item rest ih => exact (runsOn world item).trans (ih _)

theorem aside (kernels : KernelsContinue before after)
    (same : after.session? number = before.session? number) : RunsOn number before after := by
  intro made hasMade
  refine ⟨[], (List.append_nil made).symm ▸ hasMade.aside kernels fun object known => ?_⟩
  exact ⟨object, same.trans known, rfl⟩

end RunsOn

namespace World

variable {world : World} {number : Nat}

/-- A change of another session. -/
theorem runsOn_elsewhere {session : Nat} (other : session ≠ number)
    (step : Session → Session.Change) : RunsOn number world (world.changeSession session step) := by
  obtain ⟨sessions, -, -⟩ := sessionOnly_changeSession session step world
  refine .aside (kernelsGrow_changeSession session step).kernelsContinue ?_
  simp [session?, sessions, other]

theorem runsOn_updateSession (session : Nat) (model : SessionModel) :
    RunsOn number world (world.updateSession session model) := by
  by_cases own : session = number
  · exact own ▸ fun _ hasMade => ⟨_, hasMade.updated model⟩
  · exact runsOn_elsewhere own _

theorem runsOn_disposeSession (session : Nat) :
    RunsOn number world (world.changeSession session Session.dispose) := by
  by_cases own : session = number
  · exact own ▸ fun _ hasMade => ⟨_, hasMade.disposed⟩
  · exact runsOn_elsewhere own _

theorem runsOn_shutDownSession (session : Nat) :
    RunsOn number world (world.changeSession session Session.shutDown) := by
  by_cases own : session = number
  · exact own ▸ fun _ hasMade => ⟨_, hasMade.shutDown⟩
  · exact runsOn_elsewhere own _

theorem runsOn_wake : RunsOn number world world.wake :=
  .aside kernelsGrow_wake.kernelsContinue (congrArg (·[number]?) (kernelsOnly_wake world).sessions)

/-- Whatever a manager of sessions does to those that it tracks, such as with a list that it has
received. -/
theorem runsOn_changeSessionManager (manager : Nat)
    (step : SessionManager → Manager.Change SessionModel SessionHandle) :
    RunsOn number world (world.changeSessionManager manager step) := by
  have carried (world : World) (effect : Manager.Effect SessionModel SessionHandle) :
      RunsOn number world (world.carrySessionManager manager effect).wake := by
    refine .trans ?_ runsOn_wake
    cases effect
    case disposeConnection handle => exact runsOn_disposeSession handle.connection
    case updateConnection handle model => exact runsOn_updateSession handle.connection model
    all_goals exact .aside (KernelsGrow.of_eq rfl).kernelsContinue rfl
  unfold changeSessionManager
  split
  case h_1 object _ =>
    have placed : RunsOn number world (world.modifySessionManager manager fun managing =>
        { managing with manager := (step object.manager).1 }) :=
      .aside (KernelsGrow.of_eq rfl).kernelsContinue rfl
    exact (placed.trans runsOn_wake).trans (.foldl carried _ _)
  case h_2 => exact .refl number world

/-- What is made of the answer to a request to change a session. -/
theorem runsOn_runPatching (session : Nat) (slot : Slot SessionModel) :
    RunsOn number world (world.runPatching session slot).2 := by
  unfold runPatching
  split
  · exact .refl number world
  · exact .refl number world
  · exact runsOn_updateSession session _

theorem runsOn_runChangingKernel (session : Nat) (name : Option String)
    (slot : Slot SessionModel) :
    RunsOn number world (world.runChangingKernel session name slot).2 := by
  have brought (name : String) (kernel : Nat) (world : World) :
      RunsOn number world (world.bringKernel name kernel) := by
    refine .aside (acts_bringKernel name kernel).steps.evolves.kernelsContinue ?_
    unfold bringKernel watchKernel
    cases world.kernel? kernel <;> rfl
  unfold runChangingKernel
  split
  · exact .refl number world
  · exact .refl number world
  case h_3 model =>
    refine (runsOn_updateSession session model).trans ?_
    dsimp only
    split
    · exact .refl number _
    · cases name with
      | none => exact .refl number _
      | some name => exact brought name _ _

/-- What is made of the answer to a request to shut a session down. -/
theorem runsOn_runEndingSession (session : Nat) (slot : Slot Unit) :
    RunsOn number world (world.runEndingSession session slot).2 := by
  unfold runEndingSession
  split
  · exact .refl number world
  · exact .refl number world
  · exact runsOn_shutDownSession session

/-- A session that is not disposed has a connection if and only if its model has a kernel, and it is
one to that kernel; whatever else it has made is disposed. Once it is disposed, all that it has made
is, and no model makes it connect again. -/
theorem HasMade.owns_one_kernel {made : List Nat} (hasMade : world.HasMade number made) :
    ∃ object, world.session? number = some object ∧
      (object.session.isDisposed = false →
        object.session.kernel.isSome = object.session.model.kernel.isSome ∧
        (∀ kernel, object.session.kernel = some kernel →
          kernel ∈ made ∧ ∃ held, world.kernel? kernel = some held ∧
            Session.kernelId? object.session.model = some held.connection.model.id) ∧
        ∀ kernel ∈ made, object.session.kernel ≠ some kernel → world.IsKernelDisposed kernel) ∧
      (object.session.isDisposed = true →
        object.session.kernel = none ∧
        (∀ kernel ∈ made, world.IsKernelDisposed kernel) ∧
        ∀ model, (world.updateSession number model).kernels = world.kernels) := by
  obtain ⟨object, known, owns⟩ := hasMade.owns
  refine ⟨object, known, fun alive => ?_, fun disposed => ?_⟩
  · have wanted : object.session.wanted? = object.session.model.kernel := by
      simp [Session.wanted?, alive]
    refine ⟨wanted ▸ owns.present, fun kernel held => ?_, owns.others⟩
    obtain ⟨member, connection, present, named⟩ := owns.owned kernel held
    exact ⟨member, connection, present, by rw [Session.kernelId?, ← wanted, named]⟩
  · have gone : object.session.kernel = none := by
      have present := owns.present
      simpa [Session.wanted?, disposed] using present
    refine ⟨gone, fun kernel member => owns.others kernel member (by simp [gone]), fun model => ?_⟩
    have refused : (Session.update model world.kernels.length object.session).2 = [] := by
      rw [Session.update_of_isDisposed disposed]
    rw [updateSession, changeSession, known]
    dsimp only
    rw [applySession, refused]
    exact kernels_wake

/-- A session whose kernel was replaced. -/
def replacing : World :=
  ((create default none).connectSession sessionA .usual).updateSession 0
    { sessionA with kernel := some ⟨"m", "python3"⟩ }

theorem hasMade_replacing : replacing.HasMade 0 [0, 1] := by
  have first : newKernels (create default none)
      ((create default none).connectSession sessionA .usual) = [0] := by
    decide +kernel
  have second : newKernels ((create default none).connectSession sessionA .usual) replacing =
      [1] := by
    decide +kernel
  have begins : ((create default none).connectSession sessionA .usual).HasMade 0 _ :=
    .begins sessionA .usual rfl
  have replaces := begins.updated { sessionA with kernel := some ⟨"m", "python3"⟩ }
  rw [first] at replaces
  rwa [← second]

/-- The kernel of a session is replaced, and then the session is disposed. -/
theorem owned_kernels_of_replacing :
    replacing.HasMade 0 [0, 1] ∧ replacing.IsKernelDisposed 0 ∧
    (∃ held, replacing.kernel? 1 = some held ∧ held.connection.model.id = "m") ∧
    (∀ kernel ∈ [0, 1], (replacing.changeSession 0 Session.dispose).IsKernelDisposed kernel) ∧
    ((replacing.changeSession 0 Session.dispose).updateSession 0 sessionA).kernels =
      (replacing.changeSession 0 Session.dispose).kernels := by
  have facts : (replacing.session? 0).map (fun object =>
      (object.session.isDisposed, object.session.kernel,
        Session.kernelId? object.session.model)) = some (false, some 1, some "m") := by
    decide +kernel
  obtain ⟨object, known, owns, -⟩ := hasMade_replacing.owns_one_kernel
  rw [known] at facts
  obtain ⟨alive, held, named⟩ : object.session.isDisposed = false ∧
      object.session.kernel = some 1 ∧ Session.kernelId? object.session.model = some "m" := by
    simpa using facts
  obtain ⟨-, owned, others⟩ := owns alive
  obtain ⟨-, connection, present, same⟩ := owned 1 held
  -- Nothing is made by the disposal.
  have ends := hasMade_replacing.disposed
  have noneNew : newKernels replacing (replacing.changeSession 0 Session.dispose) = [] := by
    decide +kernel
  rw [noneNew, List.append_nil] at ends
  obtain ⟨last, after, -, gone⟩ := ends.owns_one_kernel
  have disposed : ((replacing.changeSession 0 Session.dispose).session? 0).map (fun object =>
      object.session.isDisposed) = some true := by
    decide +kernel
  rw [after] at disposed
  obtain ⟨-, all, refused⟩ := gone (by simpa using disposed)
  refine ⟨hasMade_replacing, others 0 (by simp) (by simp [held]),
    ⟨connection, present, ?_⟩, all, refused sessionA⟩
  exact Option.some.inj (same.symm.trans named)

end World

end KernelClient.Simulation
