import KernelClient.Proofs.Connection.KernelRestarts
import KernelClient.Proofs.Signal.Keeping
import KernelClient.Proofs.Simulation.Refusals
import KernelClient.Proofs.Simulation.SocketTurns

/-!
# Restarts that succeed

A restart listens to the status of the kernel before it asks the server, and waits for the kernel to
start once the server has restarted it. Whatever the kernel tells in between waits to be received as
well, so a restart whose kernel said that it was starting before the server answered waits for
nothing more.
-/

namespace KernelClient.Simulation

open Connection (Passes statusesIn)

namespace KernelObject

variable {object later : KernelObject} {listener : Nat} {told : List KernelStatus}

/-- What becomes of a connection while somebody listens to its status, with the statuses that it
tells. The connection changes and tells its new statuses, and others begin to listen, receive what
they were told, and cease to listen. -/
inductive Meanwhile (listener : Nat) (start : KernelObject) :
    List KernelStatus → KernelObject → Prop where
  | rests : Meanwhile listener start [] start
  | changes {told : List KernelStatus} {object : KernelObject}
      (earlier : Meanwhile listener start told object) (change : Connection.Change)
      (passes : Passes (· ≠ ·) object.connection.status (statusesIn change.2) change.1.status) :
      Meanwhile listener start (told ++ statusesIn change.2) (object.take change)
  | others {told : List KernelStatus} {object after : KernelObject}
      (earlier : Meanwhile listener start told object)
      (connection : after.connection = object.connection)
      (spares : object.status.Spares listener after.status) :
      Meanwhile listener start told after

/-- Whatever happens to a connection is a change that tells the new statuses. -/
theorem Meanwhile.event {start : KernelObject} (earlier : Meanwhile listener start told object)
    (event : Connection.Event) :
    Meanwhile listener start (told ++ statusesIn (event.change object.connection).2)
      (object.take (event.change object.connection)) :=
  earlier.changes _ (event.setsOnce object.connection).passes

/-- Others listen to a connection as they like. -/
theorem Meanwhile.byOthers {start after : KernelObject}
    (earlier : Meanwhile listener start told object)
    (connection : after.connection = object.connection)
    (done : Relation.ReflTransGen (Signal.ByOthers listener) object.status after.status) :
    Meanwhile listener start told after :=
  earlier.others connection (Signal.spares_of_others done)

theorem status_foldl_emit (effects : List Connection.Effect) (object : KernelObject) :
    (effects.foldl emit object).status = (statusesIn effects).foldl Signal.emit object.status := by
  induction effects generalizing object with
  | nil => rfl
  | cons effect rest ih =>
      rw [List.foldl_cons, ih]
      cases effect <;> rfl

theorem keeps_foldl_emit {capacity : Nat} (told : List KernelStatus) {heard : List KernelStatus}
    {signal : Signal KernelStatus} (keeps : signal.Keeps capacity listener heard) :
    (told.foldl Signal.emit signal).Keeps capacity listener (heard ++ told) := by
  induction told generalizing heard signal with
  | nil => rwa [List.append_nil]
  | cons status rest ih =>
      rw [List.foldl_cons, List.append_cons]
      exact ih (keeps.emit status)

variable {capacity : Nat} {heard : List KernelStatus}

/-- The listener is told what a change tells. -/
theorem keeps_take (change : Connection.Change)
    (keeps : object.status.Keeps capacity listener heard) :
    (object.take change).status.Keeps capacity listener (heard ++ statusesIn change.2) := by
  rw [take, status_foldl_emit]
  exact keeps_foldl_emit _ keeps

namespace Meanwhile

theorem keeps (meanwhile : object.Meanwhile listener told later)
    (keeps : object.status.Keeps capacity listener heard) :
    later.status.Keeps capacity listener (heard ++ told) := by
  induction meanwhile with
  | rests => rwa [List.append_nil]
  | changes earlier change passes ih =>
      rw [← List.append_assoc]
      exact keeps_take change ih
  | others earlier connection spares ih => exact ih.spares spares

theorem passes (meanwhile : object.Meanwhile listener told later) :
    Passes (· ≠ ·) object.connection.status told later.connection.status := by
  induction meanwhile with
  | rests => exact .stays _
  | changes earlier change passes ih =>
      rw [connection_take]
      exact ih.append passes
  | others earlier connection spares ih => rwa [connection]

end Meanwhile

end KernelObject

/-- The number under which a call listens to the status of a kernel. -/
def CallStage.listener? : CallStage → Option Nat
  | .restarting _ status _ _ | .awaitingStart _ status _ _ => some status
  | _ => none

/-- What a connection tells between the turns of a call that listens to it. -/
inductive Interleaved (kernel : Nat) : List CallTurn → List (List KernelStatus) → Prop where
  | ends (turn : CallTurn) : Interleaved kernel [turn] []
  | goesOn {turn next : CallTurn} {turns : List CallTurn} {told : List KernelStatus}
      {tolds : List (List KernelStatus)} {before after : KernelObject}
      (left : turn.after.kernel? kernel = some before)
      (found : next.before.kernel? kernel = some after)
      (meanwhile : ∀ listener, next.stage.listener? = some listener →
        before.Meanwhile listener told after)
      (rest : Interleaved kernel (next :: turns) tolds) :
      Interleaved kernel (turn :: next :: turns) (told :: tolds)

theorem starting_of_succeeds {received : List (Received KernelStatus)}
    (succeeds : received.findSome? Connection.restartOutcome? = some (.ok ())) :
    .value .starting ∈ received := by
  obtain ⟨item, member, outcome⟩ := List.exists_of_findSome?_eq_some succeeds
  have same : item = .value .starting := by
    unfold Connection.restartOutcome? at outcome
    split at outcome <;> simp_all
  exact same ▸ member

theorem waits_of_undecided {received : List (Received KernelStatus)}
    (undecided : received.findSome? Connection.restartOutcome? = none) :
    .value .starting ∉ received ∧ .closed ∉ received := by
  rw [List.findSome?_eq_none_iff] at undecided
  constructor
  · intro told
    cases undecided (.value .starting) told
  · intro ended
    cases undecided .closed ended

/-- What a turn comes to in which a restart waits for the kernel to start. It succeeds only if the
kernel has told so, and waits only if it has not. -/
inductive AwaitsStart (kernel listener disposed capacity : Nat) (heard : List KernelStatus)
    (status : KernelStatus) : World.Progress × World → Prop where
  | starts {value : CallValue} {after : World} {object : KernelObject}
      (told : .starting ∈ heard.rtake capacity) (known : after.kernel? kernel = some object)
      (same : object.connection.status = status) :
      AwaitsStart kernel listener disposed capacity heard status (.finished (.ok value), after)
  | fails (error : ServiceError) (after : World) :
      AwaitsStart kernel listener disposed capacity heard status (.finished (.error error), after)
  | waits {timer : Timer} {after : World} {object : KernelObject}
      (untold : .starting ∉ heard.rtake capacity) (known : after.kernel? kernel = some object)
      (same : object.connection.status = status)
      (keeps : object.status.Keeps capacity listener []) :
      AwaitsStart kernel listener disposed capacity heard status
        (.waiting (.awaitingStart kernel listener disposed timer), after)

/-- The statuses that a connection tells when the server has restarted its kernel: none if it knew
already. -/
def granting (connection : Connection) : List KernelStatus :=
  if connection.status = .restarting then [] else [.restarting]

theorem restarted_tells {connection : Connection} {change : Connection.Change}
    (restarts : connection.restarted = .ok change) :
    statusesIn change.2 = granting connection ∧ change.1.status = .restarting := by
  unfold Connection.restarted at restarts
  split at restarts
  case isTrue => cases restarts
  case isFalse alive =>
    cases restarts
    have set := Connection.setStatus_statusChange .restarting connection
    have cleared := (Connection.unconcerned_clear .disposed
      (Connection.setStatus .restarting connection).1).status
    dsimp only [Connection.Change.andThen]
    rw [Connection.statusesIn_append, Connection.statusesIn_eq_nil cleared.untold, List.append_nil,
      cleared.status, set.status_eq (Bool.eq_false_iff.mpr alive)]
    refine ⟨?_, rfl⟩
    unfold Connection.setStatus granting
    by_cases knows : connection.status = .restarting <;> simp [knows, alive] <;> rfl

/-- What a turn comes to in which a restart learns whether the server has answered. -/
inductive AwaitsAnswer (kernel listener disposed capacity : Nat) (heard : List KernelStatus)
    (connection : Connection) (slot : Slot KernelModel) : World.Progress × World → Prop where
  | fails (error : ServiceError) (after : World) :
      AwaitsAnswer kernel listener disposed capacity heard connection slot
        (.finished (.error error), after)
  | waits {after : World} {object : KernelObject} (known : after.kernel? kernel = some object)
      (keeps : object.status.Keeps capacity listener heard) :
      AwaitsAnswer kernel listener disposed capacity heard connection slot
        (.waiting (.restarting kernel listener disposed slot), after)
  | granted {result : World.Progress × World} {model : KernelModel}
      (answered : slot = .settled (.ok model))
      (awaits : AwaitsStart kernel listener disposed capacity (heard ++ granting connection)
        .restarting result) :
      AwaitsAnswer kernel listener disposed capacity heard connection slot result

namespace World

variable {world : World} {kernel listener disposed capacity : Nat} {object : KernelObject}
  {heard : List KernelStatus}

theorem kernel?_modifyKernel (known : world.kernel? kernel = some object)
    (change : KernelObject → KernelObject) :
    (world.modifyKernel kernel change).kernel? kernel = some (change object) := by
  rw [kernel?] at known
  simp [kernel?, modifyKernel, known]

theorem awaitsStart_awaitingStart (known : world.kernel? kernel = some object)
    (keeps : object.status.Keeps capacity listener heard) (disposed : Nat) (timer : Timer) :
    AwaitsStart kernel listener disposed capacity heard object.connection.status
      (world.runCall (.awaitingStart kernel listener disposed timer)) := by
  have starting := keeps.mem_drain .starting
  have drained := kernel?_modifyKernel known fun held => { held with
    status := (object.status.drain listener).2, disposed := (object.disposed.drain disposed).2 }
  simp only [runCall, runAwaitingStart, known]
  split
  case h_1 outcome found =>
    cases outcome with
    | error error => exact .fails error _
    | ok nothing =>
        have succeeds : ((object.status.drain listener).1).findSome? Connection.restartOutcome? =
            some (.ok ()) := by
          rcases Option.or_eq_some_iff.mp found with first | ⟨-, later⟩
          · exact first
          · split at later
            · cases later
            · split at later <;> cases later
        have told := starting.mp (starting_of_succeeds succeeds)
        exact .starts told (kernel?_modifyKernel drained _) rfl
  case h_2 undecided =>
    obtain ⟨undecided, -⟩ := Option.or_eq_none_iff.mp undecided
    obtain ⟨untold, goesOn⟩ := waits_of_undecided undecided
    exact .waits (fun told => untold (starting.mpr told)) drained rfl (keeps.drain goesOn)

theorem awaitsAnswer_runRestarting (known : world.kernel? kernel = some object)
    (keeps : object.status.Keeps capacity listener heard) (slot : Slot KernelModel) :
    AwaitsAnswer kernel listener disposed capacity heard object.connection slot
      (world.runRestarting kernel listener disposed slot) := by
  unfold runRestarting
  split
  case h_1 => exact .waits known keeps
  case h_2 error => exact .fails error _
  case h_3 model =>
    refine .granted rfl ?_
    rw [known]
    dsimp only
    split
    case h_1 error _ => exact .fails error _
    case h_2 change restarts =>
      obtain ⟨tells, status⟩ := restarted_tells restarts
      have there := kernel?_applyKernel known change
      have heardAll := KernelObject.keeps_take change keeps
      rw [tells] at heardAll
      have awaits := @awaitsStart_awaitingStart ((world.applyKernel kernel change).timer
        object.connection.options.restartTimeout.milliseconds).2 kernel listener capacity
        _ _ there heardAll disposed
      rw [KernelObject.connection_take, status] at awaits
      exact awaits _

theorem awaitsAnswer_restarting (known : world.kernel? kernel = some object)
    (keeps : object.status.Keeps capacity listener heard) (disposed : Nat)
    (slot : Slot KernelModel) :
    AwaitsAnswer kernel listener disposed capacity heard object.connection (world.check slot).1
      (world.runCall (.restarting kernel listener disposed slot)) := by
  have there := (congrArg (·[kernel]?) (aside_check slot world).kernels).trans known
  exact awaitsAnswer_runRestarting there keeps _

/-- A restart fails at once, or listens from then on and learns whether the server has answered. -/
theorem awaitsAnswer_begin (known : world.kernel? kernel = some object) :
    (∃ error after, world.runCall (.begin (.restart kernel)) = (.finished (.error error), after)) ∨
    ∃ slot, (∀ model, slot = .settled (.ok model) → world.HasRestarted (.begin (.restart kernel))) ∧
      AwaitsAnswer kernel object.status.next object.disposed.next object.status.capacity []
        object.connection slot (world.runCall (.begin (.restart kernel))) := by
  have opened : world.runCall (.begin (.restart kernel)) = world.beginRestart kernel := rfl
  rw [opened]
  simp only [beginRestart, known]
  split
  case h_1 error _ => exact .inl ⟨error, world, rfl⟩
  case h_2 accepts =>
    right
    have listening := kernel?_modifyKernel known fun held => { held with
      status := object.status.subscribe.2, disposed := object.disposed.subscribe.2 }
    have asked := aside_ask (Rest.Kernels.restart world.settings object.connection.model.id)
      (world.modifyKernel kernel fun held => { held with
        status := object.status.subscribe.2, disposed := object.disposed.subscribe.2 })
    have there := (congrArg (·[kernel]?) asked.kernels).trans listening
    refine ⟨_, fun model answered => ?_,
      awaitsAnswer_runRestarting there (Signal.keeps_subscribe _) _⟩
    exact ⟨object, model, known, accepts, (ask_modifyKernel _ kernel _ world).symm.trans answered⟩

end World

variable {kernel listener disposed capacity : Nat} {heard : List KernelStatus}
  {turns : List CallTurn} {tolds : List (List KernelStatus)} {object : KernelObject}
  {value : CallValue}

/-- Whether a connection passes from a status to its last one in some turns. -/
def EndsAfter (kernel : Nat) (turns : List CallTurn) (status : KernelStatus)
    (told : List KernelStatus) : Prop :=
  ∃ last object, turns.getLast? = some last ∧ last.after.kernel? kernel = some object ∧
    Passes (· ≠ ·) status told object.connection.status

theorem CallRun.stage_eq {stage : CallStage} {turn : CallTurn} {outcome : CallOutcome}
    (run : CallRun stage (turn :: turns) outcome) : turn.stage = stage := by
  cases run <;> rfl

theorem CallRun.not_fails {turn : CallTurn} {error : ServiceError} {after : World}
    (run : CallRun turn.stage (turn :: turns) (.ok value)) :
    turn.before.runCall turn.stage ≠ (.finished (.error error), after) := by
  intro fails
  obtain ⟨stage, before, after⟩ := turn
  cases run with
  | ends ends => cases ends.symm.trans fails
  | waits waiting rest => cases waiting.symm.trans fails

/-- A restart that succeeds while it waits for the kernel was told that it is starting. -/
theorem CallRun.starts {timer : Timer}
    (run : CallRun (.awaitingStart kernel listener disposed timer) turns (.ok value))
    (interleaved : Interleaved kernel turns tolds)
    (known : ∀ turn ∈ turns.head?, turn.before.kernel? kernel = some object)
    (keeps : object.status.Keeps capacity listener heard) :
    .starting ∈ heard ++ tolds.flatten ∧
      EndsAfter kernel turns object.connection.status tolds.flatten := by
  generalize waits : CallStage.awaitingStart kernel listener disposed timer = stage at run
  generalize succeeds : (Except.ok value : CallOutcome) = outcome at run
  induction run generalizing timer tolds object heard with
  | @ends stage before after outcome ends =>
      subst waits succeeds
      have turned := World.awaitsStart_awaitingStart (known ⟨_, before, after⟩ rfl) keeps
        disposed timer
      rw [ends] at turned
      cases interleaved with
      | ends =>
        cases turned with
        | starts told there same =>
          refine ⟨List.mem_append_left _ (List.mem_of_mem_drop told), _, _, rfl, there, ?_⟩
          rw [same]
          exact .stays _
  | @waits stage next before after turns outcome waiting rest ih =>
      subst waits
      have turned := World.awaitsStart_awaitingStart (known ⟨_, before, after⟩ rfl) keeps
        disposed timer
      rw [waiting] at turned
      cases turned with
      | waits untold there same empty =>
        cases interleaved with
        | ends => cases rest
        | goesOn left found meanwhile others =>
          cases there.symm.trans left
          have listens := meanwhile listener (by rw [rest.stage_eq]; rfl)
          obtain ⟨told, last, final, isLast, present, passes⟩ :=
            ih others (by simpa using found) (listens.keeps empty) rfl succeeds
          refine ⟨List.mem_append_right _ told, last, final, isLast, present, ?_⟩
          rw [← same]
          exact listens.passes.append passes

/-- The turns of a restart around the one in which it learns that the server has granted it, and the
statuses that its connection tells before and after that. -/
structure Grant (kernel : Nat) (turns : List CallTurn) (tolds : List (List KernelStatus)) where
  earlier : List CallTurn
  turn : CallTurn
  later : List CallTurn
  asked : List (List KernelStatus)
  since : List (List KernelStatus)
  connection : Connection
  turns_eq : turns = earlier ++ turn :: later
  tolds_eq : tolds = asked ++ since
  length_eq : asked.length = earlier.length
  granted : turn.before.HasRestarted turn.stage
  asks : ∀ listener disposed timer, turn.stage ≠ .awaitingStart kernel listener disposed timer
  known : (turn.before.kernel? kernel).map KernelObject.connection = some connection

namespace Grant

/-- What a restart has heard when it learns that the server has granted it: the last ones of the
statuses that were told since it began to listen. -/
def early (grant : Grant kernel turns tolds) (capacity : Nat) (before : List KernelStatus) :
    List KernelStatus :=
  (before ++ grant.asked.flatten ++ granting grant.connection).rtake capacity

/-- A restart that has heard that the kernel is starting waits for nothing more, and any other one
until it hears it. In the end the status is the last one that was told since the restart. -/
structure Decides (grant : Grant kernel turns tolds) (capacity : Nat)
    (before : List KernelStatus) : Prop where
  starts : .starting ∈ grant.since.flatten ↔ .starting ∉ grant.early capacity before
  ends : .starting ∈ grant.early capacity before → grant.since = []
  status : EndsAfter kernel turns .restarting grant.since.flatten

/-- The first turn. -/
def first {turn : CallTurn} {connection : Connection} (turns : List CallTurn)
    (tolds : List (List KernelStatus)) (granted : turn.before.HasRestarted turn.stage)
    (asks : ∀ listener disposed timer, turn.stage ≠ .awaitingStart kernel listener disposed timer)
    (known : (turn.before.kernel? kernel).map KernelObject.connection = some connection) :
    Grant kernel (turn :: turns) tolds where
  earlier := []
  turn := turn
  later := turns
  asked := []
  since := tolds
  connection := connection
  turns_eq := rfl
  tolds_eq := rfl
  length_eq := rfl
  granted := granted
  asks := asks
  known := known

theorem early_first {turn : CallTurn} {connection : Connection}
    (granted : turn.before.HasRestarted turn.stage)
    (asks : ∀ listener disposed timer, turn.stage ≠ .awaitingStart kernel listener disposed timer)
    (known : (turn.before.kernel? kernel).map KernelObject.connection = some connection) :
    (first turns tolds granted asks known).early capacity heard =
      (heard ++ granting connection).rtake capacity := by
  simp [early, first]

/-- A turn before. -/
def cons (turn : CallTurn) (told : List KernelStatus) (grant : Grant kernel turns tolds) :
    Grant kernel (turn :: turns) (told :: tolds) where
  earlier := turn :: grant.earlier
  turn := grant.turn
  later := grant.later
  asked := told :: grant.asked
  since := grant.since
  connection := grant.connection
  turns_eq := congrArg (turn :: ·) grant.turns_eq
  tolds_eq := congrArg (told :: ·) grant.tolds_eq
  length_eq := congrArg (· + 1) grant.length_eq
  granted := grant.granted
  asks := grant.asks
  known := grant.known

theorem early_cons (grant : Grant kernel turns tolds) (turn : CallTurn)
    (told : List KernelStatus) :
    (grant.cons turn told).early capacity heard = grant.early capacity (heard ++ told) := by
  simp [early, cons]

theorem Decides.cons {grant : Grant kernel turns tolds} {told : List KernelStatus}
    (decides : grant.Decides capacity (heard ++ told)) (turn : CallTurn) :
    (grant.cons turn told).Decides capacity heard where
  starts := by
    rw [early_cons]
    exact decides.starts
  ends := by
    rw [early_cons]
    exact decides.ends
  status := by
    obtain ⟨last, object, isLast, rest⟩ := decides.status
    exact ⟨last, object, List.getLast?_cons.trans (by rw [isLast]; rfl), rest⟩

end Grant

/-- What decides a restart from the turn on in which it learns that the server has granted it. -/
theorem CallRun.decides_granted {turn : CallTurn} {connection : Connection}
    (run : CallRun turn.stage (turn :: turns) (.ok value))
    (interleaved : Interleaved kernel (turn :: turns) tolds)
    (asks : ∀ listener disposed timer, turn.stage ≠ .awaitingStart kernel listener disposed timer)
    (granted : turn.before.HasRestarted turn.stage)
    (known : (turn.before.kernel? kernel).map KernelObject.connection = some connection)
    (awaits : AwaitsStart kernel listener disposed capacity (heard ++ granting connection)
      .restarting (turn.before.runCall turn.stage)) :
    ∃ grant : Grant kernel (turn :: turns) tolds, grant.Decides capacity heard := by
  refine ⟨.first turns tolds granted asks known, ?_⟩
  have early :=
    @Grant.early_first kernel capacity heard turns tolds turn connection granted asks known
  obtain ⟨stage, before, after⟩ := turn
  dsimp only at run awaits
  cases run with
  | ends ends =>
      rw [ends] at awaits
      cases interleaved with
      | ends =>
        cases awaits with
        | starts told there same =>
          rw [← early] at told
          refine ⟨iff_of_false List.not_mem_nil (not_not_intro told), fun _ => rfl, _, _, rfl,
            there, ?_⟩
          exact same ▸ .stays _
  | waits waiting rest =>
      rw [waiting] at awaits
      cases awaits with
      | waits untold there same empty =>
        cases interleaved with
        | ends => cases rest
        | goesOn left found meanwhile others =>
          cases there.symm.trans left
          have listens := meanwhile listener (by rw [rest.stage_eq]; rfl)
          obtain ⟨told, last, final, isLast, present, passes⟩ :=
            rest.starts others (by simpa using found) (listens.keeps empty)
          rw [← early] at untold
          refine ⟨iff_of_true told untold, fun early => absurd early untold, last, final,
            isLast, present, ?_⟩
          rw [← same]
          exact listens.passes.append passes

/-- What decides a restart in a turn in which it learns whether the server has answered, if it is
known how it goes on. -/
theorem CallRun.decides_asking {turn : CallTurn} {slot : Slot KernelModel}
    (run : CallRun turn.stage (turn :: turns) (.ok value))
    (interleaved : Interleaved kernel (turn :: turns) tolds)
    (asks : ∀ listener disposed timer, turn.stage ≠ .awaitingStart kernel listener disposed timer)
    (there : turn.before.kernel? kernel = some object)
    (answers : ∀ model, slot = .settled (.ok model) → turn.before.HasRestarted turn.stage)
    (turned : AwaitsAnswer kernel listener disposed capacity heard object.connection slot
      (turn.before.runCall turn.stage))
    (goesOn : ∀ told tolds object,
      CallRun (.restarting kernel listener disposed slot) turns (.ok value) →
      Interleaved kernel turns tolds →
      (∀ turn ∈ turns.head?, turn.before.kernel? kernel = some object) →
      object.status.Keeps capacity listener (heard ++ told) →
      ∃ grant : Grant kernel turns tolds, grant.Decides capacity (heard ++ told)) :
    ∃ grant : Grant kernel (turn :: turns) tolds, grant.Decides capacity heard := by
  generalize same : turn.before.runCall turn.stage = result at turned
  cases turned with
  | fails error last => exact (run.not_fails same).elim
  | granted answered awaits =>
      rw [← same] at awaits
      exact run.decides_granted interleaved asks (answers _ answered) (congrArg _ there) awaits
  | waits left held =>
      obtain ⟨stage, before, after⟩ := turn
      cases run with
      | ends ends => cases ends.symm.trans same
      | waits waiting rest =>
        cases waiting.symm.trans same
        cases interleaved with
        | ends => cases rest
        | goesOn before found meanwhile others =>
          cases left.symm.trans before
          have listens := meanwhile listener (by rw [rest.stage_eq]; rfl)
          obtain ⟨grant, decides⟩ :=
            goesOn _ _ _ rest others (by simpa using found) (listens.keeps held)
          exact ⟨grant.cons _ _, decides.cons _⟩

/-- What decides a restart that waits for the answer of the server. -/
theorem CallRun.decides_restarting {slot : Slot KernelModel}
    (run : CallRun (.restarting kernel listener disposed slot) turns (.ok value))
    (interleaved : Interleaved kernel turns tolds)
    (known : ∀ turn ∈ turns.head?, turn.before.kernel? kernel = some object)
    (keeps : object.status.Keeps capacity listener heard) :
    ∃ grant : Grant kernel turns tolds, grant.Decides capacity heard := by
  induction turns generalizing slot tolds object heard with
  | nil => cases run
  | cons turn turns ih =>
      have stage := run.stage_eq
      have there := known turn rfl
      have turned := World.awaitsAnswer_restarting there keeps disposed slot
      rw [← stage] at run turned
      have answers : ∀ model, (turn.before.check slot).1 = .settled (.ok model) →
          turn.before.HasRestarted turn.stage := by
        intro model answered
        rw [stage]
        exact ⟨model, answered⟩
      exact run.decides_asking interleaved (fun _ _ _ => stage ▸ nofun) there answers turned
        fun _ _ _ later others found held => ih later others found held

/-- What decides a restart that succeeds. It learns in one of its turns that the server has granted
it. If it has heard by then that the kernel is starting, it ends at once and leaves the kernel
restarting; otherwise the connection tells so after that, before the restart ends. -/
theorem restart_waits_unless_told
    (run : CallRun (.begin (.restart kernel)) turns (.ok value))
    (interleaved : Interleaved kernel turns tolds)
    (known : ∀ turn ∈ turns.head?, turn.before.kernel? kernel = some object) :
    ∃ grant : Grant kernel turns tolds, grant.Decides object.status.capacity [] := by
  cases turns with
  | nil => cases run
  | cons turn turns =>
      have stage := run.stage_eq
      have there := known turn rfl
      rw [← stage] at run
      rcases World.awaitsAnswer_begin there with ⟨error, last, fails⟩ | ⟨slot, answers, turned⟩
      · rw [← stage] at fails
        exact (run.not_fails fails).elim
      · rw [← stage] at answers turned
        exact run.decides_asking interleaved (fun _ _ _ => stage ▸ nofun) there answers turned
          fun _ _ _ later others found held => later.decides_restarting others found held

/-- A message by which the kernel tells that it is starting. -/
def startNotice : Message :=
  .create .iopub "status" "1" "kernel" "" (.ofFields [("execution_state", .string "starting")])
    .epoch

theorem startNotice_decode :
    (Frame.text startNotice.toJson.render).decode .legacy = .ok startNotice := by
  have valid : Message.checkShape startNotice.toJson = .ok () := by decide +kernel
  have reads : startNotice.ReadsBack WireProtocol.legacy.valueDepth :=
    ⟨by decide +kernel, by simp [startNotice, Message.create], rfl, rfl⟩
  exact Message.decode_legacy valid reads rfl

/-- What a restart waits with for the answer of the server. -/
def World.Progress.restarting? : World.Progress → Option (Nat × Nat × Nat × Slot KernelModel)
  | .waiting (.restarting kernel status disposed slot) => some (kernel, status, disposed, slot)
  | _ => none

def World.Progress.value? : World.Progress → Option CallValue
  | .finished (.ok value) => some value
  | _ => none

namespace World

theorem Progress.eq_of_restarting? {progress : Progress} {kernel status disposed : Nat}
    {slot : Slot KernelModel}
    (waits : progress.restarting? = some (kernel, status, disposed, slot)) :
    progress = .waiting (.restarting kernel status disposed slot) := by
  unfold restarting? at waits
  split at waits
  · cases waits
    rfl
  · cases waits

theorem Progress.eq_of_value? {progress : Progress} {value : CallValue}
    (ends : progress.value? = some value) : progress = .finished (.ok value) := by
  unfold value? at ends
  split at ends
  · cases ends
    rfl
  · cases ends

/-- A server that grants a restart after a second, and a connection to it. -/
def restartable : World :=
  scripted [
    answering .post "/api/kernels/k/restart" 200
      "\x7b\"id\": \"k\", \"name\": \"python3\"\x7d" 1000,
    ⟨.connectKernel "k" ⟨"k", "python3"⟩ .usual, false⟩]

/-- An observer receives what a connection has told. -/
theorem exists_kernel?_takeKernel {world : World} {observer : KernelObserver}
    {object : KernelObject} (known : world.kernel? observer.kernel = some object) :
    ∃ later, (world.takeKernel observer).2.kernel? observer.kernel = some later ∧
      later.connection = object.connection ∧
      later.status = (object.status.drain observer.status).2 := by
  simp only [takeKernel, known]
  exact ⟨_, kernel?_modifyKernel known _, rfl, rfl⟩

/-- Whoever holds the connection observes it from the beginning. -/
def firstObserver : KernelObserver := ⟨0, 0, 0, 0, 0, 0⟩

/-- The kernel tells that it is starting, its observer receives that, and a second is over. -/
def tellStarting (world : World) : World :=
  ((world.changeKernel 0 (Connection.dispatch .epoch startNotice)).takeKernel
    firstObserver).2.setClock 1000

/-- Whoever listens beside the observer was told that the kernel is starting. -/
theorem meanwhile_tellStarting {world : World} {object : KernelObject} {socket : Nat}
    (known : world.kernel? 0 = some object)
    (reading : object.connection.phase = .reading socket .legacy) :
    ∃ later, world.tellStarting.kernel? 0 = some later ∧ ∀ listener ≠ 0,
      object.Meanwhile listener
        (statusesIn (Connection.dispatch .epoch startNotice object.connection).2) later := by
  have applied :=
    kernel?_applyKernel known (Connection.dispatch .epoch startNotice object.connection)
  have arrives : Connection.Event.change (.frameArrived .epoch (.text startNotice.toJson.render))
      object.connection = Connection.dispatch .epoch startNotice object.connection :=
    Connection.frameArrived_of_decode reading startNotice_decode
  rw [← changeKernel_of_known known] at applied
  obtain ⟨later, present, connection, status⟩ :=
    @exists_kernel?_takeKernel _ firstObserver _ applied
  refine ⟨later, ?_, fun listener differs => ?_⟩
  · rw [tellStarting, setClock, kernel?, kernels_wake]
    exact present
  · have told : object.Meanwhile listener _ _ :=
      .event .rests (.frameArrived .epoch (.text startNotice.toJson.render))
    rw [arrives] at told
    refine told.byOthers connection (.single ?_)
    rw [status]
    exact .receives differs

/-- A restart whose kernel tells that it is starting before the server has answered. It succeeds as
soon as the server answers, and the kernel has told nothing since then. -/
theorem callRun_restartable :
    ∃ turns value object, CallRun (.begin (.restart 0)) turns (.ok value) ∧
      Interleaved 0 turns [[.starting]] ∧
      (∀ turn ∈ turns.head?, turn.before.kernel? 0 = some object) ∧
      ∃ grant : Grant 0 turns [[.starting]], grant.since = [] := by
  have present : (restartable.kernel? 0).isSome = true := by decide +kernel
  have between : ((restartable.runCall (.begin (.restart 0))).2.kernel? 0).map (fun object =>
      (object.connection.phase,
        statusesIn (Connection.dispatch .epoch startNotice object.connection).2)) =
        some (.reading 0 .legacy, [.starting]) := by
    decide +kernel
  have evaluated : (restartable.runCall (.begin (.restart 0))).1.restarting?.map (fun wait =>
      (wait.1, wait.2.1,
        ((restartable.runCall (.begin (.restart 0))).2.tellStarting.check
          wait.2.2.2).1.result?.map Except.isOk,
        ((restartable.runCall (.begin (.restart 0))).2.tellStarting.runCall
          (.restarting 0 wait.2.1 wait.2.2.1 wait.2.2.2)).1.value?.isSome)) =
        some (0, 1, some true, true) := by
    decide +kernel
  obtain ⟨object, known⟩ := Option.isSome_iff_exists.mp present
  obtain ⟨later, left, states⟩ := Option.map_eq_some_iff.mp between
  obtain ⟨⟨kernel, status, disposed, slot⟩, waits, ends⟩ := Option.map_eq_some_iff.mp evaluated
  simp only [Prod.mk.injEq] at states ends
  obtain ⟨reading, tells⟩ := states
  obtain ⟨rfl, rfl, answered, succeeds⟩ := ends
  obtain ⟨result, settled, granted⟩ := Option.map_eq_some_iff.mp answered
  obtain ⟨value, succeeds⟩ := Option.isSome_iff_exists.mp succeeds
  have begins : restartable.runCall (.begin (.restart 0)) =
      (.waiting (.restarting 0 1 disposed slot),
        (restartable.runCall (.begin (.restart 0))).2) :=
    Prod.ext (Progress.eq_of_restarting? waits) rfl
  generalize (restartable.runCall (.begin (.restart 0))).2 = asked at *
  obtain ⟨told, found, meanwhile⟩ := meanwhile_tellStarting left reading
  rw [tells] at meanwhile
  have finishes : asked.tellStarting.runCall (.restarting 0 1 disposed slot) =
      (.finished (.ok value), _) :=
    Prod.ext (Progress.eq_of_value? succeeds) rfl
  have grants : asked.tellStarting.HasRestarted (.restarting 0 1 disposed slot) := by
    cases result with
    | error error => cases granted
    | ok model => exact ⟨model, Slot.eq_of_result? settled⟩
  have asks : ∀ listener ended timer,
      CallStage.restarting 0 1 disposed slot ≠ .awaitingStart 0 listener ended timer :=
    nofun
  refine ⟨_, value, object, .waits begins (.ends finishes),
    .goesOn left found (fun listener listens => ?_) (.ends _), ?_, ?_⟩
  · cases listens
    exact meanwhile 1 Nat.one_ne_zero
  · simpa using known
  · exact ⟨(Grant.first [] [] grants asks (congrArg _ found)).cons _ _, rfl⟩

end World

/-- The restart decides as it does because it has heard before that the kernel is starting. -/
theorem restart_waits_unless_told_early :
    ∃ turns value object, CallRun (.begin (.restart 0)) turns (.ok value) ∧
      Interleaved 0 turns [[.starting]] ∧
      (∀ turn ∈ turns.head?, turn.before.kernel? 0 = some object) ∧
      ∃ grant : Grant 0 turns [[.starting]], grant.Decides object.status.capacity [] := by
  obtain ⟨turns, value, object, run, interleaved, known, -⟩ := World.callRun_restartable
  exact ⟨turns, value, object, run, interleaved, known,
    restart_waits_unless_told run interleaved known⟩

/-- A restart can succeed although the kernel has not told since the server granted it that it is
starting. -/
theorem not_restart_waits :
    ¬∀ kernel turns tolds value object, CallRun (.begin (.restart kernel)) turns (.ok value) →
      Interleaved kernel turns tolds →
      (∀ turn ∈ turns.head?, turn.before.kernel? kernel = some object) →
      ∀ grant : Grant kernel turns tolds, .starting ∈ grant.since.flatten := by
  intro waits
  obtain ⟨turns, value, object, run, interleaved, known, grant, nothing⟩ :=
    World.callRun_restartable
  have told := waits 0 turns _ value object run interleaved known grant
  rw [nothing] at told
  cases told

end KernelClient.Simulation
