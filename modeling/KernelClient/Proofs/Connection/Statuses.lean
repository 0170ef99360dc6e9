import KernelClient.Proofs.Connection.Coherence
import KernelClient.Proofs.Connection.Stillness
import Mathlib.Data.List.Chain

/-!
# The statuses of the kernel that a connection tells

A connection tells every new status of the kernel and nothing else: the last one that was told is
the present one, and no one is told twice in a row. An event sets the status at most once, and
before it has done anything to the requests; so when a status is told that clears the connection,
all requests that were waiting have been rejected.
-/

namespace KernelClient

/-- Why a new status clears a connection, if it does. -/
def KernelStatus.clearing? : KernelStatus → Option Connection.Clearing
  | .dead => some .death
  | .autoRestarting => some .autoRestart
  | _ => none

namespace Connection

/-- A state takes some values one after the other, each of which is allowed after the one before,
and has the last one in the end. -/
inductive Passes {State : Type} (Allowed : State → State → Prop) :
    State → List State → State → Prop where
  | stays (state : State) : Passes Allowed state [] state
  | goesOn {first second last : State} {rest : List State} (allowed : Allowed first second)
      (passes : Passes Allowed second rest last) : Passes Allowed first (second :: rest) last

namespace Passes

variable {State : Type} {Allowed : State → State → Prop} {first second last : State}
  {values more : List State}

theorem append (start : Passes Allowed first values second)
    (rest : Passes Allowed second more last) : Passes Allowed first (values ++ more) last := by
  induction start with
  | stays state => exact rest
  | goesOn allowed passes later => exact .goesOn allowed (later rest)

theorem once (allowed : Allowed first second) : Passes Allowed first [second] second :=
  .goesOn allowed (.stays second)

theorem last_eq (passes : Passes Allowed first values last) : last = values.getLastD first := by
  induction passes with
  | stays state => rfl
  | goesOn allowed passes later => rw [List.getLastD_cons, later]

theorem isChain (passes : Passes Allowed first values last) :
    List.IsChain Allowed (first :: values) := by
  induction passes with
  | stays state => exact List.isChain_singleton state
  | goesOn allowed passes later => exact List.isChain_cons_cons.mpr ⟨allowed, later⟩

end Passes

/-- The statuses of the kernel that effects tell, in order. -/
def statusesIn (effects : List Effect) : List KernelStatus :=
  effects.filterMap fun
    | .status status => some status
    | _ => none

@[simp]
theorem statusesIn_append (first second : List Effect) :
    statusesIn (first ++ second) = statusesIn first ++ statusesIn second :=
  List.filterMap_append

theorem statusesIn_eq_nil {effects : List Effect}
    (untold : ∀ effect ∈ effects, effect.topic ≠ .status) : statusesIn effects = [] := by
  refine List.filterMap_eq_nil_iff.mpr fun effect member => ?_
  have other := untold effect member
  cases effect with
  | status => exact absurd rfl other
  | _ => rfl

variable {connection before after : Connection} {change : Change} {next : Connection → Change}

theorem unconcerned_clearFor (status : KernelStatus) (connection : Connection) :
    Unconcerned connection (clearFor status connection) := by
  cases status with
  | dead | autoRestarting => exact unconcerned_clear ..
  | _ => exact .refl connection

/-- A status that clears a connection rejects all requests. -/
theorem rejects_clearFor {status : KernelStatus} {cause : Clearing}
    (clears : status.clearing? = some cause) {entry : String × PendingReply}
    (waits : entry ∈ connection.pending) :
    .settled entry.2.key (.error cause.error) ∈ (clearFor status connection).2 := by
  have rejected : ∀ error, .settled entry.2.key (.error error) ∈
      rejections error connection.pending :=
    fun error => List.mem_map.mpr ⟨entry, waits, rfl⟩
  cases status with
  | dead | autoRestarting =>
      cases clears
      exact List.mem_append_left _ (rejected _)
  | _ => cases clears

/-- A status that is set clears the connection before it is told. -/
theorem setStatus_cases (status : KernelStatus) (connection : Connection) :
    setStatus status connection = unchanged connection ∨
      connection.status ≠ status ∧ setStatus status connection =
        ((clearFor status { connection with status := status }).1,
          (clearFor status { connection with status := status }).2 ++ [.status status]) := by
  unfold setStatus
  split
  case isTrue => exact .inl rfl
  case isFalse changes => exact .inr ⟨fun same => changes (.inr same), rfl⟩

/-- To set the status tells the new one if it differs from the old one. -/
theorem passes_setStatus (status : KernelStatus) (connection : Connection) :
    Passes (· ≠ ·) connection.status (statusesIn (setStatus status connection).2)
      (setStatus status connection).1.status := by
  rcases setStatus_cases status connection with same | ⟨changes, set⟩
  · rw [same]
    exact .stays _
  · have cleared := (unconcerned_clearFor status { connection with status := status }).status
    rw [set, statusesIn_append, statusesIn_eq_nil cleared.untold, cleared.status]
    exact .once changes

theorem KeepsStatus.passes (kept : KeepsStatus before change) :
    Passes (· ≠ ·) before.status (statusesIn change.2) change.1.status := by
  rw [statusesIn_eq_nil kept.untold, kept.status]
  exact .stays _

/-- What can happen before the status is set: nothing that concerns it or the requests. -/
structure Preliminary (before : Connection) (change : Change) : Prop where
  status : KeepsStatus before change
  pending : change.1.pending = before.pending

theorem Preliminary.append {middle after : Connection} {first second : List Effect}
    (start : Preliminary before (middle, first)) (rest : Preliminary middle (after, second)) :
    Preliminary before (after, first ++ second) where
  status := start.status.append rest.status
  pending := rest.pending.trans start.pending

theorem Preliminary.andThen (start : Preliminary before change)
    (rest : Preliminary change.1 (next change.1)) : Preliminary before (change.andThen next) :=
  start.append rest

/-- The same status and requests, with effects that tell no status. -/
theorem Preliminary.ofSame {effects : List Effect} (status : after.status = before.status)
    (pending : after.pending = before.pending)
    (untold : ∀ effect ∈ effects, effect.topic ≠ .status) : Preliminary before (after, effects) :=
  ⟨⟨status, untold⟩, pending⟩

/-- What shows nothing can be put before all others. -/
theorem Preliminary.afterSilent {middle : Connection} (start : Preliminary before (middle, []))
    (rest : Preliminary middle change) : Preliminary before change :=
  start.append rest

theorem Preliminary.refl (connection : Connection) : Preliminary connection (connection, []) :=
  .ofSame rfl rfl (by simp)

/-- A change that sets the status at most once. -/
inductive SetsOnce (before : Connection) : Change → Prop where
  | intro {middle after : Connection} {first second : List Effect} (status : KernelStatus)
      (start : Preliminary before (middle, first))
      (rest : KeepsStatus (setStatus status middle).1 (after, second)) :
      SetsOnce before (after, first ++ ((setStatus status middle).2 ++ second))

namespace SetsOnce

/-- To set the status that the kernel has already changes nothing. -/
theorem ofKept (kept : KeepsStatus before change) : SetsOnce before change := by
  have same : setStatus before.status before = unchanged before := if_pos (.inr rfl)
  have rest : KeepsStatus (setStatus before.status before).1 (change.1, change.2) := by
    rw [same]
    exact kept
  have once := SetsOnce.intro before.status (.refl before) rest
  rw [same] at once
  exact once

theorem ofSet (status : KernelStatus) (connection : Connection) :
    SetsOnce connection (setStatus status connection) := by
  have rest : KeepsStatus (setStatus status connection).1 ((setStatus status connection).1, []) :=
    ⟨rfl, by simp⟩
  have once := SetsOnce.intro status (.refl connection) rest
  rw [List.append_nil] at once
  exact once

theorem append {middle after : Connection} {first second : List Effect}
    (start : Preliminary before (middle, first)) (rest : SetsOnce middle (after, second)) :
    SetsOnce before (after, first ++ second) := by
  generalize told : (after, second) = change at rest
  cases rest with
  | intro status preliminary kept =>
      cases told
      have once := SetsOnce.intro status (start.append preliminary) kept
      rwa [List.append_assoc] at once

theorem afterPreliminary (start : Preliminary before change)
    (rest : SetsOnce change.1 (next change.1)) : SetsOnce before (change.andThen next) :=
  append start rest

/-- What keeps the status and the requests and shows nothing can be put before all others. -/
theorem afterSilent {middle : Connection} (start : Preliminary before (middle, []))
    (rest : SetsOnce middle change) : SetsOnce before change :=
  append start rest

theorem followedBy (start : SetsOnce before change)
    (rest : KeepsStatus change.1 (next change.1)) : SetsOnce before (change.andThen next) := by
  cases start with
  | intro status preliminary kept =>
      have once := SetsOnce.intro status preliminary (kept.append rest)
      simpa [Change.andThen] using once

/-- What is told of the status is what changes. -/
theorem passes (once : SetsOnce before change) :
    Passes (· ≠ ·) before.status (statusesIn change.2) change.1.status := by
  cases once with
  | intro status preliminary kept =>
      rw [statusesIn_append, statusesIn_append]
      exact preliminary.status.passes.append ((passes_setStatus status _).append kept.passes)

/-- When a status is told that clears the connection, all requests have been rejected. -/
theorem rejects (once : SetsOnce before change) {earlier later : List Effect}
    {status : KernelStatus} (told : change.2 = earlier ++ .status status :: later)
    {cause : Clearing} (clears : status.clearing? = some cause) {entry : String × PendingReply}
    (waits : entry ∈ before.pending) :
    .settled entry.2.key (.error cause.error) ∈ earlier := by
  have absent : ∀ effects : List Effect, (∀ effect ∈ effects, effect.topic ≠ .status) →
      .status status ∉ effects := fun effects untold member => untold _ member rfl
  cases once with
  | @intro middle after first second new preliminary kept =>
      have told : first ++ ((setStatus new middle).2 ++ second) =
          earlier ++ .status status :: later := told
      have early := absent first preliminary.status.untold
      have late := absent second kept.untold
      rcases setStatus_cases new middle with same | ⟨-, set⟩
      · -- No status is told at all.
        have member : .status status ∈ first ++ ((setStatus new middle).2 ++ second) := by
          rw [told]
          exact List.mem_append_right _ (List.mem_cons_self ..)
        rw [same] at member
        rcases List.mem_append.mp member with before | after
        · exact absurd before early
        · exact absurd after late
      · have cleared := (unconcerned_clearFor new { middle with status := new }).status
        have between := absent _ cleared.untold
        have split : (first ++ (clearFor new { middle with status := new }).2) ++
            .status new :: second = earlier ++ .status status :: later := by
          rw [set] at told
          simpa using told
        have silent : .status status ∉
            first ++ (clearFor new { middle with status := new }).2 := by
          simp [early, between]
        obtain ⟨rfl, same, -⟩ := (List.append_cons_inj_of_notMem silent late).mp split
        cases same
        rw [← preliminary.pending] at waits
        exact List.mem_append_right _ (rejects_clearFor clears waits)

end SetsOnce

theorem preliminary_dropSocket (connection : Connection) :
    Preliminary connection (dropSocket connection) :=
  ⟨(unconcerned_dropSocket connection).status, by rw [dropSocket_frame]⟩

theorem preliminary_setConnectionStatus (status : ConnectionStatus) (connection : Connection) :
    Preliminary connection (setConnectionStatus status connection) := by
  unfold setConnectionStatus
  split
  · exact .refl connection
  · exact .ofSame rfl rfl (by simp [Effect.topic])

theorem preliminary_connectFailed (error : ServiceError) (connection : Connection) :
    Preliminary connection (connectFailed error connection) := by
  unfold connectFailed
  split
  · exact .ofSame rfl rfl (by simp)
  · exact .ofSame rfl rfl (by simp [Effect.topic])

theorem topic_of_mem_flush {socket : ActiveSocket} {queue : List Message} :
    ∀ effect ∈ (flush socket queue).effects, effect.topic = .other := by
  intro effect member
  rcases flush_effects socket queue effect member with ⟨number, frame, rfl⟩ | ⟨line, rfl⟩ <;> rfl

theorem preliminary_connected (socket : ActiveSocket) (connection : Connection) :
    Preliminary connection (connected socket connection) := by
  unfold connected
  split
  · exact .ofSame rfl rfl (by simp [closing, Effect.topic])
  · have flushed : Preliminary connection
        ({ connection with queue := (flush socket connection.queue).left },
          (flush socket connection.queue).effects) :=
      .ofSame rfl rfl fun effect member => by rw [topic_of_mem_flush effect member]; decide
    apply flushed.andThen
    split
    · unfold install
      refine Preliminary.afterSilent ?_ (preliminary_setConnectionStatus ..)
      exact .ofSame rfl rfl (by simp)
    · have closed : Preliminary { connection with queue := (flush socket connection.queue).left }
          ({ connection with queue := (flush socket connection.queue).left }, closing socket) :=
        .ofSame rfl rfl (by simp [closing, Effect.topic])
      exact closed.andThen (preliminary_connectFailed ..)

theorem setsOnce_retry (connection : Connection) : SetsOnce connection (retry connection) := by
  unfold retry
  split
  · unfold giveUp
    refine SetsOnce.afterPreliminary ?_ (.ofSet ..)
    exact .ofSame rfl rfl (by simp [Effect.topic])
  · exact .ofKept ⟨rfl, by simp [Effect.topic]⟩

theorem setsOnce_lose (connection : Connection) : SetsOnce connection (lose connection) := by
  unfold lose
  split
  · exact .ofKept ⟨rfl, by simp [unchanged]⟩
  · apply SetsOnce.afterPreliminary (preliminary_dropSocket connection)
    apply SetsOnce.afterPreliminary (preliminary_setConnectionStatus ..)
    refine SetsOnce.afterSilent ?_ (setsOnce_retry _)
    exact .ofSame rfl rfl (by simp)

theorem setsOnce_loseUnopened (connection : Connection) :
    SetsOnce connection (loseUnopened connection) := by
  unfold loseUnopened
  split
  · exact setsOnce_lose connection
  · exact .ofKept (Unconcerned.refl connection).status

theorem setsOnce_inputEnded (connection : Connection) :
    SetsOnce connection (inputEnded connection) := by
  unfold inputEnded
  split
  · refine SetsOnce.afterPreliminary ?_ (setsOnce_lose _)
    exact .ofSame rfl rfl (by simp [Effect.topic])
  · exact .ofKept (Unconcerned.refl connection).status

theorem setsOnce_applyStatus (message : Message) (connection : Connection) :
    SetsOnce connection (applyStatus message connection) := by
  unfold applyStatus
  split
  · split
    · exact .ofSet ..
    · exact .ofKept (Unconcerned.refl connection).status
  · exact .ofKept (Unconcerned.refl connection).status

/-- A message sets the status before it answers a request. -/
theorem setsOnce_frameArrived (now : Instant) (frame : Frame) (connection : Connection) :
    SetsOnce connection (frameArrived now frame connection) := by
  unfold frameArrived
  split
  · unfold receive
    split
    · unfold dispatch
      split
      · exact .ofKept (Unconcerned.refl connection).status
      · apply SetsOnce.afterPreliminary (.ofSame rfl rfl (by simp [Effect.topic]))
        apply (setsOnce_applyStatus ..).followedBy
        exact ((unconcerned_deliver ..).andThen (unconcerned_pass ..)).status
    · exact .ofKept (unconcerned_log ..).status
  · exact .ofKept (Unconcerned.refl connection).status

theorem setsOnce_shutDown (connection : Connection) :
    SetsOnce connection (shutDown connection) :=
  (SetsOnce.ofSet ..).followedBy (unconcerned_dispose _).status

theorem setsOnce_restartAnswered (connection : Connection) :
    SetsOnce connection (Event.change (.restartAnswered true) connection) := by
  simp only [Event.change, restarted]
  split
  case h_1 change restarts =>
    split at restarts
    · cases restarts
    · cases restarts
      exact (SetsOnce.ofSet ..).followedBy (unconcerned_clear ..).status
  case h_2 => exact .ofKept (Unconcerned.refl connection).status

theorem keepsStatus_beginConnecting (connection : Connection) :
    KeepsStatus connection (beginConnecting connection) := by
  unfold beginConnecting
  split
  · exact ⟨rfl, by simp [unchanged]⟩
  · have silent : KeepsStatus connection ({ connection with phase := .connecting }, []) :=
      ⟨rfl, by simp⟩
    have told := silent.append (preliminary_setConnectionStatus .connecting _).status
    exact told.append ⟨rfl, by simp [Effect.topic]⟩

theorem keepsStatus_stop (connection : Connection) : KeepsStatus connection (stop connection) := by
  unfold stop
  split <;> exact ⟨rfl, by simp [unchanged, Effect.topic]⟩

/-- Every event sets the status at most once. -/
theorem Event.setsOnce (event : Event) (connection : Connection) :
    SetsOnce connection (event.change connection) := by
  cases event with
  | connected socket =>
      exact .afterPreliminary (preliminary_connected socket connection) (setsOnce_loseUnopened _)
  | connectFailed error =>
      exact .afterPreliminary (preliminary_connectFailed error connection) (setsOnce_loseUnopened _)
  | inputEnded => exact setsOnce_inputEnded connection
  | frameArrived now frame => exact setsOnce_frameArrived now frame connection
  | restartAnswered succeeded =>
      cases succeeded with
      | true => exact setsOnce_restartAnswered connection
      | false => exact .ofKept (Unconcerned.refl connection).status
  | shutDown =>
      rcases change_shutDown connection with same | shut
      · rw [same]
        exact .ofKept (Unconcerned.refl connection).status
      · rw [shut]
        exact setsOnce_shutDown connection
  | shutDownAnswered succeeded =>
      cases succeeded with
      | true => exact setsOnce_shutDown connection
      | false => exact .ofKept (Unconcerned.refl connection).status
  | beginConnecting => exact .ofKept (keepsStatus_beginConnecting connection)
  | stop => exact .ofKept (keepsStatus_stop connection)
  | _ => exact .ofKept (Event.unconcerned rfl rfl connection).status

/-- Whether all requests that wait when a status is told that clears the connection have been
rejected before. -/
def Occurrence.RejectsBeforeTelling (occurrence : Occurrence) : Prop :=
  ∀ earlier status later, occurrence.effects = earlier ++ .status status :: later →
    ∀ cause, status.clearing? = some cause →
      ∀ entry ∈ occurrence.before.connection.pending,
        .settled entry.2.key (.error cause.error) ∈ earlier

theorem Occurrence.rejectsBeforeTelling (occurrence : Occurrence) :
    occurrence.RejectsBeforeTelling := by
  intro earlier status later told cause clears entry waits
  exact (occurrence.event.setsOnce _).rejects told clears waits

variable {start situation : Situation} {history : List Occurrence}

/-- In a run the statuses that are told lead from the first status to the last one. -/
theorem Run.passes_status (run : Run start history situation) :
    Passes (· ≠ ·) start.connection.status (statusesIn (effectsOf history))
      situation.connection.status := by
  induction run with
  | start => exact .stays _
  | next run event possible earlier =>
      rw [effectsOf_snoc, statusesIn_append]
      exact earlier.append (event.setsOnce _).passes

end Connection

end KernelClient
