import KernelClient.Proofs.Connection.Statuses

/-!
# The states of the socket that a connection tells

A connection tells every new state of its socket and nothing else. The state belongs to the phase in
the life of the socket, and goes round from connecting over connected to disconnected and back. With
what is told of the status of the kernel this makes a law of all that is told: it is exactly what
changes.
-/

namespace KernelClient

/-- The states that can follow one another. -/
inductive ConnectionStatus.Moves : ConnectionStatus → ConnectionStatus → Prop where
  | opened : Moves .connecting .connected
  | failed : Moves .connecting .disconnected
  | lost : Moves .connected .disconnected
  | again : Moves .disconnected .connecting

/-- Every other state can be followed by that of a lost socket. -/
theorem ConnectionStatus.moves_disconnected {status : ConnectionStatus}
    (other : status ≠ .disconnected) : status.Moves .disconnected := by
  cases status with
  | connecting => exact .failed
  | connected => exact .lost
  | disconnected => exact absurd rfl other

/-- The state of the socket in a phase of its life. -/
def SocketPhase.connectionStatus? : SocketPhase → Option ConnectionStatus
  | .starting | .connecting => some .connecting
  | .reading _ _ => some .connected
  | .waiting => some .disconnected
  | .ended => none

namespace Connection

/-- The states of the socket that effects tell, in order. -/
def connectionStatusesIn (effects : List Effect) : List ConnectionStatus :=
  effects.filterMap fun
    | .connectionStatus status => some status
    | _ => none

@[simp]
theorem connectionStatusesIn_append (first second : List Effect) :
    connectionStatusesIn (first ++ second) =
      connectionStatusesIn first ++ connectionStatusesIn second :=
  List.filterMap_append

theorem connectionStatusesIn_eq_nil {effects : List Effect}
    (untold : ∀ effect ∈ effects, effect.topic ≠ .socketLife) :
    connectionStatusesIn effects = [] := by
  refine List.filterMap_eq_nil_iff.mpr fun effect member => ?_
  have other := untold effect member
  cases effect with
  | connectionStatus => exact absurd rfl other
  | _ => rfl

theorem connectionStatusesIn_other {effects : List Effect}
    (other : ∀ effect ∈ effects, effect.topic = .other) : connectionStatusesIn effects = [] := by
  refine connectionStatusesIn_eq_nil fun effect member => ?_
  rw [other effect member]
  decide

variable {connection before after : Connection} {change : Change} {next : Connection → Change}

/-- A change that tells each new state of the socket, of which each can follow the one before. -/
def TellsMoves (before : Connection) (change : Change) : Prop :=
  Passes ConnectionStatus.Moves before.connectionStatus (connectionStatusesIn change.2)
    change.1.connectionStatus

/-- A connection that is not disposed has the state that belongs to the phase of its socket. -/
def MatchesPhase (connection : Connection) : Prop :=
  connection.isDisposed = false → ∀ status, connection.phase.connectionStatus? = some status →
    connection.connectionStatus = status

/-- In the end of the life of the socket every state is right. -/
theorem MatchesPhase.ofEnded (ended : connection.phase = .ended) : MatchesPhase connection := by
  intro alive status belongs
  rw [ended] at belongs
  cases belongs

theorem TellsMoves.append {middle after : Connection} {first second : List Effect}
    (start : TellsMoves before (middle, first)) (rest : TellsMoves middle (after, second)) :
    TellsMoves before (after, first ++ second) := by
  unfold TellsMoves
  rw [connectionStatusesIn_append]
  exact Passes.append start rest

theorem TellsMoves.andThen (start : TellsMoves before change)
    (rest : TellsMoves change.1 (next change.1)) : TellsMoves before (change.andThen next) :=
  start.append rest

/-- The same state of the socket, with effects that tell none. -/
theorem TellsMoves.ofSame {effects : List Effect}
    (same : after.connectionStatus = before.connectionStatus)
    (untold : connectionStatusesIn effects = []) : TellsMoves before (after, effects) := by
  unfold TellsMoves
  rw [untold, same]
  exact .stays _

theorem TellsMoves.refl (connection : Connection) : TellsMoves connection (unchanged connection) :=
  .ofSame rfl rfl

/-- What shows nothing can be put before all others. -/
theorem TellsMoves.afterSilent {middle : Connection} (start : TellsMoves before (middle, []))
    (rest : TellsMoves middle change) : TellsMoves before change :=
  start.append rest

theorem KeepsLife.tellsMoves (kept : KeepsLife before change) : TellsMoves before change :=
  .ofSame kept.connectionStatus (connectionStatusesIn_eq_nil kept.untold)

theorem KeepsLife.matchesPhase (kept : KeepsLife before change) (right : MatchesPhase before) :
    MatchesPhase change.1 := by
  intro alive status belongs
  have aliveBefore : before.isDisposed = false := by
    cases disposed : before.isDisposed with
    | false => rfl
    | true => cases alive.symm.trans (kept.disposed disposed)
  rw [kept.phase] at belongs
  rw [kept.connectionStatus]
  exact right aliveBefore status belongs

/-- To change the state of the socket tells the new one if it differs from the old one. -/
theorem tellsMoves_setConnectionStatus {status : ConnectionStatus}
    (allowed : connection.isDisposed = false → connection.connectionStatus ≠ status →
      connection.connectionStatus.Moves status) :
    TellsMoves connection (setConnectionStatus status connection) := by
  unfold setConnectionStatus
  split
  case isTrue => exact .refl connection
  case isFalse changes =>
    have alive : connection.isDisposed = false := by
      simpa using fun disposed => changes (.inl disposed)
    exact Passes.once (allowed alive fun same => changes (.inr same))

theorem connectionStatus_setConnectionStatus (alive : connection.isDisposed = false)
    (status : ConnectionStatus) :
    (setConnectionStatus status connection).1.connectionStatus = status := by
  unfold setConnectionStatus
  split
  case isTrue same => exact same.resolve_left (by simp [alive])
  case isFalse => rfl

theorem connectionStatus_retry (connection : Connection) :
    (retry connection).1.connectionStatus = connection.connectionStatus := by
  unfold retry
  split
  · exact (keepsLife_setStatus ..).connectionStatus
  · rfl

theorem connectionStatus_lose (alive : connection.isDisposed = false) :
    (lose connection).1.connectionStatus = .disconnected := by
  unfold lose
  rw [if_neg (by simp [alive])]
  dsimp only [Change.andThen]
  rw [connectionStatus_retry]
  apply connectionStatus_setConnectionStatus
  rw [dropSocket_frame]
  exact alive

theorem tellsMoves_retry (connection : Connection) : TellsMoves connection (retry connection) := by
  unfold retry
  split
  · unfold giveUp
    refine TellsMoves.andThen ?_ (keepsLife_setStatus ..).tellsMoves
    exact .ofSame rfl rfl
  · exact .ofSame rfl rfl

/-- A socket that is lost is disconnected. -/
theorem tellsMoves_lose (connection : Connection) : TellsMoves connection (lose connection) := by
  unfold lose
  split
  · exact .ofSame rfl rfl
  · apply (unconcerned_dropSocket connection).life.tellsMoves.andThen
    apply (tellsMoves_setConnectionStatus fun _ => ConnectionStatus.moves_disconnected).andThen
    refine TellsMoves.afterSilent ?_ (tellsMoves_retry _)
    exact .ofSame rfl rfl

theorem matchesPhase_lose (connection : Connection) : MatchesPhase (lose connection).1 := by
  rcases phase_lose connection with waiting | ended
  · intro _ status belongs
    cases disposed : connection.isDisposed with
    | false =>
        rw [waiting] at belongs
        rw [connectionStatus_lose disposed]
        exact Option.some.inj belongs
    | true =>
        unfold lose at waiting
        rw [if_pos disposed] at waiting
        cases waiting
  · exact .ofEnded ended

theorem tellsMoves_loseUnopened (connection : Connection) :
    TellsMoves connection (loseUnopened connection) := by
  unfold loseUnopened
  split
  · exact tellsMoves_lose connection
  · exact .refl connection

theorem matchesPhase_loseUnopened (right : MatchesPhase connection) :
    MatchesPhase (loseUnopened connection).1 := by
  unfold loseUnopened
  split
  · exact matchesPhase_lose connection
  · exact right

/-- An attempt begins with a socket that is connecting already or disconnected. -/
theorem tellsMoves_beginConnecting (right : MatchesPhase connection)
    (idle : connection.phase = .starting ∨ connection.phase = .waiting) :
    TellsMoves connection (beginConnecting connection) := by
  have allowed : connection.isDisposed = false → connection.connectionStatus ≠ .connecting →
      connection.connectionStatus.Moves .connecting := by
    intro alive other
    rcases idle with starting | waiting
    · exact absurd (right alive .connecting (by rw [starting]; rfl)) other
    · rw [right alive .disconnected (by rw [waiting]; rfl)]
      exact .again
  unfold beginConnecting
  split
  · exact .ofSame rfl rfl
  · have silent : TellsMoves connection ({ connection with phase := .connecting }, []) :=
      .ofSame rfl rfl
    have told : TellsMoves { connection with phase := .connecting }
        (setConnectionStatus .connecting { connection with phase := .connecting }) :=
      tellsMoves_setConnectionStatus allowed
    apply silent.afterSilent
    refine told.andThen ?_
    exact .ofSame rfl rfl

theorem matchesPhase_beginConnecting (connection : Connection) :
    MatchesPhase (beginConnecting connection).1 := by
  cases disposed : connection.isDisposed with
  | true =>
      unfold beginConnecting
      rw [if_pos disposed]
      exact .ofEnded rfl
  | false =>
      intro _ status belongs
      rw [phase_beginConnecting disposed] at belongs
      unfold beginConnecting
      rw [if_neg (by simp [disposed])]
      exact (connectionStatus_setConnectionStatus (by exact disposed) .connecting).trans
        (Option.some.inj belongs)

theorem tellsMoves_connectFailed (error : ServiceError) (connection : Connection) :
    TellsMoves connection (connectFailed error connection) := by
  unfold connectFailed
  split <;> exact .ofSame rfl rfl

theorem matchesPhase_connectFailed (right : MatchesPhase connection) (error : ServiceError) :
    MatchesPhase (connectFailed error connection).1 := by
  unfold connectFailed
  split
  · exact .ofEnded rfl
  · exact right

/-- A socket is installed while the connection is connecting. -/
theorem tellsMoves_connected (right : MatchesPhase connection)
    (connecting : connection.phase = .connecting) (socket : ActiveSocket) :
    TellsMoves connection (connected socket connection) := by
  unfold connected
  split
  · exact .ofSame rfl rfl
  case isFalse alive =>
    have aliveBefore : connection.isDisposed = false := by simpa using alive
    have flushed : TellsMoves connection
        ({ connection with queue := (flush socket connection.queue).left },
          (flush socket connection.queue).effects) :=
      .ofSame rfl (connectionStatusesIn_other topic_of_mem_flush)
    apply flushed.andThen
    split
    · unfold install
      refine TellsMoves.afterSilent ?_ (tellsMoves_setConnectionStatus fun _ _ => ?_)
      · exact .ofSame rfl rfl
      · have told := right aliveBefore .connecting (by rw [connecting]; rfl)
        rw [told]
        exact .opened
    · unfold giveBack
      refine TellsMoves.andThen ?_ (tellsMoves_connectFailed ..)
      exact .ofSame rfl rfl

theorem matchesPhase_connected (right : MatchesPhase connection) (socket : ActiveSocket) :
    MatchesPhase (connected socket connection).1 := by
  unfold connected
  split
  · exact .ofEnded rfl
  case isFalse alive =>
    dsimp only [Change.andThen]
    split
    · intro _ status belongs
      unfold install at belongs ⊢
      rw [phase_setConnectionStatus] at belongs
      rw [connectionStatus_setConnectionStatus (by simpa using alive)]
      exact Option.some.inj belongs
    · have left : MatchesPhase
          { connection with queue := (flush socket connection.queue).left } := right
      unfold giveBack
      dsimp only [Change.andThen]
      exact matchesPhase_connectFailed left _

theorem tellsMoves_inputEnded (connection : Connection) :
    TellsMoves connection (inputEnded connection) := by
  unfold inputEnded
  split
  · refine TellsMoves.andThen ?_ (tellsMoves_lose _)
    exact .ofSame rfl rfl
  · exact .refl connection

theorem matchesPhase_inputEnded (right : MatchesPhase connection) :
    MatchesPhase (inputEnded connection).1 := by
  unfold inputEnded
  split
  · exact matchesPhase_lose _
  · exact right

theorem tellsMoves_stop (connection : Connection) : TellsMoves connection (stop connection) := by
  unfold stop
  split <;> exact .ofSame rfl rfl

theorem matchesPhase_stop (connection : Connection) : MatchesPhase (stop connection).1 := by
  unfold stop
  split <;> exact .ofEnded rfl

variable {event : Event} {situation : Situation}

/-- Every event tells each new state of the socket, of which each can follow the one before. -/
theorem Event.tellsMoves (possible : event.isPossible situation = true)
    (right : MatchesPhase situation.connection) :
    TellsMoves situation.connection (event.change situation.connection) := by
  cases event with
  | beginConnecting => exact tellsMoves_beginConnecting right (of_decide_eq_true possible)
  | connected socket =>
      have connecting := (of_decide_eq_true possible).1
      exact (tellsMoves_connected right connecting socket).andThen (tellsMoves_loseUnopened _)
  | connectFailed error =>
      exact (tellsMoves_connectFailed error _).andThen (tellsMoves_loseUnopened _)
  | inputEnded => exact tellsMoves_inputEnded _
  | stop => exact tellsMoves_stop _
  | _ => exact (Event.keepsLife rfl situation.connection).tellsMoves

theorem Event.matchesPhase (event : Event) (right : MatchesPhase situation.connection) :
    MatchesPhase (situation.after event).connection := by
  unfold Situation.after
  cases event with
  | beginConnecting => exact matchesPhase_beginConnecting _
  | connected socket => exact matchesPhase_loseUnopened (matchesPhase_connected right socket)
  | connectFailed error => exact matchesPhase_loseUnopened (matchesPhase_connectFailed right error)
  | inputEnded => exact matchesPhase_inputEnded right
  | stop => exact matchesPhase_stop _
  | _ => exact (Event.keepsLife rfl situation.connection).matchesPhase right

variable {start : Situation} {history : List Occurrence}

theorem Run.matchesPhase (run : Run start history situation)
    (right : MatchesPhase start.connection) : MatchesPhase situation.connection := by
  induction run with
  | start => exact right
  | next run event possible earlier => exact event.matchesPhase earlier

theorem Run.passes_connectionStatus (run : Run start history situation)
    (right : MatchesPhase start.connection) :
    Passes ConnectionStatus.Moves start.connection.connectionStatus
      (connectionStatusesIn (effectsOf history)) situation.connection.connectionStatus := by
  induction run with
  | start => exact .stays _
  | next run event possible earlier =>
      rw [effectsOf_snoc, connectionStatusesIn_append]
      exact earlier.append (Event.tellsMoves possible (run.matchesPhase right))

/-- In every run of a new connection the statuses that are told are exactly the changes. The status
of the kernel is the last one that was told, and no one is told twice in a row. The state of the
socket is the last one that was told, and each can follow the one before. And when a status is told
that clears the connection, all requests that were waiting have been rejected. -/
theorem Run.statuses_are_changes {model : KernelModel} {clientId : String}
    {options : ConnectionOptions} (run : Run (.initial model clientId options) history situation) :
    situation.connection.status = (statusesIn (effectsOf history)).getLastD .unknown ∧
      List.IsChain (· ≠ ·) (.unknown :: statusesIn (effectsOf history)) ∧
      situation.connection.connectionStatus =
        (connectionStatusesIn (effectsOf history)).getLastD .connecting ∧
      List.IsChain ConnectionStatus.Moves
        (.connecting :: connectionStatusesIn (effectsOf history)) ∧
      ∀ occurrence ∈ history, occurrence.RejectsBeforeTelling := by
  have initial : MatchesPhase (Situation.initial model clientId options).connection :=
    fun _ status belongs => Option.some.inj belongs
  have statuses := run.passes_status
  have moves := run.passes_connectionStatus initial
  exact ⟨statuses.last_eq, statuses.isChain, moves.last_eq, moves.isChain,
    fun occurrence _ => occurrence.rejectsBeforeTelling⟩

/-- A request waits for a socket that is opened and lost, and the kernel counts as dead. -/
theorem statuses_are_changes_after_loss :
    Situation.impatient.allows untilDead = true ∧
      statusesIn (effectsOf (Situation.impatient.occurrences untilDead)) = [.dead] ∧
      (Situation.impatient.afterAll untilDead).connection.status = .dead ∧
      connectionStatusesIn (effectsOf (Situation.impatient.occurrences untilDead)) =
        [.connected, .disconnected] ∧
      (Situation.impatient.afterAll untilDead).connection.connectionStatus = .disconnected ∧
      ∀ occurrence ∈ Situation.impatient.occurrences untilDead,
        occurrence.RejectsBeforeTelling := by
  have allowed : Situation.impatient.allows untilDead = true := by decide +kernel
  have statuses : statusesIn (effectsOf (Situation.impatient.occurrences untilDead)) = [.dead] := by
    decide +kernel
  have states : connectionStatusesIn (effectsOf (Situation.impatient.occurrences untilDead)) =
      [.connected, .disconnected] := by decide +kernel
  have run := run_of_allows untilDead allowed
  obtain ⟨status, -, state, -, rejects⟩ := Run.statuses_are_changes run
  rw [statuses] at status
  rw [states] at state
  exact ⟨allowed, statuses, status, states, state, rejects⟩

end Connection

end KernelClient
