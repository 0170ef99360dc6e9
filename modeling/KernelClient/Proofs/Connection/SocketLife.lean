import KernelClient.Proofs.Connection.Composition

/-!
# The end of the life of the socket

The life of the socket ends when the connection is disposed or when too many attempts were in vain.
In the latter case the kernel counts as dead, and calls are refused from then on. The only event
that can make such a connection accept calls again is the answer to a restart that was already under
way: the status becomes that of a kernel that restarts, and nothing opens a socket any more.
-/

namespace KernelClient.Connection

/-- What an event leaves alone: the phase unless it is a step in the life of the socket, the status
unless it can change it, and a disposal in any case. -/
structure Steady (occurrence : Occurrence) (before after : Connection) : Prop where
  phase : occurrence.event.movesSocket = false → after.phase = before.phase
  status : occurrence.event.setsStatus = false → after.status = before.status
  disposed : before.isDisposed = true → after.isDisposed = true

theorem Steady.trans {occurrence : Occurrence} {before middle after : Connection}
    (first : Steady occurrence before middle) (second : Steady occurrence middle after) :
    Steady occurrence before after where
  phase still := (second.phase still).trans (first.phase still)
  status leaves := (second.status leaves).trans (first.status leaves)
  disposed ended := second.disposed (first.disposed ended)

theorem Steady.ofSame {occurrence : Occurrence} {before after : Connection}
    (phase : after.phase = before.phase) (status : after.status = before.status)
    (isDisposed : after.isDisposed = before.isDisposed) : Steady occurrence before after where
  phase _ := phase
  status _ := status
  disposed ended := isDisposed.trans ended

theorem Part.steady {occurrence : Occurrence} {before : Connection} {change : Change}
    {requests : List RequestLabel} (part : Part occurrence before change requests) :
    Steady occurrence before change.1 := by
  cases part with
  | aside kept => exact .ofSame kept.phase kept.status kept.isDisposed
  | send sending =>
      cases sending with
      | refused error => exact .ofSame rfl rfl rfl
      | kept accepts fresh transmitted =>
          obtain ⟨status, isDisposed, phase, -, -⟩ := transmitted.kept
          exact .ofSame phase status isDisposed
  | sendRaw transmission =>
      obtain ⟨status, isDisposed, phase, -, -⟩ := transmission.kept
      exact .ofSame phase status isDisposed
  | setStatus sets changed =>
      refine ⟨fun _ => changed.phase_eq, fun leaves => ?_, changed.isDisposed_eq.trans⟩
      cases sets.symm.trans leaves
  | enter moves =>
      refine ⟨fun still => ?_, fun _ => rfl, id⟩
      cases moves.symm.trans still
  | dropSocket => exact .ofSame rfl rfl rfl
  | dispose =>
      cases disposed : before.isDisposed with
      | true =>
          rw [dispose_again disposed]
          exact .ofSame rfl rfl rfl
      | false =>
          rw [dispose_first disposed]
          exact ⟨fun _ => rfl, fun _ => rfl, fun _ => rfl⟩
  | clear => exact .ofSame rfl rfl rfl
  | answer read asked held waits answered => cases answered <;> exact .ofSame rfl rfl rfl
  | flush => exact .ofSame rfl rfl rfl
  | install opened =>
      refine ⟨fun still => ?_, fun _ => rfl, id⟩
      rw [opened] at still
      cases still
  | outputBroken => exact .ofSame rfl rfl rfl

theorem Composed.steady {occurrence : Occurrence} {before : Connection} {change : Change}
    {requests : List RequestLabel} (composed : Composed occurrence before change requests) :
    Steady occurrence before change.1 := by
  induction composed with
  | part part => exact part.steady
  | append start rest first second => exact first.trans second

variable {connection : Connection}

/-- Attempts end with a kernel that counts as dead. -/
theorem status_retry (alive : connection.isDisposed = false)
    (ended : (retry connection).1.phase = .ended) : (retry connection).1.status = .dead := by
  unfold retry at ended ⊢
  split at ended
  case isTrue many =>
    rw [if_pos many]
    exact (setStatus_statusChange .dead _).status_eq alive
  case isFalse => cases ended

theorem isDisposed_setConnectionStatus (status : ConnectionStatus) (connection : Connection) :
    (setConnectionStatus status connection).1.isDisposed = connection.isDisposed := by
  unfold setConnectionStatus
  split <;> rfl

theorem phase_setConnectionStatus (status : ConnectionStatus) (connection : Connection) :
    (setConnectionStatus status connection).1.phase = connection.phase := by
  unfold setConnectionStatus
  split <;> rfl

theorem status_lose (alive : connection.isDisposed = false)
    (ended : (lose connection).1.phase = .ended) : (lose connection).1.status = .dead := by
  unfold lose at ended ⊢
  rw [if_neg (by simp [alive])] at ended ⊢
  refine status_retry ?_ ended
  rw [isDisposed_setConnectionStatus, dropSocket_frame]
  exact alive

theorem status_loseUnopened (alive : connection.isDisposed = false)
    (running : connection.phase ≠ .ended) (ended : (loseUnopened connection).1.phase = .ended) :
    (loseUnopened connection).1.status = .dead := by
  unfold loseUnopened at ended ⊢
  split at ended
  case isTrue connecting =>
    rw [if_pos connecting]
    exact status_lose alive ended
  case isFalse => exact absurd ended running

theorem connected_running (alive : connection.isDisposed = false)
    (connecting : connection.phase = .connecting) (socket : ActiveSocket) :
    (connected socket connection).1.isDisposed = false ∧
      (connected socket connection).1.phase ≠ .ended := by
  unfold connected
  rw [if_neg (by simp [alive])]
  dsimp only [Change.andThen]
  split
  · simp [install, isDisposed_setConnectionStatus, phase_setConnectionStatus, alive]
  · simp [giveBack, Change.andThen, connectFailed, ServiceError.isDisposed, alive, connecting]

/-- A connection that is not disposed starts to open a socket without ending its attempts. -/
theorem phase_beginConnecting (alive : connection.isDisposed = false) :
    (beginConnecting connection).1.phase = .connecting := by
  unfold beginConnecting
  rw [if_neg (by simp [alive])]
  exact phase_setConnectionStatus _ _

theorem status_inputEnded (alive : connection.isDisposed = false)
    (running : connection.phase ≠ .ended) (ended : (inputEnded connection).1.phase = .ended) :
    (inputEnded connection).1.status = .dead := by
  unfold inputEnded at ended ⊢
  split at ended
  · exact status_lose alive ended
  · exact absurd ended running

variable {event : Event} {situation : Situation}

theorem Event.steady (possible : event.isPossible situation = true)
    (sound : SocketSound situation.connection) :
    Steady ⟨situation, event⟩ situation.connection (situation.after event).connection :=
  (Occurrence.composed ⟨situation, event⟩ sound possible).steady

/-- If an event ends the life of the socket and does not dispose the connection, then the kernel
counts as dead. Only an attempt that was abandoned would be an exception. -/
theorem Event.status_of_ended (possible : event.isPossible situation = true)
    (sound : SocketSound situation.connection)
    (answers : ∀ error, event = .connectFailed error → error.isDisposed = false)
    (alive : situation.connection.isDisposed = false)
    (running : situation.connection.phase ≠ .ended)
    (ended : (situation.after event).connection.phase = .ended) :
    (situation.after event).connection.status = .dead := by
  have steady := Event.steady possible sound
  unfold Situation.after at ended steady ⊢
  cases event with
  | beginConnecting => cases (phase_beginConnecting alive).symm.trans ended
  | connected socket =>
      have connecting := (of_decide_eq_true possible).1
      obtain ⟨stillAlive, stillRunning⟩ := connected_running alive connecting socket
      exact status_loseUnopened stillAlive stillRunning ended
  | connectFailed error =>
      have noted : Connection.connectFailed error situation.connection =
          (situation.connection, _) := if_neg (by simp [answers error rfl])
      simp only [Event.change, Change.andThen, noted] at ended ⊢
      exact status_loseUnopened alive running ended
  | inputEnded => exact status_inputEnded alive running ended
  | stop => cases alive.symm.trans (of_decide_eq_true possible).1
  | _ => exact absurd ((steady.phase rfl).symm.trans ended) running

/-- After the end of the life of the socket no event is a step in it. -/
theorem Event.still_of_ended (possible : event.isPossible situation = true)
    (ended : situation.connection.phase = .ended) : event.movesSocket = false := by
  cases event with
  | beginConnecting | connected | connectFailed | inputEnded | stop =>
      simp [Event.isPossible, ended, SocketPhase.isReading] at possible
  | _ => rfl

theorem isDisposed_shutDown (connection : Connection) :
    (shutDown connection).1.isDisposed = true :=
  isDisposed_dispose _

/-- A shutdown changes nothing before the server has answered, or it disposes the connection. -/
theorem change_shutDown (connection : Connection) :
    Event.change .shutDown connection = unchanged connection ∨
      Event.change .shutDown connection = shutDown connection := by
  simp only [Event.change]
  split
  · exact .inr rfl
  · exact .inl rfl

/-- After the end of the life of the socket the status changes only when a restart is answered or
the connection is disposed. -/
theorem Event.status_after_end (possible : event.isPossible situation = true)
    (sound : SocketSound situation.connection) (ended : situation.connection.phase = .ended)
    (other : event ≠ .restartAnswered true)
    (alive : (situation.after event).connection.isDisposed = false) :
    (situation.after event).connection.status = situation.connection.status := by
  have steady := Event.steady possible sound
  have still := Event.still_of_ended possible ended
  unfold Situation.after at alive steady ⊢
  cases event with
  | restartAnswered succeeded =>
      cases succeeded with
      | true => exact absurd rfl other
      | false => rfl
  | shutDown =>
      rcases change_shutDown situation.connection with same | shut
      · simp only [same]
        rfl
      · rw [shut] at alive
        cases alive.symm.trans (isDisposed_shutDown _)
  | shutDownAnswered succeeded =>
      cases succeeded with
      | true => cases alive.symm.trans (isDisposed_shutDown _)
      | false => rfl
  | frameArrived => simp [Event.isPossible, ended, SocketPhase.isReading] at possible
  | connected | connectFailed | inputEnded => cases still
  | _ => exact steady.status rfl

/-- The answer to a restart makes the kernel one that restarts, dead or not. -/
theorem status_restartAnswered (alive : connection.isDisposed = false) :
    (Event.change (.restartAnswered true) connection).1.status = .restarting := by
  simp only [Event.change, restarted, alive, Bool.false_eq_true, if_false]
  exact (setStatus_statusChange .restarting connection).status_eq alive

/-- Whether a restart is answered after the end of the life of the socket. -/
def Occurrence.IsLateRestart (occurrence : Occurrence) : Prop :=
  occurrence.event = .restartAnswered true ∧ occurrence.before.connection.phase = .ended

/-- The stages of the life of the socket, as far as calls are concerned. -/
inductive LifeStage (history : List Occurrence) (connection : Connection) : Prop where
  | disposed (disposed : connection.isDisposed = true)
  | running (running : connection.phase ≠ .ended)
      (none : ∀ occurrence ∈ history, ¬occurrence.IsLateRestart)
  | givenUp (ended : connection.phase = .ended) (dead : connection.status = .dead)
      (none : ∀ occurrence ∈ history, ¬occurrence.IsLateRestart)
  | revived (ended : connection.phase = .ended) (revived : connection.status ≠ .dead)
      (late : ∃ occurrence ∈ history, occurrence.IsLateRestart)

theorem LifeStage.next {history : List Occurrence}
    (stage : LifeStage history situation.connection) (possible : event.isPossible situation = true)
    (sound : SocketSound situation.connection)
    (answers : ∀ error, event = .connectFailed error → error.isDisposed = false) :
    LifeStage (history ++ [⟨situation, event⟩]) (situation.after event).connection := by
  have steady := Event.steady possible sound
  cases after : (situation.after event).connection.isDisposed with
  | true => exact .disposed after
  | false =>
      have alive : situation.connection.isDisposed = false := by
        cases before : situation.connection.isDisposed with
        | false => rfl
        | true => cases after.symm.trans (steady.disposed before)
      cases stage with
      | disposed disposed => cases alive.symm.trans disposed
      | running running none =>
          have noneYet : ∀ occurrence ∈ history ++ [⟨situation, event⟩],
              ¬occurrence.IsLateRestart := by
            intro occurrence member late
            rcases List.mem_append.mp member with early | now
            · exact none occurrence early late
            · cases List.mem_singleton.mp now
              exact running late.2
          by_cases ended : (situation.after event).connection.phase = .ended
          · exact .givenUp ended
              (Event.status_of_ended possible sound answers alive running ended) noneYet
          · exact .running ended noneYet
      | givenUp ended dead none =>
          have stillEnded : (situation.after event).connection.phase = .ended :=
            (steady.phase (Event.still_of_ended possible ended)).trans ended
          by_cases answered : event = .restartAnswered true
          · subst answered
            refine .revived stillEnded ?_ ⟨_, List.mem_append_right _ (List.mem_singleton_self _),
              rfl, ended⟩
            have status := status_restartAnswered alive
            simp [Situation.after, status]
          · refine .givenUp stillEnded
              ((Event.status_after_end possible sound ended answered after).trans dead) ?_
            intro occurrence member late
            rcases List.mem_append.mp member with early | now
            · exact none occurrence early late
            · cases List.mem_singleton.mp now
              exact answered late.1
      | revived ended revived late =>
          have stillEnded : (situation.after event).connection.phase = .ended :=
            (steady.phase (Event.still_of_ended possible ended)).trans ended
          obtain ⟨occurrence, happened, isLate⟩ := late
          refine .revived stillEnded ?_ ⟨occurrence, List.mem_append_left _ happened, isLate⟩
          by_cases answered : event = .restartAnswered true
          · subst answered
            have status := status_restartAnswered alive
            simp [Situation.after, status]
          · rw [Event.status_after_end possible sound ended answered after]
            exact revived

variable {start : Situation} {history : List Occurrence}

/-- In a run in which no attempt is abandoned the life of the socket is in one of its stages. -/
theorem Run.lifeStage (run : Run start history situation) (free : start.connection.socket = none)
    (running : start.connection.phase ≠ .ended)
    (answers : ∀ occurrence ∈ history, ∀ error,
      occurrence.event = .connectFailed error → error.isDisposed = false) :
    LifeStage history situation.connection := by
  induction run with
  | start => exact .running running (by simp)
  | @next history before run event possible earlier =>
      have stage := earlier fun occurrence member =>
        answers occurrence (List.mem_append_left _ member)
      exact stage.next possible (run.sound (.ofFree free))
        (answers ⟨before, event⟩ (List.mem_append_right _ (List.mem_singleton_self _)))

theorem checkOpen_eq_ok_iff :
    connection.checkOpen = .ok () ↔ connection.isDisposed = false ∧ connection.status ≠ .dead := by
  unfold checkOpen
  by_cases disposed : connection.isDisposed = true
  · simp [disposed]
  · by_cases dead : connection.status = .dead <;> simp [disposed, dead]

/-- In a run in which no attempt is abandoned, a connection accepts calls after the end of the life
of its socket exactly if a restart was answered after that end and the connection was not disposed.
Without such a restart every call is refused because the kernel is dead. -/
theorem Run.accepts_after_end_iff {model : KernelModel} {clientId : String}
    {options : ConnectionOptions} (run : Run (.initial model clientId options) history situation)
    (answers : ∀ occurrence ∈ history, ∀ error,
      occurrence.event = .connectFailed error → error.isDisposed = false) :
    (situation.connection.checkOpen = .ok () ∧ situation.connection.phase = .ended ↔
      situation.connection.isDisposed = false ∧
        ∃ occurrence ∈ history, occurrence.IsLateRestart) ∧
      (situation.connection.isDisposed = false → situation.connection.phase = .ended →
        (∀ occurrence ∈ history, ¬occurrence.IsLateRestart) →
          situation.connection.checkOpen = .error .kernelDead) := by
  rw [checkOpen_eq_ok_iff]
  cases run.lifeStage rfl (by simp [Situation.initial, create]) answers with
  | disposed disposed => simp [disposed]
  | running running none =>
      refine ⟨⟨fun ⟨_, ended⟩ => absurd ended running, fun ⟨_, occurrence, happened, late⟩ => ?_⟩,
        fun _ ended => absurd ended running⟩
      exact absurd late (none occurrence happened)
  | givenUp ended dead none =>
      refine ⟨⟨fun ⟨⟨_, accepts⟩, _⟩ => absurd dead accepts,
        fun ⟨_, occurrence, happened, late⟩ => ?_⟩, fun alive _ _ => ?_⟩
      · exact absurd late (none occurrence happened)
      · simp [checkOpen, alive, dead]
  | revived ended revived late =>
      refine ⟨⟨fun ⟨⟨alive, _⟩, _⟩ => ⟨alive, late⟩, fun ⟨alive, _⟩ => ⟨⟨alive, revived⟩, ended⟩⟩,
        fun _ _ none => ?_⟩
      obtain ⟨occurrence, happened, isLate⟩ := late
      exact absurd isLate (none occurrence happened)

/-- A new connection that gives up at the first loss. -/
def Situation.impatient : Situation :=
  .initial default "client"
    { ConnectionOptions.usual with reconnect := { ReconnectPolicy.usual with maxAttempts := 0 } }

/-- A restart that is answered when the last attempt to open a socket was in vain already. -/
def lateRestart : List Event :=
  [.beginConnecting, .restart, .connectFailed (.network "refused"), .restartAnswered true]

theorem lateRestart_answers : ∀ occurrence ∈ Situation.impatient.occurrences lateRestart, ∀ error,
    occurrence.event = .connectFailed error → error.isDisposed = false := by
  intro occurrence happened error failed
  have member := Situation.event_mem_of_mem_occurrences occurrence happened
  rw [failed] at member
  have refused : error = .network "refused" := by simpa [lateRestart] using member
  rw [refused]
  rfl

theorem accepts_after_late_restart :
    Situation.impatient.allows lateRestart = true ∧
      (Situation.impatient.afterAll lateRestart).connection.checkOpen = .ok () ∧
      (Situation.impatient.afterAll lateRestart).connection.phase = .ended := by
  have allowed : Situation.impatient.allows lateRestart = true := rfl
  have condition := Run.accepts_after_end_iff (run_of_allows lateRestart allowed)
    lateRestart_answers
  exact ⟨allowed, condition.1.mpr ⟨rfl, _, List.mem_of_getLast? rfl, rfl, rfl⟩⟩

/-- A connection that accepts calls may have given up its socket for good, and the status of a
kernel that counts as dead after the last attempt may change again. -/
theorem not_running_while_accepting :
    ¬∀ history situation, Run .impatient history situation →
      (∀ occurrence ∈ history, ∀ error,
        occurrence.event = .connectFailed error → error.isDisposed = false) →
      situation.connection.isDisposed = false → situation.connection.status ≠ .dead →
      situation.connection.phase ≠ .ended := by
  intro running
  have run : Run .impatient _ _ := run_of_allows lateRestart rfl
  exact running _ _ run lateRestart_answers rfl (by decide) rfl

end KernelClient.Connection
