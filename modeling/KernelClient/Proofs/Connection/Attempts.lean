import KernelClient.Proofs.Connection.Statuses

/-!
# Attempts to open a socket

A loss is an attempt that failed or the end of a socket that was opened. The connection counts the
losses since the last socket that was opened. After each of them it waits as long as its policy
says for that count, and then begins the next attempt; after one loss too many it gives up, and no
attempt begins any more.
-/

namespace KernelClient.Connection

def Effect.isConnect : Effect → Bool
  | .connect => true
  | _ => false

/-- How many attempts begin. -/
def attemptsIn (effects : List Effect) : Nat := effects.countP Effect.isConnect

/-- How long the waits are that begin, in order. -/
def waitsIn (effects : List Effect) : List Duration :=
  effects.filterMap fun
    | .wait delay => some delay
    | _ => none

@[simp]
theorem attemptsIn_append (first second : List Effect) :
    attemptsIn (first ++ second) = attemptsIn first + attemptsIn second :=
  List.countP_append

@[simp]
theorem waitsIn_append (first second : List Effect) :
    waitsIn (first ++ second) = waitsIn first ++ waitsIn second :=
  List.filterMap_append

theorem attemptsIn_eq_zero {effects : List Effect}
    (untold : ∀ effect ∈ effects, effect.topic ≠ .socketLife) : attemptsIn effects = 0 := by
  refine List.countP_eq_zero.mpr fun effect member => ?_
  have other := untold effect member
  cases effect with
  | connect => exact absurd rfl other
  | _ => simp [Effect.isConnect]

theorem waitsIn_eq_nil {effects : List Effect}
    (untold : ∀ effect ∈ effects, effect.topic ≠ .socketLife) : waitsIn effects = [] := by
  refine List.filterMap_eq_nil_iff.mpr fun effect member => ?_
  have other := untold effect member
  cases effect with
  | wait => exact absurd rfl other
  | _ => rfl

/-- Whether an event is the end of an attempt. -/
def Event.endsAttempt : Event → Bool
  | .connected _ | .connectFailed _ => true
  | _ => false

namespace Occurrence

/-- Whether a socket is opened that takes all messages that waited for it. -/
def opens (occurrence : Occurrence) : Bool :=
  match occurrence.event with
  | .connected socket => (flush socket occurrence.before.connection.queue).left.isEmpty
  | _ => false

/-- Whether an attempt fails or a socket ends. -/
def loses (occurrence : Occurrence) : Bool :=
  match occurrence.event with
  | .connected _ => !occurrence.opens
  | .connectFailed _ | .inputEnded => true
  | _ => false

end Occurrence

/-- The losses since the last socket that was opened, or from the start. -/
def lossesIn (history : List Occurrence) : Nat :=
  history.foldl
    (fun losses occurrence =>
      if occurrence.opens then 0 else if occurrence.loses then losses + 1 else losses) 0

@[simp]
theorem lossesIn_snoc (history : List Occurrence) (occurrence : Occurrence) :
    lossesIn (history ++ [occurrence]) =
      if occurrence.opens then 0
      else if occurrence.loses then lossesIn history + 1 else lossesIn history := by
  rw [lossesIn, List.foldl_append]
  rfl

/-- How many attempts end. -/
def outcomesIn (history : List Occurrence) : Nat :=
  history.countP fun occurrence => occurrence.event.endsAttempt

@[simp]
theorem outcomesIn_snoc (history : List Occurrence) (occurrence : Occurrence) :
    outcomesIn (history ++ [occurrence]) =
      outcomesIn history + occurrence.event.endsAttempt.toNat := by
  rw [outcomesIn, List.countP_append, List.countP_singleton]
  cases occurrence.event.endsAttempt <;> rfl

variable {before middle after connection : Connection} {change : Change}
  {next : Connection → Change} {first second : List Effect}

/-- A change that neither counts a loss nor begins an attempt or a wait. -/
structure KeepsCount (before : Connection) (change : Change) : Prop where
  options : change.1.options = before.options
  attempt : change.1.attempt = before.attempt
  isDisposed : change.1.isDisposed = before.isDisposed
  attempts : attemptsIn change.2 = 0
  waits : waitsIn change.2 = []

theorem KeepsCount.append (start : KeepsCount before (middle, first))
    (rest : KeepsCount middle (after, second)) : KeepsCount before (after, first ++ second) where
  options := rest.options.trans start.options
  attempt := rest.attempt.trans start.attempt
  isDisposed := rest.isDisposed.trans start.isDisposed
  attempts := by
    have early : attemptsIn first = 0 := start.attempts
    have late : attemptsIn second = 0 := rest.attempts
    rw [attemptsIn_append, early, late]
  waits := by
    have early : waitsIn first = [] := start.waits
    have late : waitsIn second = [] := rest.waits
    rw [waitsIn_append, early, late, List.append_nil]

theorem KeepsCount.andThen (start : KeepsCount before change)
    (rest : KeepsCount change.1 (next change.1)) : KeepsCount before (change.andThen next) :=
  start.append rest

theorem keepsCount_dropSocket (connection : Connection) :
    KeepsCount connection (dropSocket connection) where
  options := by rw [dropSocket_frame]
  attempt := by rw [dropSocket_frame]
  isDisposed := by rw [dropSocket_frame]
  attempts := attemptsIn_eq_zero (unconcerned_dropSocket connection).life.untold
  waits := waitsIn_eq_nil (unconcerned_dropSocket connection).life.untold

theorem keepsCount_setConnectionStatus (status : ConnectionStatus) (connection : Connection) :
    KeepsCount connection (setConnectionStatus status connection) := by
  unfold setConnectionStatus
  split <;> exact ⟨rfl, rfl, rfl, rfl, rfl⟩

/-- What follows a loss: a wait for the next attempt, or the end. -/
inductive Aftermath (policy : ReconnectPolicy) (change : Change) : Prop where
  | pauses (few : change.1.attempt ≤ policy.maxAttempts) (phase : change.1.phase = .waiting)
      (waits : waitsIn change.2 = [policy.delayFor change.1.attempt])
  | givesUp (many : policy.maxAttempts < change.1.attempt) (phase : change.1.phase = .ended)
      (status : change.1.status = .dead) (waits : waitsIn change.2 = [])

/-- A loss that is counted. -/
structure Lost (before : Connection) (change : Change) : Prop where
  options : change.1.options = before.options
  attempt : change.1.attempt = before.attempt + 1
  attempts : attemptsIn change.2 = 0
  aftermath : Aftermath before.options.reconnect change

/-- What neither counts a loss nor begins anything can be put before a loss. -/
theorem KeepsCount.lost (start : KeepsCount before (middle, first))
    (lost : Lost middle (after, second)) : Lost before (after, first ++ second) where
  options := lost.options.trans start.options
  attempt := by
    have counted : middle.attempt = before.attempt := start.attempt
    rw [lost.attempt, counted]
  attempts := by
    have early : attemptsIn first = 0 := start.attempts
    have late : attemptsIn second = 0 := lost.attempts
    rw [attemptsIn_append, early, late]
  aftermath := by
    have silent : waitsIn (first ++ second) = waitsIn second := by
      rw [waitsIn_append, start.waits, List.nil_append]
    have options : middle.options = before.options := start.options
    rw [← options]
    cases lost.aftermath with
    | pauses few phase waits => exact .pauses few phase (silent.trans waits)
    | givesUp many phase status waits => exact .givesUp many phase status (silent.trans waits)

theorem KeepsCount.thenLost (start : KeepsCount before change)
    (lost : Lost change.1 (next change.1)) : Lost before (change.andThen next) :=
  start.lost lost

/-- To give up is the end of the life of the socket. -/
theorem keepsLife_giveUp (connection : Connection) :
    KeepsLife { connection with phase := .ended } (giveUp connection) :=
  (unconcerned_log _ { connection with phase := .ended }).life.andThen (keepsLife_setStatus ..)

theorem status_giveUp (alive : connection.isDisposed = false) :
    (giveUp connection).1.status = .dead :=
  (setStatus_statusChange .dead { connection with phase := .ended }).status_eq alive

/-- After a loss was counted the connection waits or gives up, as its policy says. -/
theorem lost_retry (alive : connection.isDisposed = false) :
    Lost connection (retry { connection with attempt := connection.attempt + 1 }) := by
  unfold retry
  split
  case isTrue many =>
    have ended := keepsLife_giveUp { connection with attempt := connection.attempt + 1 }
    have dead : (giveUp { connection with attempt := connection.attempt + 1 }).1.status = .dead :=
      status_giveUp alive
    refine ⟨ended.options, ended.attempt, attemptsIn_eq_zero ended.untold, ?_⟩
    refine .givesUp ?_ ended.phase dead (waitsIn_eq_nil ended.untold)
    rw [ended.attempt]
    exact many
  case isFalse few => exact ⟨rfl, rfl, rfl, .pauses (Nat.le_of_not_lt few) rfl rfl⟩

/-- A loss is counted unless the connection is disposed. -/
theorem lost_lose (alive : connection.isDisposed = false) : Lost connection (lose connection) := by
  have dropped := keepsCount_dropSocket connection
  have told := keepsCount_setConnectionStatus .disconnected (dropSocket connection).1
  have stillAlive := told.isDisposed.trans (dropped.isDisposed.trans alive)
  unfold lose
  rw [if_neg (by simp [alive])]
  exact dropped.thenLost (told.thenLost (lost_retry stillAlive))

/-- An attempt begins. -/
structure Begun (before : Connection) (change : Change) : Prop where
  options : change.1.options = before.options
  attempt : change.1.attempt = before.attempt
  phase : change.1.phase = .connecting
  attempts : attemptsIn change.2 = 1
  waits : waitsIn change.2 = []

theorem begun_beginConnecting (alive : connection.isDisposed = false) :
    Begun connection (beginConnecting connection) := by
  have told := keepsCount_setConnectionStatus .connecting
    { connection with phase := .connecting }
  have phase := phase_beginConnecting alive
  unfold beginConnecting at phase ⊢
  rw [if_neg (by simp [alive])] at phase ⊢
  refine ⟨told.options, told.attempt, phase, ?_, ?_⟩
  · dsimp only [Change.andThen]
    rw [attemptsIn_append, told.attempts]
    rfl
  · dsimp only [Change.andThen]
    rw [waitsIn_append, told.waits]
    rfl

/-- A socket is opened. -/
structure Opened (before : Connection) (change : Change) : Prop where
  options : change.1.options = before.options
  attempt : change.1.attempt = 0
  phase : change.1.phase.isReading = true
  attempts : attemptsIn change.2 = 0
  waits : waitsIn change.2 = []

theorem keepsCount_flush (socket : ActiveSocket) (connection : Connection) :
    KeepsCount connection
      ({ connection with queue := (flush socket connection.queue).left },
        (flush socket connection.queue).effects) := by
  have untold : ∀ effect ∈ (flush socket connection.queue).effects,
      effect.topic ≠ .socketLife := by
    intro effect member
    rw [topic_of_mem_flush effect member]
    decide
  exact ⟨rfl, rfl, rfl, attemptsIn_eq_zero untold, waitsIn_eq_nil untold⟩

theorem opened_install (socket : ActiveSocket) (connection : Connection) :
    Opened connection (install socket connection) := by
  have told := keepsCount_setConnectionStatus .connected { connection with
    socket := some socket, phase := .reading socket.number socket.protocol, attempt := 0 }
  refine ⟨told.options, told.attempt, ?_, told.attempts, told.waits⟩
  rw [install, phase_setConnectionStatus]
  rfl

/-- A socket that takes all that waits for it is opened. -/
theorem opened_connected {socket : ActiveSocket} (alive : connection.isDisposed = false)
    (flushed : (flush socket connection.queue).left.isEmpty = true) :
    Opened connection (Event.change (.connected socket) connection) := by
  have written := keepsCount_flush socket connection
  have installed := opened_install (flush socket connection.queue).socket
    { connection with queue := (flush socket connection.queue).left }
  have change : connected socket connection =
      Change.andThen ({ connection with queue := (flush socket connection.queue).left },
        (flush socket connection.queue).effects) (install (flush socket connection.queue).socket) := by
    unfold connected
    rw [if_neg (by simp [alive])]
    dsimp only
    rw [if_pos flushed]
  have opened : Opened connection (connected socket connection) := by
    rw [change]
    refine ⟨installed.options, installed.attempt, installed.phase, ?_, ?_⟩
    · dsimp only [Change.andThen]
      rw [attemptsIn_append, written.attempts, installed.attempts]
    · dsimp only [Change.andThen]
      rw [waitsIn_append, written.waits, installed.waits, List.append_nil]
  have stays : loseUnopened (connected socket connection).1 =
      unchanged (connected socket connection).1 := by
    have phase := opened.phase
    rw [loseUnopened, if_neg]
    intro connecting
    rw [connecting] at phase
    cases phase
  dsimp only [Event.change, Change.andThen]
  rw [stays]
  dsimp only [unchanged]
  rw [List.append_nil]
  exact opened

theorem lost_loseUnopened (alive : connection.isDisposed = false)
    (connecting : connection.phase = .connecting) : Lost connection (loseUnopened connection) := by
  rw [loseUnopened, if_pos connecting]
  exact lost_lose alive

/-- A socket that does not take all that waits for it is lost. -/
theorem lost_connected {socket : ActiveSocket} (alive : connection.isDisposed = false)
    (connecting : connection.phase = .connecting)
    (left : (flush socket connection.queue).left.isEmpty = false) :
    Lost connection (Event.change (.connected socket) connection) := by
  have written := keepsCount_flush socket connection
  have change : connected socket connection =
      Change.andThen ({ connection with queue := (flush socket connection.queue).left },
        (flush socket connection.queue).effects) (giveBack socket) := by
    unfold connected
    rw [if_neg (by simp [alive])]
    dsimp only
    rw [if_neg (by simp [left])]
  have given : KeepsCount { connection with queue := (flush socket connection.queue).left }
      (giveBack socket { connection with queue := (flush socket connection.queue).left }) :=
    ⟨rfl, rfl, rfl, rfl, rfl⟩
  have kept : KeepsCount connection (connected socket connection) := by
    rw [change]
    exact written.andThen given
  have phase : (connected socket connection).1.phase = .connecting := by
    rw [change]
    exact connecting
  exact kept.thenLost (lost_loseUnopened (kept.isDisposed.trans alive) phase)

theorem lost_connectFailed {error : ServiceError} (answers : error.isDisposed = false)
    (alive : connection.isDisposed = false) (connecting : connection.phase = .connecting) :
    Lost connection (Event.change (.connectFailed error) connection) := by
  have failed : connectFailed error connection = (connection, (connectFailed error connection).2) := by
    unfold connectFailed
    rw [if_neg (by simp [answers])]
  have kept : KeepsCount connection (connectFailed error connection) := by
    unfold connectFailed
    rw [if_neg (by simp [answers])]
    exact ⟨rfl, rfl, rfl, rfl, rfl⟩
  have phase : (connectFailed error connection).1.phase = .connecting := by
    rw [failed]
    exact connecting
  exact kept.thenLost (lost_loseUnopened (kept.isDisposed.trans alive) phase)

theorem lost_inputEnded (alive : connection.isDisposed = false)
    (reading : connection.phase.isReading = true) : Lost connection (inputEnded connection) := by
  unfold inputEnded
  split
  case h_1 socket protocol phase =>
    have closed : KeepsCount connection (connection, [.inputClosed socket]) :=
      ⟨rfl, rfl, rfl, rfl, rfl⟩
    exact closed.thenLost (lost_lose alive)
  case h_2 idle =>
    cases phase : connection.phase with
    | reading socket protocol => exact absurd phase (idle socket protocol)
    | starting | connecting | waiting | ended =>
        rw [phase] at reading
        cases reading

/-- What an event does to the attempts of a connection that is not disposed. -/
inductive Stride (occurrence : Occurrence) : Prop where
  | calm (still : occurrence.event.movesSocket = false)
      (kept : KeepsLife occurrence.before.connection
        (occurrence.after.connection, occurrence.effects))
  | begins (happened : occurrence.event = .beginConnecting)
      (idle : occurrence.before.connection.phase = .starting ∨
        occurrence.before.connection.phase = .waiting)
      (begun : Begun occurrence.before.connection
        (occurrence.after.connection, occurrence.effects))
  | opens (ends : occurrence.event.endsAttempt = true) (opens : occurrence.opens = true)
      (safe : occurrence.loses = false)
      (connecting : occurrence.before.connection.phase = .connecting)
      (opened : Opened occurrence.before.connection
        (occurrence.after.connection, occurrence.effects))
  | fails (ends : occurrence.event.endsAttempt = true) (loses : occurrence.loses = true)
      (closed : occurrence.opens = false)
      (connecting : occurrence.before.connection.phase = .connecting)
      (lost : Lost occurrence.before.connection (occurrence.after.connection, occurrence.effects))
  | drops (happened : occurrence.event = .inputEnded)
      (reading : occurrence.before.connection.phase.isReading = true)
      (lost : Lost occurrence.before.connection (occurrence.after.connection, occurrence.effects))

variable {occurrence : Occurrence}

theorem Occurrence.stride (possible : occurrence.event.isPossible occurrence.before = true)
    (answers : ∀ error, occurrence.event = .connectFailed error → error.isDisposed = false)
    (alive : occurrence.before.connection.isDisposed = false) : Stride occurrence := by
  cases moves : occurrence.event.movesSocket with
  | false => exact .calm moves (Event.keepsLife moves occurrence.before.connection)
  | true =>
      obtain ⟨before, event⟩ := occurrence
      cases event with
      | beginConnecting =>
          exact .begins rfl (of_decide_eq_true possible) (begun_beginConnecting alive)
      | connected socket =>
          have connecting := (of_decide_eq_true possible).1
          cases flushed : (flush socket before.connection.queue).left.isEmpty with
          | true =>
              have opens : Occurrence.opens ⟨before, .connected socket⟩ = true := flushed
              have safe := congrArg Bool.not opens
              exact .opens rfl opens safe connecting (opened_connected alive flushed)
          | false =>
              have closed : Occurrence.opens ⟨before, .connected socket⟩ = false := flushed
              refine .fails rfl ?_ closed connecting (lost_connected alive connecting flushed)
              exact congrArg Bool.not closed
      | connectFailed error =>
          have connecting := of_decide_eq_true possible
          have failed := lost_connectFailed (answers error rfl) alive connecting
          exact .fails rfl rfl rfl connecting failed
      | inputEnded => exact .drops rfl possible (lost_inputEnded alive possible)
      | stop => cases alive.symm.trans (of_decide_eq_true possible).1
      | _ => cases moves

/-- An event that is no step in the life of the socket is neither a loss nor the end of an
attempt. -/
theorem Occurrence.calm (still : occurrence.event.movesSocket = false) :
    occurrence.opens = false ∧ occurrence.loses = false ∧
      occurrence.event.endsAttempt = false := by
  obtain ⟨before, event⟩ := occurrence
  cases event with
  | beginConnecting | connected | connectFailed | inputEnded | stop => cases still
  | _ => exact ⟨rfl, rfl, rfl⟩

/-- What the count of losses says of a connection with a policy. -/
structure Counted (policy : ReconnectPolicy) (losses : Nat) (connection : Connection) : Prop where
  follows : connection.options.reconnect = policy
  attempt : connection.attempt = losses
  running : connection.phase ≠ .ended → losses ≤ policy.maxAttempts
  finished : connection.phase = .ended → losses = policy.maxAttempts + 1
  reading : connection.phase.isReading = true → losses = 0

variable {policy : ReconnectPolicy} {losses : Nat}

/-- What keeps the phase and the count keeps what the count says. -/
theorem Counted.ofSame (counted : Counted policy losses before)
    (options : after.options = before.options) (attempt : after.attempt = before.attempt)
    (running : after.phase ≠ .ended → before.phase ≠ .ended)
    (finished : after.phase = .ended → before.phase = .ended)
    (reading : after.phase.isReading = true → before.phase.isReading = true) :
    Counted policy losses after where
  follows := by rw [options, counted.follows]
  attempt := attempt.trans counted.attempt
  running goesOn := counted.running (running goesOn)
  finished ended := counted.finished (finished ended)
  reading reads := counted.reading (reading reads)

theorem Counted.begun (counted : Counted policy losses before)
    (idle : before.phase = .starting ∨ before.phase = .waiting) (begun : Begun before change) :
    Counted policy losses change.1 := by
  refine counted.ofSame begun.options begun.attempt (fun _ => ?_) ?_ ?_
  · rcases idle with phase | phase <;> simp [phase]
  · simp [begun.phase]
  · simp [begun.phase, SocketPhase.isReading]

theorem Counted.opened (counted : Counted policy losses before) (opened : Opened before change) :
    Counted policy 0 change.1 := by
  have reading := opened.phase
  refine ⟨by rw [opened.options, counted.follows], opened.attempt, fun _ => Nat.zero_le _,
    fun ended => ?_, fun _ => rfl⟩
  rw [ended] at reading
  cases reading

/-- One more loss is the last one if it is one too many. -/
theorem Counted.lost (counted : Counted policy losses before) (running : before.phase ≠ .ended)
    (lost : Lost before change) : Counted policy (losses + 1) change.1 := by
  have few := counted.running running
  have attempt : change.1.attempt = losses + 1 := by rw [lost.attempt, counted.attempt]
  have follows : change.1.options.reconnect = policy := by rw [lost.options, counted.follows]
  have aftermath := lost.aftermath
  rw [counted.follows] at aftermath
  cases aftermath with
  | pauses left phase waits =>
      refine ⟨follows, attempt, fun _ => attempt ▸ left, ?_, ?_⟩
      · simp [phase]
      · simp [phase, SocketPhase.isReading]
  | givesUp many phase status waits =>
      refine ⟨follows, attempt, fun running => absurd phase running, fun _ => ?_, ?_⟩
      · omega
      · simp [phase, SocketPhase.isReading]

/-- Every event keeps the count. -/
theorem Counted.afterStride {history : List Occurrence}
    (counted : Counted policy (lossesIn history) occurrence.before.connection)
    (stride : Stride occurrence) :
    Counted policy (lossesIn (history ++ [occurrence])) occurrence.after.connection := by
  rw [lossesIn_snoc]
  cases stride with
  | calm still kept =>
      obtain ⟨closed, safe, -⟩ := Occurrence.calm still
      have phase : occurrence.after.connection.phase = occurrence.before.connection.phase :=
        kept.phase
      simp only [closed, safe, Bool.false_eq_true, if_false]
      exact counted.ofSame kept.options kept.attempt (phase ▸ id) (phase ▸ id) (phase ▸ id)
  | begins happened idle begun =>
      simp only [Occurrence.opens, Occurrence.loses, happened, Bool.false_eq_true, if_false]
      exact counted.begun idle begun
  | opens ends opens safe connecting opened =>
      simp only [opens, if_true]
      exact counted.opened opened
  | fails ends loses closed connecting lost =>
      simp only [closed, loses, Bool.false_eq_true, if_false, if_true]
      exact counted.lost (by simp [connecting]) lost
  | drops happened reading lost =>
      simp only [Occurrence.opens, Occurrence.loses, happened, Bool.false_eq_true, if_false,
        if_true]
      refine counted.lost (fun ended => ?_) lost
      rw [ended] at reading
      cases reading

variable {start situation : Situation} {history : List Occurrence}

/-- A connection that is not disposed was not disposed before. -/
theorem Event.alive_before {event : Event} (possible : event.isPossible situation = true)
    (sound : SocketSound situation.connection)
    (alive : (situation.after event).connection.isDisposed = false) :
    situation.connection.isDisposed = false := by
  cases disposed : situation.connection.isDisposed with
  | false => rfl
  | true => cases alive.symm.trans ((Event.steady possible sound).disposed disposed)

theorem Run.alive_before (run : Run start history situation) (sound : SocketSound start.connection)
    (alive : situation.connection.isDisposed = false) : start.connection.isDisposed = false := by
  induction run with
  | start => exact alive
  | next run event possible earlier =>
      exact earlier (Event.alive_before possible (run.sound sound) alive)

/-- A run in which the connection is not disposed and no attempt is abandoned. -/
structure Persists (start : Situation) (history : List Occurrence) (situation : Situation) :
    Prop where
  run : Run start history situation
  sound : SocketSound start.connection
  answers : ∀ occurrence ∈ history, ∀ error,
    occurrence.event = .connectFailed error → error.isDisposed = false
  alive : situation.connection.isDisposed = false

/-- What holds at the start and is kept by the strides of a run holds at its end. -/
theorem Persists.induct (persists : Persists start history situation)
    (Holds : List Occurrence → Connection → Prop) (initial : Holds [] start.connection)
    (next : ∀ history occurrence, Stride occurrence →
      Holds history occurrence.before.connection →
      Holds (history ++ [occurrence]) occurrence.after.connection) :
    Holds history situation.connection := by
  obtain ⟨run, sound, answers, alive⟩ := persists
  induction run with
  | start => exact initial
  | @next history before run event possible earlier =>
      have aliveBefore := Event.alive_before possible (run.sound sound) alive
      have held := earlier (fun occurrence member =>
        answers occurrence (List.mem_append_left _ member)) aliveBefore
      have answered := answers ⟨before, event⟩ (List.mem_append_right _ (List.mem_singleton_self _))
      exact next history ⟨before, event⟩ (Occurrence.stride possible answered aliveBefore) held

/-- Each event of such a run is a stride. -/
theorem Persists.stride (persists : Persists start history situation) :
    ∀ occurrence ∈ history, Stride occurrence := by
  refine persists.induct (fun history _ => ∀ occurrence ∈ history, Stride occurrence) (by simp) ?_
  intro history occurrence stride earlier other member
  rcases List.mem_append.mp member with early | late
  · exact earlier other early
  · cases List.mem_singleton.mp late
    exact stride

theorem Persists.counted (persists : Persists start history situation)
    (initial : Counted policy 0 start.connection) :
    Counted policy (lossesIn history) situation.connection :=
  persists.induct (fun history connection => Counted policy (lossesIn history) connection) initial
    fun _ _ stride counted => counted.afterStride stride

/-- How many attempts are under way. -/
def underWay (connection : Connection) : Nat := if connection.phase = .connecting then 1 else 0

theorem underWay_of_connecting (connecting : connection.phase = .connecting) :
    underWay connection = 1 :=
  if_pos connecting

theorem underWay_of_other (other : connection.phase ≠ .connecting) : underWay connection = 0 :=
  if_neg other

theorem underWay_of_reading (reading : connection.phase.isReading = true) :
    underWay connection = 0 := by
  refine underWay_of_other fun connecting => ?_
  rw [connecting] at reading
  cases reading

/-- After a loss nothing is read and no attempt is under way. -/
theorem Lost.idle (lost : Lost before change) :
    change.1.phase.isReading = false ∧ underWay change.1 = 0 := by
  cases lost.aftermath with
  | pauses few phase waits | givesUp many phase status waits =>
      rw [underWay, phase]
      exact ⟨rfl, rfl⟩

theorem Stride.attempts_eq (stride : Stride occurrence) :
    attemptsIn occurrence.effects + underWay occurrence.before.connection =
      occurrence.event.endsAttempt.toNat + underWay occurrence.after.connection := by
  cases stride with
  | calm still kept =>
      have phase : occurrence.after.connection.phase = occurrence.before.connection.phase :=
        kept.phase
      have silent : attemptsIn occurrence.effects = 0 := attemptsIn_eq_zero kept.untold
      rw [silent, (Occurrence.calm still).2.2, underWay, underWay, phase]
      rfl
  | begins happened idle begun =>
      have before : underWay occurrence.before.connection = 0 := by
        refine underWay_of_other ?_
        rcases idle with phase | phase <;> simp [phase]
      have after : underWay occurrence.after.connection = 1 := underWay_of_connecting begun.phase
      rw [begun.attempts, before, after, happened]
      rfl
  | opens ends opens safe connecting opened =>
      have after : underWay occurrence.after.connection = 0 := underWay_of_reading opened.phase
      rw [opened.attempts, underWay_of_connecting connecting, after, ends]
      rfl
  | fails ends loses closed connecting lost =>
      have after : underWay occurrence.after.connection = 0 := lost.idle.2
      rw [lost.attempts, underWay_of_connecting connecting, after, ends]
      rfl
  | drops happened reading lost =>
      have after : underWay occurrence.after.connection = 0 := lost.idle.2
      rw [lost.attempts, underWay_of_reading reading, after, happened]
      rfl

/-- An attempt that has begun has ended or is under way. -/
theorem Persists.attempts_eq (persists : Persists start history situation) :
    attemptsIn (effectsOf history) + underWay start.connection =
      outcomesIn history + underWay situation.connection := by
  refine persists.induct (fun history connection =>
    attemptsIn (effectsOf history) + underWay start.connection =
      outcomesIn history + underWay connection) (by simp [attemptsIn, outcomesIn]) ?_
  intro history occurrence stride balanced
  have balance := stride.attempts_eq
  rw [effectsOf_snoc, attemptsIn_append, outcomesIn_snoc]
  omega

/-- Whether no socket is opened. -/
def OpensNone (history : List Occurrence) : Prop :=
  ∀ occurrence ∈ history, occurrence.opens = false

/-- While no socket is opened each attempt that ends counts as a loss, and nothing else does. -/
theorem Persists.attempt_of_opensNone (persists : Persists start history situation)
    (idle : start.connection.phase.isReading = false) (none : OpensNone history) :
    situation.connection.phase.isReading = false ∧
      situation.connection.attempt = start.connection.attempt + outcomesIn history := by
  have induction := persists.induct (fun history connection => OpensNone history →
    connection.phase.isReading = false ∧
      connection.attempt = start.connection.attempt + outcomesIn history)
    (fun _ => ⟨idle, by simp [outcomesIn]⟩)
  refine induction ?_ none
  intro history occurrence stride earlier none
  obtain ⟨idle, attempt⟩ := earlier fun other member => none other (List.mem_append_left _ member)
  have closed := none occurrence (List.mem_append_right _ (List.mem_singleton_self _))
  rw [outcomesIn_snoc]
  cases stride with
  | calm still kept =>
      have phase : occurrence.after.connection.phase = occurrence.before.connection.phase :=
        kept.phase
      have same : occurrence.after.connection.attempt = occurrence.before.connection.attempt :=
        kept.attempt
      rw [phase, same, (Occurrence.calm still).2.2]
      exact ⟨idle, attempt⟩
  | begins happened phase begun =>
      have after : occurrence.after.connection.phase = .connecting := begun.phase
      have same : occurrence.after.connection.attempt = occurrence.before.connection.attempt :=
        begun.attempt
      rw [after, same, happened]
      exact ⟨rfl, attempt⟩
  | opens ends opens safe connecting opened => cases closed.symm.trans opens
  | fails ends loses closed connecting lost =>
      have counted : occurrence.after.connection.attempt =
          occurrence.before.connection.attempt + 1 := lost.attempt
      refine ⟨lost.idle.1, ?_⟩
      rw [counted, attempt, ends, Nat.add_assoc]
      rfl
  | drops happened reading lost => cases idle.symm.trans reading

/-- A loss among the events of a history, with what happens before and after it. -/
structure LossIn (history earlier : List Occurrence) (loss : Occurrence)
    (later : List Occurrence) : Prop where
  parts : history = earlier ++ loss :: later
  loses : loss.loses = true

/-- How the policy of a connection shows in a history that leads to a situation: nothing but a loss
begins a wait; a loss that is not one too many begins the wait that the policy says for the count of
losses, and one attempt follows before the next one ends; one loss too many is the end of all
attempts, and the kernel counts as dead. -/
structure KeepsPolicy (policy : ReconnectPolicy) (history : List Occurrence)
    (situation : Situation) : Prop where
  counted : situation.connection.attempt = lossesIn history
  unpaused : ∀ occurrence ∈ history, occurrence.loses = false → waitsIn occurrence.effects = []
  pauses : ∀ earlier loss later, LossIn history earlier loss later →
    lossesIn (earlier ++ [loss]) ≤ policy.maxAttempts →
      loss.after.connection.phase = .waiting ∧
        waitsIn loss.effects = [policy.delayFor (lossesIn (earlier ++ [loss]))]
  retries : ∀ earlier loss later, LossIn history earlier loss later →
    lossesIn (earlier ++ [loss]) ≤ policy.maxAttempts →
      (outcomesIn later = 0 →
        attemptsIn (effectsOf later) = underWay situation.connection) ∧
      ∀ quiet outcome rest, later = quiet ++ outcome :: rest → outcomesIn quiet = 0 →
        outcome.event.endsAttempt = true → attemptsIn (effectsOf quiet) = 1
  givesUp : ∀ earlier loss later, LossIn history earlier loss later →
    policy.maxAttempts < lossesIn (earlier ++ [loss]) →
      lossesIn (earlier ++ [loss]) = policy.maxAttempts + 1 ∧
        loss.after.connection.status = .dead ∧ waitsIn loss.effects = [] ∧
        attemptsIn (effectsOf later) = 0
  inVain : situation.connection.phase = .ended → OpensNone history →
    attemptsIn (effectsOf history) = policy.maxAttempts + 1
  afterDrop : ∀ earlier drop later, history = earlier ++ drop :: later →
    drop.event = .inputEnded → situation.connection.phase = .ended → OpensNone later →
      attemptsIn (effectsOf later) = policy.maxAttempts

theorem Stride.waits_of_safe (stride : Stride occurrence) (safe : occurrence.loses = false) :
    waitsIn occurrence.effects = [] := by
  cases stride with
  | calm still kept => exact waitsIn_eq_nil kept.untold
  | begins happened idle begun => exact begun.waits
  | opens ends opens safe connecting opened => exact opened.waits
  | fails ends loses closed connecting lost => cases safe.symm.trans loses
  | drops happened reading lost => simp [Occurrence.loses, happened] at safe

theorem Stride.lost (stride : Stride occurrence) (loses : occurrence.loses = true) :
    Lost occurrence.before.connection (occurrence.after.connection, occurrence.effects) := by
  cases stride with
  | calm still kept => cases (Occurrence.calm still).2.1.symm.trans loses
  | begins happened idle begun => simp [Occurrence.loses, happened] at loses
  | opens ends opens safe connecting opened => cases safe.symm.trans loses
  | fails ends loses closed connecting lost => exact lost
  | drops happened reading lost => exact lost

theorem Stride.connecting (stride : Stride occurrence)
    (ends : occurrence.event.endsAttempt = true) :
    occurrence.before.connection.phase = .connecting := by
  cases stride with
  | calm still kept => cases (Occurrence.calm still).2.2.symm.trans ends
  | begins happened idle begun => simp [Event.endsAttempt, happened] at ends
  | opens ends opens safe connecting opened => exact connecting
  | fails ends loses closed connecting lost => exact connecting
  | drops happened reading lost => simp [Event.endsAttempt, happened] at ends

/-- After the end of the life of the socket no attempt begins. -/
theorem Persists.attempts_of_ended (persists : Persists start history situation)
    (ended : start.connection.phase = .ended) : attemptsIn (effectsOf history) = 0 := by
  have induction := persists.induct (fun history connection =>
    connection.phase = .ended ∧ attemptsIn (effectsOf history) = 0) ⟨ended, rfl⟩
  refine (induction ?_).2
  intro history occurrence stride ⟨ended, earlier⟩
  rw [effectsOf_snoc, attemptsIn_append, earlier]
  cases stride with
  | calm still kept =>
      have phase : occurrence.after.connection.phase = occurrence.before.connection.phase :=
        kept.phase
      exact ⟨phase.trans ended, by rw [attemptsIn_eq_zero kept.untold]⟩
  | begins happened idle begun => simp [ended] at idle
  | opens ends opens safe connecting opened => cases ended.symm.trans connecting
  | fails ends loses closed connecting lost => cases ended.symm.trans connecting
  | drops happened reading lost =>
      rw [ended] at reading
      cases reading

/-- Such a run before and after one of its events. -/
theorem Persists.split_at {earlier later : List Occurrence}
    (persists : Persists start history situation) (parts : history = earlier ++ occurrence :: later) :
    Persists start earlier occurrence.before ∧ Stride occurrence ∧
      Persists occurrence.after later situation := by
  have stride := persists.stride occurrence (by simp [parts])
  obtain ⟨run, sound, answers, alive⟩ := persists
  obtain ⟨middle, first, second⟩ := run.split earlier (occurrence :: later) parts
  obtain ⟨met, possible, rest⟩ := second.of_cons
  subst met
  have soundBefore := first.sound sound
  have soundAfter : SocketSound occurrence.after.connection :=
    (occurrence.composed soundBefore possible).sound soundBefore
  have early : ∀ other ∈ earlier, other ∈ history := fun other member => by simp [parts, member]
  have late : ∀ other ∈ later, other ∈ history := fun other member => by simp [parts, member]
  exact ⟨⟨first, sound, fun other member => answers other (early other member),
      second.alive_before soundBefore alive⟩, stride,
    ⟨rest, soundAfter, fun other member => answers other (late other member), alive⟩⟩

section Policy

variable (persists : Persists start history situation)
  (initial : Counted policy 0 start.connection) {earlier later : List Occurrence}
  {loss : Occurrence}

include persists initial

/-- What holds after a loss in such a run. -/
theorem Persists.after_loss (lossIn : LossIn history earlier loss later) :
    Counted policy (lossesIn (earlier ++ [loss])) loss.after.connection ∧
      Aftermath policy (loss.after.connection, loss.effects) ∧
      Persists loss.after later situation := by
  obtain ⟨first, stride, second⟩ := persists.split_at lossIn.parts
  have before := first.counted initial
  have aftermath := (stride.lost lossIn.loses).aftermath
  rw [before.follows] at aftermath
  exact ⟨before.afterStride stride, aftermath, second⟩

theorem Persists.pauses (lossIn : LossIn history earlier loss later)
    (few : lossesIn (earlier ++ [loss]) ≤ policy.maxAttempts) :
    loss.after.connection.phase = .waiting ∧
      waitsIn loss.effects = [policy.delayFor (lossesIn (earlier ++ [loss]))] := by
  obtain ⟨counted, aftermath, -⟩ := persists.after_loss initial lossIn
  have attempt := counted.attempt
  cases aftermath with
  | pauses left phase waits =>
      rw [attempt] at waits
      exact ⟨phase, waits⟩
  | givesUp many phase status waits =>
      rw [attempt] at many
      exact absurd few (Nat.not_le.mpr many)

theorem Persists.retries (lossIn : LossIn history earlier loss later)
    (few : lossesIn (earlier ++ [loss]) ≤ policy.maxAttempts) :
    (outcomesIn later = 0 → attemptsIn (effectsOf later) = underWay situation.connection) ∧
      ∀ quiet outcome rest, later = quiet ++ outcome :: rest → outcomesIn quiet = 0 →
        outcome.event.endsAttempt = true → attemptsIn (effectsOf quiet) = 1 := by
  obtain ⟨-, -, rest⟩ := persists.after_loss initial lossIn
  have waiting := (persists.pauses initial lossIn few).1
  have idle : underWay loss.after.connection = 0 := underWay_of_other (by simp [waiting])
  refine ⟨fun quiet => ?_, fun quiet outcome others parts none ends => ?_⟩
  · have balance := rest.attempts_eq
    omega
  · obtain ⟨silence, stride, -⟩ := rest.split_at parts
    have balance := silence.attempts_eq
    have begun := underWay_of_connecting (stride.connecting ends)
    omega

theorem Persists.givesUp (lossIn : LossIn history earlier loss later)
    (many : policy.maxAttempts < lossesIn (earlier ++ [loss])) :
    lossesIn (earlier ++ [loss]) = policy.maxAttempts + 1 ∧
      loss.after.connection.status = .dead ∧ waitsIn loss.effects = [] ∧
      attemptsIn (effectsOf later) = 0 := by
  obtain ⟨counted, aftermath, rest⟩ := persists.after_loss initial lossIn
  have attempt := counted.attempt
  cases aftermath with
  | pauses few phase waits =>
      rw [attempt] at few
      exact absurd few (Nat.not_le.mpr many)
  | givesUp beyond phase status waits =>
      exact ⟨counted.finished phase, status, waits, rest.attempts_of_ended phase⟩

/-- If no socket is ever opened, then the first attempt and all that follow are in vain. -/
theorem Persists.attempts_in_vain (starting : start.connection.phase = .starting)
    (ended : situation.connection.phase = .ended) (none : OpensNone history) :
    attemptsIn (effectsOf history) = policy.maxAttempts + 1 := by
  have idle : start.connection.phase.isReading = false := by rw [starting]; rfl
  obtain ⟨-, attempt⟩ := persists.attempt_of_opensNone idle none
  have counted := persists.counted initial
  have all := counted.finished ended
  have balance := persists.attempts_eq
  have before : underWay start.connection = 0 := underWay_of_other (by simp [starting])
  have after : underWay situation.connection = 0 := underWay_of_other (by simp [ended])
  have fresh := initial.attempt
  have now := counted.attempt
  omega

/-- If no socket is opened after one has ended, then all attempts that follow are in vain. -/
theorem Persists.attempts_after_drop (parts : history = earlier ++ loss :: later)
    (dropped : loss.event = .inputEnded) (ended : situation.connection.phase = .ended)
    (none : OpensNone later) : attemptsIn (effectsOf later) = policy.maxAttempts := by
  obtain ⟨first, stride, rest⟩ := persists.split_at parts
  have loses : loss.loses = true := by simp [Occurrence.loses, dropped]
  have lost := stride.lost loses
  have reading : loss.before.connection.phase.isReading = true := by
    cases stride with
    | calm still kept => simp [Event.movesSocket, dropped] at still
    | begins happened idle begun => cases happened.symm.trans dropped
    | opens ends opens safe connecting opened => cases safe.symm.trans loses
    | fails ends loses closed connecting lost => simp [Event.endsAttempt, dropped] at ends
    | drops happened reading lost => exact reading
  have before := first.counted initial
  have fresh := before.reading reading
  have attempt : loss.after.connection.attempt = loss.before.connection.attempt + 1 := lost.attempt
  obtain ⟨-, counted⟩ := rest.attempt_of_opensNone lost.idle.1 none
  have all := persists.counted initial
  have total := all.finished ended
  have balance := rest.attempts_eq
  have start : underWay loss.after.connection = 0 := lost.idle.2
  have after : underWay situation.connection = 0 := underWay_of_other (by simp [ended])
  have known := before.attempt
  have now := all.attempt
  omega

end Policy

/-- In every run of a new connection that is not disposed, and of which no attempt is abandoned, the
attempts and the waits keep its policy. -/
theorem Run.keeps_policy {model : KernelModel} {clientId : String} {options : ConnectionOptions}
    (run : Run (.initial model clientId options) history situation)
    (answers : ∀ occurrence ∈ history, ∀ error,
      occurrence.event = .connectFailed error → error.isDisposed = false)
    (alive : situation.connection.isDisposed = false) :
    KeepsPolicy options.reconnect history situation := by
  have persists : Persists _ history situation := ⟨run, .ofFree rfl, answers, alive⟩
  have initial : Counted options.reconnect 0 (Situation.initial model clientId options).connection :=
    ⟨rfl, rfl, fun _ => Nat.zero_le _, nofun, nofun⟩
  exact {
    counted := (persists.counted initial).attempt
    unpaused := fun occurrence member safe => (persists.stride occurrence member).waits_of_safe safe
    pauses := fun _ _ _ lossIn few => persists.pauses initial lossIn few
    retries := fun _ _ _ lossIn few => persists.retries initial lossIn few
    givesUp := fun _ _ _ lossIn many => persists.givesUp initial lossIn many
    inVain := fun ended none => persists.attempts_in_vain initial rfl ended none
    afterDrop := fun _ _ _ parts dropped ended none =>
      persists.attempts_after_drop initial parts dropped ended none }

end KernelClient.Connection
