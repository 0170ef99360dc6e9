import KernelClient.Proofs.Connection.SocketLife

/-!
# What holds between two steps

While a socket is installed, no message waits for one, the connection tells that it is connected and
it is not disposed. While the kernel counts as dead, neither messages nor requests wait. Sending,
writing what waits, the loss of the socket, a new status, a restart and the disposal all write some
of this.

That a dead kernel leaves nothing waiting is kept by every part of an event. That an installed
socket is told is not, since a socket is installed before that is told. But what is told changes
only in the steps of the life of the socket, and each of these leaves no socket to read from or
tells of one.
-/

namespace KernelClient.Connection

/-- If a socket is installed, then the connection tells that it is connected. -/
def TellsSocket (connection : Connection) : Prop :=
  connection.socket.isSome = true → connection.connectionStatus = .connected

/-- If the kernel counts as dead, then neither messages nor requests wait. -/
def QuietWhenDead (connection : Connection) : Prop :=
  connection.status = .dead → connection.queue = [] ∧ connection.pending = []

/-- What holds of a connection between two steps. -/
structure Coherent (connection : Connection) : Prop where
  sound : SocketSound connection
  told : TellsSocket connection
  quiet : QuietWhenDead connection

variable {occurrence : Occurrence} {connection : Connection}

theorem QuietWhenDead.ofSame {before after : Connection} (quiet : QuietWhenDead before)
    (status : after.status = before.status) (queue : before.queue = [] → after.queue = [])
    (pending : after.pending = before.pending) : QuietWhenDead after := by
  intro dead
  obtain ⟨noMessage, noRequest⟩ := quiet (status ▸ dead)
  exact ⟨queue noMessage, pending.trans noRequest⟩

/-- A connection that accepts calls has a kernel that does not count as dead. -/
theorem QuietWhenDead.ofAccepting {before after : Connection} (accepts : before.checkOpen = .ok ())
    (status : after.status = before.status) : QuietWhenDead after :=
  fun dead => absurd (status ▸ dead) (checkOpen_eq_ok_iff.mp accepts).2

theorem StatusChange.quiet {before : Connection} {status : KernelStatus} {change : Change}
    (changed : StatusChange before status change) (quiet : QuietWhenDead before) :
    QuietWhenDead change.1 := by
  cases changed with
  | same => exact quiet
  | plain alive survives continues => exact fun dead => absurd dead survives
  | died | autoRestarted => exact fun _ => ⟨rfl, rfl⟩

/-- Every part of an event leaves nothing waiting for a dead kernel. -/
theorem Part.quiet {before : Connection} {change : Change} {requests : List RequestLabel}
    (part : Part occurrence before change requests) (quiet : QuietWhenDead before) :
    QuietWhenDead change.1 := by
  cases part with
  | aside kept => exact quiet.ofSame kept.status kept.queue.trans kept.pending
  | send sending =>
      cases sending with
      | refused => exact quiet
      | kept accepts fresh transmitted => exact .ofAccepting accepts transmitted.kept.1
  | sendRaw transmission accepts =>
      cases transmission with
      | refused => exact quiet
      | queued | written | broken => exact .ofAccepting (accepts rfl) rfl
  | setStatus sets changed => exact changed.quiet quiet
  | enter | dropSocket | install | outputBroken => exact quiet.ofSame rfl id rfl
  | dispose =>
      cases disposed : before.isDisposed with
      | true =>
          rw [dispose_again disposed]
          exact quiet
      | false =>
          rw [dispose_first disposed]
          exact fun _ => ⟨rfl, rfl⟩
  | clear => exact fun _ => ⟨rfl, rfl⟩
  | answer read asked held waits answered =>
      -- A request waits, so the kernel does not count as dead.
      have running : before.status ≠ .dead := by
        intro dead
        rw [(quiet dead).2] at waits
        cases waits
      cases answered <;> exact fun dead => absurd dead running
  | @flush _ socket =>
      have written : before.queue = [] → (Connection.flush socket before.queue).left = [] := by
        intro empty
        rw [empty]
        rfl
      exact quiet.ofSame rfl written rfl

theorem Composed.quiet {before : Connection} {change : Change} {requests : List RequestLabel}
    (composed : Composed occurrence before change requests) (quiet : QuietWhenDead before) :
    QuietWhenDead change.1 := by
  induction composed with
  | part part => exact part.quiet quiet
  | append start rest first second => exact second (first quiet)

theorem TellsSocket.ofFree (free : connection.socket = none) : TellsSocket connection := by
  intro present
  rw [free] at present
  cases present

theorem TellsSocket.ofSame {before after : Connection} (told : TellsSocket before)
    (socket : after.socket.isSome = true → before.socket.isSome = true)
    (status : after.connectionStatus = before.connectionStatus) : TellsSocket after :=
  fun present => status.trans (told (socket present))

theorem Transmission.told {message : Message} {before : Connection} {call : Call Unit}
    (transmission : Transmission message before call) (told : TellsSocket before) :
    TellsSocket call.2.1 := by
  cases transmission with
  | refused => exact told
  | queued free => exact .ofFree free
  | written present => exact told.ofSame (fun _ => by rw [present]; rfl) rfl
  | broken => exact .ofFree rfl

/-- A part of an event that is no step in the life of the socket keeps what is told of it. -/
theorem Part.told {before : Connection} {change : Change} {requests : List RequestLabel}
    (part : Part occurrence before change requests)
    (still : occurrence.event.movesSocket = false) (told : TellsSocket before) :
    TellsSocket change.1 := by
  cases part with
  | aside kept plain same =>
      rcases same with moves | same
      · cases moves.symm.trans still
      · exact told.ofSame (fun present => kept.socket ▸ present) same
  | send sending =>
      cases sending with
      | refused => exact told
      | kept accepts fresh transmitted => exact (transmitted.told told).ofSame id rfl
  | sendRaw transmission => exact transmission.told told
  | setStatus sets changed => cases changed <;> exact told.ofSame id rfl
  | enter moves => cases moves.symm.trans still
  | dropSocket => exact .ofFree rfl
  | dispose =>
      cases disposed : before.isDisposed with
      | true =>
          rw [dispose_again disposed]
          exact told
      | false =>
          rw [dispose_first disposed]
          exact .ofFree rfl
  | clear => exact told.ofSame id rfl
  | answer read asked held waits answered => cases answered <;> exact told.ofSame id rfl
  | flush opened | install opened =>
      rw [opened] at still
      cases still
  | outputBroken => exact told.ofSame (fun present => Option.isSome_map ▸ present) rfl

theorem Composed.told {before : Connection} {change : Change} {requests : List RequestLabel}
    (composed : Composed occurrence before change requests)
    (still : occurrence.event.movesSocket = false) (told : TellsSocket before) :
    TellsSocket change.1 := by
  induction composed with
  | part part => exact part.told still told
  | append start rest first second => exact second (first told)

/-- A connection that is read from tells that it is connected. -/
def TellsReading (connection : Connection) : Prop :=
  connection.phase.isReading = true → connection.connectionStatus = .connected

theorem TellsReading.ofIdle {phase : SocketPhase} (same : connection.phase = phase)
    (idle : phase.isReading = false) : TellsReading connection := by
  intro reading
  rw [same, idle] at reading
  cases reading

theorem TellsReading.told (reading : TellsReading connection) (sound : SocketSound connection) :
    TellsSocket connection := by
  intro present
  obtain ⟨socket, present⟩ := Option.isSome_iff_exists.mp present
  apply reading
  rw [sound.reading socket present]
  rfl

/-- After a lost socket nothing is read. -/
theorem phase_lose (connection : Connection) :
    (lose connection).1.phase = .waiting ∨ (lose connection).1.phase = .ended := by
  unfold lose
  split
  · exact .inr rfl
  · dsimp only [Change.andThen]
    unfold retry
    split
    · exact .inr (setStatus_statusChange .dead _).phase_eq
    · exact .inl rfl

theorem tellsReading_lose (connection : Connection) : TellsReading (lose connection).1 := by
  rcases phase_lose connection with waiting | ended
  · exact .ofIdle waiting rfl
  · exact .ofIdle ended rfl

/-- An attempt to open a socket either is lost, or keeps what is told of a socket that is read. -/
theorem tellsReading_loseUnopened (told : TellsReading connection) :
    TellsReading (loseUnopened connection).1 := by
  unfold loseUnopened
  split
  · exact tellsReading_lose connection
  · exact told

theorem tellsReading_beginConnecting (connection : Connection) :
    TellsReading (beginConnecting connection).1 := by
  cases disposed : connection.isDisposed with
  | false => exact .ofIdle (phase_beginConnecting disposed) rfl
  | true =>
      unfold beginConnecting
      rw [if_pos disposed]
      exact .ofIdle rfl rfl

theorem tellsReading_connectFailed (error : ServiceError)
    (connecting : connection.phase = .connecting) :
    TellsReading (connectFailed error connection).1 := by
  unfold connectFailed
  split
  · exact .ofIdle rfl rfl
  · exact .ofIdle connecting rfl

theorem tellsReading_giveBack (connecting : connection.phase = .connecting)
    (socket : ActiveSocket) : TellsReading (giveBack socket connection).1 :=
  tellsReading_connectFailed (.connectionClosed "socket closed while flushing") connecting

/-- The socket that is installed is told. -/
theorem tellsReading_install (alive : connection.isDisposed = false) (socket : ActiveSocket) :
    TellsReading (install socket connection).1 := by
  intro _
  unfold install setConnectionStatus
  split
  case isTrue same => exact same.resolve_left (by simp [alive])
  case isFalse => rfl

theorem tellsReading_connected (connecting : connection.phase = .connecting)
    (socket : ActiveSocket) : TellsReading (connected socket connection).1 := by
  unfold connected
  split
  · exact .ofIdle rfl rfl
  case isFalse alive =>
    dsimp only [Change.andThen]
    split
    · exact tellsReading_install (by simpa using alive) _
    · exact tellsReading_giveBack connecting socket

theorem tellsReading_inputEnded (reading : connection.phase.isReading = true) :
    TellsReading (inputEnded connection).1 := by
  unfold inputEnded
  split
  · exact tellsReading_lose connection
  case h_2 idle =>
    cases phase : connection.phase with
    | reading socket protocol => exact absurd phase (idle socket protocol)
    | starting | connecting | waiting | ended =>
        rw [phase] at reading
        cases reading

theorem tellsReading_stop (connection : Connection) : TellsReading (stop connection).1 := by
  unfold stop
  split <;> exact .ofIdle rfl rfl

variable {event : Event} {situation : Situation}

/-- After a step in the life of the socket, a socket that is read from is told. -/
theorem Event.tellsReading (possible : event.isPossible situation = true)
    (moves : event.movesSocket = true) :
    TellsReading (situation.after event).connection := by
  unfold Situation.after
  cases event with
  | beginConnecting => exact tellsReading_beginConnecting _
  | connected socket =>
      have connecting := (of_decide_eq_true possible).1
      exact tellsReading_loseUnopened (tellsReading_connected connecting socket)
  | connectFailed error =>
      have connecting := of_decide_eq_true possible
      exact tellsReading_loseUnopened (tellsReading_connectFailed error connecting)
  | inputEnded => exact tellsReading_inputEnded possible
  | stop => exact tellsReading_stop _
  | _ => cases moves

/-- A new connection has nothing that waits and no socket. -/
theorem coherent_initial (model : KernelModel) (clientId : String) (options : ConnectionOptions) :
    Coherent (Situation.initial model clientId options).connection where
  sound := .ofFree rfl
  told := .ofFree rfl
  quiet _ := ⟨rfl, rfl⟩

/-- Every event keeps what holds of a connection. -/
theorem Coherent.next (coherent : Coherent situation.connection)
    (possible : event.isPossible situation = true) :
    Coherent (situation.after event).connection := by
  have composed := Occurrence.composed ⟨situation, event⟩ coherent.sound possible
  have sound : SocketSound (situation.after event).connection := composed.sound coherent.sound
  refine ⟨sound, ?_, composed.quiet coherent.quiet⟩
  cases moves : event.movesSocket with
  | false => exact composed.told moves coherent.told
  | true => exact (Event.tellsReading possible moves).told sound

theorem Run.coherent {start : Situation} {history : List Occurrence}
    (run : Run start history situation) (coherent : Coherent start.connection) :
    Coherent situation.connection := by
  induction run with
  | start => exact coherent
  | next run event possible earlier => exact earlier.next possible

/-- In a run of a new connection, while a socket is installed no message waits, the connection tells
that it is connected and it is not disposed; and while the kernel counts as dead, neither messages
nor requests wait. -/
theorem Run.installed_and_dead {model : KernelModel} {clientId : String}
    {options : ConnectionOptions} {history : List Occurrence}
    (run : Run (.initial model clientId options) history situation) :
    (situation.connection.socket.isSome = true →
      situation.connection.queue = [] ∧ situation.connection.connectionStatus = .connected ∧
        situation.connection.isDisposed = false) ∧
      (situation.connection.status = .dead →
        situation.connection.queue = [] ∧ situation.connection.pending = []) := by
  have coherent := run.coherent (coherent_initial model clientId options)
  refine ⟨fun installed => ?_, coherent.quiet⟩
  obtain ⟨socket, present⟩ := Option.isSome_iff_exists.mp installed
  refine ⟨coherent.sound.drained socket present, coherent.told installed, ?_⟩
  cases disposed : situation.connection.isDisposed with
  | false => rfl
  | true => cases present.symm.trans (coherent.sound.disposed disposed)

/-- A message and a request wait for a socket, and it is opened. -/
def untilInstalled : List Event :=
  [.beginConnecting, .sendRaw default, .request .epoch .kernelInfo,
    .connected ⟨0, .legacy, some 4⟩]

/-- The socket breaks, which is noted when a message is written to it, and then its input ends. -/
def untilDead : List Event :=
  untilInstalled ++ [.outputBroken 0, .sendRaw default, .inputEnded]

theorem installed_and_dead_after_loss :
    Situation.impatient.allows untilInstalled = true ∧
      (Situation.impatient.afterAll untilInstalled).connection.socket.isSome = true ∧
      (Situation.impatient.afterAll untilInstalled).connection.queue = [] ∧
      Situation.impatient.allows untilDead = true ∧
      (Situation.impatient.afterAll untilDead).connection.status = .dead ∧
      (Situation.impatient.afterAll untilDead).connection.pending = [] := by
  have opened : Situation.impatient.allows untilInstalled = true := by decide +kernel
  have lost : Situation.impatient.allows untilDead = true := by decide +kernel
  have installed : (Situation.impatient.afterAll untilInstalled).connection.socket.isSome = true :=
    by decide +kernel
  have dead : (Situation.impatient.afterAll untilDead).connection.status = .dead := by
    decide +kernel
  have early := Run.installed_and_dead (run_of_allows untilInstalled opened)
  have late := Run.installed_and_dead (run_of_allows untilDead lost)
  exact ⟨opened, installed, (early.1 installed).1, lost, dead, (late.2 dead).2⟩

end KernelClient.Connection
