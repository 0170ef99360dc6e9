import KernelClient.Proofs.Connection.SocketLife

/-!
# What leaves the status and the life of the socket alone

Most operations concern neither the status of the kernel nor the life of the socket: they neither
change nor tell them. A status that is set leaves the life of the socket alone, and so does a
disposal, of which the socket learns in a step of its own. Therefore only the steps in the life of
the socket change its phase, count its losses, and tell of its state, its attempts and its waits.
-/

namespace KernelClient.Connection

/-- What an effect can tell of. -/
inductive Topic where
  | status
  | socketLife
  | other
deriving DecidableEq

/-- What an effect tells of: the status of the kernel, or the life of the socket, which is a new
state of it, an attempt to open it or a wait for the next one. -/
def Effect.topic : Effect → Topic
  | .status _ => .status
  | .connectionStatus _ | .connect | .wait _ => .socketLife
  | _ => .other

/-- A change that leaves the status of the kernel alone. -/
structure KeepsStatus (before : Connection) (change : Change) : Prop where
  status : change.1.status = before.status
  untold : ∀ effect ∈ change.2, effect.topic ≠ .status

/-- A change that leaves the life of the socket alone. It may dispose the connection. -/
structure KeepsLife (before : Connection) (change : Change) : Prop where
  options : change.1.options = before.options
  connectionStatus : change.1.connectionStatus = before.connectionStatus
  phase : change.1.phase = before.phase
  attempt : change.1.attempt = before.attempt
  disposed : before.isDisposed = true → change.1.isDisposed = true
  untold : ∀ effect ∈ change.2, effect.topic ≠ .socketLife

/-- A change that leaves both alone. -/
structure Unconcerned (before : Connection) (change : Change) : Prop where
  status : KeepsStatus before change
  life : KeepsLife before change

variable {connection : Connection}

section Parts

variable {before middle after : Connection} {change : Change} {next : Connection → Change}
  {first second effects : List Effect}

theorem untold_append {topic : Topic} (early : ∀ effect ∈ first, effect.topic ≠ topic)
    (late : ∀ effect ∈ second, effect.topic ≠ topic) :
    ∀ effect ∈ first ++ second, effect.topic ≠ topic :=
  fun effect member => (List.mem_append.mp member).elim (early effect) (late effect)

theorem KeepsStatus.append (start : KeepsStatus before (middle, first))
    (rest : KeepsStatus middle (after, second)) : KeepsStatus before (after, first ++ second) where
  status := rest.status.trans start.status
  untold := untold_append start.untold rest.untold

theorem KeepsLife.append (start : KeepsLife before (middle, first))
    (rest : KeepsLife middle (after, second)) : KeepsLife before (after, first ++ second) where
  options := rest.options.trans start.options
  connectionStatus := rest.connectionStatus.trans start.connectionStatus
  phase := rest.phase.trans start.phase
  attempt := rest.attempt.trans start.attempt
  disposed ended := rest.disposed (start.disposed ended)
  untold := untold_append start.untold rest.untold

theorem KeepsLife.andThen (start : KeepsLife before change)
    (rest : KeepsLife change.1 (next change.1)) : KeepsLife before (change.andThen next) :=
  start.append rest

namespace Unconcerned

theorem append (start : Unconcerned before (middle, first))
    (rest : Unconcerned middle (after, second)) : Unconcerned before (after, first ++ second) where
  status := start.status.append rest.status
  life := start.life.append rest.life

theorem andThen (start : Unconcerned before change)
    (rest : Unconcerned change.1 (next change.1)) : Unconcerned before (change.andThen next) :=
  start.append rest

/-- What shows nothing and concerns neither can be put before all others. -/
theorem afterSilent (start : Unconcerned before (unchanged middle))
    (rest : Unconcerned middle change) : Unconcerned before change :=
  start.append rest

/-- The same connection as far as both go, and effects that tell of other things. -/
theorem ofSame (status : after.status = before.status) (options : after.options = before.options)
    (connectionStatus : after.connectionStatus = before.connectionStatus)
    (phase : after.phase = before.phase) (attempt : after.attempt = before.attempt)
    (isDisposed : after.isDisposed = before.isDisposed)
    (other : ∀ effect ∈ effects, effect.topic = .other) :
    Unconcerned before (after, effects) where
  status := ⟨status, fun effect member => by rw [other effect member]; decide⟩
  life := ⟨options, connectionStatus, phase, attempt, isDisposed.trans,
    fun effect member => by rw [other effect member]; decide⟩

theorem refl (connection : Connection) : Unconcerned connection (unchanged connection) :=
  ofSame rfl rfl rfl rfl rfl rfl (by simp)

/-- The same connection, with effects that tell of other things. -/
theorem ofTold (other : ∀ effect ∈ effects, effect.topic = .other) :
    Unconcerned connection (connection, effects) :=
  ofSame rfl rfl rfl rfl rfl rfl other

end Unconcerned

end Parts

theorem topic_of_mem_rejections {error : ServiceError} {pending : List (String × PendingReply)} :
    ∀ effect ∈ rejections error pending, effect.topic = .other := by
  intro effect member
  obtain ⟨entry, -, rfl⟩ := List.mem_map.mp member
  rfl

theorem topic_of_mem_releases {comms : List (String × Nat)} :
    ∀ effect ∈ releases comms, effect.topic = .other := by
  intro effect member
  obtain ⟨entry, -, rfl⟩ := List.mem_map.mp member
  rfl

theorem topic_of_mem_targetReleases {targets : List (String × CommTarget)} :
    ∀ effect ∈ targetReleases targets, effect.topic = .other := by
  intro effect member
  obtain ⟨entry, -, rfl⟩ := List.mem_map.mp member
  rfl

theorem topic_of_mem_dropSocket : ∀ effect ∈ (dropSocket connection).2, effect.topic = .other := by
  unfold dropSocket
  split <;> simp [Effect.topic]

theorem unconcerned_dropSocket (connection : Connection) :
    Unconcerned connection (dropSocket connection) := by
  have dropped : dropSocket connection =
      ({ connection with socket := none }, (dropSocket connection).2) := by
    rw [← dropSocket_frame]
  rw [dropped]
  exact .ofSame rfl rfl rfl rfl rfl rfl topic_of_mem_dropSocket

theorem unconcerned_clear (error : ServiceError) (connection : Connection) :
    Unconcerned connection (clear error connection) := by
  refine .ofSame rfl rfl rfl rfl rfl rfl fun effect member => ?_
  rcases List.mem_append.mp member with rejected | released
  · exact topic_of_mem_rejections effect rejected
  · exact topic_of_mem_releases effect released

/-- To number messages concerns neither. -/
theorem unconcerned_numbered (connection : Connection) (next : Nat) :
    Unconcerned connection (unchanged { connection with nextMessage := next }) :=
  .ofSame rfl rfl rfl rfl rfl rfl (by simp)

theorem unconcerned_transmit (message : Message) (connection : Connection) :
    Unconcerned connection (transmit message connection).2 := by
  have transmission := transmit_transmission message connection
  generalize transmit message connection = call at transmission
  cases transmission with
  | refused error => exact .refl connection
  | queued | written | broken => exact .ofSame rfl rfl rfl rfl rfl rfl (by simp [Effect.topic])

theorem unconcerned_sendRaw (message : Message) (connection : Connection) :
    Unconcerned connection (sendRaw message connection).2 := by
  unfold sendRaw
  split
  · exact .refl connection
  · exact unconcerned_transmit message connection

theorem unconcerned_send (message : Message) (expectsReply : Bool) (connection : Connection) :
    Unconcerned connection (send message expectsReply connection).2 := by
  have transmitted := unconcerned_transmit message connection
  unfold send
  split
  · exact .refl connection
  · split
    · exact .refl connection
    · split
      case h_1 error change refused =>
        rw [refused] at transmitted
        exact transmitted
      case h_2 sent effects written =>
        rw [written] at transmitted
        exact ⟨⟨transmitted.status.status, transmitted.status.untold⟩,
          ⟨transmitted.life.options, transmitted.life.connectionStatus, transmitted.life.phase,
            transmitted.life.attempt, transmitted.life.disposed, transmitted.life.untold⟩⟩

theorem unconcerned_request (now : Instant) (wanted : KernelRequest) (connection : Connection) :
    Unconcerned connection (request now wanted connection).2.2 :=
  .afterSilent (unconcerned_numbered connection _) (unconcerned_send ..)

theorem unconcerned_sendInput (now : Instant) (value : String) (parent : Option Message)
    (connection : Connection) : Unconcerned connection (sendInput now value parent connection).2 :=
  .afterSilent (unconcerned_numbered connection _) (unconcerned_sendRaw ..)

theorem unconcerned_registerTarget (name : String) (connection : Connection) :
    Unconcerned connection (registerTarget name connection).2 := by
  unfold registerTarget
  split
  · exact .refl connection
  · exact .ofSame rfl rfl rfl rfl rfl rfl topic_of_mem_targetReleases

theorem unconcerned_removeTarget (name : String) (connection : Connection) :
    Unconcerned connection (removeTarget name connection) :=
  .ofSame rfl rfl rfl rfl rfl rfl topic_of_mem_targetReleases

theorem unconcerned_unregisterComm (commId : String) (connection : Connection) :
    Unconcerned connection (unregisterComm commId connection) :=
  .ofSame rfl rfl rfl rfl rfl rfl topic_of_mem_releases

theorem unconcerned_createComm (targetName commId : String) (connection : Connection) :
    Unconcerned connection (createComm targetName commId connection).2 := by
  unfold createComm
  split
  · exact .refl connection
  · split
    · exact .refl connection
    · exact .ofSame rfl rfl rfl rfl rfl rfl (by simp)

theorem unconcerned_dropComm (comm : Comm) (connection : Connection) :
    Unconcerned connection (dropComm comm connection) := by
  unfold dropComm
  split
  · exact .refl connection
  · exact unconcerned_unregisterComm ..

theorem unconcerned_sendComm (now : Instant) (comm : Comm) (outgoing : CommMessage)
    (connection : Connection) :
    Unconcerned connection (sendComm now comm outgoing connection).2 := by
  unfold sendComm
  split
  · exact .refl connection
  · exact .afterSilent (unconcerned_numbered connection _) (unconcerned_send ..)

theorem unconcerned_closeComm (now : Instant) (comm : Comm) (data : Json) (metadata : Option Json)
    (connection : Connection) :
    Unconcerned connection (closeComm now comm data metadata connection).2 := by
  have sending := unconcerned_sendComm now comm (.closing comm data metadata) connection
  unfold closeComm
  split
  case h_1 error change refused =>
    rw [refused] at sending
    exact sending
  case h_2 msgId key change sent =>
    rw [sent] at sending
    exact sending.andThen (unconcerned_unregisterComm ..)

theorem unconcerned_deliver (message : Message) (connection : Connection) :
    Unconcerned connection (deliver message connection) := by
  unfold deliver
  split
  case h_1 msgId waiting answered =>
    have answering := answer_answering msgId waiting message connection
    generalize answer msgId waiting message connection = change at answering
    cases answering <;> exact .ofSame rfl rfl rfl rfl rfl rfl (by simp [Effect.topic])
  case h_2 => exact .refl connection

theorem unconcerned_log (line : LogLine) (connection : Connection) :
    Unconcerned connection (connection, [.log line]) :=
  .ofTold (by simp [Effect.topic])

theorem unconcerned_rejectComm (now : Instant) (commId : String) (opening : Message)
    (connection : Connection) : Unconcerned connection (rejectComm now commId opening connection) :=
  .afterSilent (unconcerned_numbered connection _) (unconcerned_sendRaw ..)

theorem unconcerned_acceptComm (now : Instant) (commId : String) (opening : Message)
    (connection : Connection) :
    Unconcerned connection (acceptComm now commId opening connection) := by
  unfold acceptComm
  split
  · exact unconcerned_log ..
  · split
    · exact (unconcerned_log ..).andThen (unconcerned_rejectComm ..)
    · split
      rename_i registration
      have registered : Unconcerned connection
          (unchanged (registerComm commId (targetOf opening) connection).2) :=
        .ofSame rfl rfl rfl rfl rfl rfl (by simp)
      rw [registration] at registered
      split
      · exact .afterSilent registered (.ofTold (by simp [Effect.topic]))
      · apply Unconcerned.afterSilent registered
        apply (unconcerned_unregisterComm ..).andThen
        apply (unconcerned_log ..).andThen
        exact (unconcerned_removeTarget ..).andThen (unconcerned_rejectComm ..)

theorem unconcerned_routeComm (now : Instant) (message : Message) (connection : Connection) :
    Unconcerned connection (routeComm now message connection) := by
  unfold routeComm
  split
  · exact .refl connection
  · split
    · exact unconcerned_acceptComm ..
    · split <;> split
      · exact .ofTold (by simp [Effect.topic])
      · exact .refl connection
      · exact .ofSame rfl rfl rfl rfl rfl rfl (by simp [Effect.topic])
      · exact .refl connection

theorem unconcerned_pass (now : Instant) (message : Message) (isClaimed : Bool)
    (connection : Connection) : Unconcerned connection (pass now message isClaimed connection) := by
  unfold pass
  split
  · exact unconcerned_routeComm ..
  · split
    · exact .refl connection
    · exact .ofTold (by simp [Effect.topic])

theorem keepsLife_setStatus (status : KernelStatus) (connection : Connection) :
    KeepsLife connection (setStatus status connection) := by
  have changed := setStatus_statusChange status connection
  generalize setStatus status connection = change at changed
  cases changed with
  | same => exact (Unconcerned.refl connection).life
  | plain => exact ⟨rfl, rfl, rfl, rfl, id, by simp [Effect.topic]⟩
  | died | autoRestarted =>
      refine ⟨rfl, rfl, rfl, rfl, id, ?_⟩
      exact untold_append (unconcerned_clear _ connection).life.untold (by simp [Effect.topic])

theorem keepsLife_applyStatus (message : Message) (connection : Connection) :
    KeepsLife connection (applyStatus message connection) := by
  unfold applyStatus
  split
  · split
    · exact keepsLife_setStatus ..
    · exact (Unconcerned.refl connection).life
  · exact (Unconcerned.refl connection).life

/-- A disposal leaves the status and the life of the socket alone. -/
theorem unconcerned_dispose (connection : Connection) :
    Unconcerned connection (dispose connection) := by
  cases disposed : connection.isDisposed with
  | true =>
      rw [dispose_again disposed]
      exact .refl connection
  | false =>
      have other : ∀ effect ∈ (dropSocket connection).2 ++ (targetReleases connection.targets ++
          rejections .disposed connection.pending ++ releases connection.comms ++ [.disposed]),
          effect.topic = .other := by
        simp only [List.mem_append, List.mem_singleton]
        rintro effect (dropped | ((released | rejected) | released) | rfl)
        · exact topic_of_mem_dropSocket effect dropped
        · exact topic_of_mem_targetReleases effect released
        · exact topic_of_mem_rejections effect rejected
        · exact topic_of_mem_releases effect released
        · rfl
      rw [dispose_first disposed]
      refine ⟨⟨rfl, fun effect member => ?_⟩, ⟨rfl, rfl, rfl, rfl, fun _ => rfl,
        fun effect member => ?_⟩⟩
      all_goals
        rw [other effect member]
        decide

theorem keepsLife_shutDown (connection : Connection) :
    KeepsLife connection (shutDown connection) :=
  (keepsLife_setStatus ..).andThen (unconcerned_dispose _).life

theorem keepsLife_dispatch (now : Instant) (message : Message) (connection : Connection) :
    KeepsLife connection (dispatch now message connection) := by
  have announced : Unconcerned connection (connection, [.received message]) :=
    .ofTold (by simp [Effect.topic])
  unfold dispatch
  split
  · exact (Unconcerned.refl connection).life
  · apply announced.life.andThen
    apply (keepsLife_applyStatus ..).andThen
    exact (unconcerned_deliver ..).life.andThen (unconcerned_pass ..).life

theorem keepsLife_frameArrived (now : Instant) (frame : Frame) (connection : Connection) :
    KeepsLife connection (frameArrived now frame connection) := by
  unfold frameArrived
  split
  · unfold receive
    split
    · exact keepsLife_dispatch ..
    · exact (unconcerned_log ..).life
  · exact (Unconcerned.refl connection).life

theorem keepsLife_restartAnswered (connection : Connection) :
    KeepsLife connection (Event.change (.restartAnswered true) connection) := by
  simp only [Event.change, restarted]
  split
  case h_1 change restarts =>
    split at restarts
    · cases restarts
    · cases restarts
      exact (keepsLife_setStatus ..).andThen (unconcerned_clear ..).life
  case h_2 => exact (Unconcerned.refl connection).life

/-- An event that cannot set the status and is no step in the life of the socket concerns
neither. -/
theorem Event.unconcerned {event : Event} (leaves : event.setsStatus = false)
    (still : event.movesSocket = false) (connection : Connection) :
    Unconcerned connection (event.change connection) := by
  cases event with
  | makeMessage | receiverGone | outputBroken => exact .ofSame rfl rfl rfl rfl rfl rfl (by simp)
  | send => exact unconcerned_send ..
  | sendRaw => exact unconcerned_sendRaw ..
  | request => exact unconcerned_request ..
  | sendInput => exact unconcerned_sendInput ..
  | registerTarget => exact unconcerned_registerTarget ..
  | removeTarget => exact unconcerned_removeTarget ..
  | createComm => exact unconcerned_createComm ..
  | sendComm => exact unconcerned_sendComm ..
  | closeComm => exact unconcerned_closeComm ..
  | dropComm => exact unconcerned_dropComm ..
  | interrupt | restart => exact .refl connection
  | restartAnswered succeeded | shutDownAnswered succeeded =>
      cases succeeded with
      | true => cases leaves
      | false => exact .refl connection
  | dispose => exact unconcerned_dispose connection
  | shutDown | frameArrived => cases leaves
  | beginConnecting | connected | connectFailed | inputEnded | stop => cases still

/-- An event that is no step in the life of the socket leaves it alone. -/
theorem Event.keepsLife {event : Event} (still : event.movesSocket = false)
    (connection : Connection) : KeepsLife connection (event.change connection) := by
  cases leaves : event.setsStatus with
  | false => exact (Event.unconcerned leaves still connection).life
  | true =>
      cases event with
      | frameArrived => exact keepsLife_frameArrived ..
      | restartAnswered succeeded =>
          cases succeeded with
          | true => exact keepsLife_restartAnswered connection
          | false => cases leaves
      | shutDown =>
          rcases change_shutDown connection with same | shut
          · rw [same]
            exact (Unconcerned.refl connection).life
          · rw [shut]
            exact keepsLife_shutDown connection
      | shutDownAnswered succeeded =>
          cases succeeded with
          | true => exact keepsLife_shutDown connection
          | false => cases leaves
      | connected | connectFailed | inputEnded => cases still
      | _ => cases leaves

end KernelClient.Connection
