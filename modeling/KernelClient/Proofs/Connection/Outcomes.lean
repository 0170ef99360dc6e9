import KernelClient.Kernel.Connection.Lifetime

/-!
# What operations of a connection can do

Each operation has a few possible outcomes, with what has to hold for each of them. A message that
is sent and accepted is either written to the socket or waits at the end of the queue; one that is
refused changes nothing. A new status clears the connection if it means that the kernel is dead or
restarts by itself. An answer either completes a request, which is then no longer kept, or leaves
it waiting.
-/

namespace KernelClient.Connection

/-- If there is a socket after a change, then it was there before, but for its room, and no message
was queued. -/
def InheritsSocket (before after : Connection) : Prop :=
  ∀ socket, after.socket = some socket → ∃ earlier, before.socket = some earlier ∧
    socket.number = earlier.number ∧ socket.protocol = earlier.protocol ∧
    (before.queue = [] → after.queue = [])

/-- The possible outcomes of sending a message. -/
inductive Transmission (message : Message) (before : Connection) : Call Unit → Prop where
  | refused (error : ServiceError) : Transmission message before (refuse before error)
  | queued (free : before.socket = none) :
      Transmission message before (.ok (), enqueue message before)
  | written {socket written : ActiveSocket} {frame : Frame} (present : before.socket = some socket)
      (encoded : message.encode socket.protocol = .ok frame)
      (wrote : socket.write? = some written) :
      Transmission message before (.ok (), { before with socket := some written },
        [.accepted message, .sent socket.number frame])
  | broken {socket : ActiveSocket} (present : before.socket = some socket)
      (isFull : socket.write? = none) :
      Transmission message before
        (.ok (), { before with socket := none, queue := before.queue ++ [message] },
          [.outputClosed socket.number, .accepted message])

theorem transmit_transmission (message : Message) (connection : Connection) :
    Transmission message connection (transmit message connection) := by
  unfold transmit
  split
  case h_1 free => exact .queued free
  case h_2 socket present =>
    split
    case h_1 fault faulty => exact .refused _
    case h_2 frame encoded =>
      split
      case h_1 written wrote => exact .written present encoded wrote
      case h_2 isFull =>
        have dropped : dropSocket connection =
            ({ connection with socket := none }, [.outputClosed socket.number]) := by
          unfold dropSocket
          rw [present]
        rw [dropped]
        exact .broken present isFull

/-- A connection that takes a message accepts calls. -/
theorem checkOpen_of_sendRaw {message : Message} {connection : Connection}
    (taken : (sendRaw message connection).1.isOk = true) : connection.checkOpen = .ok () := by
  unfold sendRaw at taken
  split at taken
  case h_1 => cases taken
  case h_2 accepts => exact accepts

theorem sendRaw_transmission (message : Message) (connection : Connection) :
    Transmission message connection (sendRaw message connection) := by
  unfold sendRaw
  split
  · exact .refused _
  · exact transmit_transmission message connection

namespace Transmission

variable {message : Message} {before after : Connection} {effects : List Effect}
  {result : Except ServiceError Unit}

/-- Sending concerns only the socket and the queue. -/
theorem kept (transmission : Transmission message before (result, after, effects)) :
    after.status = before.status ∧ after.isDisposed = before.isDisposed ∧
      after.phase = before.phase ∧ after.pending = before.pending ∧
      after.nextKey = before.nextKey := by
  cases transmission <;> exact ⟨rfl, rfl, rfl, rfl, rfl⟩

/-- Sending opens no socket. -/
theorem inherits (transmission : Transmission message before (result, after, effects)) :
    InheritsSocket before after := by
  intro socket present
  cases transmission with
  | refused error => exact ⟨socket, present, rfl, rfl, id⟩
  | queued free => cases free.symm.trans present
  | @written earlier _ _ open_ encoded wrote =>
      cases present
      obtain ⟨number, protocol⟩ := ActiveSocket.write?_eq wrote
      exact ⟨earlier, open_, number, protocol, id⟩
  | broken => cases present

end Transmission

/-- The possible outcomes of making a request. -/
inductive Sending (message : Message) (expectsReply : Bool) (before : Connection) :
    Call Nat → Prop where
  | refused (error : ServiceError) : Sending message expectsReply before (refuse before error)
  | kept {sent : Connection} {effects : List Effect}
      (accepts : before.checkOpen = .ok ()) (fresh : before.pending.lookup message.msgId = none)
      (transmitted : Transmission message before (.ok (), sent, effects)) :
      Sending message expectsReply before
        (.ok sent.nextKey, (keepRequest message.msgId expectsReply sent).2, effects)

theorem send_sending (message : Message) (expectsReply : Bool) (connection : Connection) :
    Sending message expectsReply connection (send message expectsReply connection) := by
  unfold send
  split
  case h_1 => exact .refused _
  case h_2 accepts =>
    split
    · exact .refused _
    case isFalse unknown =>
      have transmission := transmit_transmission message connection
      split
      case h_1 error change refused =>
        rw [refused] at transmission
        cases transmission
        exact .refused error
      case h_2 sent effects transmitted =>
        rw [transmitted] at transmission
        exact .kept accepts (Option.not_isSome_iff_eq_none.mp unknown) transmission

/-- A request that is kept waits after all others. -/
theorem keepRequest_pending {msgId : String} {before sent : Connection}
    (fresh : before.pending.lookup msgId = none) (same : sent.pending = before.pending)
    (expectsReply : Bool) :
    (keepRequest msgId expectsReply sent).2.pending =
      before.pending ++ [(msgId, .create sent.nextKey expectsReply)] := by
  rw [keepRequest, same]
  exact assign_of_lookup_none fresh _

/-- A connection that accepts calls is not disposed. -/
theorem isDisposed_of_checkOpen {connection : Connection}
    (accepts : connection.checkOpen = .ok ()) : connection.isDisposed = false := by
  unfold checkOpen at accepts
  split at accepts
  · cases accepts
  case isFalse alive => simpa using alive

/-- The possible outcomes of a new status. -/
inductive StatusChange (before : Connection) : KernelStatus → Change → Prop where
  | same {status : KernelStatus} (kept : before.isDisposed = true ∨ before.status = status) :
      StatusChange before status (unchanged before)
  | plain {status : KernelStatus} (alive : before.isDisposed = false)
      (survives : status ≠ .dead) (continues : status ≠ .autoRestarting) :
      StatusChange before status ({ before with status := status }, [.status status])
  | died (alive : before.isDisposed = false) :
      StatusChange before .dead
        ({ before with status := .dead, queue := [], pending := [], comms := [] },
          (rejections .kernelDead before.pending ++ releases before.comms) ++ [.status .dead])
  | autoRestarted (alive : before.isDisposed = false) :
      StatusChange before .autoRestarting
        ({ before with status := .autoRestarting, queue := [], pending := [], comms := [] },
          (rejections .disposed before.pending ++ releases before.comms) ++
            [.status .autoRestarting])

theorem setStatus_statusChange (status : KernelStatus) (connection : Connection) :
    StatusChange connection status (setStatus status connection) := by
  unfold setStatus
  split
  case isTrue kept => exact .same kept
  case isFalse changes =>
    have alive : connection.isDisposed = false := by
      simpa using fun disposed => changes (.inl disposed)
    cases status
    case dead => exact .died alive
    case autoRestarting => exact .autoRestarted alive
    all_goals exact .plain alive (by simp) (by simp)

/-- The status of a connection that is not disposed is the new one. -/
theorem StatusChange.status_eq {before : Connection} {status : KernelStatus} {change : Change}
    (changed : StatusChange before status change) (alive : before.isDisposed = false) :
    change.1.status = status := by
  cases changed with
  | same kept =>
      rcases kept with disposed | same
      · cases alive.symm.trans disposed
      · exact same
  | plain | died | autoRestarted => rfl

theorem StatusChange.isDisposed_eq {before : Connection} {status : KernelStatus} {change : Change}
    (changed : StatusChange before status change) :
    change.1.isDisposed = before.isDisposed := by
  cases changed <;> rfl

theorem StatusChange.phase_eq {before : Connection} {status : KernelStatus} {change : Change}
    (changed : StatusChange before status change) : change.1.phase = before.phase := by
  cases changed <;> rfl

/-- A new status adds no request. -/
theorem StatusChange.pending_sublist {before : Connection} {status : KernelStatus}
    {change : Change} (changed : StatusChange before status change) :
    change.1.pending.Sublist before.pending := by
  cases changed with
  | same | plain => exact List.Sublist.refl _
  | died | autoRestarted => exact List.nil_sublist _

/-- A message sets a status, possibly the same one. -/
theorem applyStatus_statusChange (message : Message) (connection : Connection) :
    ∃ status, StatusChange connection status (applyStatus message connection) := by
  unfold applyStatus
  split
  · split
    · exact ⟨_, setStatus_statusChange _ connection⟩
    · exact ⟨_, .same (.inr rfl)⟩
  · exact ⟨_, .same (.inr rfl)⟩

theorem dropSocket_frame (connection : Connection) :
    (dropSocket connection).1 = { connection with socket := none } := by
  unfold dropSocket
  split
  · rfl
  case h_2 free => rw [← free]

theorem dispose_again {connection : Connection} (disposed : connection.isDisposed = true) :
    dispose connection = unchanged connection := by
  rw [dispose, if_pos disposed]

theorem dispose_first {connection : Connection} (alive : connection.isDisposed = false) :
    dispose connection = ({ connection with
      isDisposed := true
      socket := none
      queue := []
      pending := []
      comms := []
      targets := [] },
      (dropSocket connection).2 ++ (targetReleases connection.targets ++
        rejections .disposed connection.pending ++ releases connection.comms ++ [.disposed])) := by
  have dropped : dropSocket { connection with isDisposed := true, queue := [], targets := [] } =
      ({ connection with isDisposed := true, socket := none, queue := [], targets := [] },
        (dropSocket connection).2) := by
    unfold dropSocket
    cases connection.socket <;> rfl
  simp only [dispose, alive, dropped, Change.andThen, Bool.false_eq_true, if_false]

theorem isDisposed_dispose (connection : Connection) :
    (dispose connection).1.isDisposed = true := by
  cases disposed : connection.isDisposed with
  | true => exact dispose_again disposed ▸ disposed
  | false => rw [dispose_first disposed]

/-- The possible outcomes of a message that answers a request. -/
inductive Answering (msgId : String) (waiting : PendingReply) (message : Message)
    (before : Connection) : Change → Prop where
  | completed (complete : (waiting.note message).isComplete = true) :
      Answering msgId waiting message before
        ({ before with pending := erase msgId before.pending },
          [.streamed waiting.key message,
            .settled waiting.key (.ok (waiting.note message).reply)])
  | noted (incomplete : (waiting.note message).isComplete = false) :
      Answering msgId waiting message before
        ({ before with pending := assign msgId (waiting.note message) before.pending },
          [.streamed waiting.key message])

theorem answer_answering (msgId : String) (waiting : PendingReply) (message : Message)
    (connection : Connection) :
    Answering msgId waiting message connection (answer msgId waiting message connection) := by
  unfold answer
  dsimp only
  split
  case isTrue complete => exact .completed complete
  case isFalse incomplete => exact .noted (by simpa using incomplete)

/-- Writing what waits shows only frames and warnings. -/
theorem flush_effects (socket : ActiveSocket) (queue : List Message) :
    ∀ effect ∈ (flush socket queue).effects,
      (∃ number frame, effect = .sent number frame) ∨ ∃ line, effect = .log line := by
  induction queue generalizing socket with
  | nil => simp [flush]
  | cons message rest later =>
      unfold flush
      split
      · intro effect member
        rcases List.mem_cons.mp member with rfl | other
        · exact .inr ⟨_, rfl⟩
        · exact later socket effect other
      · split
        · intro effect member
          rcases List.mem_cons.mp member with rfl | other
          · exact .inl ⟨_, _, rfl⟩
          · exact later _ effect other
        · simp

end KernelClient.Connection
