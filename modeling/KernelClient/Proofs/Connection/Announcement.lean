import KernelClient.Proofs.Connection.Disposal
import KernelClient.Proofs.Connection.Identity

/-!
# Which disposals are announced

Every operation leaves a connection what it was for, and one that announces its disposal has
disposed it. So as long as a connection is not disposed nobody has heard that it was.
-/

namespace KernelClient.Connection

/-- A change that leaves a connection what it was for and announces its disposal only when it is
disposed. -/
structure Orderly (before : Connection) (change : Change) : Prop where
  continues : Continues before change.1
  announces : .disposed ∈ change.2 → change.1.isDisposed = true

variable {connection : Connection}

namespace Orderly

theorem of_silent {before : Connection} {change : Change} (continues : Continues before change.1)
    (silent : .disposed ∉ change.2) : Orderly before change :=
  ⟨continues, fun announced => absurd announced silent⟩

theorem refl (connection : Connection) : Orderly connection (unchanged connection) :=
  of_silent (.refl connection) List.not_mem_nil

/-- A change may as well start from a connection that is for the same. -/
theorem startsFrom {before middle : Connection} {change : Change} (rest : Orderly middle change)
    (first : Continues before middle) : Orderly before change :=
  ⟨first.trans rest.continues, rest.announces⟩

theorem andThen {before : Connection} {change : Change} {next : Connection → Change}
    (first : Orderly before change) (second : Orderly change.1 (next change.1)) :
    Orderly before (change.andThen next) where
  continues := first.continues.trans second.continues
  announces announced := by
    rcases List.mem_append.mp announced with early | late
    · exact second.continues.disposed (first.announces early)
    · exact second.announces late

end Orderly

theorem AnnouncesDisposal.orderly {occurrence : Occurrence} {before : Connection} {change : Change}
    (announcement : AnnouncesDisposal occurrence before change)
    (continues : Continues before change.1) : Orderly before change := by
  refine ⟨continues, fun announced => ?_⟩
  have counted := announcement.announced
  have positive : 0 < disposalsIn change.2 :=
    List.countP_pos_iff.mpr ⟨.disposed, announced, rfl⟩
  cases disposed : change.1.isDisposed with
  | true => rfl
  | false =>
      rw [disposed, Bool.toNat_false] at counted
      omega

/-- An occurrence that can set the status and is none of a disposal. -/
def anytime : Occurrence := ⟨default, .inputEnded⟩

/-- What can be composed of parts at any time is orderly. -/
theorem Orderly.of_parts {before : Connection} {change : Change} {requests : List RequestLabel}
    (continues : Continues before change.1) (composed : Composed anytime before change requests) :
    Orderly before change :=
  composed.announcesDisposal.orderly continues

theorem orderly_send (message : Message) (expectsReply : Bool) :
    Orderly connection (send message expectsReply connection).2 :=
  .of_parts (continues_send message expectsReply)
    (.part (.send (send_sending message expectsReply connection)))

theorem orderly_sendRaw (message : Message) : Orderly connection (sendRaw message connection).2 :=
  .of_parts (continues_sendRaw message) (composed_sendRaw message)

theorem orderly_request (now : Instant) (wanted : KernelRequest) :
    Orderly connection (request now wanted connection).2.2 :=
  .of_parts (continues_request now wanted) (composed_request now wanted)

theorem orderly_sendInput (now : Instant) (value : String) (parent : Option Message) :
    Orderly connection (sendInput now value parent connection).2 :=
  .of_parts (continues_sendInput now value parent) (composed_sendInput now value parent)

theorem orderly_registerTarget (name : String) :
    Orderly connection (registerTarget name connection).2 :=
  .of_parts (continues_registerTarget name) (composed_registerTarget name)

theorem orderly_removeTarget (name : String) :
    Orderly connection (removeTarget name connection) :=
  .of_parts (continues_removeTarget name) (composed_removeTarget name)

theorem orderly_createComm (targetName commId : String) :
    Orderly connection (createComm targetName commId connection).2 :=
  .of_parts (continues_createComm targetName commId) (composed_createComm targetName commId)

theorem orderly_sendComm (now : Instant) (comm : Comm) (outgoing : CommMessage) :
    Orderly connection (sendComm now comm outgoing connection).2 :=
  .of_parts (continues_sendComm now comm outgoing) (composed_sendComm now comm outgoing)

theorem orderly_closeComm (now : Instant) (comm : Comm) (data : Json) (metadata : Option Json) :
    Orderly connection (closeComm now comm data metadata connection).2 :=
  .of_parts (continues_closeComm now comm data metadata) (composed_closeComm now comm data metadata)

theorem orderly_dropComm (comm : Comm) : Orderly connection (dropComm comm connection) :=
  .of_parts (continues_dropComm comm) (composed_dropComm comm)

theorem orderly_setStatus (status : KernelStatus) :
    Orderly connection (setStatus status connection) :=
  .of_parts (continues_setStatus status) (composed_setStatus rfl status)

theorem orderly_setConnectionStatus (status : ConnectionStatus) :
    Orderly connection (setConnectionStatus status connection) :=
  .of_parts (continues_setConnectionStatus status) (composed_setConnectionStatus rfl status)

theorem orderly_dropSocket : Orderly connection (dropSocket connection) :=
  .of_parts continues_dropSocket composed_dropSocket

theorem orderly_dispose : Orderly connection (dispose connection) :=
  ⟨continues_dispose, fun _ => isDisposed_dispose connection⟩

theorem orderly_shutDown : Orderly connection (shutDown connection) :=
  (orderly_setStatus .dead).andThen orderly_dispose

theorem orderly_restarted {change : Change} (restarts : connection.restarted = .ok change) :
    Orderly connection change := by
  refine .of_silent (continues_restarted restarts) fun announced => ?_
  unfold restarted at restarts
  split at restarts
  · cases restarts
  case isFalse alive =>
    cases restarts
    rcases List.mem_append.mp announced with early | late
    · have disposed := (orderly_setStatus .restarting).announces early
      rw [(setStatus_statusChange .restarting connection).isDisposed_eq] at disposed
      exact alive disposed
    · simp [rejections, releases] at late

theorem orderly_abandon : Orderly connection (abandon connection) := by
  refine orderly_dropSocket.andThen (.of_silent ⟨rfl, rfl, id⟩ ?_)
  simp [targetReleases, rejections, releases]

theorem orderly_frameArrived (now : Instant) (frame : Frame) :
    Orderly connection (frameArrived now frame connection) :=
  let occurrence : Occurrence :=
    ⟨{ (default : Situation) with connection := connection }, .frameArrived now frame⟩
  have composed : Composed occurrence connection _ _ := composed_frameArrived rfl
  composed.announcesDisposal.orderly (continues_frameArrived now frame)

theorem orderly_beginConnecting : Orderly connection (beginConnecting connection) := by
  unfold beginConnecting
  split
  · exact .of_silent ⟨rfl, rfl, id⟩ List.not_mem_nil
  · refine Orderly.andThen ?_ (.of_silent (.refl _) (by simp))
    exact (orderly_setConnectionStatus .connecting).startsFrom ⟨rfl, rfl, id⟩

theorem orderly_retry : Orderly connection (retry connection) := by
  unfold retry giveUp
  split
  · exact Orderly.andThen (.of_silent ⟨rfl, rfl, id⟩ (by simp)) (orderly_setStatus .dead)
  · exact .of_silent ⟨rfl, rfl, id⟩ (by simp)

theorem orderly_lose : Orderly connection (lose connection) := by
  unfold lose
  split
  · exact .of_silent ⟨rfl, rfl, id⟩ List.not_mem_nil
  · refine orderly_dropSocket.andThen ((orderly_setConnectionStatus .disconnected).andThen ?_)
    exact orderly_retry.startsFrom ⟨rfl, rfl, id⟩

theorem orderly_connectFailed (error : ServiceError) :
    Orderly connection (connectFailed error connection) := by
  refine .of_silent (continues_connectFailed error) ?_
  unfold connectFailed
  split <;> simp [unchanged]

theorem orderly_connected (socket : ActiveSocket) :
    Orderly connection (connected socket connection) := by
  unfold connected
  split
  · exact .of_silent ⟨rfl, rfl, id⟩ (by simp [closing])
  · refine Orderly.andThen (.of_silent ⟨rfl, rfl, id⟩ fun announced => ?_) ?_
    · rcases flush_effects _ _ _ announced with ⟨_, _, same⟩ | ⟨_, same⟩ <;> cases same
    · split
      · exact (orderly_setConnectionStatus .connected).startsFrom ⟨rfl, rfl, id⟩
      · exact Orderly.andThen (.of_silent (.refl _) (by simp [closing])) (orderly_connectFailed _)

theorem orderly_inputEnded : Orderly connection (inputEnded connection) := by
  unfold inputEnded
  split
  · exact Orderly.andThen (.of_silent (.refl _) (by simp)) orderly_lose
  · exact .refl connection

theorem orderly_stop : Orderly connection (stop connection) := by
  refine .of_silent continues_stop ?_
  unfold stop
  split <;> simp [unchanged]

end KernelClient.Connection
