import KernelClient.Kernel.Connection.Control
import KernelClient.Proofs.Connection.Outcomes

/-!
# What a connection is for

A connection belongs to one kernel and one client for all its life, and once it is disposed it stays
so: no operation changes the first two or undoes the disposal.
-/

namespace KernelClient.Connection

/-- What a connection can become: one of the same kernel and client, which is disposed if it was
before. -/
structure Continues (before after : Connection) : Prop where
  model : after.model = before.model
  clientId : after.clientId = before.clientId
  disposed : before.isDisposed = true → after.isDisposed = true

namespace Continues

theorem refl (connection : Connection) : Continues connection connection :=
  ⟨rfl, rfl, id⟩

theorem trans {before middle after : Connection} (first : Continues before middle)
    (second : Continues middle after) : Continues before after where
  model := second.model.trans first.model
  clientId := second.clientId.trans first.clientId
  disposed := second.disposed ∘ first.disposed

end Continues

variable {connection : Connection}

/-- A change may as well start from a connection that agrees in these. -/
theorem Continues.startsFrom {before middle after : Connection} (rest : Continues middle after)
    (model : middle.model = before.model) (clientId : middle.clientId = before.clientId)
    (disposed : middle.isDisposed = before.isDisposed) : Continues before after :=
  trans ⟨model, clientId, fun isDisposed => disposed.trans isDisposed⟩ rest

theorem Continues.andThen {before : Connection} {change : Change} {next : Connection → Change}
    (first : Continues before change.1) (second : Continues change.1 (next change.1).1) :
    Continues before (change.andThen next).1 :=
  first.trans second

theorem Transmission.continues {message : Message} {call : Call Unit}
    (transmission : Transmission message connection call) : Continues connection call.2.1 := by
  cases transmission <;> exact ⟨rfl, rfl, id⟩

theorem Sending.continues {message : Message} {expectsReply : Bool} {call : Call Nat}
    (sending : Sending message expectsReply connection call) :
    Continues connection call.2.1 := by
  cases sending with
  | refused error => exact .refl connection
  | kept accepts fresh transmitted =>
      obtain ⟨model, clientId, disposed⟩ := transmitted.continues
      exact ⟨model, clientId, disposed⟩

theorem continues_sendRaw (message : Message) :
    Continues connection (sendRaw message connection).2.1 :=
  (sendRaw_transmission message connection).continues

theorem continues_send (message : Message) (expectsReply : Bool) :
    Continues connection (send message expectsReply connection).2.1 :=
  (send_sending message expectsReply connection).continues

theorem continues_request (now : Instant) (wanted : KernelRequest) :
    Continues connection (request now wanted connection).2.2.1 :=
  (continues_send _ true).startsFrom rfl rfl rfl

theorem continues_sendInput (now : Instant) (value : String) (parent : Option Message) :
    Continues connection (sendInput now value parent connection).2.1 :=
  (continues_sendRaw _).startsFrom rfl rfl rfl

theorem continues_registerTarget (name : String) :
    Continues connection (registerTarget name connection).2.1 := by
  unfold registerTarget
  split <;> exact ⟨rfl, rfl, id⟩

theorem continues_removeTarget (name : String) :
    Continues connection (removeTarget name connection).1 :=
  ⟨rfl, rfl, id⟩

theorem continues_receiverGone (receiver : Nat) :
    Continues connection (receiverGone receiver connection) :=
  ⟨rfl, rfl, id⟩

theorem continues_createComm (targetName commId : String) :
    Continues connection (createComm targetName commId connection).2.1 := by
  unfold createComm
  split
  · exact .refl connection
  · split <;> exact ⟨rfl, rfl, id⟩

theorem continues_unregisterComm (commId : String) :
    Continues connection (unregisterComm commId connection).1 :=
  ⟨rfl, rfl, id⟩

theorem continues_sendComm (now : Instant) (comm : Comm) (outgoing : CommMessage) :
    Continues connection (sendComm now comm outgoing connection).2.1 := by
  unfold sendComm
  split
  · exact .refl connection
  · exact (continues_send _ false).startsFrom rfl rfl rfl

theorem continues_closeComm (now : Instant) (comm : Comm) (data : Json) (metadata : Option Json) :
    Continues connection (closeComm now comm data metadata connection).2.1 := by
  have sent : Continues connection
      (sendComm now comm (.closing comm data metadata) connection).2.1 :=
    continues_sendComm now comm (.closing comm data metadata)
  unfold closeComm
  split
  case h_1 error change failed =>
    rw [failed] at sent
    exact sent
  case h_2 msgId key change succeeded =>
    rw [succeeded] at sent
    exact Continues.andThen sent (continues_unregisterComm comm.commId)

theorem continues_dropComm (comm : Comm) : Continues connection (dropComm comm connection).1 := by
  unfold dropComm
  split <;> exact ⟨rfl, rfl, id⟩

theorem continues_setStatus (status : KernelStatus) :
    Continues connection (setStatus status connection).1 := by
  have changed := setStatus_statusChange status connection
  generalize setStatus status connection = change at changed ⊢
  cases changed <;> exact ⟨rfl, rfl, id⟩

theorem continues_setConnectionStatus (status : ConnectionStatus) :
    Continues connection (setConnectionStatus status connection).1 := by
  unfold setConnectionStatus
  split <;> exact ⟨rfl, rfl, id⟩

theorem continues_dropSocket : Continues connection (dropSocket connection).1 := by
  rw [dropSocket_frame]
  exact ⟨rfl, rfl, id⟩

theorem continues_dispose : Continues connection (dispose connection).1 := by
  cases disposed : connection.isDisposed with
  | true =>
      rw [dispose_again disposed]
      exact .refl connection
  | false =>
      rw [dispose_first disposed]
      exact ⟨rfl, rfl, fun _ => rfl⟩

theorem continues_restarted {change : Change} (restarts : connection.restarted = .ok change) :
    Continues connection change.1 := by
  unfold restarted at restarts
  split at restarts
  · cases restarts
  · cases restarts
    have set : Continues connection (setStatus .restarting connection).1 :=
      continues_setStatus .restarting
    exact ⟨set.model, set.clientId, set.disposed⟩

theorem continues_applyStatus (message : Message) :
    Continues connection (applyStatus message connection).1 := by
  unfold applyStatus
  split
  · split
    · exact continues_setStatus _
    · exact .refl connection
  · exact .refl connection

theorem continues_deliver (message : Message) :
    Continues connection (deliver message connection).1 := by
  unfold deliver answer
  split
  · dsimp only
    split <;> exact ⟨rfl, rfl, id⟩
  · exact .refl connection

theorem continues_rejectComm (now : Instant) (commId : String) (opening : Message) :
    Continues connection (rejectComm now commId opening connection).1 :=
  (continues_sendRaw _).startsFrom rfl rfl rfl

theorem continues_acceptComm (now : Instant) (commId : String) (opening : Message) :
    Continues connection (acceptComm now commId opening connection).1 := by
  unfold acceptComm
  split
  · exact .refl connection
  · split
    · exact continues_rejectComm now commId opening
    · dsimp only
      split
      · exact ⟨rfl, rfl, id⟩
      · exact (continues_rejectComm now commId opening).startsFrom rfl rfl rfl

theorem continues_routeComm (now : Instant) (message : Message) :
    Continues connection (routeComm now message connection).1 := by
  unfold routeComm
  split
  · exact .refl connection
  · split
    · exact continues_acceptComm now _ message
    · split <;> split <;> exact ⟨rfl, rfl, id⟩

theorem continues_pass (now : Instant) (message : Message) (isClaimed : Bool) :
    Continues connection (pass now message isClaimed connection).1 := by
  unfold pass
  split
  · exact continues_routeComm now message
  · split <;> exact .refl connection

theorem continues_dispatch (now : Instant) (message : Message) :
    Continues connection (dispatch now message connection).1 := by
  unfold dispatch
  split
  · exact .refl connection
  · exact (continues_applyStatus message).trans
      ((continues_deliver message).trans (continues_pass now message _))

theorem continues_frameArrived (now : Instant) (frame : Frame) :
    Continues connection (frameArrived now frame connection).1 := by
  unfold frameArrived receive
  split
  · split
    · exact continues_dispatch now _
    · exact .refl connection
  · exact .refl connection

theorem continues_connectFailed (error : ServiceError) :
    Continues connection (connectFailed error connection).1 := by
  unfold connectFailed
  split <;> exact ⟨rfl, rfl, id⟩

theorem continues_outputBroken (socket : Nat) :
    Continues connection (outputBroken socket connection) :=
  ⟨rfl, rfl, id⟩

theorem continues_stop : Continues connection (stop connection).1 := by
  unfold stop
  split <;> exact ⟨rfl, rfl, id⟩

end KernelClient.Connection
