import KernelClient.Kernel.Connection.Comms
import KernelClient.Proofs.Connection.Outcomes

/-!
# Calls of a connection that fail

A call that sends or registers something looks for all that can be wrong with it before it changes
anything. So when it fails nothing becomes visible of it, and the connection stays as it was but for
the numbers of messages that were made in vain.
-/

namespace KernelClient.Connection

/-- Only numbers of messages were used up. -/
def SpendsNumbers (before after : Connection) : Prop :=
  ∃ count, after = { before with nextMessage := before.nextMessage + count }

/-- If a call fails, nothing becomes visible of it and only numbers of messages are used up. -/
def FailsCleanly {α : Type} (connection : Connection) (call : Call α) : Prop :=
  ∀ error, call.1 = .error error → connection.SpendsNumbers call.2.1 ∧ call.2.2 = []

variable {connection : Connection} {α : Type}

namespace SpendsNumbers

theorem refl (connection : Connection) : connection.SpendsNumbers connection :=
  ⟨0, rfl⟩

theorem trans {before middle after : Connection} (first : before.SpendsNumbers middle)
    (second : middle.SpendsNumbers after) : before.SpendsNumbers after := by
  obtain ⟨count, rfl⟩ := first
  obtain ⟨more, rfl⟩ := second
  exact ⟨count + more, by simp [Nat.add_assoc]⟩

theorem newMessage (now : Instant) (channel : Channel) (msgType : String) (content : Json)
    (connection : Connection) :
    connection.SpendsNumbers (newMessage now channel msgType content connection).2 :=
  ⟨1, rfl⟩

end SpendsNumbers

namespace FailsCleanly

theorem refuse (error : ServiceError) :
    connection.FailsCleanly (refuse connection error : Call α) :=
  fun _ _ => ⟨.refl connection, rfl⟩

theorem of_ok {value : α} {change : Change} : connection.FailsCleanly (.ok value, change) := by
  intro error failed
  cases failed

/-- A message may be made first. -/
theorem after {created : Connection} {call : Call α} (clean : created.FailsCleanly call)
    (spends : connection.SpendsNumbers created) : connection.FailsCleanly call := by
  intro error failed
  obtain ⟨more, silent⟩ := clean error failed
  exact ⟨spends.trans more, silent⟩

end FailsCleanly

theorem Transmission.failsCleanly {message : Message} {call : Call Unit}
    (transmission : Transmission message connection call) : connection.FailsCleanly call := by
  cases transmission with
  | refused error => exact .refuse error
  | queued | written | broken => exact .of_ok

theorem Sending.failsCleanly {message : Message} {expectsReply : Bool} {call : Call Nat}
    (sending : Sending message expectsReply connection call) : connection.FailsCleanly call := by
  cases sending with
  | refused error => exact .refuse error
  | kept => exact .of_ok

theorem failsCleanly_sendRaw (message : Message) (connection : Connection) :
    connection.FailsCleanly (sendRaw message connection) :=
  (sendRaw_transmission message connection).failsCleanly

theorem failsCleanly_send (message : Message) (expectsReply : Bool) (connection : Connection) :
    connection.FailsCleanly (send message expectsReply connection) :=
  (send_sending message expectsReply connection).failsCleanly

theorem failsCleanly_request (now : Instant) (wanted : KernelRequest) (connection : Connection) :
    connection.FailsCleanly (request now wanted connection).2 := by
  have made := SpendsNumbers.newMessage now .shell wanted.msgType wanted.content connection
  exact (failsCleanly_send _ true _).after made

theorem failsCleanly_sendInput (now : Instant) (value : String) (parent : Option Message)
    (connection : Connection) :
    connection.FailsCleanly (sendInput now value parent connection) := by
  have made : connection.SpendsNumbers (inputReply now value parent connection).2 := ⟨1, rfl⟩
  exact (failsCleanly_sendRaw _ _).after made

theorem failsCleanly_registerTarget (name : String) (connection : Connection) :
    connection.FailsCleanly (registerTarget name connection) := by
  unfold registerTarget
  split
  case h_1 error _ => exact .refuse error
  case h_2 => exact .of_ok

theorem failsCleanly_createComm (targetName commId : String) (connection : Connection) :
    connection.FailsCleanly (createComm targetName commId connection) := by
  unfold createComm
  split
  case h_1 error _ => exact .refuse error
  case h_2 =>
    split
    · exact .refuse _
    · exact .of_ok

theorem failsCleanly_sendComm (now : Instant) (comm : Comm) (outgoing : CommMessage)
    (connection : Connection) :
    connection.FailsCleanly (sendComm now comm outgoing connection) := by
  unfold sendComm
  split
  · exact .refuse _
  · -- The number of the request is replaced in a result, and an error stays an error.
    intro error failed
    have made := SpendsNumbers.newMessage now .shell outgoing.msgType outgoing.content connection
    refine (failsCleanly_send (commMessage now outgoing connection).1 false
      (commMessage now outgoing connection).2).after made error ?_
    cases sent : (send (commMessage now outgoing connection).1 false
        (commMessage now outgoing connection).2).1 with
    | error reason => simpa [sent, Except.map] using failed
    | ok key => simp [sent, Except.map] at failed

/-- A comm that could not be closed stays registered: of the connection only numbers of messages
were used up. -/
theorem failsCleanly_closeComm (now : Instant) (comm : Comm) (data : Json)
    (metadata : Option Json) (connection : Connection) :
    connection.FailsCleanly (closeComm now comm data metadata connection) := by
  have sends := failsCleanly_sendComm now comm (.closing comm data metadata) connection
  unfold closeComm
  split
  case h_1 error change failed =>
    rw [failed] at sends
    exact fun _ _ => sends error rfl
  case h_2 => exact .of_ok

/-- Each of the calls that send or register something fails cleanly. -/
structure CallsFailCleanly (connection : Connection) : Prop where
  send : ∀ message expectsReply,
    connection.FailsCleanly (Connection.send message expectsReply connection)
  sendRaw : ∀ message, connection.FailsCleanly (Connection.sendRaw message connection)
  request : ∀ now wanted, connection.FailsCleanly (Connection.request now wanted connection).2
  sendInput : ∀ now value parent,
    connection.FailsCleanly (Connection.sendInput now value parent connection)
  registerTarget : ∀ name, connection.FailsCleanly (Connection.registerTarget name connection)
  createComm : ∀ targetName commId,
    connection.FailsCleanly (Connection.createComm targetName commId connection)
  sendComm : ∀ now comm outgoing,
    connection.FailsCleanly (Connection.sendComm now comm outgoing connection)
  closeComm : ∀ now comm data metadata,
    connection.FailsCleanly (Connection.closeComm now comm data metadata connection)

theorem callsFailCleanly (connection : Connection) : connection.CallsFailCleanly where
  send message expectsReply := failsCleanly_send message expectsReply connection
  sendRaw message := failsCleanly_sendRaw message connection
  request now wanted := failsCleanly_request now wanted connection
  sendInput now value parent := failsCleanly_sendInput now value parent connection
  registerTarget name := failsCleanly_registerTarget name connection
  createComm targetName commId := failsCleanly_createComm targetName commId connection
  sendComm now comm outgoing := failsCleanly_sendComm now comm outgoing connection
  closeComm now comm data metadata := failsCleanly_closeComm now comm data metadata connection

end KernelClient.Connection
