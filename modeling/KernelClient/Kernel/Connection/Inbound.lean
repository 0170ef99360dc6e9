import KernelClient.Kernel.Connection.Comms

/-!
# Messages of the kernel

Every message that arrives is announced. A status on the output channel becomes the status of the
connection. Then the message goes to the request that it answers and to the comm that it belongs
to; if there is neither, it is announced as unclaimed.
-/

namespace KernelClient.Connection

/-- Apply the status that a message reports. -/
def applyStatus (message : Message) (connection : Connection) : Change :=
  if message.channel = some .iopub then
    match message.executionState?.bind KernelStatus.ofExecutionState? with
    | some status => setStatus status connection
    | none => unchanged connection
  else unchanged connection

/-- Hand a message to a request, which is settled when it is complete. -/
def answer (msgId : String) (pending : PendingReply) (message : Message)
    (connection : Connection) : Change :=
  let noted := pending.note message
  if noted.isComplete then
    ({ connection with pending := erase msgId connection.pending },
      [.streamed pending.key message, .settled pending.key (.ok noted.reply)])
  else
    ({ connection with pending := assign msgId noted connection.pending },
      [.streamed pending.key message])

/-- The request that a message answers. -/
def answered? (message : Message) (connection : Connection) : Option (String × PendingReply) :=
  message.parentMsgId?.bind fun msgId =>
    (connection.pending.lookup msgId).map fun pending => (msgId, pending)

/-- The message that tells the kernel that a comm that it opened is not wanted. -/
def refusal (now : Instant) (commId : String) (opening : Message) (connection : Connection) :
    Message × Connection :=
  let content := Json.ofFields [("comm_id", .string commId), ("data", .emptyObject)]
  let (message, created) := newMessage now .shell "comm_close" content connection
  (message.withParent opening, created)

/-- Tell the kernel that a comm that it opened is not wanted. -/
def rejectComm (now : Instant) (commId : String) (opening : Message) (connection : Connection) :
    Change :=
  let (message, created) := refusal now commId opening connection
  (sendRaw message created).2

/-- The target for which a comm is opened. -/
def targetOf (opening : Message) : String := (opening.content.stringField? "target_name").getD ""

/-- Hand a comm that the kernel opens to the receiver of its target, or refuse it. -/
def acceptComm (now : Instant) (commId : String) (opening : Message) (connection : Connection) :
    Change :=
  if connection.hasComm commId then
    (connection,
      [.log (.warning ("[kernel-connection] Comm " ++ commId ++ " is already open"))])
  else
    match connection.targets.lookup (targetOf opening) with
    | none =>
        Change.andThen
          (connection, [.log <| .warning <|
            "[kernel-connection] No comm target registered for " ++
              Text.quote (targetOf opening) ++ ", closing comm " ++ commId])
          (rejectComm now commId opening)
    | some target =>
        let (comm, registered) := registerComm commId (targetOf opening) connection
        if target.isOpen then (registered, [.offered target.receiver comm opening])
        else
          (unregisterComm commId registered).andThen fun released =>
            Change.andThen
              (released, [.log <| .warning <|
                "[kernel-connection] Comm target " ++ Text.quote (targetOf opening) ++
                  " is gone, closing comm " ++ commId])
              fun warned =>
                (removeTarget (targetOf opening) warned).andThen (rejectComm now commId opening)

/-- Hand a message to the comm that it belongs to. -/
def routeComm (now : Instant) (message : Message) (connection : Connection) : Change :=
  match message.commId? with
  | none => unchanged connection
  | some commId =>
    if message.msgType = "comm_open" then acceptComm now commId message connection
    else if message.msgType = "comm_msg" then
      match connection.comms.lookup commId with
      | some comm => (connection, [.delivered comm (.message message)])
      | none => unchanged connection
    else
      match connection.comms.lookup commId with
      | some comm =>
          ({ connection with comms := erase commId connection.comms },
            [.delivered comm (.close message), .released comm])
      | none => unchanged connection

/-- Hand a message to the request that it answers, if there is one. -/
def deliver (message : Message) (connection : Connection) : Change :=
  match answered? message connection with
  | some (msgId, pending) => answer msgId pending message connection
  | none => unchanged connection

/-- Hand a message to the comm that it belongs to, or announce it if no request claimed it. -/
def pass (now : Instant) (message : Message) (isClaimed : Bool) (connection : Connection) :
    Change :=
  if message.isComm then routeComm now message connection
  else if isClaimed then unchanged connection
  else (connection, [.unclaimed message])

/-- Hand a message to all that it concerns. -/
def dispatch (now : Instant) (message : Message) (connection : Connection) : Change :=
  if connection.isDisposed then unchanged connection
  else
    Change.andThen (connection, [.received message]) fun announced =>
      (applyStatus message announced).andThen fun current =>
        (deliver message current).andThen
          (pass now message (answered? message current).isSome)

/-- Read a frame and dispatch its message. A frame that holds none is left out with a warning. -/
def receive (now : Instant) (frame : Frame) (protocol : WireProtocol) (connection : Connection) :
    Change :=
  match frame.decode protocol with
  | .ok message => dispatch now message connection
  | .error error =>
      (connection, [.log (.warning
        ("[kernel-connection] Dropping invalid message: " ++ error.message))])

end KernelClient.Connection
