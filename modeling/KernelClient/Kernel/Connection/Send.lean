import KernelClient.Kernel.Connection.Basic
import KernelClient.Kernel.Request

/-!
# Sending

A message goes to the socket if there is one that can be written to, and waits in the queue
otherwise. Identifiers of messages are numbered for each client, and no number is used twice.
-/

namespace KernelClient.Connection

/-- The result of a call, the connection after it and what becomes visible of it. -/
abbrev Call (α : Type) := Except ServiceError α × Change

/-- A call that is refused. -/
def refuse {α : Type} (connection : Connection) (error : ServiceError) : Call α :=
  (.error error, unchanged connection)

/-- A message of this client that has not been sent. -/
def newMessage (now : Instant) (channel : Channel) (msgType : String) (content : Json)
    (connection : Connection) : Message × Connection :=
  (.create channel msgType s!"{connection.clientId}_{connection.nextMessage}" connection.clientId
      connection.username content now,
    { connection with nextMessage := connection.nextMessage + 1 })

/-- A message that cannot be written as a frame. -/
def unencodable (fault : FrameFault) : ServiceError :=
  .validation (MessageError.malformed fault).message

/-- Add a message to the queue. -/
def enqueue (message : Message) (connection : Connection) : Change :=
  ({ connection with queue := connection.queue ++ [message] }, [.accepted message])

/-- Write a message to the socket, or keep it in the queue. -/
def transmit (message : Message) (connection : Connection) : Call Unit :=
  match connection.socket with
  | none => (.ok (), enqueue message connection)
  | some socket =>
    match message.encode socket.protocol with
    | .error fault => refuse connection (unencodable fault)
    | .ok frame =>
      match socket.write? with
      | some written =>
          (.ok (), { connection with socket := some written },
            [.accepted message, .sent socket.number frame])
      | none => (.ok (), (dropSocket connection).andThen (enqueue message))

/-- Send a message without waiting for an answer. -/
def sendRaw (message : Message) (connection : Connection) : Call Unit :=
  match connection.checkOpen with
  | .error error => refuse connection error
  | .ok () => transmit message connection

/-- Keep a request that was sent. -/
def keepRequest (msgId : String) (expectsReply : Bool) (connection : Connection) :
    Nat × Connection :=
  (connection.nextKey, { connection with
    nextKey := connection.nextKey + 1
    pending := assign msgId (.create connection.nextKey expectsReply) connection.pending })

/-- Send a message and wait for its completion. -/
def send (message : Message) (expectsReply : Bool) (connection : Connection) : Call Nat :=
  match connection.checkOpen with
  | .error error => refuse connection error
  | .ok () =>
    if (connection.pending.lookup message.msgId).isSome then
      refuse connection <| .invalidState <|
        "a request with msg_id " ++ message.msgId ++ " is already pending"
    else
      match transmit message connection with
      | (.error error, change) => (.error error, change)
      | (.ok (), sent, effects) =>
          let (key, kept) := keepRequest message.msgId expectsReply sent
          (.ok key, kept, effects)

/-- Make a request on the shell channel. The identifier of its message comes with the call. -/
def request (now : Instant) (request : KernelRequest) (connection : Connection) :
    String × Call Nat :=
  let (message, created) := newMessage now .shell request.msgType request.content connection
  (message.msgId, send message true created)

/-- The message that answers a request for input. -/
def inputReply (now : Instant) (value : String) (parent : Option Message)
    (connection : Connection) : Message × Connection :=
  let content := Json.ofFields [("status", .string "ok"), ("value", .string value)]
  let (message, created) := newMessage now .stdin "input_reply" content connection
  (match parent with
    | some parent => message.withParent parent
    | none => message, created)

/-- Answer a request for input. -/
def sendInput (now : Instant) (value : String) (parent : Option Message)
    (connection : Connection) : Call Unit :=
  let (message, created) := inputReply now value parent connection
  sendRaw message created

end KernelClient.Connection
