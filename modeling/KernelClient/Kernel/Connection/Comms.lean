import KernelClient.Kernel.Connection.Send

/-!
# Comms of a connection

A comm is registered with its connection by its identifier until it is closed from either side or
its holder lets go of it.
-/

namespace KernelClient.Connection

/-- Hand the comms that a kernel opens for a target to a new receiver. -/
def registerTarget (name : String) (connection : Connection) : Call Nat :=
  match connection.checkOpen with
  | .error error => refuse connection error
  | .ok () =>
      let receiver := connection.nextKey
      let replaced := connection.targets.filter fun entry => entry.1 = name
      (.ok receiver, { connection with
        nextKey := connection.nextKey + 1
        targets := assign name ⟨receiver, true⟩ connection.targets }, targetReleases replaced)

def removeTarget (name : String) (connection : Connection) : Change :=
  ({ connection with targets := erase name connection.targets },
    targetReleases (connection.targets.filter fun entry => entry.1 = name))

/-- Take note that the receiver of a target is gone. -/
def receiverGone (receiver : Nat) (connection : Connection) : Connection :=
  { connection with
    targets := connection.targets.map fun (name, target) =>
      (name, if target.receiver = receiver then { target with isOpen := false } else target) }

/-- Register a comm under its identifier. -/
def registerComm (commId targetName : String) (connection : Connection) : Comm × Connection :=
  let key := connection.nextKey
  (⟨key, commId, targetName, false⟩, { connection with
    nextKey := key + 1
    comms := assign commId key connection.comms })

/-- Let go of the comm that is registered under an identifier. -/
def unregisterComm (commId : String) (connection : Connection) : Change :=
  ({ connection with comms := erase commId connection.comms },
    releases (connection.comms.filter fun entry => entry.1 = commId))

def hasComm (connection : Connection) (commId : String) : Bool :=
  (connection.comms.lookup commId).isSome

/-- Create a comm from this side. -/
def createComm (targetName commId : String) (connection : Connection) : Call Comm :=
  match connection.checkOpen with
  | .error error => refuse connection error
  | .ok () =>
    if connection.hasComm commId then
      refuse connection (.invalidState ("comm " ++ commId ++ " already exists"))
    else
      let (comm, registered) := registerComm commId targetName connection
      (.ok comm, unchanged registered)

/-- What the holder of a comm sends. -/
structure CommMessage where
  msgType : String
  content : Json
  metadata : Option Json
  buffers : List Bytes
deriving Inhabited

namespace CommMessage

/-- Announce a comm to the kernel. -/
def opening (comm : Comm) (data : Json) (metadata : Option Json) (buffers : List Bytes) :
    CommMessage where
  msgType := "comm_open"
  content := .ofFields [
    ("comm_id", .string comm.commId), ("target_name", .string comm.targetName), ("data", data)]
  metadata := metadata
  buffers := buffers

def sending (comm : Comm) (data : Json) (metadata : Option Json) (buffers : List Bytes) :
    CommMessage where
  msgType := "comm_msg"
  content := .ofFields [("comm_id", .string comm.commId), ("data", data)]
  metadata := metadata
  buffers := buffers

def closing (comm : Comm) (data : Json) (metadata : Option Json) : CommMessage where
  msgType := "comm_close"
  content := .ofFields [("comm_id", .string comm.commId), ("data", data)]
  metadata := metadata
  buffers := []

end CommMessage

/-- The message that carries what the holder of a comm sends. -/
def commMessage (now : Instant) (outgoing : CommMessage) (connection : Connection) :
    Message × Connection :=
  let (message, created) := newMessage now .shell outgoing.msgType outgoing.content connection
  let message := message.withBuffers outgoing.buffers
  (match outgoing.metadata with
    | some metadata => message.withMetadata metadata
    | none => message, created)

/-- Send a message of a comm. The identifier of the message comes with the number of the
request. -/
def sendComm (now : Instant) (comm : Comm) (outgoing : CommMessage) (connection : Connection) :
    Call (String × Nat) :=
  if comm.isClosed then refuse connection (.invalidState ("comm " ++ comm.commId ++ " is closed"))
  else
    let (message, created) := commMessage now outgoing connection
    let (result, change) := send message false created
    (result.map fun key => (message.msgId, key), change)

/-- Close a comm from this side: tell the kernel, and let go of what is registered under its
identifier. -/
def closeComm (now : Instant) (comm : Comm) (data : Json) (metadata : Option Json)
    (connection : Connection) : Call (Comm × String × Nat) :=
  match sendComm now comm (.closing comm data metadata) connection with
  | (.error error, change) => (.error error, change)
  | (.ok (msgId, key), change) =>
      (.ok ({ comm with isClosed := true }, msgId, key),
        change.andThen (unregisterComm comm.commId))

/-- Take note that the holder of a comm let go of it. -/
def dropComm (comm : Comm) (connection : Connection) : Change :=
  if comm.isClosed then unchanged connection else unregisterComm comm.commId connection

end KernelClient.Connection
