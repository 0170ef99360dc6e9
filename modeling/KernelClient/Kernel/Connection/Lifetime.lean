import KernelClient.Kernel.Connection.Inbound

/-!
# The life of the socket

A connection opens its socket, reads from it until its end, waits, and opens it again. After too
many losses in a row it gives up and the kernel counts as dead. Each function is one step, which is
taken without interruption.
-/

namespace KernelClient.Connection

/-- Start to open a socket. -/
def beginConnecting (connection : Connection) : Change :=
  if connection.isDisposed then unchanged { connection with phase := .ended }
  else
    (setConnectionStatus .connecting { connection with phase := .connecting }).andThen
      fun connecting => (connecting, [.connect])

/-- Give up on the kernel, which counts as dead from now on. -/
def giveUp (connection : Connection) : Change :=
  Change.andThen
    ({ connection with phase := .ended }, [.log <| .error <|
      "[kernel-connection] Giving up on kernel " ++ connection.model.id ++
        s!" after {connection.options.reconnect.maxAttempts} reconnect attempts"])
    (setStatus .dead)

/-- Wait for the next attempt, or give up if there were too many. -/
def retry (connection : Connection) : Change :=
  if connection.options.reconnect.maxAttempts < connection.attempt then giveUp connection
  else
    ({ connection with phase := .waiting },
      [.wait (connection.options.reconnect.delayFor connection.attempt)])

/-- Count a lost socket, and wait for the next attempt or give up. -/
def lose (connection : Connection) : Change :=
  if connection.isDisposed then unchanged { connection with phase := .ended }
  else
    (dropSocket connection).andThen fun dropped =>
      (setConnectionStatus .disconnected dropped).andThen fun lost =>
        retry { lost with attempt := lost.attempt + 1 }

/-- Take note that no socket was opened, which counts as a lost one in the next step. An attempt
that was abandoned ends the connection's attempts. -/
def connectFailed (error : ServiceError) (connection : Connection) : Change :=
  if error.isDisposed then unchanged { connection with phase := .ended }
  else
    (connection, [.log <| .warning <|
      "[kernel-connection] Could not connect to kernel " ++ connection.model.id ++ ": " ++
        error.message])

/-- The warning about a queued message that has no frame. -/
def droppingWarning (fault : FrameFault) : Effect :=
  .log <| .warning <|
    "[kernel-connection] Dropping unencodable message: " ++ (MessageError.malformed fault).message

/-- How far messages were written to a socket: the socket after them, what is left, and what became
visible. -/
structure Flushed where
  socket : ActiveSocket
  left : List Message
  effects : List Effect
deriving Inhabited

/-- Write messages to a socket, and leave out those that have no frame. What is left begins with the
message that the socket did not take. -/
def flush (socket : ActiveSocket) : List Message → Flushed
  | [] => ⟨socket, [], []⟩
  | message :: rest =>
    match message.encode socket.protocol with
    | .error fault =>
        let flushed := flush socket rest
        { flushed with effects := droppingWarning fault :: flushed.effects }
    | .ok frame =>
      match socket.write? with
      | some written =>
          let flushed := flush written rest
          { flushed with effects := .sent socket.number frame :: flushed.effects }
      | none => ⟨socket, message :: rest, []⟩

/-- Writing keeps the number and the protocol of a socket. -/
theorem flush_socket_eq (socket : ActiveSocket) (queue : List Message) :
    (flush socket queue).socket.number = socket.number ∧
      (flush socket queue).socket.protocol = socket.protocol := by
  induction queue generalizing socket with
  | nil => exact ⟨rfl, rfl⟩
  | cons message rest ih =>
      unfold flush
      split
      · exact ih socket
      · split
        case h_1 written wrote =>
          obtain ⟨number, protocol⟩ := ih written
          obtain ⟨sameNumber, sameProtocol⟩ := ActiveSocket.write?_eq wrote
          exact ⟨number.trans sameNumber, protocol.trans sameProtocol⟩
        case h_2 => exact ⟨rfl, rfl⟩

/-- Close both ends of a socket. -/
def closing (socket : ActiveSocket) : List Effect :=
  [.outputClosed socket.number, .inputClosed socket.number]

/-- Write to a socket and read from it from now on. -/
def install (socket : ActiveSocket) (connection : Connection) : Change :=
  setConnectionStatus .connected { connection with
    socket := some socket
    phase := .reading socket.number socket.protocol
    attempt := 0 }

/-- Give a socket back that did not take everything. -/
def giveBack (socket : ActiveSocket) (connection : Connection) : Change :=
  Change.andThen (connection, closing socket)
    (connectFailed (.connectionClosed "socket closed while flushing"))

/-- Take a socket that was opened: write what waits for it and read from it, or give it back if it
does not take everything. -/
def connected (socket : ActiveSocket) (connection : Connection) : Change :=
  if connection.isDisposed then ({ connection with phase := .ended }, closing socket)
  else
    let flushed := flush socket connection.queue
    Change.andThen ({ connection with queue := flushed.left }, flushed.effects)
      (if flushed.left.isEmpty then install flushed.socket else giveBack socket)

/-- Read a frame from the socket. -/
def frameArrived (now : Instant) (frame : Frame) (connection : Connection) : Change :=
  match connection.phase with
  | .reading _ protocol => receive now frame protocol connection
  | _ => unchanged connection

/-- Take note of the end of the input. -/
def inputEnded (connection : Connection) : Change :=
  match connection.phase with
  | .reading socket _ => Change.andThen (connection, [.inputClosed socket]) lose
  | _ => unchanged connection

/-- Take note that a socket can no longer be written to. -/
def outputBroken (socket : Nat) (connection : Connection) : Connection :=
  { connection with
    socket := connection.socket.map fun active =>
      if active.number = socket then { active with room := some 0 } else active }

/-- Stop reading and waiting. -/
def stop (connection : Connection) : Change :=
  match connection.phase with
  | .reading socket _ => ({ connection with phase := .ended }, [.inputClosed socket])
  | _ => unchanged { connection with phase := .ended }

/-- Let go of everything once nobody holds the connection any more. Requests fail, and nothing is
announced. The socket is read until its life ends with `stop`. -/
def abandon (connection : Connection) : Change :=
  (dropSocket connection).andThen fun dropped =>
    ({ dropped with pending := [], comms := [], targets := [], queue := [] },
      targetReleases connection.targets ++ rejections .disposed connection.pending ++
        releases connection.comms)

end KernelClient.Connection
