import KernelClient.Http
import KernelClient.Message.Frame.Codec

/-!
# A scripted server

A server that answers requests and opens sockets as a script says. Answers are set for a method and
a path; those that are given once are used before the standing one. Plans for opening sockets are
used one after the other.
-/

namespace KernelClient.Simulation

/-- How a request is answered, and how many milliseconds later. -/
structure Answer where
  outcome : Except ServiceError Response
  delay : Nat
  isHanging : Bool
deriving Inhabited

/-- A method and the path of a URL. -/
structure Route where
  method : Method
  path : String
deriving DecidableEq, Inhabited

/-- How an attempt to open a socket ends, and how many milliseconds later. A deaf socket cannot be
written to, and a mute one ends at once. A plan without a subprotocol leaves the choice to the
server. -/
structure ConnectPlan where
  refusal : Option ServiceError
  delay : Nat
  isHanging : Bool
  protocol : Option (Option String)
  isDeaf : Bool
  isMute : Bool
deriving Inhabited

/-- A plan in which nothing special happens. -/
def ConnectPlan.usual : ConnectPlan where
  refusal := none
  delay := 0
  isHanging := false
  protocol := none
  isDeaf := false
  isMute := false

/-- The end of a socket that the server holds. -/
structure ServerSocket where
  protocol : WireProtocol
  toClient : List Frame
  isOpen : Bool
  isReading : Bool
  isClientReading : Bool
  fromClient : List Frame
  isClientGone : Bool
  isGoneReported : Bool
deriving Inhabited

namespace ServerSocket

def create (protocol : WireProtocol) (isDeaf isMute : Bool) : ServerSocket where
  protocol := protocol
  toClient := []
  isOpen := !isMute
  isReading := !isDeaf
  isClientReading := true
  fromClient := []
  isClientGone := false
  isGoneReported := false

/-- Whether a frame can still be sent to the client. -/
def canSend (socket : ServerSocket) : Bool := socket.isOpen && socket.isClientReading

def send (socket : ServerSocket) (frame : Frame) : ServerSocket :=
  { socket with toClient := socket.toClient ++ [frame] }

/-- End what is sent to the client. -/
def close (socket : ServerSocket) : ServerSocket := { socket with isOpen := false }

/-- Read no more of what the client sends. -/
def stopReading (socket : ServerSocket) : ServerSocket :=
  { socket with isReading := false, fromClient := [] }

end ServerSocket

structure Server where
  standing : List (Route × Answer)
  once : List (Route × Answer)
  isOffline : Bool
  plans : List ConnectPlan
  protocol : Option String
  sockets : List ServerSocket
deriving Inhabited

namespace Server

def create (protocol : Option String) : Server where
  standing := []
  once := []
  isOffline := false
  plans := []
  protocol := protocol
  sockets := []

/-- Set the standing answer for a route. -/
def answerAlways (route : Route) (answer : Answer) (server : Server) : Server :=
  { server with
    standing := (route, answer) :: server.standing.filter fun entry => entry.1 != route }

/-- Add answers that are each given once. -/
def answerOnce (route : Route) (answer : Answer) (times : Nat) (server : Server) : Server :=
  { server with once := server.once ++ List.replicate times (route, answer) }

/-- Forget all answers for a route. -/
def forget (route : Route) (server : Server) : Server :=
  { server with
    standing := server.standing.filter fun entry => entry.1 != route
    once := server.once.filter fun entry => entry.1 != route }

/-- What fails while the server is offline. -/
def refused : ServiceError := .network "connection refused"

/-- The answer to a request that nothing was said about. -/
def notFound : Answer where
  outcome := .ok ⟨404, [],
    (Json.ofFields [("message", .string "Not found")]).render.toByteArray.data.toList⟩
  delay := 0
  isHanging := false

/-- Choose the answer to a request. -/
def answer (request : Request) (server : Server) : Answer × Server :=
  if server.isOffline then (⟨.error refused, 0, false⟩, server)
  else
    let route : Route := ⟨request.method, request.url.path.render⟩
    match server.once.find? fun entry => entry.1 = route with
    | some (_, answer) =>
        (answer, { server with once := server.once.eraseP fun entry => entry.1 = route })
    | none => ((server.standing.lookup route).getD notFound, server)

/-- Choose how an attempt to open a socket goes. -/
def nextPlan (server : Server) : ConnectPlan × Server :=
  if server.isOffline then ({ ConnectPlan.usual with refusal := some refused }, server)
  else match server.plans with
    | plan :: rest => (plan, { server with plans := rest })
    | [] => (.usual, server)

/-- Open a socket with the protocol that a plan or the server selects. -/
def openSocket (plan : ConnectPlan) (server : Server) : Nat × WireProtocol × Server :=
  let protocol := WireProtocol.ofSubprotocol (plan.protocol.getD server.protocol)
  (server.sockets.length, protocol, { server with
    sockets := server.sockets ++ [.create protocol plan.isDeaf plan.isMute] })

def socket? (server : Server) (number : Nat) : Option ServerSocket := server.sockets[number]?

def modifySocket (number : Nat) (change : ServerSocket → ServerSocket) (server : Server) : Server :=
  { server with sockets := server.sockets.modify number change }

/-- Take a frame that the client wrote. -/
def take (number : Nat) (frame : Frame) (server : Server) : Server :=
  server.modifySocket number fun socket =>
    { socket with fromClient := socket.fromClient ++ [frame] }

end Server

end KernelClient.Simulation
