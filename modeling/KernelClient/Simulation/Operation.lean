import KernelClient.Simulation.Schedule

/-!
# Operations of a script

What a script can do: set up the server, move the clock, and use the client. Each operation names
what it is about; one that names something that is not there has no effect.
-/

namespace KernelClient.Simulation

/-- What a server sends to a client. A message that could not be read from the script ends what is
sent. -/
inductive Parcel where
  | message (message : Option Message)
  | frame (frame : Frame)
deriving Inhabited

/-- The message that another one answers, as a script gives it. -/
inductive Parent where
  | absent
  | unreadable
  | present (message : Message)
deriving Inhabited

/-- A message that a script sends to a kernel: one that is made by the client or one that is
given, if it can be read. -/
inductive Outgoing where
  | made (channel : Channel) (msgType : String) (content : Json) (metadata : Option Json)
      (buffers : List Bytes) (parent : Parent)
  | given (message : Option Message)
deriving Inhabited

/-- What is done with a comm. -/
inductive CommAction where
  | opening (data : Json) (metadata : Option Json) (buffers : List Bytes)
  | sending (data : Json) (metadata : Option Json) (buffers : List Bytes)
  | closing (data : Json) (metadata : Option Json)
deriving Inhabited

/-- Under which name the holder of something keeps it, and whether it waits to be asked for. -/
structure Keep where
  name : Option String
  isManual : Bool
deriving Inhabited

inductive HandleKind where
  | kernel
  | session
  | manager
  | reply
  | comm
  | target
deriving DecidableEq, Inhabited

inductive ManagerKind where
  | kernels
  | sessions
deriving DecidableEq, Inhabited

/-- A model that a script gives to a manager, read as a kernel and as a session. -/
structure GivenModel where
  kernel : Option KernelModel
  session : Option SessionModel
deriving Inhabited

/-- What is to be known of a connection when it is made. -/
structure KernelInfo where
  model : KernelModel
  clientId : String
  username : String
deriving Inhabited

/-- The answer of an operation. -/
inductive Result where
  | nothing
  | missing (what : String)
  | badMessage
  | unencodable (fault : FrameFault)
  | socketClosed
  | noRoom
  | error (error : ServiceError)
  | done
  | sent (msgId : String)
  | kernel (info : KernelInfo)
  | clone (info : KernelInfo) (isDistinct : Bool)
  | connected (info : KernelInfo)
  | text (text : String)
  | texts (texts : List String)
  | truth (value : Bool)
  | message (message : Message)
  | specs (specs : KernelSpecs)
  | comm (comm : Comm)
  | event (event : CommEvent)
  | incoming (name : String) (opening : Message)
  | pending
  | ended
  | summary (message : Message)
  | outcome (outcome : Except ServiceError (Option Message))
deriving Inhabited

inductive Operation where
  | wait
  | unreadable (result : Result)
  | advance (milliseconds : Nat)
  | respond (route : Route) (answer : Answer) (times : Option Nat)
  | clear (route : Route)
  | offline (isOffline : Bool)
  | plan (connects : List ConnectPlan)
  | setProtocol (protocol : Option String)
  | serverSend (socket : Nat) (parcels : List Parcel)
  | serverClose (socket : Nat)
  | serverStopReading (socket : Nat)
  | serverDrop (socket : Nat)
  | setVisible (manager : String) (isVisible : Bool)
  | connectKernel (name : String) (model : KernelModel) (options : ConnectionOptions)
  | cloneKernel (kernel name : String)
  | request (kernel : String) (request : KernelRequest) (keep : Keep)
  | send (kernel : String) (outgoing : Outgoing) (expectsReply isRaw : Bool) (keep : Keep)
  | sendInput (kernel value : String) (parent : Parent)
  | newMessage (kernel : String) (channel : Channel) (msgType : String) (content : Json)
  | newIds (kernel : String) (count : Nat)
  | hasComm (kernel commId : String)
  | describeKernel (kernel : String)
  | disposeKernel (kernel : String)
  | registerTarget (kernel target name : String) (isManual : Bool)
  | removeTarget (kernel target : String)
  | createComm (kernel target : String) (commId : Option String) (name : String)
      (isManual : Bool)
  | useComm (comm : String) (action : CommAction) (keep : Keep)
  | describeComm (comm : String)
  | receiveComm (comm : String)
  | receiveTarget (target : String)
  | nextOfReply (reply : String)
  | outcomeOfReply (reply : String)
  | drop (kind : HandleKind) (name : String)
  | connectSession (name : String) (model : SessionModel) (options : ConnectionOptions)
  | disposeSession (session : String)
  | kernelOfSession (session name : String)
  | describeSession (session : String)
  | createManager (name : String) (kind : ManagerKind) (options : ManagerOptions)
      (isVisible : Bool)
  | connectThrough (manager name : String) (model : GivenModel)
  | disposeManager (manager : String)
  | specsOfManager (manager : String)
  | describeManager (manager : String)
  | baseUrlOfManager (manager : String)
  | callAboutKernel (task kernel : String) (call : Nat → Call)
  | callAboutSession (task session : String) (call : Nat → Call)
  | callAboutManager (task manager : String) (call : ManagerId → Call)
  | awaitReply (task reply : String)
  | call (task : String) (call : Call)

instance : Inhabited Operation := ⟨.wait⟩

namespace World

/-- The result of an operation and the world after it. -/
abbrev Performed := Result × World

def noSuch (what : String) (world : World) : Performed := (.missing ("no such " ++ what), world)

/-- Do something with a connection that has a name. -/
def withKernel (name : String) (world : World)
    (act : Nat → KernelObject → Performed) : Performed :=
  match world.names.kernels.lookup name with
  | none => world.noSuch "kernel"
  | some number =>
    match world.kernel? number with
    | some object => act number object
    | none => world.noSuch "kernel"

def withSession (name : String) (world : World)
    (act : Nat → SessionObject → Performed) : Performed :=
  match world.names.sessions.lookup name with
  | none => world.noSuch "session"
  | some number =>
    match world.session? number with
    | some object => act number object
    | none => world.noSuch "session"

def withManager (name : String) (world : World)
    (act : ManagerId → ManagerView → Performed) : Performed :=
  match world.names.managers.lookup name with
  | none => world.noSuch "manager"
  | some id =>
    match world.manager? id with
    | some view => act id view
    | none => world.noSuch "manager"

def withComm (name : String) (world : World) (act : CommBox → Performed) : Performed :=
  match world.names.comms.lookup name with
  | none => world.noSuch "comm"
  | some held =>
    match world.comm? held.id with
    | some box => act box
    | none => world.noSuch "comm"

def withReply (name : String) (world : World) (act : ReplyBox → Performed) : Performed :=
  match world.names.replies.lookup name with
  | none => world.noSuch "future"
  | some held =>
    match world.replies.find? fun box => box.id = held.id with
    | some box => act box
    | none => world.noSuch "future"

/-- Send parcels until one cannot be sent. -/
def sendParcels (socket : Nat) : List Parcel → World → Performed
  | [], world => (.nothing, world)
  | parcel :: rest, world =>
    match world.server.socket? socket with
    | none => world.noSuch "socket"
    | some held =>
        let written : Except Result Frame := match parcel with
          | .frame frame => .ok frame
          | .message none => .error .badMessage
          | .message (some message) =>
            match message.encode held.protocol with
            | .ok frame => .ok frame
            | .error fault => .error (.unencodable fault)
        match written with
        | .error result => (result, world)
        | .ok frame =>
            if held.canSend then
              sendParcels socket rest (world.changeServer fun server =>
                server.modifySocket socket fun held => held.send frame)
            else (.socketClosed, world)

/-- Change the end of a socket that the server holds. -/
def withSocket (socket : Nat) (world : World) (change : ServerSocket → ServerSocket) : Performed :=
  match world.server.socket? socket with
  | none => world.noSuch "socket"
  | some _ =>
      (.nothing, world.changeServer fun server => server.modifySocket socket change)

/-- Let writes to a socket fail from now on. -/
def breakOutput (socket : Nat) (world : World) : World :=
  { world with
    kernels := world.kernels.map fun object =>
      { object with connection := object.connection.outputBroken socket } }

def infoOf (object : KernelObject) : KernelInfo :=
  ⟨object.connection.model, object.connection.clientId, object.connection.username⟩

/-- What is known of a connection by its number. -/
def info (kernel : Nat) (world : World) : KernelInfo :=
  match world.kernel? kernel with
  | some object => infoOf object
  | none => default

/-- Keep the reply to a request, unless nobody wants it. -/
def keepReply (kernel key : Nat) (keep : Keep) (world : World) : World :=
  match keep.name with
  | some name => world.nameReply name ⟨kernel, key⟩ keep.isManual
  | none => world

/-- Apply what a call did, and keep its reply. -/
def afterSend (kernel : Nat) (msgId : String) (call : Connection.Call Nat) (keep : Keep)
    (world : World) : Performed :=
  let world := world.applyKernel kernel call.2
  match call.1 with
  | .ok key => (.sent msgId, world.keepReply kernel key keep)
  | .error error => (.error error, world)

/-- Apply what a call without a result did. -/
def afterCall (kernel : Nat) (call : Connection.Call Unit) (world : World) : Performed :=
  let world := world.applyKernel kernel call.2
  match call.1 with
  | .ok () => (.done, world)
  | .error error => (.error error, world)

/-- The message that a script sends, if its parts can be read, and the connection once it is made. A
message whose parent cannot be read has a number all the same. -/
def outgoingMessage (now : Instant) (outgoing : Outgoing) (connection : Connection) :
    Option Message × Connection :=
  match outgoing with
  | .given message => (message, connection)
  | .made channel msgType content metadata buffers parent =>
      let (message, connection) := connection.newMessage now channel msgType content
      let message := message.withBuffers buffers
      let message := match metadata with
        | some metadata => message.withMetadata metadata
        | none => message
      (match parent with
        | .absent => some message
        | .unreadable => none
        | .present parent => some (message.withParent parent), connection)

/-- Identifiers of new messages. -/
def newIds (now : Instant) : (count : Nat) → Connection → List String × Connection
  | 0, connection => ([], connection)
  | count + 1, connection =>
      let (message, connection) := connection.newMessage now .shell "status" .null
      let (ids, connection) := newIds now count connection
      (message.msgId :: ids, connection)

def setConnection (kernel : Nat) (connection : Connection) (world : World) : World :=
  world.modifyKernel kernel fun object => { object with connection := connection }

/-- Do something with a comm. -/
def useComm (box : CommBox) (action : CommAction) (keep : Keep) (world : World) : Performed :=
  match world.kernel? box.kernel with
  | none => world.noSuch "kernel"
  | some object =>
    if !box.comm.isClosed && !object.isAlive then
      (.error (.connectionClosed "kernel connection was dropped"), world)
    else
      let finish (call : Connection.Call (String × Nat)) (world : World) : Performed :=
        match call with
        | (.ok (msgId, key), change) => world.afterSend box.kernel msgId (.ok key, change) keep
        | (.error error, change) => world.afterSend box.kernel "" (.error error, change) keep
      match action with
      | .opening data metadata buffers =>
          finish (object.connection.sendComm world.now box.comm
            (.opening box.comm data metadata buffers)) world
      | .sending data metadata buffers =>
          finish (object.connection.sendComm world.now box.comm
            (.sending box.comm data metadata buffers)) world
      | .closing data metadata =>
        match object.connection.closeComm world.now box.comm data metadata with
        | (.ok (comm, msgId, key), change) =>
            let world := world.modifyComm box.id fun box => { box with comm := comm }
            finish (.ok (msgId, key), change) world
        | (.error error, change) => finish (.error error, change) world

/-- Take the next event of a comm. -/
def receiveComm (box : CommBox) (world : World) : Performed :=
  let close (box : CommBox) : CommBox := { box with comm := { box.comm with isClosed := true } }
  match box.inbox with
  | .message message :: rest =>
      (.event (.message message), world.modifyComm box.id fun box => { box with inbox := rest })
  | .close message :: rest =>
      (.event (.close message),
        world.modifyComm box.id fun box => close { box with inbox := rest })
  | [] => if box.isReleased then (.ended, world.modifyComm box.id close) else (.pending, world)

/-- Take the next comm that a target has received, or tell once that the target is gone. -/
def receiveTarget (name : String) (world : World) : Performed :=
  match world.names.targets.lookup name with
  | none => world.noSuch "target"
  | some held =>
    match world.takeComm name with
    | some (commName, opening, world) => (.incoming commName opening, world)
    | none =>
        let isReleased := match world.target? held.id with
          | some box => box.isReleased
          | none => true
        if isReleased && !held.isEndTold then
          (.ended, world.modifyNames fun names =>
            { names with
              targets := Connection.assign name { held with isEndTold := true } names.targets })
        else (.pending, world)

/-- Create a manager with its tasks. -/
def createManager (name : String) (kind : ManagerKind) (options : ManagerOptions)
    (isVisible : Bool) (world : World) : World :=
  let (id, world) : ManagerId × World := match kind with
    | .kernels => (.kernels world.kernelManagers.length,
        { world with kernelManagers := world.kernelManagers ++ [.create options isVisible] })
    | .sessions => (.sessions world.sessionManagers.length,
        { world with sessionManagers := world.sessionManagers ++ [.create options isVisible] })
  let poll (copy : Copy) (period : Option Nat) (world : World) : World :=
    match period with
    | none | some 0 => world
    | some period => world.spawn (.poll id copy period .begin)
  let world := world.spawn (.load id .begin)
  let world := poll .specs options.poll.specs (poll .running options.poll.running world)
  world.nameManager name id

def disposeManager : AnyChange where
  kernels := Manager.dispose
  sessions := Manager.dispose

def setVisible (id : ManagerId) (isVisible : Bool) (world : World) : World :=
  match id with
  | .kernels number =>
      world.modifyKernelManager number fun object => { object with isVisible := isVisible }
  | .sessions number =>
      world.modifySessionManager number fun object => { object with isVisible := isVisible }

/-- Connect through a manager, which reads a model as one of its kind. -/
def connectThrough (id : ManagerId) (name : String) (model : GivenModel) (world : World) :
    Performed :=
  match id with
  | .kernels manager =>
    match model.kernel.map (world.connectThroughKernels manager) with
    | none => (.badMessage, world)
    | some (.error error) => (.error error, world)
    | some (.ok connected) =>
        let kernel := world.kernels.length
        (.connected (connected.info kernel), connected.nameKernel name kernel)
  | .sessions manager =>
    match model.session.map (world.connectThroughSessions manager) with
    | none => (.badMessage, world)
    | some (.error error) => (.error error, world)
    | some (.ok connected) => (.done, connected.nameSession name world.sessions.length)

/-- Drop a name of a kind. The name of a connection, session or manager, which is observed for ever,
can be dropped again. -/
def dropName (kind : HandleKind) (name : String) (world : World) : Performed :=
  let names := world.names
  let (isThere, dropped) : Bool × World := match kind with
    | .kernel => ((names.kernelObservers.lookup name).isSome,
        world.modifyNames fun names =>
          { names with kernels := Connection.erase name names.kernels })
    | .session => ((names.sessionObservers.lookup name).isSome,
        world.modifyNames fun names =>
          { names with sessions := Connection.erase name names.sessions })
    | .manager => ((names.managerObservers.lookup name).isSome,
        world.modifyNames fun names =>
          { names with managers := Connection.erase name names.managers })
    | .reply => ((names.replies.lookup name).isSome, world.dropReply name)
    | .comm => ((names.comms.lookup name).isSome, world.dropComm name)
    | .target => ((names.targets.lookup name).isSome, world.dropTarget name)
  if isThere then (.nothing, dropped) else (.missing "nothing to drop", world)

/-- Start a call in the background. -/
def startCall (task : String) (call : Call) (world : World) : Performed :=
  (.nothing, world.spawn (.call task (.begin call)))

/-- Perform an operation. Nothing in the background goes on meanwhile, unless the clock moves. -/
def perform (operation : Operation) (world : World) : Performed :=
  match operation with
  | .wait => (.nothing, world)
  | .unreadable result => (result, world)
  | .advance milliseconds => (.nothing, world.advance milliseconds)
  | .respond route answer none =>
      (.nothing, world.changeServer (Server.answerAlways route answer))
  | .respond route answer (some times) =>
      (.nothing, world.changeServer (Server.answerOnce route answer times))
  | .clear route => (.nothing, world.changeServer (Server.forget route))
  | .offline isOffline =>
      (.nothing, world.changeServer fun server => { server with isOffline := isOffline })
  | .plan connects =>
      (.nothing, world.changeServer fun server => { server with plans := server.plans ++ connects })
  | .setProtocol protocol =>
      (.nothing, world.changeServer fun server => { server with protocol := protocol })
  | .serverSend socket parcels =>
      match world.server.socket? socket with
      | none => world.noSuch "socket"
      | some _ => world.sendParcels socket parcels
  | .serverClose socket => world.withSocket socket ServerSocket.close
  | .serverStopReading socket =>
      (world.breakOutput socket).withSocket socket ServerSocket.stopReading
  | .serverDrop socket =>
      (world.breakOutput socket).withSocket socket fun held => held.stopReading.close
  | .setVisible manager isVisible =>
      world.withManager manager fun id _ => (.nothing, world.setVisible id isVisible)
  | .connectKernel name model options =>
      let connected := world.connectKernel model options
      let kernel := world.kernels.length
      (.kernel (connected.info kernel), connected.nameKernel name kernel)
  | .cloneKernel kernel name =>
      world.withKernel kernel fun _ object =>
        let connected :=
          world.connectKernel object.connection.model object.connection.optionsOfClone
        let number := world.kernels.length
        let info := connected.info number
        (.clone info (info.clientId != object.connection.clientId),
          connected.nameKernel name number)
  | .request kernel request keep =>
      world.withKernel kernel fun number object =>
        let (msgId, call) := object.connection.request world.now request
        world.afterSend number msgId call keep
  | .send kernel outgoing expectsReply isRaw keep =>
      world.withKernel kernel fun number object =>
        match outgoingMessage world.now outgoing object.connection with
        | (none, connection) => (.badMessage, world.setConnection number connection)
        | (some message, connection) =>
            if isRaw then world.afterCall number (connection.sendRaw message)
            else world.afterSend number message.msgId (connection.send message expectsReply) keep
  | .sendInput kernel value parent =>
      world.withKernel kernel fun number object =>
        let send (parent : Option Message) : Performed :=
          world.afterCall number (object.connection.sendInput world.now value parent)
        match parent with
        | .absent => send none
        | .unreadable => (.badMessage, world)
        | .present message => send (some message)
  | .newMessage kernel channel msgType content =>
      world.withKernel kernel fun number object =>
        let (message, connection) :=
          object.connection.newMessage world.now channel msgType content
        (.message message, world.setConnection number connection)
  | .newIds kernel count =>
      world.withKernel kernel fun number object =>
        let (ids, connection) := newIds world.now count object.connection
        (.texts ids, world.setConnection number connection)
  | .hasComm kernel commId =>
      world.withKernel kernel fun _ object => (.truth (object.connection.hasComm commId), world)
  | .describeKernel kernel =>
      world.withKernel kernel fun _ object => (.text object.connection.describe, world)
  | .disposeKernel kernel =>
      world.withKernel kernel fun number _ =>
        (.nothing, world.changeKernel number Connection.dispose)
  | .registerTarget kernel target name isManual =>
      world.withKernel kernel fun number object =>
        let call := object.connection.registerTarget target
        let world := world.applyKernel number call.2
        match call.1 with
        | .ok receiver => (.done, world.nameTarget name ⟨number, receiver⟩ isManual)
        | .error error => (.error error, world)
  | .removeTarget kernel target =>
      world.withKernel kernel fun number _ =>
        (.nothing, world.changeKernel number (Connection.removeTarget target))
  | .createComm kernel target commId name isManual =>
      world.withKernel kernel fun number object =>
        let (commId, world) := match commId with
          | some commId => (commId, world)
          | none => world.freshClient
        let call := object.connection.createComm target commId
        let world := world.applyKernel number call.2
        match call.1 with
        | .ok comm =>
            let world : World := { world with comms := world.comms ++ [⟨number, comm, [], false⟩] }
            (.sent comm.commId, world.nameComm name ⟨number, comm.key⟩ isManual)
        | .error error => (.error error, world)
  | .useComm comm action keep => world.withComm comm fun box => world.useComm box action keep
  | .describeComm comm => world.withComm comm fun box => (.comm box.comm, world)
  | .receiveComm comm => world.withComm comm fun box => world.receiveComm box
  | .receiveTarget target => world.receiveTarget target
  | .nextOfReply reply =>
      world.withReply reply fun box =>
        match box.inbox with
        | message :: rest =>
            (.summary message, world.modifyReply box.id fun box => { box with inbox := rest })
        | [] => (.nothing, world)
  | .outcomeOfReply reply =>
      world.withReply reply fun box =>
        match box.outcome with
        | some outcome =>
            (.outcome (if box.isTaken then .error .disposed else outcome),
              world.modifyReply box.id fun box => { box with isTaken := true })
        | none => (.pending, world)
  | .drop kind name => world.dropName kind name
  | .connectSession name model options =>
      (.nothing, (world.connectSession model options).nameSession name world.sessions.length)
  | .disposeSession session =>
      world.withSession session fun number _ =>
        (.nothing, world.changeSession number Session.dispose)
  | .kernelOfSession session name =>
      world.withSession session fun _ object =>
        match object.session.kernel with
        | some kernel => (.kernel (world.info kernel), world.nameKernel name kernel)
        | none => (.nothing, world)
  | .describeSession session =>
      world.withSession session fun _ object => (.text object.session.describe, world)
  | .createManager name kind options isVisible =>
      (.nothing, world.createManager name kind options isVisible)
  | .connectThrough manager name model =>
      world.withManager manager fun id _ => world.connectThrough id name model
  | .disposeManager manager =>
      world.withManager manager fun id _ => (.nothing, world.changeManager id disposeManager)
  | .specsOfManager manager =>
      world.withManager manager fun _ view =>
        (match view.specs with
          | some specs => .specs specs
          | none => .nothing, world)
  | .describeManager manager =>
      world.withManager manager fun _ view => (.text view.description, world)
  | .baseUrlOfManager manager =>
      world.withManager manager fun _ _ => (.text world.settings.baseUrl.render, world)
  | .callAboutKernel task kernel call =>
      world.withKernel kernel fun number _ => world.startCall task (call number)
  | .callAboutSession task session call =>
      world.withSession session fun number _ => world.startCall task (call number)
  | .callAboutManager task manager call =>
      world.withManager manager fun id _ => world.startCall task (call id)
  | .awaitReply task reply =>
      world.withReply reply fun box =>
        (world.modifyNames fun names =>
          { names with replies := Connection.erase reply names.replies }).startCall task
          (.reply box.id)
  | .call task call => world.startCall task call

/-- Perform an operation, unless it makes a connection that asks for more room for messages than
there can be. -/
def performWithin (operation : Operation) (world : World) : Performed :=
  let (result, after) := world.perform operation
  let isTooLarge (object : KernelObject) : Bool :=
    Signal.mostCapacity < object.connection.options.messageCapacity
  if (after.kernels.drop world.kernels.length).any isTooLarge then (.noRoom, world)
  else (result, after)

end World

end KernelClient.Simulation
