import KernelClient.Error
import KernelClient.Kernel.Model
import KernelClient.Kernel.Options
import KernelClient.Kernel.Reply
import KernelClient.Kernel.Status
import KernelClient.Message.Frame.Codec

/-!
# Connections to kernels

The state of a connection, what can become visible of its changes, and the parts of which its
operations are made. A connection has one socket at a time. Messages that are sent while there is
none wait in a queue. Requests that wait for their completion are kept by the identifiers of their
messages, comms by their identifiers and targets by their names. Each request, comm and receiver of
a target has a number of its own, under which its holder hears of it.
-/

namespace KernelClient

/-- The socket that messages are written to. It takes as many more frames as there is room for, or
any number of them while its other end is there. -/
structure ActiveSocket where
  number : Nat
  protocol : WireProtocol
  room : Option Nat
deriving DecidableEq, Inhabited

/-- The socket after one more frame, unless its other end is gone. -/
def ActiveSocket.write? (socket : ActiveSocket) : Option ActiveSocket :=
  match socket.room with
  | none => some socket
  | some 0 => none
  | some (room + 1) => some { socket with room := some room }

theorem ActiveSocket.write?_eq {socket written : ActiveSocket}
    (wrote : socket.write? = some written) :
    written.number = socket.number ∧ written.protocol = socket.protocol := by
  unfold write? at wrote
  split at wrote <;> cases wrote <;> exact ⟨rfl, rfl⟩

/-- Who receives the comms that a kernel opens for a target. -/
structure CommTarget where
  receiver : Nat
  isOpen : Bool
deriving DecidableEq, Inhabited

/-- A message for a comm; a closing one is the last. -/
inductive CommEvent where
  | message (message : Message)
  | close (message : Message)
deriving Inhabited

/-- What a comm looks like to its holder. -/
structure Comm where
  key : Nat
  commId : String
  targetName : String
  isClosed : Bool
deriving DecidableEq, Inhabited

/-- A diagnostic text. -/
def Comm.describe (comm : Comm) : String :=
  Text.record "Comm" [
    ("comm_id", Text.quote comm.commId),
    ("target_name", Text.quote comm.targetName),
    ("closed", Text.truth comm.isClosed)] false

/-- What keeps the socket of a connection open. -/
inductive SocketPhase where
  | starting
  | connecting
  | reading (socket : Nat) (protocol : WireProtocol)
  | waiting
  | ended
deriving DecidableEq, Inhabited

structure Connection where
  model : KernelModel
  clientId : String
  username : String
  options : ConnectionOptions
  nextMessage : Nat
  nextKey : Nat
  status : KernelStatus
  connectionStatus : ConnectionStatus
  isDisposed : Bool
  socket : Option ActiveSocket
  queue : List Message
  pending : List (String × PendingReply)
  comms : List (String × Nat)
  targets : List (String × CommTarget)
  phase : SocketPhase
  attempt : Nat
deriving Inhabited

namespace Connection

/-- What becomes visible of a change. -/
inductive Effect where
  | status (status : KernelStatus)
  | connectionStatus (status : ConnectionStatus)
  | received (message : Message)
  | unclaimed (message : Message)
  | disposed
  | accepted (message : Message)
  | sent (socket : Nat) (frame : Frame)
  | outputClosed (socket : Nat)
  | inputClosed (socket : Nat)
  | streamed (request : Nat) (message : Message)
  | settled (request : Nat) (outcome : Except ServiceError (Option Message))
  | delivered (comm : Nat) (event : CommEvent)
  | released (comm : Nat)
  | offered (receiver : Nat) (comm : Comm) (opening : Message)
  | targetReleased (receiver : Nat)
  | connect
  | wait (delay : Duration)
  | log (line : LogLine)
deriving Inhabited

/-- A connection after a change, and what becomes visible of it, in order. -/
abbrev Change := Connection × List Effect

namespace Change

/-- A change followed by another one. -/
def andThen (change : Change) (next : Connection → Change) : Change :=
  let (connection, effects) := next change.1
  (connection, change.2 ++ effects)

end Change

/-- No change. -/
def unchanged (connection : Connection) : Change := (connection, [])

/-- A connection that is about to open its socket. -/
def create (model : KernelModel) (clientId : String) (options : ConnectionOptions) :
    Connection where
  model := model
  clientId := clientId
  username := options.username.getD ""
  options := options
  nextMessage := 0
  nextKey := 0
  status := .unknown
  connectionStatus := .connecting
  isDisposed := false
  socket := none
  queue := []
  pending := []
  comms := []
  targets := []
  phase := .starting
  attempt := 0

/-- The options of another connection to the same kernel, which has a client of its own. -/
def optionsOfClone (connection : Connection) : ConnectionOptions :=
  { connection.options with clientId := none, username := some connection.username }

/-- A diagnostic text. -/
def describe (connection : Connection) : String :=
  Text.record "KernelConnection" [
    ("id", Text.quote connection.model.id),
    ("name", Text.quote connection.model.name),
    ("client_id", Text.quote connection.clientId)] true

def disposedError : ServiceError := .connectionClosed "kernel connection is disposed"

/-- Whether a connection accepts calls, and why not. -/
def checkOpen (connection : Connection) : Except ServiceError Unit :=
  if connection.isDisposed then .error disposedError
  else if connection.status = .dead then .error .kernelDead
  else .ok ()

/-- Give a name a value in a list of named values. -/
def assign {α : Type} (name : String) (value : α) : List (String × α) → List (String × α)
  | [] => [(name, value)]
  | entry :: rest =>
    if entry.1 = name then (name, value) :: rest else entry :: assign name value rest

/-- Leave out a name from a list of named values. -/
def erase {α : Type} (name : String) (entries : List (String × α)) : List (String × α) :=
  entries.filter fun entry => entry.1 != name

/-- A name without a value gets one after all others. -/
theorem assign_of_lookup_none {α : Type} {name : String} {entries : List (String × α)}
    (unknown : entries.lookup name = none) (value : α) :
    assign name value entries = entries ++ [(name, value)] := by
  induction entries with
  | nil => rfl
  | cons entry rest ih =>
      rw [List.lookup_eq_none_iff] at unknown
      have other : entry.1 ≠ name :=
        (bne_iff_ne.mp (unknown entry (List.mem_cons_self ..))).symm
      have others := ih (List.lookup_eq_none_iff.mpr fun entry member =>
        unknown entry (List.mem_cons_of_mem _ member))
      rw [assign, if_neg other, others, List.cons_append]

/-- A name with a value gets another one in the same place. -/
theorem assign_of_lookup_some {α : Type} {name : String} {old : α} {entries : List (String × α)}
    (known : entries.lookup name = some old) (value : α) :
    ∃ before after, entries = before ++ (name, old) :: after ∧
      assign name value entries = before ++ (name, value) :: after := by
  obtain ⟨before, after, rfl, others⟩ := List.lookup_eq_some_iff.mp known
  refine ⟨before, after, rfl, ?_⟩
  clear known
  induction before with
  | nil => exact if_pos rfl
  | cons entry rest ih =>
      have other : entry.1 ≠ name :=
        (bne_iff_ne.mp (others entry (List.mem_cons_self ..))).symm
      have placed := ih fun entry member => others entry (List.mem_cons_of_mem _ member)
      rw [List.cons_append, assign, if_neg other, placed, List.cons_append]

theorem mem_of_lookup {α : Type} {name : String} {item : α} {entries : List (String × α)}
    (known : entries.lookup name = some item) : (name, item) ∈ entries := by
  obtain ⟨earlier, later, rfl, -⟩ := List.lookup_eq_some_iff.mp known
  exact List.mem_append_right _ (List.mem_cons_self ..)

/-- In a list with distinct names a value is found by its name. -/
theorem lookup_of_mem {α : Type} {name : String} {item : α} {entries : List (String × α)}
    (distinct : (entries.map Prod.fst).Nodup) (member : (name, item) ∈ entries) :
    entries.lookup name = some item := by
  induction entries with
  | nil => cases member
  | cons first rest ih =>
      obtain ⟨fresh, others⟩ := List.nodup_cons.mp distinct
      rcases List.mem_cons.mp member with rfl | later
      · simp
      · have other : (name == first.1) = false := by
          refine beq_eq_false_iff_ne.mpr fun same => fresh ?_
          exact List.mem_map.mpr ⟨_, later, same⟩
        rw [List.lookup_cons, other]
        exact ih others later

theorem mem_assign {α : Type} {name : String} {old : α} {entries : List (String × α)}
    (known : entries.lookup name = some old) (value : α) :
    (name, value) ∈ assign name value entries := by
  obtain ⟨earlier, later, -, assigned⟩ := assign_of_lookup_some known value
  rw [assigned]
  exact List.mem_append_right _ (List.mem_cons_self ..)

/-- To give a name a value leaves other names alone. -/
theorem mem_assign_of_ne {α : Type} {name other : String} {old new item : α}
    {entries : List (String × α)} (known : entries.lookup name = some old)
    (member : (other, item) ∈ entries) (apart : other ≠ name) :
    (other, item) ∈ assign name new entries := by
  obtain ⟨earlier, later, parts, assigned⟩ := assign_of_lookup_some known new
  rw [assigned]
  rw [parts] at member
  rcases List.mem_append.mp member with early | late
  · exact List.mem_append_left _ early
  · rcases List.mem_cons.mp late with same | later
    · exact absurd (congrArg Prod.fst same) apart
    · exact List.mem_append_right _ (List.mem_cons_of_mem _ later)

/-- Leaving out a name leaves the others, if each name has one value. -/
theorem erase_of_lookup_some {α : Type} {name : String} {value : α}
    {entries : List (String × α)} (known : entries.lookup name = some value)
    (distinct : (entries.map Prod.fst).Nodup) :
    entries.Perm ((name, value) :: erase name entries) := by
  obtain ⟨before, after, rfl, others⟩ := List.lookup_eq_some_iff.mp known
  have absent : ∀ entry ∈ after, entry.1 ≠ name := by
    intro entry member same
    rw [List.map_append, List.map_cons] at distinct
    have fresh := (List.nodup_cons.mp (List.nodup_append.mp distinct).2.1).1
    exact fresh (List.mem_map.mpr ⟨entry, member, same⟩)
  have erased : erase name (before ++ (name, value) :: after) = before ++ after := by
    have early : before.filter (fun entry => entry.1 != name) = before :=
      List.filter_eq_self.mpr fun entry member =>
        bne_iff_ne.mpr (bne_iff_ne.mp (others entry member)).symm
    have late : after.filter (fun entry => entry.1 != name) = after :=
      List.filter_eq_self.mpr fun entry member => bne_iff_ne.mpr (absent entry member)
    simp [erase, early, late]
  rw [erased]
  exact List.perm_middle

/-- Reject requests. -/
def rejections (error : ServiceError) (pending : List (String × PendingReply)) : List Effect :=
  pending.map fun entry => .settled entry.2.key (.error error)

/-- Let go of comms. -/
def releases (comms : List (String × Nat)) : List Effect :=
  comms.map fun entry => .released entry.2

/-- Let go of receivers of targets. -/
def targetReleases (targets : List (String × CommTarget)) : List Effect :=
  targets.map fun entry => .targetReleased entry.2.receiver

/-- Drop the socket that messages are written to. -/
def dropSocket (connection : Connection) : Change :=
  match connection.socket with
  | some socket => ({ connection with socket := none }, [.outputClosed socket.number])
  | none => (connection, [])

@[simp]
theorem dropSocket_socket (connection : Connection) : (dropSocket connection).1.socket = none := by
  unfold dropSocket
  split
  · rfl
  · assumption

/-- Reject all requests, let go of all comms and forget queued messages. -/
def clear (error : ServiceError) (connection : Connection) : Change :=
  ({ connection with queue := [], pending := [], comms := [] },
    rejections error connection.pending ++ releases connection.comms)

/-- What a new status does to requests, comms and queued messages. -/
def clearFor (status : KernelStatus) (connection : Connection) : Change :=
  match status with
  | .dead => clear .kernelDead connection
  | .autoRestarting => clear .disposed connection
  | _ => unchanged connection

/-- Change the status. Nothing happens when it is the same or the connection is disposed. -/
def setStatus (status : KernelStatus) (connection : Connection) : Change :=
  if connection.isDisposed ∨ connection.status = status then unchanged connection
  else
    (clearFor status { connection with status := status }).andThen fun cleared =>
      (cleared, [.status status])

/-- Change the state of the socket. -/
def setConnectionStatus (status : ConnectionStatus) (connection : Connection) : Change :=
  if connection.isDisposed ∨ connection.connectionStatus = status then unchanged connection
  else ({ connection with connectionStatus := status }, [.connectionStatus status])

@[simp]
theorem setConnectionStatus_socket (status : ConnectionStatus) (connection : Connection) :
    (setConnectionStatus status connection).1.socket = connection.socket := by
  unfold setConnectionStatus
  split <;> rfl

/-- Dispose a connection: drop its socket, reject all requests, and let go of comms and targets.
A second time nothing happens. -/
def dispose (connection : Connection) : Change :=
  if connection.isDisposed then unchanged connection
  else
    (dropSocket { connection with isDisposed := true, queue := [], targets := [] }).andThen
      fun dropped =>
        ({ dropped with pending := [], comms := [] },
          targetReleases connection.targets ++ rejections .disposed connection.pending ++
            releases connection.comms ++ [.disposed])

end Connection

end KernelClient
