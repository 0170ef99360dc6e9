import KernelClient.Proofs.Connection.SocketLife

/-!
# What hands on messages

A message that arrives is announced, streamed to a request, handed to a comm or to the receiver of a
target, or announced as unclaimed. Only the frame that carries it makes these effects: every other
event is made of changes that hand nothing on.
-/

namespace KernelClient.Connection

/-- Whether an effect hands on a message that arrived. -/
def Effect.isInbound : Effect → Bool
  | .received _ | .streamed _ _ | .delivered _ _ | .offered _ _ _ | .unclaimed _ => true
  | _ => false

/-- Whether an effect hands on a message to a comm or to the receiver of a target. -/
def Effect.isForComms : Effect → Bool
  | .delivered _ _ | .offered _ _ _ => true
  | _ => false

def Effect.received? : Effect → Option Message
  | .received message => some message
  | _ => none

def Effect.streamed? : Effect → Option (Nat × Message)
  | .streamed request message => some (request, message)
  | _ => none

def Effect.unclaimed? : Effect → Option Message
  | .unclaimed message => some message
  | _ => none

/-- All that is handed on, in order. -/
def inboundIn (effects : List Effect) : List Effect := effects.filter Effect.isInbound

/-- The messages that are announced. -/
def receivedIn (effects : List Effect) : List Message := effects.filterMap Effect.received?

/-- The messages that are streamed to requests, with the numbers of these. -/
def streamedIn (effects : List Effect) : List (Nat × Message) := effects.filterMap Effect.streamed?

/-- The messages that are announced as unclaimed. -/
def unclaimedIn (effects : List Effect) : List Message := effects.filterMap Effect.unclaimed?

/-- What is handed on to comms and to receivers of targets. -/
def commsIn (effects : List Effect) : List Effect := effects.filter Effect.isForComms

@[simp]
theorem inboundIn_append (first second : List Effect) :
    inboundIn (first ++ second) = inboundIn first ++ inboundIn second :=
  List.filter_append ..

@[simp]
theorem receivedIn_nil : receivedIn [] = [] :=
  rfl

@[simp]
theorem streamedIn_nil : streamedIn [] = [] :=
  rfl

@[simp]
theorem unclaimedIn_nil : unclaimedIn [] = [] :=
  rfl

@[simp]
theorem receivedIn_cons (effect : Effect) (rest : List Effect) :
    receivedIn (effect :: rest) = effect.received?.toList ++ receivedIn rest := by
  cases shown : effect.received? <;> simp [receivedIn, shown]

@[simp]
theorem streamedIn_cons (effect : Effect) (rest : List Effect) :
    streamedIn (effect :: rest) = effect.streamed?.toList ++ streamedIn rest := by
  cases shown : effect.streamed? <;> simp [streamedIn, shown]

@[simp]
theorem unclaimedIn_cons (effect : Effect) (rest : List Effect) :
    unclaimedIn (effect :: rest) = effect.unclaimed?.toList ++ unclaimedIn rest := by
  cases shown : effect.unclaimed? <;> simp [unclaimedIn, shown]

@[simp]
theorem streamedIn_append (first second : List Effect) :
    streamedIn (first ++ second) = streamedIn first ++ streamedIn second :=
  List.filterMap_append

/-- What is read off the effects that hand on a message is read off all effects. -/
theorem filterMap_inboundIn {Item : Type} {select : Effect → Option Item}
    (only : ∀ effect, effect.isInbound = false → select effect = none) (effects : List Effect) :
    (inboundIn effects).filterMap select = effects.filterMap select := by
  rw [inboundIn, List.filterMap_filter]
  congr 1
  funext effect
  cases inbound : effect.isInbound with
  | true => simp
  | false => simp [only effect inbound]

theorem receivedIn_inboundIn (effects : List Effect) :
    receivedIn (inboundIn effects) = receivedIn effects :=
  filterMap_inboundIn
    (fun effect outward => by cases effect <;> first | rfl | cases outward) effects

theorem streamedIn_inboundIn (effects : List Effect) :
    streamedIn (inboundIn effects) = streamedIn effects :=
  filterMap_inboundIn
    (fun effect outward => by cases effect <;> first | rfl | cases outward) effects

theorem unclaimedIn_inboundIn (effects : List Effect) :
    unclaimedIn (inboundIn effects) = unclaimedIn effects :=
  filterMap_inboundIn
    (fun effect outward => by cases effect <;> first | rfl | cases outward) effects

theorem mem_streamedIn {key : Nat} {message : Message} {effects : List Effect} :
    (key, message) ∈ streamedIn effects ↔ .streamed key message ∈ effects := by
  refine List.mem_filterMap.trans ⟨?_, fun member => ⟨_, member, rfl⟩⟩
  rintro ⟨effect, member, shown⟩
  cases effect with
  | streamed =>
      cases shown
      exact member
  | _ => cases shown

@[simp]
theorem commsIn_nil : commsIn [] = [] :=
  rfl

@[simp]
theorem commsIn_cons (effect : Effect) (rest : List Effect) :
    commsIn (effect :: rest) = if effect.isForComms then effect :: commsIn rest else commsIn rest :=
  List.filter_cons ..

theorem commsIn_inboundIn (effects : List Effect) :
    commsIn (inboundIn effects) = commsIn effects := by
  rw [commsIn, inboundIn, List.filter_filter]
  congr 1
  funext effect
  cases effect <;> rfl

theorem filterMap_commsIn {Item : Type} {select : Effect → Option Item}
    (other : ∀ effect, effect.isForComms = true → select effect = none) (effects : List Effect) :
    (commsIn effects).filterMap select = [] :=
  List.filterMap_eq_nil_iff.mpr fun effect member => other effect (List.mem_filter.mp member).2

@[simp]
theorem receivedIn_commsIn (effects : List Effect) : receivedIn (commsIn effects) = [] :=
  filterMap_commsIn (fun effect comm => by cases effect <;> first | rfl | cases comm) effects

@[simp]
theorem streamedIn_commsIn (effects : List Effect) : streamedIn (commsIn effects) = [] :=
  filterMap_commsIn (fun effect comm => by cases effect <;> first | rfl | cases comm) effects

@[simp]
theorem unclaimedIn_commsIn (effects : List Effect) : unclaimedIn (commsIn effects) = [] :=
  filterMap_commsIn (fun effect comm => by cases effect <;> first | rfl | cases comm) effects

@[simp]
theorem commsIn_commsIn (effects : List Effect) : commsIn (commsIn effects) = commsIn effects := by
  simp [commsIn]

/-- Whether a change hands on no message. -/
def IsOutward (change : Change) : Prop := inboundIn change.2 = []

theorem streamedIn_of_isOutward {change : Change} (outward : IsOutward change) :
    streamedIn change.2 = [] := by
  rw [← streamedIn_inboundIn, outward]
  rfl

theorem IsOutward.andThen {change : Change} {next : Connection → Change}
    (first : IsOutward change) (second : IsOutward (next change.1)) :
    IsOutward (change.andThen next) := by
  change inboundIn (change.2 ++ (next change.1).2) = []
  rw [inboundIn_append, first, second, List.append_nil]

variable {connection : Connection}

theorem inboundIn_map {Item : Type} {shown : Item → Effect}
    (outward : ∀ item, (shown item).isInbound = false) (items : List Item) :
    inboundIn (items.map shown) = [] := by
  refine List.filter_eq_nil_iff.mpr fun effect member => ?_
  obtain ⟨item, -, rfl⟩ := List.mem_map.mp member
  simp [outward item]

@[simp]
theorem inboundIn_rejections (error : ServiceError) (pending : List (String × PendingReply)) :
    inboundIn (rejections error pending) = [] :=
  inboundIn_map (fun _ => rfl) pending

@[simp]
theorem inboundIn_releases (comms : List (String × Nat)) : inboundIn (releases comms) = [] :=
  inboundIn_map (fun _ => rfl) comms

@[simp]
theorem inboundIn_targetReleases (targets : List (String × CommTarget)) :
    inboundIn (targetReleases targets) = [] :=
  inboundIn_map (fun _ => rfl) targets

theorem isOutward_dropSocket (connection : Connection) : IsOutward (dropSocket connection) := by
  unfold dropSocket
  split <;> rfl

theorem Transmission.isOutward {message : Message} {call : Call Unit}
    (transmission : Transmission message connection call) : IsOutward call.2 := by
  cases transmission <;> rfl

theorem Sending.isOutward {message : Message} {expectsReply : Bool} {call : Call Nat}
    (sending : Sending message expectsReply connection call) : IsOutward call.2 := by
  cases sending with
  | refused error => rfl
  | kept accepts fresh transmitted => exact transmitted.isOutward

theorem isOutward_send (message : Message) (expectsReply : Bool) (connection : Connection) :
    IsOutward (send message expectsReply connection).2 :=
  (send_sending message expectsReply connection).isOutward

theorem isOutward_sendRaw (message : Message) (connection : Connection) :
    IsOutward (sendRaw message connection).2 :=
  (sendRaw_transmission message connection).isOutward

theorem isOutward_registerTarget (name : String) (connection : Connection) :
    IsOutward (registerTarget name connection).2 := by
  unfold registerTarget
  split
  · rfl
  · exact inboundIn_targetReleases _

theorem isOutward_createComm (targetName commId : String) (connection : Connection) :
    IsOutward (createComm targetName commId connection).2 := by
  unfold createComm
  split
  · rfl
  · split <;> rfl

theorem isOutward_removeTarget (name : String) (connection : Connection) :
    IsOutward (removeTarget name connection) :=
  inboundIn_targetReleases _

theorem isOutward_unregisterComm (commId : String) (connection : Connection) :
    IsOutward (unregisterComm commId connection) :=
  inboundIn_releases _

theorem isOutward_sendComm (now : Instant) (comm : Comm) (outgoing : CommMessage)
    (connection : Connection) : IsOutward (sendComm now comm outgoing connection).2 := by
  unfold sendComm
  split
  · rfl
  · exact isOutward_send _ false _

theorem isOutward_closeComm (now : Instant) (comm : Comm) (data : Json) (metadata : Option Json)
    (connection : Connection) : IsOutward (closeComm now comm data metadata connection).2 := by
  have outward := isOutward_sendComm now comm (.closing comm data metadata) connection
  unfold closeComm
  split
  case h_1 sent =>
    rw [sent] at outward
    exact outward
  case h_2 sent =>
    rw [sent] at outward
    exact outward.andThen (isOutward_unregisterComm _ _)

theorem isOutward_dropComm (comm : Comm) (connection : Connection) :
    IsOutward (dropComm comm connection) := by
  unfold dropComm
  split
  · rfl
  · exact isOutward_unregisterComm _ _

theorem StatusChange.isOutward {status : KernelStatus} {change : Change}
    (changed : StatusChange connection status change) : IsOutward change := by
  cases changed with
  | same | plain => rfl
  | died | autoRestarted =>
      simp only [IsOutward, inboundIn_append, inboundIn_rejections, inboundIn_releases]
      rfl

theorem isOutward_setStatus (status : KernelStatus) (connection : Connection) :
    IsOutward (setStatus status connection) :=
  (setStatus_statusChange status connection).isOutward

theorem isOutward_setConnectionStatus (status : ConnectionStatus) (connection : Connection) :
    IsOutward (setConnectionStatus status connection) := by
  unfold setConnectionStatus
  split <;> rfl

theorem isOutward_clear (error : ServiceError) (connection : Connection) :
    IsOutward (clear error connection) := by
  simp [IsOutward, clear]

theorem isOutward_dispose (connection : Connection) : IsOutward (dispose connection) := by
  cases disposed : connection.isDisposed with
  | true =>
      rw [dispose_again disposed]
      rfl
  | false =>
      have dropped : inboundIn (dropSocket connection).2 = [] := isOutward_dropSocket connection
      rw [dispose_first disposed, IsOutward]
      simp only [inboundIn_append, dropped, inboundIn_targetReleases, inboundIn_rejections,
        inboundIn_releases]
      rfl

theorem isOutward_shutDown (connection : Connection) : IsOutward (shutDown connection) :=
  (isOutward_setStatus .dead connection).andThen (isOutward_dispose _)

theorem isOutward_retry (connection : Connection) : IsOutward (retry connection) := by
  unfold retry
  split
  · refine IsOutward.andThen ?_ (isOutward_setStatus .dead _)
    rfl
  · rfl

theorem isOutward_lose (connection : Connection) : IsOutward (lose connection) := by
  unfold lose
  split
  · rfl
  · refine (isOutward_dropSocket connection).andThen ?_
    exact (isOutward_setConnectionStatus .disconnected _).andThen (isOutward_retry _)

theorem isOutward_loseUnopened (connection : Connection) :
    IsOutward (loseUnopened connection) := by
  unfold loseUnopened
  split
  · exact isOutward_lose connection
  · rfl

theorem isOutward_beginConnecting (connection : Connection) :
    IsOutward (beginConnecting connection) := by
  unfold beginConnecting
  split
  · rfl
  · exact (isOutward_setConnectionStatus .connecting _).andThen rfl

theorem isOutward_connectFailed (error : ServiceError) (connection : Connection) :
    IsOutward (connectFailed error connection) := by
  unfold connectFailed
  split <;> rfl

theorem inboundIn_flush (socket : ActiveSocket) (queue : List Message) :
    inboundIn (flush socket queue).effects = [] := by
  refine List.filter_eq_nil_iff.mpr fun effect member => ?_
  rcases flush_effects socket queue effect member with ⟨_, _, rfl⟩ | ⟨_, rfl⟩ <;>
    simp [Effect.isInbound]

theorem isOutward_connected (socket : ActiveSocket) (connection : Connection) :
    IsOutward (connected socket connection) := by
  unfold connected
  split
  · rfl
  · refine IsOutward.andThen (inboundIn_flush _ _) ?_
    split
    · exact isOutward_setConnectionStatus .connected _
    · exact IsOutward.andThen rfl (isOutward_connectFailed _ _)

theorem isOutward_inputEnded (connection : Connection) : IsOutward (inputEnded connection) := by
  unfold inputEnded
  split
  · exact IsOutward.andThen rfl (isOutward_lose connection)
  · rfl

theorem isOutward_stop (connection : Connection) : IsOutward (stop connection) := by
  unfold stop
  split <;> rfl

/-- Only a frame brings a message. -/
theorem Event.isOutward_change (event : Event) (connection : Connection)
    (other : ∀ now frame, event ≠ .frameArrived now frame) :
    IsOutward (event.change connection) := by
  cases event with
  | makeMessage | receiverGone | interrupt | restart | outputBroken => rfl
  | send message expectsReply => exact isOutward_send message expectsReply connection
  | sendRaw message => exact isOutward_sendRaw message connection
  | request now wanted => exact isOutward_send _ true _
  | sendInput now value parent => exact isOutward_sendRaw _ _
  | registerTarget name => exact isOutward_registerTarget name connection
  | removeTarget name => exact isOutward_removeTarget name connection
  | createComm targetName commId => exact isOutward_createComm targetName commId connection
  | sendComm now comm outgoing => exact isOutward_sendComm now comm outgoing connection
  | closeComm now comm data metadata => exact isOutward_closeComm now comm data metadata connection
  | dropComm comm => exact isOutward_dropComm comm connection
  | restartAnswered succeeded =>
      cases succeeded with
      | false => rfl
      | true =>
          simp only [Event.change, restarted]
          split
          case h_1 change restarts =>
            split at restarts
            · cases restarts
            · cases restarts
              exact (isOutward_setStatus .restarting connection).andThen (isOutward_clear _ _)
          case h_2 => rfl
  | shutDown =>
      rcases change_shutDown connection with same | shut
      · rw [same]
        rfl
      · rw [shut]
        exact isOutward_shutDown connection
  | shutDownAnswered succeeded =>
      cases succeeded with
      | false => rfl
      | true => exact isOutward_shutDown connection
  | dispose => exact isOutward_dispose connection
  | beginConnecting => exact isOutward_beginConnecting connection
  | connected socket =>
      exact (isOutward_connected socket connection).andThen (isOutward_loseUnopened _)
  | connectFailed error =>
      exact (isOutward_connectFailed error connection).andThen (isOutward_loseUnopened _)
  | frameArrived now frame => exact absurd rfl (other now frame)
  | inputEnded => exact isOutward_inputEnded connection
  | stop => exact isOutward_stop connection

end KernelClient.Connection
