import KernelClient.Proofs.Connection.Reception
import KernelClient.Proofs.Connection.Unencodable

/-!
# Routes of comms

A comm is reached by its route, which is its entry in the table of its connection. Most changes
leave that table alone, or empty it because the connection is cleared. The others add one route
under a new number or take away what is registered under one identifier. So identifiers are distinct
in the table, and since numbers are never given away twice, a route that is gone does not come back.
-/

namespace KernelClient

/-- The entry of a comm in the table of its connection while it is registered. -/
def Comm.route (comm : Comm) : String × Nat := (comm.commId, comm.key)

namespace Connection

theorem mem_erase {α : Type} {name : String} {entry : String × α} {entries : List (String × α)} :
    entry ∈ erase name entries ↔ entry ∈ entries ∧ entry.1 ≠ name := by
  rw [erase, List.mem_filter, bne_iff_ne]

theorem erase_nodup {α : Type} {entries : List (String × α)}
    (distinct : (entries.map Prod.fst).Nodup) (name : String) :
    ((erase name entries).map Prod.fst).Nodup :=
  (List.filter_sublist.map Prod.fst).nodup distinct

theorem erase_of_lookup_none {α : Type} {name : String} {entries : List (String × α)}
    (unknown : entries.lookup name = none) : erase name entries = entries := by
  refine List.filter_eq_self.mpr fun entry member => ?_
  have apart := bne_iff_ne.mp (List.lookup_eq_none_iff.mp unknown entry member)
  exact bne_iff_ne.mpr apart.symm

/-- A name that was given a value and is left out again leaves a table as it was. -/
theorem erase_assign_of_lookup_none {α : Type} {name : String} {entries : List (String × α)}
    (unknown : entries.lookup name = none) (value : α) :
    erase name (assign name value entries) = entries := by
  have others : erase name entries = entries := erase_of_lookup_none unknown
  have last : erase name [(name, value)] = [] := by simp [erase]
  rw [assign_of_lookup_none unknown, erase, List.filter_append]
  exact (congrArg₂ (· ++ ·) others last).trans (List.append_nil entries)

theorem lookup_eq_none_of_hasComm {connection : Connection} {commId : String}
    (unknown : ¬connection.hasComm commId = true) : connection.comms.lookup commId = none :=
  Option.not_isSome_iff_eq_none.mp unknown

/-- A change that leaves the table of comms alone and shows nothing of a connection being cleared. -/
structure KeepsRoutes (before : Connection) (change : Change) : Prop where
  same : change.1.comms = before.comms
  ascends : before.nextKey ≤ change.1.nextKey
  quiet : ∀ effect ∈ change.2, effect.isClearing = false

variable {event : Event} {connection : Connection}

namespace KeepsRoutes

theorem silently {before after : Connection} (same : after.comms = before.comms)
    (numbered : after.nextKey = before.nextKey) : KeepsRoutes before (unchanged after) :=
  ⟨same, Nat.le_of_eq numbered.symm, by simp [unchanged]⟩

theorem refl (connection : Connection) : KeepsRoutes connection (unchanged connection) :=
  silently rfl rfl

theorem shows (connection : Connection) {effects : List Effect}
    (quiet : ∀ effect ∈ effects, effect.isClearing = false) :
    KeepsRoutes connection (connection, effects) :=
  ⟨rfl, Nat.le_refl _, quiet⟩

theorem append {before middle after : Connection} {first second : List Effect}
    (start : KeepsRoutes before (middle, first)) (rest : KeepsRoutes middle (after, second)) :
    KeepsRoutes before (after, first ++ second) where
  same := rest.same.trans start.same
  ascends := Nat.le_trans start.ascends rest.ascends
  quiet effect member :=
    (List.mem_append.mp member).elim (start.quiet effect) (rest.quiet effect)

theorem andThen {before : Connection} {change : Change} {next : Connection → Change}
    (start : KeepsRoutes before change) (rest : KeepsRoutes change.1 (next change.1)) :
    KeepsRoutes before (change.andThen next) :=
  append start rest

/-- A change may as well start from a connection with the same table and numbers. -/
theorem startsFrom {before middle : Connection} {change : Change}
    (keeps : KeepsRoutes middle change) (same : middle.comms = before.comms)
    (numbered : middle.nextKey = before.nextKey) : KeepsRoutes before change where
  same := keeps.same.trans same
  ascends := numbered ▸ keeps.ascends
  quiet := keeps.quiet

end KeepsRoutes

theorem isClearing_of_mem_releases {comms : List (String × Nat)} :
    ∀ effect ∈ releases comms, effect.isClearing = false := fun effect member =>
  isClearing_of_isAside (isAside_of_mem_releases effect member)

theorem isClearing_of_mem_targetReleases {targets : List (String × CommTarget)} :
    ∀ effect ∈ targetReleases targets, effect.isClearing = false := fun effect member =>
  isClearing_of_isAside (isAside_of_mem_targetReleases effect member)

theorem isClearing_of_mem_flush (socket : ActiveSocket) (queue : List Message) :
    ∀ effect ∈ (flush socket queue).effects, effect.isClearing = false := by
  intro effect member
  rcases flush_effects socket queue effect member with ⟨_, _, rfl⟩ | ⟨_, rfl⟩ <;> rfl

theorem Transmission.keepsRoutes {message : Message} {call : Call Unit}
    (transmission : Transmission message connection call) : KeepsRoutes connection call.2 := by
  have quiet := transmission.all_not_isClearing
  cases transmission <;> exact ⟨rfl, Nat.le_refl _, quiet⟩

theorem Sending.keepsRoutes {message : Message} {expectsReply : Bool} {call : Call Nat}
    (sending : Sending message expectsReply connection call) : KeepsRoutes connection call.2 := by
  cases sending with
  | refused error => exact .refl connection
  | kept accepts fresh transmitted =>
      obtain ⟨same, ascends, quiet⟩ := transmitted.keepsRoutes
      exact ⟨same, Nat.le_succ_of_le ascends, quiet⟩

theorem keepsRoutes_sendRaw (message : Message) :
    KeepsRoutes connection (sendRaw message connection).2 :=
  (sendRaw_transmission message connection).keepsRoutes

theorem keepsRoutes_send (message : Message) (expectsReply : Bool) :
    KeepsRoutes connection (send message expectsReply connection).2 :=
  (send_sending message expectsReply connection).keepsRoutes

theorem keepsRoutes_sendComm (now : Instant) (comm : Comm) (outgoing : CommMessage) :
    KeepsRoutes connection (sendComm now comm outgoing connection).2 := by
  unfold sendComm
  split
  · exact .refl connection
  · exact (keepsRoutes_send _ false).startsFrom rfl rfl

theorem keepsRoutes_registerTarget (name : String) :
    KeepsRoutes connection (registerTarget name connection).2 := by
  unfold registerTarget
  split
  · exact .refl connection
  · exact ⟨rfl, Nat.le_succ _, isClearing_of_mem_targetReleases⟩

theorem keepsRoutes_removeTarget (name : String) :
    KeepsRoutes connection (removeTarget name connection) :=
  ⟨rfl, Nat.le_refl _, isClearing_of_mem_targetReleases⟩

theorem keepsRoutes_deliver (message : Message) :
    KeepsRoutes connection (deliver message connection) := by
  unfold deliver
  split
  case h_1 msgId waiting answers =>
    have answered := answer_answering msgId waiting message connection
    have quiet := answered.all_not_isClearing
    generalize answer msgId waiting message connection = change at answered quiet ⊢
    cases answered <;> exact ⟨rfl, Nat.le_refl _, quiet⟩
  case h_2 => exact .refl connection

theorem keepsRoutes_setConnectionStatus (status : ConnectionStatus) :
    KeepsRoutes connection (setConnectionStatus status connection) := by
  unfold setConnectionStatus
  split
  · exact .refl connection
  · exact ⟨rfl, Nat.le_refl _, by simp [Effect.isClearing]⟩

theorem keepsRoutes_dropSocket : KeepsRoutes connection (dropSocket connection) := by
  unfold dropSocket
  split
  · exact ⟨rfl, Nat.le_refl _, by simp [Effect.isClearing]⟩
  · exact .refl connection

theorem keepsRoutes_beginConnecting : KeepsRoutes connection (beginConnecting connection) := by
  unfold beginConnecting
  split
  · exact .silently rfl rfl
  · have announced (connecting : Connection) :
        KeepsRoutes connecting (connecting, [.connect]) := .shows _ (by simp [Effect.isClearing])
    exact ((keepsRoutes_setConnectionStatus .connecting).andThen (announced _)).startsFrom rfl rfl

theorem keepsRoutes_connectFailed (error : ServiceError) :
    KeepsRoutes connection (connectFailed error connection) := by
  unfold connectFailed
  split
  · exact .silently rfl rfl
  · exact .shows connection (by simp [Effect.isClearing])

theorem keepsRoutes_connected (socket : ActiveSocket) :
    KeepsRoutes connection (connected socket connection) := by
  unfold connected
  split
  · exact ⟨rfl, Nat.le_refl _, by simp [closing, Effect.isClearing]⟩
  · refine KeepsRoutes.andThen ⟨rfl, Nat.le_refl _, isClearing_of_mem_flush _ _⟩ ?_
    split
    · exact (keepsRoutes_setConnectionStatus .connected).startsFrom rfl rfl
    · exact (KeepsRoutes.shows _ (by simp [closing, Effect.isClearing])).andThen
        (keepsRoutes_connectFailed _)

theorem keepsRoutes_stop : KeepsRoutes connection (stop connection) := by
  unfold stop
  split
  · exact ⟨rfl, Nat.le_refl _, by simp [Effect.isClearing]⟩
  · exact .silently rfl rfl

/-- What a change can do to the table if it concerns no single route: keep it, or empty it because
the connection is cleared. -/
inductive Upkeep (event : Event) (before : Connection) (change : Change) : Prop where
  | kept (keeps : KeepsRoutes before change)
  | cleared (cause : Clearing) (empty : change.1.comms = [])
      (ascends : before.nextKey ≤ change.1.nextKey) (clears : Clears event change.2 cause)

namespace Upkeep

theorem ascends {before : Connection} {change : Change} (upkeep : Upkeep event before change) :
    before.nextKey ≤ change.1.nextKey := by
  cases upkeep with
  | kept keeps => exact keeps.ascends
  | cleared cause empty ascends clears => exact ascends

theorem append {before middle after : Connection} {first second : List Effect}
    (start : Upkeep event before (middle, first)) (rest : Upkeep event middle (after, second)) :
    Upkeep event before (after, first ++ second) := by
  have ascends := Nat.le_trans start.ascends rest.ascends
  cases rest with
  | cleared cause empty _ clears =>
      exact .cleared cause empty ascends (clears.mono (List.subset_append_right first second))
  | kept later =>
      cases start with
      | cleared cause empty _ clears =>
          exact .cleared cause (later.same.trans empty) ascends
            (clears.mono (List.subset_append_left first second))
      | kept earlier => exact .kept (earlier.append later)

theorem andThen {before : Connection} {change : Change} {next : Connection → Change}
    (start : Upkeep event before change) (rest : Upkeep event change.1 (next change.1)) :
    Upkeep event before (change.andThen next) :=
  append start rest

/-- A change may as well start from a connection with the same table and numbers. -/
theorem startsFrom {before middle : Connection} {change : Change}
    (upkeep : Upkeep event middle change) (same : middle.comms = before.comms)
    (numbered : middle.nextKey = before.nextKey) : Upkeep event before change :=
  append (.kept (.silently same numbered)) upkeep

end Upkeep

theorem StatusChange.upkeep {status : KernelStatus} {change : Change}
    (changed : StatusChange connection status change) : Upkeep event connection change := by
  cases changed with
  | same => exact .kept (.refl connection)
  | plain alive survives continues =>
      refine .kept ⟨rfl, Nat.le_refl _, fun effect member => ?_⟩
      cases List.mem_singleton.mp member
      exact isClearing_status survives continues
  | died =>
      refine .cleared .death rfl (Nat.le_refl _) ?_
      exact List.mem_append_right _ (List.mem_singleton_self _)
  | autoRestarted =>
      refine .cleared .autoRestart rfl (Nat.le_refl _) ?_
      exact List.mem_append_right _ (List.mem_singleton_self _)

theorem upkeep_setStatus (status : KernelStatus) :
    Upkeep event connection (setStatus status connection) :=
  (setStatus_statusChange status connection).upkeep

theorem upkeep_applyStatus (message : Message) :
    Upkeep event connection (applyStatus message connection) := by
  obtain ⟨status, changed⟩ := applyStatus_statusChange message connection
  exact changed.upkeep

theorem upkeep_dispose : Upkeep event connection (dispose connection) := by
  cases disposed : connection.isDisposed with
  | true =>
      rw [dispose_again disposed]
      exact .kept (.refl connection)
  | false =>
      rw [dispose_first disposed]
      refine .cleared .disposal rfl (Nat.le_refl _) ?_
      simp [Clears]

theorem upkeep_shutDown : Upkeep event connection (shutDown connection) :=
  (upkeep_setStatus .dead).andThen upkeep_dispose

theorem upkeep_restartAnswered :
    Upkeep (.restartAnswered true) connection
      (Event.change (.restartAnswered true) connection) := by
  simp only [Event.change, restarted]
  split
  case h_1 change restarts =>
    split at restarts
    · cases restarts
    · cases restarts
      exact (upkeep_setStatus .restarting).andThen (.cleared .restart rfl (Nat.le_refl _) rfl)
  case h_2 => exact .kept (.refl connection)

theorem upkeep_retry : Upkeep event connection (retry connection) := by
  unfold retry
  split
  · refine Upkeep.andThen (.kept ⟨rfl, Nat.le_refl _, ?_⟩) (upkeep_setStatus .dead)
    simp [Effect.isClearing]
  · exact .kept ⟨rfl, Nat.le_refl _, by simp [Effect.isClearing]⟩

theorem upkeep_lose : Upkeep event connection (lose connection) := by
  unfold lose
  split
  · exact .kept (.silently rfl rfl)
  · refine Upkeep.andThen (.kept keepsRoutes_dropSocket) ?_
    refine Upkeep.andThen (.kept (keepsRoutes_setConnectionStatus .disconnected)) ?_
    exact upkeep_retry.startsFrom rfl rfl

theorem upkeep_loseUnopened : Upkeep event connection (loseUnopened connection) := by
  unfold loseUnopened
  split
  · exact upkeep_lose
  · exact .kept (.refl connection)

theorem upkeep_inputEnded : Upkeep event connection (inputEnded connection) := by
  unfold inputEnded
  split
  · exact Upkeep.andThen (.kept (.shows connection (by simp [Effect.isClearing]))) upkeep_lose
  · exact .kept (.refl connection)

/-- Whether an event concerns a single route: it opens a comm, or one is closed or dropped. -/
def Event.concernsRoute : Event → Bool
  | .createComm _ _ | .closeComm _ _ _ _ | .dropComm _ | .frameArrived _ _ => true
  | _ => false

/-- Every other event keeps the table or empties it. -/
theorem Event.upkeep (plain : event.concernsRoute = false) (connection : Connection) :
    Upkeep event connection (event.change connection) := by
  cases event with
  | makeMessage | receiverGone | outputBroken => exact .kept (.silently rfl rfl)
  | send message expectsReply => exact .kept (keepsRoutes_send message expectsReply)
  | sendRaw message => exact .kept (keepsRoutes_sendRaw message)
  | request now wanted => exact .kept ((keepsRoutes_send _ true).startsFrom rfl rfl)
  | sendInput now value parent => exact .kept ((keepsRoutes_sendRaw _).startsFrom rfl rfl)
  | registerTarget name => exact .kept (keepsRoutes_registerTarget name)
  | removeTarget name => exact .kept (keepsRoutes_removeTarget name)
  | sendComm now comm outgoing => exact .kept (keepsRoutes_sendComm now comm outgoing)
  | interrupt | restart => exact .kept (.refl connection)
  | restartAnswered succeeded =>
      cases succeeded with
      | false => exact .kept (.refl connection)
      | true => exact upkeep_restartAnswered
  | shutDown =>
      rcases change_shutDown connection with same | shut
      · rw [same]
        exact .kept (.refl connection)
      · rw [shut]
        exact upkeep_shutDown
  | shutDownAnswered succeeded =>
      cases succeeded with
      | false => exact .kept (.refl connection)
      | true => exact upkeep_shutDown
  | dispose => exact upkeep_dispose
  | beginConnecting => exact .kept keepsRoutes_beginConnecting
  | connected socket =>
      exact Upkeep.andThen (.kept (keepsRoutes_connected socket)) upkeep_loseUnopened
  | connectFailed error =>
      exact Upkeep.andThen (.kept (keepsRoutes_connectFailed error)) upkeep_loseUnopened
  | inputEnded => exact upkeep_inputEnded
  | stop => exact .kept keepsRoutes_stop
  | createComm | closeComm | dropComm | frameArrived => cases plain

def Effect.offered? : Effect → Option Comm
  | .offered _ comm _ => some comm
  | _ => none

/-- The comms that are handed to receivers of targets. -/
def offeredIn (effects : List Effect) : List Comm := effects.filterMap Effect.offered?

theorem offeredIn_inboundIn (effects : List Effect) :
    offeredIn (inboundIn effects) = offeredIn effects :=
  filterMap_inboundIn
    (fun effect outward => by cases effect <;> first | rfl | cases outward) effects

theorem offeredIn_commsIn (effects : List Effect) : offeredIn (commsIn effects) = offeredIn effects := by
  rw [offeredIn, commsIn, List.filterMap_filter]
  congr 1
  funext effect
  cases effect <;> rfl

theorem IsOutward.offeredIn_eq_nil {change : Change} (outward : IsOutward change) :
    offeredIn change.2 = [] := by
  rw [← offeredIn_inboundIn, outward]
  rfl

/-- The comms that the holder of the connection creates. -/
def Event.created (event : Event) (connection : Connection) : List Comm :=
  match event with
  | .createComm targetName commId =>
      (Connection.createComm targetName commId connection).1.toOption.toList
  | _ => []

/-- The comms that are opened from either side. -/
def Occurrence.opened (occurrence : Occurrence) : List Comm :=
  occurrence.event.created occurrence.before.connection ++ offeredIn occurrence.effects

/-- The comms that are opened in a history. -/
def openedIn (history : List Occurrence) : List Comm := history.flatMap Occurrence.opened

@[simp]
theorem openedIn_snoc (history : List Occurrence) (occurrence : Occurrence) :
    openedIn (history ++ [occurrence]) = openedIn history ++ occurrence.opened := by
  simp [openedIn]

theorem openedIn_subset {earlier history : List Occurrence} (included : earlier ⊆ history) :
    openedIn earlier ⊆ openedIn history := by
  intro comm opened
  obtain ⟨occurrence, happened, opens⟩ := List.mem_flatMap.mp opened
  exact List.mem_flatMap.mpr ⟨occurrence, included happened, opens⟩

/-- How what is registered under one identifier is taken away: its holder drops or closes a comm of
that name, or the kernel closes it. -/
inductive Occurrence.Withdraws (occurrence : Occurrence) (commId : String) : Prop where
  | drop {comm : Comm} (happened : occurrence.event = .dropComm comm)
      (unclosed : comm.isClosed = false) (named : comm.commId = commId)
  | close {now : Instant} {comm : Comm} {data : Json} {metadata : Option Json}
      (happened : occurrence.event = .closeComm now comm data metadata)
      (succeeded : (closeComm now comm data metadata occurrence.before.connection).1.isOk = true)
      (named : comm.commId = commId)
  | closeArrives {message : Message} (arrives : occurrence.dispatched? = some message)
      (closing : message.msgType = "comm_close") (named : message.commId? = some commId)

/-- What an event can do to the table, with the comms that are opened. -/
inductive Rerouting (occurrence : Occurrence) (before : Connection) (change : Change) :
    List Comm → Prop where
  | upkeep (upkeep : Upkeep occurrence.event before change) :
      Rerouting occurrence before change []
  | opened {comm : Comm} (concerns : occurrence.event.concernsRoute = true)
      (fresh : before.comms.lookup comm.commId = none) (key : comm.key = before.nextKey)
      (added : change.1.comms = before.comms ++ [comm.route])
      (ascends : comm.key < change.1.nextKey)
      (quiet : ∀ effect ∈ change.2, effect.isClearing = false) :
      Rerouting occurrence before change [comm]
  | withdrawn {commId : String} (withdraws : occurrence.Withdraws commId)
      (erased : change.1.comms = erase commId before.comms)
      (ascends : before.nextKey ≤ change.1.nextKey)
      (quiet : ∀ effect ∈ change.2, effect.isClearing = false) :
      Rerouting occurrence before change []

variable {occurrence : Occurrence} {before : Connection} {opened : List Comm} {change : Change}

namespace Rerouting

/-- What keeps the table can come before. -/
theorem andThen {next : Connection → Change} (keeps : KeepsRoutes before change)
    (numbered : change.1.nextKey = before.nextKey)
    (rest : Rerouting occurrence change.1 (next change.1) opened) :
    Rerouting occurrence before (change.andThen next) opened := by
  cases rest with
  | upkeep upkeep => exact .upkeep (Upkeep.andThen (.kept keeps) upkeep)
  | opened concerns fresh key added ascends quiet =>
      rw [keeps.same] at fresh added
      refine .opened concerns fresh (key.trans numbered) added ascends fun effect member => ?_
      exact (List.mem_append.mp member).elim (keeps.quiet effect) (quiet effect)
  | withdrawn withdraws erased ascends quiet =>
      rw [keeps.same] at erased
      refine .withdrawn withdraws erased (numbered ▸ ascends) fun effect member => ?_
      exact (List.mem_append.mp member).elim (keeps.quiet effect) (quiet effect)

theorem ascends (rerouting : Rerouting occurrence before change opened) :
    before.nextKey ≤ change.1.nextKey := by
  cases rerouting with
  | upkeep upkeep => exact upkeep.ascends
  | opened concerns fresh key added ascends quiet => exact Nat.le_of_lt (key ▸ ascends)
  | withdrawn withdraws erased ascends quiet => exact ascends

/-- A comm that is opened has the next number, and there is at most one. -/
theorem opened_numbered (rerouting : Rerouting occurrence before change opened) :
    (opened.map Comm.key).Nodup ∧
      ∀ comm ∈ opened, comm.key = before.nextKey ∧ comm.key < change.1.nextKey := by
  cases rerouting with
  | upkeep | withdrawn => simp
  | opened concerns fresh key added ascends quiet =>
      refine ⟨by simp, fun comm member => ?_⟩
      cases List.mem_singleton.mp member
      exact ⟨key, ascends⟩

/-- A route that is there afterwards was there before, or belongs to a comm that was opened. -/
theorem origin (rerouting : Rerouting occurrence before change opened) {entry : String × Nat}
    (registered : entry ∈ change.1.comms) :
    entry ∈ before.comms ∨ ∃ comm ∈ opened, comm.route = entry := by
  cases rerouting with
  | upkeep upkeep =>
      cases upkeep with
      | kept keeps => exact .inl (keeps.same ▸ registered)
      | cleared cause empty =>
          rw [empty] at registered
          cases registered
  | @opened comm concerns fresh key added ascends quiet =>
      rw [added] at registered
      rcases List.mem_append.mp registered with earlier | new
      · exact .inl earlier
      · exact .inr ⟨comm, List.mem_singleton_self comm, (List.mem_singleton.mp new).symm⟩
  | withdrawn withdraws erased ascends quiet =>
      rw [erased] at registered
      exact .inl (mem_erase.mp registered).1

theorem opened_registered (rerouting : Rerouting occurrence before change opened) {comm : Comm}
    (opens : comm ∈ opened) : comm.route ∈ change.1.comms := by
  cases rerouting with
  | upkeep | withdrawn => cases opens
  | opened concerns fresh key added ascends quiet =>
      cases List.mem_singleton.mp opens
      rw [added]
      exact List.mem_append_right _ (List.mem_singleton_self _)

/-- A route that is gone does not come back. -/
theorem stays_gone (rerouting : Rerouting occurrence before change opened) {entry : String × Nat}
    (numbered : entry.2 < before.nextKey) (gone : entry ∉ before.comms) :
    entry ∉ change.1.comms := by
  intro registered
  rcases rerouting.origin registered with earlier | ⟨comm, opens, rfl⟩
  · exact gone earlier
  · exact Nat.ne_of_lt numbered (rerouting.opened_numbered.2 comm opens).1

/-- Identifiers stay distinct. -/
theorem names (rerouting : Rerouting occurrence before change opened)
    (distinct : (before.comms.map Prod.fst).Nodup) : (change.1.comms.map Prod.fst).Nodup := by
  cases rerouting with
  | upkeep upkeep =>
      cases upkeep with
      | kept keeps => exact keeps.same ▸ distinct
      | cleared cause empty => simp [empty]
  | opened concerns fresh key added ascends quiet =>
      rw [added, List.map_append]
      refine List.nodup_append.mpr ⟨distinct, by simp, fun name member last isLast same => ?_⟩
      obtain ⟨entry, registered, rfl⟩ := List.mem_map.mp member
      cases List.mem_singleton.mp isLast
      exact bne_iff_ne.mp (List.lookup_eq_none_iff.mp fresh entry registered) same.symm
  | withdrawn withdraws erased ascends quiet =>
      rw [erased]
      exact erase_nodup distinct _

end Rerouting

theorem rerouting_createComm {targetName commId : String}
    (happened : occurrence.event = .createComm targetName commId) :
    Rerouting occurrence before (createComm targetName commId before).2
      (createComm targetName commId before).1.toOption.toList := by
  unfold createComm
  split
  · exact .upkeep (.kept (.refl before))
  · split
    · exact .upkeep (.kept (.refl before))
    case isFalse unknown =>
      have fresh := lookup_eq_none_of_hasComm unknown
      exact .opened (by rw [happened]; rfl) fresh rfl (assign_of_lookup_none fresh _)
        (Nat.lt_succ_self _) (by simp [unchanged])

theorem rerouting_dropComm {comm : Comm} (happened : occurrence.event = .dropComm comm) :
    Rerouting occurrence before (dropComm comm before) [] := by
  unfold dropComm
  split
  · exact .upkeep (.kept (.refl before))
  case isFalse unclosed =>
    exact .withdrawn (.drop happened (by simpa using unclosed) rfl) rfl (Nat.le_refl _)
      isClearing_of_mem_releases

theorem rerouting_closeComm {now : Instant} {comm : Comm} {data : Json} {metadata : Option Json}
    (happened : occurrence.event = .closeComm now comm data metadata) :
    Rerouting occurrence occurrence.before.connection
      (closeComm now comm data metadata occurrence.before.connection).2 [] := by
  have keeps : KeepsRoutes occurrence.before.connection _ :=
    keepsRoutes_sendComm now comm (.closing comm data metadata)
  cases sent : sendComm now comm (.closing comm data metadata) occurrence.before.connection with
  | mk result change =>
      rw [sent] at keeps
      cases result with
      | error error =>
          have refused : (closeComm now comm data metadata occurrence.before.connection).2 =
              change := by simp only [closeComm, sent]
          rw [refused]
          exact .upkeep (.kept keeps)
      | ok made =>
          have closed : closeComm now comm data metadata occurrence.before.connection =
              (.ok ({ comm with isClosed := true }, made),
                change.andThen (unregisterComm comm.commId)) := by simp only [closeComm, sent]
          have withdraws : occurrence.Withdraws comm.commId :=
            .close happened (by rw [closed]; rfl) rfl
          rw [closed]
          refine .withdrawn withdraws ?_ keeps.ascends fun effect member => ?_
          · exact congrArg (erase comm.commId) keeps.same
          · exact (List.mem_append.mp member).elim (keeps.quiet effect)
              (isClearing_of_mem_releases effect)

/-- A message of a comm reports no status. -/
theorem applyStatus_of_isComm {message : Message} (comm : message.isComm = true)
    (connection : Connection) : applyStatus message connection = unchanged connection := by
  have noStatus : message.executionState? = none := by
    refine if_neg fun status => ?_
    rw [Message.isComm, status] at comm
    cases comm
  rw [applyStatus, noStatus]
  split <;> rfl

theorem keepsRoutes_log (connection : Connection) (line : LogLine) :
    KeepsRoutes connection (connection, [.log line]) :=
  .shows connection (by simp [Effect.isClearing])

theorem keepsRoutes_rejectComm (now : Instant) (commId : String) (opening : Message) :
    KeepsRoutes connection (rejectComm now commId opening connection) :=
  (keepsRoutes_sendRaw _).startsFrom rfl rfl

/-- A comm that was registered and is let go of at once leaves the table as it was. -/
theorem keepsRoutes_unregister_registered {commId : String}
    (fresh : connection.comms.lookup commId = none) (targetName : String) :
    KeepsRoutes connection
      (unregisterComm commId (registerComm commId targetName connection).2) where
  same := erase_assign_of_lookup_none fresh connection.nextKey
  ascends := Nat.le_succ _
  quiet := isClearing_of_mem_releases

theorem Rerouting.ofOutward (keeps : KeepsRoutes before change) (outward : IsOutward change) :
    Rerouting occurrence before change (offeredIn change.2) := by
  rw [outward.offeredIn_eq_nil]
  exact .upkeep (.kept keeps)

/-- A comm that the kernel opens is registered if its target has a receiver, and refused
otherwise. -/
theorem rerouting_acceptComm (concerns : occurrence.event.concernsRoute = true) (now : Instant)
    (commId : String) (opening : Message) :
    Rerouting occurrence before (acceptComm now commId opening before)
      (offeredIn (acceptComm now commId opening before).2) := by
  unfold acceptComm
  split
  · exact .ofOutward (keepsRoutes_log before _) rfl
  case isFalse unknown =>
    have fresh := lookup_eq_none_of_hasComm unknown
    split
    case h_1 =>
      refine .ofOutward ((keepsRoutes_log before _).andThen (keepsRoutes_rejectComm ..)) ?_
      refine IsOutward.andThen ?_ (isOutward_rejectComm ..)
      rfl
    case h_2 target known =>
      dsimp only
      split
      · exact .opened concerns fresh rfl (assign_of_lookup_none fresh _) (Nat.lt_succ_self _)
          (by simp [Effect.isClearing])
      · refine .ofOutward ?_ ?_
        · refine (keepsRoutes_unregister_registered fresh (targetOf opening)).andThen ?_
          refine (keepsRoutes_log _ _).andThen ?_
          exact (keepsRoutes_removeTarget _).andThen (keepsRoutes_rejectComm ..)
        · refine (isOutward_unregisterComm commId _).andThen (IsOutward.andThen ?_ ?_)
          · rfl
          · exact (isOutward_removeTarget _ _).andThen (isOutward_rejectComm ..)

/-- A message that closes a comm takes away what is registered under its identifier, if anything
is. -/
theorem comms_routeComm_of_close {message : Message} {commId : String}
    (closing : message.msgType = "comm_close") (named : message.commId? = some commId)
    (now : Instant) (connection : Connection) :
    (routeComm now message connection).1.comms = erase commId connection.comms ∧
      (routeComm now message connection).1.nextKey = connection.nextKey := by
  simp only [routeComm, named, closing, String.reduceEq, if_false]
  split
  case h_1 => exact ⟨rfl, rfl⟩
  case h_2 unknown => exact ⟨(erase_of_lookup_none unknown).symm, rfl⟩

theorem rerouting_routeComm {message : Message} (arrives : occurrence.dispatched? = some message)
    (concerns : occurrence.event.concernsRoute = true) (now : Instant) :
    Rerouting occurrence before (routeComm now message before)
      (offeredIn (routeComm now message before).2) := by
  cases named : message.commId? with
  | none =>
      have same : routeComm now message before = unchanged before := by
        simp only [routeComm, named]
      rw [same]
      exact .upkeep (.kept (.refl before))
  | some commId =>
      by_cases closing : message.msgType = "comm_close"
      · obtain ⟨erased, numbered⟩ := comms_routeComm_of_close closing named now before
        have shown : offeredIn (routeComm now message before).2 = [] ∧
            ∀ effect ∈ (routeComm now message before).2, effect.isClearing = false := by
          simp only [routeComm, named, closing, String.reduceEq, if_false]
          split <;> exact ⟨rfl, by simp [unchanged, Effect.isClearing]⟩
        rw [shown.1]
        exact .withdrawn (.closeArrives arrives closing named) erased (Nat.le_of_eq numbered.symm)
          shown.2
      · unfold routeComm
        rw [named]
        dsimp only
        split
        · exact rerouting_acceptComm concerns now commId message
        case isFalse notOpening =>
          have sending : message.msgType = "comm_msg" := by
            by_contra other
            simp [Message.commId?, Message.isComm, Message.isCommType, notOpening, other,
              closing] at named
          rw [if_pos sending]
          split
          · exact .upkeep (.kept (.shows before (by simp [Effect.isClearing])))
          · exact .upkeep (.kept (.refl before))

theorem nextKey_deliver (message : Message) (connection : Connection) :
    (deliver message connection).1.nextKey = connection.nextKey := by
  unfold deliver
  split
  · rename_i msgId waiting answers
    have answered := answer_answering msgId waiting message connection
    generalize answer msgId waiting message connection = change at answered ⊢
    cases answered <;> rfl
  · rfl

/-- When a message of a comm reaches the comms, their table is as it was when it arrived. -/
theorem delivered_comms {message : Message} (comm : message.isComm = true)
    (connection : Connection) : (delivered message connection).comms = connection.comms := by
  rw [delivered, current, applyStatus_of_isComm comm]
  exact (keepsRoutes_deliver message).same

theorem Occurrence.comms_of_close {message : Message} {commId : String}
    (arrives : occurrence.dispatched? = some message) (closing : message.msgType = "comm_close")
    (named : message.commId? = some commId) :
    occurrence.after.connection.comms = erase commId occurrence.before.connection.comms := by
  obtain ⟨now, frame, -, dispatched⟩ := Occurrence.dispatched arrives
  have comm : message.isComm = true := by rw [Message.isComm, closing]; rfl
  have routed : occurrence.after.connection = _ := (dispatched.comm comm).1
  rw [routed, (comms_routeComm_of_close closing named now _).1, delivered_comms comm]

theorem rerouting_dispatch {message : Message} (arrives : occurrence.dispatched? = some message)
    (concerns : occurrence.event.concernsRoute = true) (alive : before.isDisposed = false)
    (now : Instant) :
    Rerouting occurrence before (dispatch now message before)
      (offeredIn (dispatch now message before).2) := by
  have dispatched := dispatch_dispatched alive now message
  have announced : KeepsRoutes before (before, [.received message]) :=
    .shows before (by simp [Effect.isClearing])
  cases comm : message.isComm with
  | true =>
      have offered := congrArg offeredIn (dispatched.comm comm).2
      rw [offeredIn_commsIn, offeredIn_commsIn] at offered
      rw [offered, dispatch, if_neg (by simp [alive])]
      refine .andThen announced rfl ?_
      rw [applyStatus_of_isComm comm]
      refine .andThen (.refl before) rfl (.andThen (keepsRoutes_deliver message) ?_ ?_)
      · exact nextKey_deliver message before
      · have route : Rerouting occurrence (delivered message before) _ _ :=
          rerouting_routeComm arrives concerns now
        rw [pass, if_pos comm]
        rwa [delivered, current, applyStatus_of_isComm comm] at route ⊢
  | false =>
      have offered := congrArg offeredIn (dispatched.other comm).2
      rw [offeredIn_commsIn] at offered
      have passed (isClaimed : Bool) (current : Connection) :
          KeepsRoutes current (pass now message isClaimed current) := by
        rw [pass, if_neg (by simp [comm])]
        split
        · exact .refl current
        · exact .shows current (by simp [Effect.isClearing])
      rw [offered, dispatch, if_neg (by simp [alive])]
      refine .upkeep (Upkeep.andThen (.kept announced) ?_)
      refine (upkeep_applyStatus message).andThen (.kept ?_)
      exact (keepsRoutes_deliver message).andThen (passed _ _)

theorem rerouting_frameArrived {now : Instant} {frame : Frame}
    (happened : occurrence.event = .frameArrived now frame) :
    Rerouting occurrence occurrence.before.connection
      (frameArrived now frame occurrence.before.connection)
      (offeredIn (frameArrived now frame occurrence.before.connection).2) := by
  unfold frameArrived
  split
  case h_1 socket protocol reading =>
    unfold receive
    split
    case h_1 message decoded =>
      cases disposed : occurrence.before.connection.isDisposed with
      | true =>
          rw [dispatch, if_pos disposed]
          exact .upkeep (.kept (.refl _))
      | false =>
          have arrives := Occurrence.dispatched?_of_decode disposed happened reading decoded
          exact rerouting_dispatch arrives (by rw [happened]; rfl) disposed now
    case h_2 => exact .ofOutward (keepsRoutes_log _ _) rfl
  case h_2 => exact .upkeep (.kept (.refl _))

theorem Occurrence.opened_of_silent {occurrence : Occurrence}
    (other : ∀ now frame, occurrence.event ≠ .frameArrived now frame) :
    occurrence.opened = occurrence.event.created occurrence.before.connection := by
  have outward := occurrence.event.isOutward_change occurrence.before.connection other
  rw [opened, effects, outward.offeredIn_eq_nil, List.append_nil]

/-- What every event does to the table. -/
theorem Occurrence.rerouting (occurrence : Occurrence) :
    Rerouting occurrence occurrence.before.connection
      (occurrence.after.connection, occurrence.effects) occurrence.opened := by
  change Rerouting occurrence occurrence.before.connection
    (occurrence.event.change occurrence.before.connection) occurrence.opened
  cases happened : occurrence.event with
  | frameArrived now frame =>
      have opened : occurrence.opened =
          offeredIn (frameArrived now frame occurrence.before.connection).2 := by
        simp only [Occurrence.opened, effects, happened, Event.created, Event.change,
          List.nil_append]
      rw [opened]
      exact rerouting_frameArrived happened
  | createComm targetName commId =>
      rw [opened_of_silent (by simp [happened]), happened]
      exact rerouting_createComm happened
  | dropComm comm =>
      rw [opened_of_silent (by simp [happened]), happened]
      exact rerouting_dropComm happened
  | closeComm now comm data metadata =>
      rw [opened_of_silent (by simp [happened]), happened]
      exact rerouting_closeComm happened
  | _ =>
      rw [opened_of_silent (by simp [happened]), happened]
      refine .upkeep ?_
      rw [happened]
      exact Event.upkeep rfl _

/-- The table of a connection after a history. -/
structure Routed (history : List Occurrence) (connection : Connection) : Prop where
  names : (connection.comms.map Prod.fst).Nodup
  origin : ∀ entry ∈ connection.comms, ∃ comm ∈ openedIn history, comm.route = entry
  numbered : ∀ comm ∈ openedIn history, comm.key < connection.nextKey
  distinct : ((openedIn history).map Comm.key).Nodup

namespace Routed

variable {history : List Occurrence} {connection : Connection}

theorem start (empty : connection.comms = []) : Routed [] connection where
  names := by simp [empty]
  origin := by simp [empty]
  numbered := by simp [openedIn]
  distinct := by simp [openedIn]

theorem next (routed : Routed history occurrence.before.connection) :
    Routed (history ++ [occurrence]) occurrence.after.connection := by
  have rerouting := occurrence.rerouting
  obtain ⟨once, numbered⟩ := rerouting.opened_numbered
  refine ⟨rerouting.names routed.names, fun entry registered => ?_, fun comm opens => ?_, ?_⟩
  · rw [openedIn_snoc]
    rcases rerouting.origin registered with earlier | ⟨comm, opens, same⟩
    · obtain ⟨comm, opened, same⟩ := routed.origin entry earlier
      exact ⟨comm, List.mem_append_left _ opened, same⟩
    · exact ⟨comm, List.mem_append_right _ opens, same⟩
  · rw [openedIn_snoc] at opens
    rcases List.mem_append.mp opens with earlier | now
    · exact Nat.lt_of_lt_of_le (routed.numbered comm earlier) rerouting.ascends
    · exact (numbered comm now).2
  · rw [openedIn_snoc, List.map_append]
    refine List.nodup_append.mpr ⟨routed.distinct, once, fun key early other now same => ?_⟩
    obtain ⟨comm, opened, rfl⟩ := List.mem_map.mp early
    obtain ⟨newer, opens, rfl⟩ := List.mem_map.mp now
    have below := routed.numbered comm opened
    have atNext := (numbered newer opens).1
    omega

theorem key_lt (routed : Routed history connection) {entry : String × Nat}
    (registered : entry ∈ connection.comms) : entry.2 < connection.nextKey := by
  obtain ⟨comm, opened, rfl⟩ := routed.origin entry registered
  exact routed.numbered comm opened

end Routed

variable {start situation : Situation} {history : List Occurrence}

/-- In a run that starts without comms every route belongs to a comm that was opened. -/
theorem Run.routed (run : Run start history situation) (empty : start.connection.comms = []) :
    Routed history situation.connection := by
  induction run with
  | start => exact .start empty
  | @next history before run event possible earlier =>
      have after : Routed (history ++ [⟨before, event⟩]) _ := earlier.next
      exact after

end Connection

end KernelClient
