import KernelClient.Proofs.Connection.KernelRestarts
import KernelClient.Proofs.Connection.Routes
import KernelClient.Proofs.Message.Transcoding

/-!
# Comms that the kernel opens

A message that opens a comm tells a request nothing, so that it finds the connection as it was when
it arrived. What becomes of it depends on two tables. If its identifier is taken, it is left out. If
a receiver listens for its target, the comm is registered and offered to that receiver. Otherwise
the comm is refused, with a message of its own that is written to the socket or waits for one, and
what was registered for the target is taken away.
-/

namespace KernelClient.Connection

variable {connection : Connection} {opening : Message} {commId target : String}

/-- A message by which the kernel opens a comm for a target. -/
structure OpensComm (opening : Message) (commId target : String) : Prop where
  isOpening : opening.msgType = "comm_open"
  named : opening.commId? = some commId
  aimed : opening.content.stringField? "target_name" = some target

/-- A message that opens a comm and was read names the comm and the target. -/
theorem exists_opensComm {frame : Frame} {protocol : WireProtocol}
    (decoded : frame.decode protocol = .ok opening) (isOpening : opening.msgType = "comm_open") :
    ∃ commId target, OpensComm opening commId target := by
  obtain ⟨value, buffers, found⟩ := Frame.exists_ofJson_of_decode decoded
  have passed := (Message.ofJson_eq_ok_iff.mp found).1
  obtain ⟨-, -, facts⟩ := (Message.ofJson_of_checked value buffers).2 passed
  obtain ⟨-, -, named, aimed, -⟩ := facts opening found
  have isComm : opening.isComm = true := by
    rw [Message.isComm, isOpening]
    rfl
  obtain ⟨commId, named⟩ := Option.isSome_iff_exists.mp (named isComm)
  obtain ⟨target, aimed⟩ := Option.isSome_iff_exists.mp (aimed isOpening)
  exact ⟨commId, target, isOpening, named, aimed⟩

namespace OpensComm

theorem isComm (opens : OpensComm opening commId target) : opening.isComm = true := by
  rw [Message.isComm, opens.isOpening]
  rfl

theorem targetOf (opens : OpensComm opening commId target) : targetOf opening = target := by
  rw [Connection.targetOf, opens.aimed]
  rfl

/-- A message that opens a comm is neither a reply nor the end of one. -/
theorem note (opens : OpensComm opening commId target) (waiting : PendingReply) :
    waiting.note opening = waiting := by
  have noReply : PendingReply.isReply opening = false := by
    have ending : "comm_open".endsWith "_reply" = false := by decide +kernel
    rw [PendingReply.isReply, opens.isOpening, ending, Bool.and_false]
  have notIdle : PendingReply.saysIdle opening = false := by
    have noStatus : opening.executionState? = none := if_neg (by simp [opens.isOpening])
    simp [PendingReply.saysIdle, noStatus]
  simp [PendingReply.note, noReply, notIdle]

/-- A message that opens a comm reaches the comms of the connection as it was. -/
theorem delivered (opens : OpensComm opening commId target) (awaits : AwaitsAll connection) :
    delivered opening connection = connection := by
  rw [Connection.delivered, current, applyStatus_of_isComm opens.isComm]
  exact deliver_of_note opens.note awaits

end OpensComm

/-- How a message leaves a connection: the socket takes its frame, or it waits after all others. -/
inductive Leaves (message : Message) (before after : Connection) (effects : List Effect) :
    Prop where
  | written {socket : ActiveSocket} {frame : Frame} (present : before.socket = some socket)
      (encoded : message.encode socket.protocol = .ok frame)
      (handed : handedIn effects = [(socket.number, frame)]) (same : after.queue = before.queue)
  | queued (waits : after.queue = before.queue ++ [message]) (handed : handedIn effects = [])

/-- A message on a channel and without buffers has a frame under every protocol. -/
theorem encode_isOk {message : Message} {channel : Channel} (onChannel : message.channel = channel)
    (plain : message.buffers = []) (protocol : WireProtocol) :
    ∃ frame, message.encode protocol = .ok frame := by
  cases protocol with
  | legacy =>
      exact ⟨.text message.toJson.render, by simp [Message.encode, Frame.encodeLegacy, plain]⟩
  | v1 =>
      exact ⟨.binary (Frame.layoutSegmented (Frame.partsOf channel message)), by
        simp [Message.encode, Frame.encodeSegmented, onChannel]⟩

/-- A connection that accepts calls takes every message that has a frame, and shows nothing else of
it but that a socket broke. -/
structure Takes (message : Message) (before : Connection) (change : Change) : Prop where
  accepted : acceptedIn change.2 = [message]
  leaves : Leaves message before change.1 change.2
  outward : IsOutward change
  comms : change.1.comms = before.comms
  targets : change.1.targets = before.targets
  pending : change.1.pending = before.pending

theorem sendRaw_takes {message : Message} {channel : Channel}
    (accepts : connection.checkOpen = .ok ()) (onChannel : message.channel = channel)
    (plain : message.buffers = []) : Takes message connection (sendRaw message connection).2 := by
  have transmission := transmit_transmission message connection
  have encodes := encode_isOk onChannel plain
  rw [sendRaw, accepts]
  dsimp only
  cases sent : transmit message connection with
  | mk result change =>
      rw [sent] at transmission
      cases transmission with
      | refused error =>
          -- The only fault that a message can have here is that it has no frame.
          unfold transmit at sent
          split at sent
          case h_1 => cases sent
          case h_2 socket present =>
            obtain ⟨frame, encoded⟩ := encodes socket.protocol
            rw [encoded] at sent
            dsimp only at sent
            split at sent <;> cases sent
      | queued free => exact ⟨rfl, .queued rfl rfl, rfl, rfl, rfl, rfl⟩
      | written present encoded wrote =>
          exact ⟨rfl, .written present encoded rfl rfl, rfl, rfl, rfl, rfl⟩
      | broken present isFull => exact ⟨rfl, .queued rfl rfl, rfl, rfl, rfl, rfl⟩

/-- A message that closes a comm in answer to the message that opened it. -/
structure Declines (closing opening : Message) (commId : String) : Prop where
  msgType : closing.msgType = "comm_close"
  channel : closing.channel = some .shell
  named : closing.commId? = some commId
  parent : closing.parentHeader = some opening.header

theorem refusal_declines (now : Instant) (commId : String) (opening : Message)
    (connection : Connection) :
    Declines (refusal now commId opening connection).1 opening commId where
  msgType := rfl
  channel := rfl
  named := by
    have isComm : (refusal now commId opening connection).1.isComm = true := by
      change Message.isCommType "comm_close" = true
      rfl
    rw [Message.commId?, if_pos isComm]
    simp [refusal, newMessage, Message.create, Message.withParent, Json.ofFields, Json.stringField?,
      Json.field?, Json.Fields.ofList, Json.Fields.get?_insert, Json.asString?]
  parent := rfl

/-- A comm is refused with one message to the kernel, and nothing else is changed. -/
theorem rejectComm_takes (accepts : connection.checkOpen = .ok ()) (now : Instant) (commId : String)
    (opening : Message) :
    Takes (refusal now commId opening connection).1 connection
      (rejectComm now commId opening connection) := by
  have stillAccepts : (refusal now commId opening connection).2.checkOpen = .ok () := accepts
  have onChannel : (refusal now commId opening connection).1.channel = some .shell := rfl
  obtain ⟨accepted, leaves, outward, comms, targets, pending⟩ :=
    sendRaw_takes stillAccepts onChannel rfl
  refine ⟨accepted, ?_, outward, comms, targets, pending⟩
  cases leaves with
  | written present encoded handed same => exact .written present encoded handed same
  | queued waits handed => exact .queued waits handed

/-- Whether there is a receiver that listens for a target. -/
def listensAt (connection : Connection) (target : String) (receiver : Nat) : Prop :=
  connection.targets.lookup target = some ⟨receiver, true⟩

/-- A comm whose identifier is taken: nothing changes, and nothing is sent or offered. -/
structure LeftOut (before : Connection) (change : Change) : Prop where
  same : change.1 = before
  unsent : acceptedIn change.2 = [] ∧ handedIn change.2 = []
  unoffered : commsIn change.2 = []

/-- A comm that is registered and offered to a receiver, once. Nothing else changes, and nothing is
sent. -/
structure HandedOver (opening : Message) (commId target : String) (receiver : Nat)
    (before : Connection) (change : Change) : Prop where
  offered : commsIn change.2 =
    [.offered receiver ⟨before.nextKey, commId, target, false⟩ opening]
  registered : change.1 = { before with
    nextKey := before.nextKey + 1
    comms := before.comms ++ [(commId, before.nextKey)] }
  unsent : acceptedIn change.2 = [] ∧ handedIn change.2 = []

/-- A comm that is refused with one message, which is written or waits. It is offered to nobody and
not registered, nothing is registered for its target any more, and other comms, other targets and
requests stay as they are. -/
structure Refused (opening : Message) (commId target : String) (before : Connection)
    (change : Change) : Prop where
  declined : ∃ closing, Declines closing opening commId ∧ acceptedIn change.2 = [closing] ∧
    Leaves closing before change.1 change.2
  unoffered : commsIn change.2 = []
  unregistered : change.1.hasComm commId = false
  comms : change.1.comms = before.comms
  targets : change.1.targets = erase target before.targets
  pending : change.1.pending = before.pending

theorem Takes.refused {now : Instant} {before : Connection} {change : Change}
    (taken : Takes (refusal now commId opening before).1 before change)
    (unknown : before.comms.lookup commId = none)
    (untargeted : erase target before.targets = before.targets) :
    Refused opening commId target before change where
  declined := ⟨_, refusal_declines now commId opening before, taken.accepted, taken.leaves⟩
  unoffered := by
    rw [← commsIn_inboundIn, taken.outward]
    rfl
  unregistered := by rw [hasComm, taken.comms, unknown, Option.isSome_none]
  comms := taken.comms
  targets := taken.targets.trans untargeted.symm
  pending := taken.pending

/-- Effects that tell nothing of messages to the kernel, of comms or of receivers. -/
structure Unnoticed (effects : List Effect) : Prop where
  quiet : effects.all Effect.isQuiet
  silent : commsIn effects = []

namespace Unnoticed

variable {effects more : List Effect}

theorem append (first : Unnoticed effects) (second : Unnoticed more) :
    Unnoticed (effects ++ more) where
  quiet := by rw [List.all_append, first.quiet, second.quiet, Bool.and_self]
  silent := by
    rw [commsIn, List.filter_append]
    exact congrArg₂ (· ++ ·) first.silent second.silent

theorem acceptedIn_append (unnoticed : Unnoticed effects) (rest : List Effect) :
    acceptedIn (effects ++ rest) = acceptedIn rest := by
  rw [Connection.acceptedIn_append, acceptedIn_of_isQuiet unnoticed.quiet, List.nil_append]

theorem handedIn_append (unnoticed : Unnoticed effects) (rest : List Effect) :
    handedIn (effects ++ rest) = handedIn rest := by
  rw [Connection.handedIn_append, handedIn_of_isQuiet unnoticed.quiet, List.nil_append]

theorem commsIn_append (unnoticed : Unnoticed effects) (rest : List Effect) :
    commsIn (effects ++ rest) = commsIn rest := by
  rw [commsIn, List.filter_append]
  exact congrArg (· ++ commsIn rest) unnoticed.silent

end Unnoticed

theorem unnoticed_log (line : LogLine) : Unnoticed [.log line] :=
  ⟨rfl, rfl⟩

theorem unnoticed_releases (comms : List (String × Nat)) : Unnoticed (releases comms) := by
  refine ⟨all_isQuiet_of_isAside isAside_of_mem_releases, List.filter_eq_nil_iff.mpr ?_⟩
  intro effect member
  obtain ⟨entry, -, rfl⟩ := List.mem_map.mp member
  exact Bool.false_ne_true

theorem unnoticed_targetReleases (targets : List (String × CommTarget)) :
    Unnoticed (targetReleases targets) := by
  refine ⟨all_isQuiet_of_isAside isAside_of_mem_targetReleases, List.filter_eq_nil_iff.mpr ?_⟩
  intro effect member
  obtain ⟨entry, -, rfl⟩ := List.mem_map.mp member
  exact Bool.false_ne_true

theorem unnoticed_deliver (message : Message) (connection : Connection) :
    Unnoticed (deliver message connection).2 := by
  unfold deliver
  split
  case h_1 msgId waiting answers =>
    have answered := answer_answering msgId waiting message connection
    generalize answer msgId waiting message connection = change at answered ⊢
    cases answered <;> exact ⟨rfl, rfl⟩
  case h_2 => exact ⟨rfl, rfl⟩

/-- What is refused after a change that leaves socket, queue, comms and requests alone, and of the
targets takes away only the one that is asked for, is refused by both together. -/
theorem Refused.after {before middle : Connection} {change : Change} {effects : List Effect}
    (refused : Refused opening commId target middle change) (unnoticed : Unnoticed effects)
    (socket : middle.socket = before.socket) (queue : middle.queue = before.queue)
    (comms : middle.comms = before.comms) (pending : middle.pending = before.pending)
    (targets : erase target middle.targets = erase target before.targets) :
    Refused opening commId target before (change.1, effects ++ change.2) := by
  obtain ⟨closing, declines, accepted, leaves⟩ := refused.declined
  have handed := unnoticed.handedIn_append change.2
  refine ⟨⟨closing, declines, ?_, ?_⟩, ?_, refused.unregistered, refused.comms.trans comms,
    refused.targets.trans targets, refused.pending.trans pending⟩
  · exact (unnoticed.acceptedIn_append change.2).trans accepted
  · cases leaves with
    | written present encoded sent same =>
        exact .written (socket ▸ present) encoded (handed.trans sent) (same.trans queue)
    | queued waits sent => exact .queued (queue ▸ waits) (handed.trans sent)
  · exact (unnoticed.commsIn_append change.2).trans refused.unoffered

/-- What becomes of a comm that the kernel opens, by the tables of the connection. -/
structure Settles (opening : Message) (commId target : String) (before : Connection)
    (change : Change) : Prop where
  taken : before.hasComm commId = true → LeftOut before change
  heard : before.hasComm commId = false → ∀ receiver, before.listensAt target receiver →
    HandedOver opening commId target receiver before change
  unheard : before.hasComm commId = false → (∀ receiver, ¬before.listensAt target receiver) →
    Refused opening commId target before change

theorem Settles.after {before : Connection} {change : Change} {effects : List Effect}
    (settles : Settles opening commId target before change) (unnoticed : Unnoticed effects) :
    Settles opening commId target before (change.1, effects ++ change.2) where
  taken known := by
    obtain ⟨same, ⟨accepted, handed⟩, offered⟩ := settles.taken known
    exact ⟨same, ⟨(unnoticed.acceptedIn_append _).trans accepted,
      (unnoticed.handedIn_append _).trans handed⟩, (unnoticed.commsIn_append _).trans offered⟩
  heard unknown receiver listens := by
    obtain ⟨offered, registered, accepted, handed⟩ := settles.heard unknown receiver listens
    exact ⟨(unnoticed.commsIn_append _).trans offered, registered,
      (unnoticed.acceptedIn_append _).trans accepted, (unnoticed.handedIn_append _).trans handed⟩
  unheard unknown deaf := (settles.unheard unknown deaf).after unnoticed rfl rfl rfl rfl rfl

theorem erase_erase {α : Type} (name : String) (entries : List (String × α)) :
    erase name (erase name entries) = erase name entries := by
  simp [erase]

/-- A comm whose target has no entry, or one whose receiver is gone, is refused. -/
theorem acceptComm_refused (opens : OpensComm opening commId target)
    (accepts : connection.checkOpen = .ok ()) (unknown : connection.hasComm commId = false)
    (deaf : ∀ receiver, ¬connection.listensAt target receiver) (now : Instant) :
    Refused opening commId target connection (acceptComm now commId opening connection) := by
  have fresh : connection.comms.lookup commId = none :=
    lookup_eq_none_of_hasComm (by simp [unknown])
  rw [acceptComm, if_neg (by simp [unknown]), opens.targetOf]
  split
  case h_1 untargeted =>
    have taken := rejectComm_takes accepts now commId opening
    have refused := taken.refused fresh (erase_of_lookup_none untargeted)
    exact refused.after (unnoticed_log _) rfl rfl rfl rfl rfl
  case h_2 entry found =>
    have gone : entry.isOpen = false := by
      obtain ⟨receiver, isOpen⟩ := entry
      cases isOpen with
      | true => exact absurd found (deaf receiver)
      | false => rfl
    dsimp only
    rw [if_neg (by simp [gone])]
    -- The comm is registered and let go of, and then the target is taken away.
    let left : Connection := { connection with
      nextKey := connection.nextKey + 1
      comms := erase commId (assign commId connection.nextKey connection.comms)
      targets := erase target connection.targets }
    have same : left.comms = connection.comms :=
      erase_assign_of_lookup_none fresh connection.nextKey
    have free : left.comms.lookup commId = none := by rw [same, fresh]
    have stillAccepts : left.checkOpen = .ok () := accepts
    have taken := rejectComm_takes stillAccepts now commId opening
    have refused := taken.refused free (erase_erase target connection.targets)
    have told (comms : List (String × Nat)) (line : LogLine)
        (targets : List (String × CommTarget)) :
        Unnoticed (releases comms ++ ([.log line] ++ targetReleases targets)) :=
      (unnoticed_releases comms).append ((unnoticed_log line).append (unnoticed_targetReleases _))
    have after (comms : List (String × Nat)) (line : LogLine)
        (targets : List (String × CommTarget)) : Refused opening commId target connection
          ((rejectComm now commId opening left).1,
            (releases comms ++ ([.log line] ++ targetReleases targets)) ++
              (rejectComm now commId opening left).2) :=
      refused.after (told comms line targets) rfl rfl same rfl (erase_erase target _)
    simp only [List.append_assoc] at after
    exact after _ _ _

theorem acceptComm_settles (opens : OpensComm opening commId target)
    (accepts : connection.checkOpen = .ok ()) (now : Instant) :
    Settles opening commId target connection (acceptComm now commId opening connection) where
  taken known := by
    rw [acceptComm, if_pos known]
    exact ⟨rfl, ⟨rfl, rfl⟩, rfl⟩
  heard unknown receiver listens := by
    have fresh : connection.comms.lookup commId = none :=
      lookup_eq_none_of_hasComm (by simp [unknown])
    have registered : registerComm commId target connection =
        (⟨connection.nextKey, commId, target, false⟩, { connection with
          nextKey := connection.nextKey + 1
          comms := connection.comms ++ [(commId, connection.nextKey)] }) := by
      rw [registerComm, assign_of_lookup_none fresh]
    rw [acceptComm, if_neg (by simp [unknown]), opens.targetOf, listens]
    simp only [registered, if_true]
    exact ⟨rfl, rfl, rfl, rfl⟩
  unheard unknown deaf := acceptComm_refused opens accepts unknown deaf now

/-- A message that opens a comm does nothing but what becomes of the comm. -/
theorem dispatch_settles (opens : OpensComm opening commId target)
    (alive : connection.isDisposed = false) (survives : connection.status ≠ .dead)
    (awaits : AwaitsAll connection) (now : Instant) :
    Settles opening commId target connection (dispatch now opening connection) := by
  have accepts : connection.checkOpen = .ok () := by simp [checkOpen, alive, survives]
  have routed (claimed : Bool) :
      pass now opening claimed connection = acceptComm now commId opening connection := by
    rw [pass, if_pos opens.isComm, routeComm, opens.named]
    exact if_pos opens.isOpening
  have noStatus : applyStatus opening connection = unchanged connection :=
    applyStatus_of_isComm opens.isComm connection
  have received : Unnoticed [.received opening] := ⟨rfl, rfl⟩
  have settles := (acceptComm_settles opens accepts now).after
    (received.append (unnoticed_deliver opening connection))
  have change : dispatch now opening connection =
      ((acceptComm now commId opening connection).1,
        ([.received opening] ++ (deliver opening connection).2) ++
          (acceptComm now commId opening connection).2) := by
    rw [dispatch_eq alive, opens.delivered awaits, current, noStatus]
    simp [unchanged, routed]
  rw [change]
  exact settles

/-- In every run, when the kernel opens a comm while the connection is neither disposed nor dead,
then the comm is left out if its identifier is taken, handed over once if a receiver listens for its
target, and refused once otherwise. -/
theorem Run.settles_opening {model : KernelModel} {clientId : String} {options : ConnectionOptions}
    {history : List Occurrence} {situation : Situation}
    (run : Run (.initial model clientId options) history situation) {occurrence : Occurrence}
    (happened : occurrence ∈ history) (arrives : occurrence.dispatched? = some opening)
    (isOpening : opening.msgType = "comm_open")
    (survives : occurrence.before.connection.status ≠ .dead) :
    ∃ commId target, OpensComm opening commId target ∧
      Settles opening commId target occurrence.before.connection
        (occurrence.after.connection, occurrence.effects) := by
  obtain ⟨alive, _, _, _, _, _, _, decoded⟩ := Occurrence.dispatched?_eq_some arrives
  obtain ⟨commId, target, opens⟩ := exists_opensComm decoded isOpening
  obtain ⟨earlier, later, parts⟩ := List.append_of_mem happened
  obtain ⟨middle, first, second⟩ := run.split earlier (occurrence :: later) parts
  obtain ⟨met, -, -⟩ := second.of_cons
  have awaits : AwaitsAll occurrence.before.connection := by
    rw [met]
    exact first.awaitsAll rfl (fun entry member => by cases member)
  obtain ⟨now, frame, -, change⟩ := Occurrence.change_of_dispatched arrives
  have settles := dispatch_settles opens alive survives awaits now
  rw [← change] at settles
  exact ⟨commId, target, opens, settles⟩

/-- A message by which the kernel opens the comm c for the target t. -/
def openingOfC : Message :=
  .create .iopub "comm_open" "1" "kernel" ""
    (.object [("comm_id", .string "c"), ("target_name", .string "t")]) .epoch

theorem openingOfC_decode :
    (Frame.text openingOfC.toJson.render).decode .legacy = .ok openingOfC := by
  have valid : Message.checkShape openingOfC.toJson = .ok () := by decide +kernel
  have reads : openingOfC.ReadsBack WireProtocol.legacy.valueDepth :=
    ⟨by decide +kernel, by simp [openingOfC, Message.create], rfl, rfl⟩
  exact Message.decode_legacy valid reads rfl

/-- The receiver of the target t goes away before the kernel opens a comm for it. -/
def deserting : List Event :=
  [.beginConnecting, .connected ⟨0, .legacy, none⟩, .registerTarget "t", .receiverGone 0,
    .frameArrived .epoch (.text openingOfC.toJson.render)]

theorem settles_opening_deserted :
    ∃ occurrence ∈ Situation.usual.occurrences deserting,
      occurrence.dispatched? = some openingOfC ∧ openingOfC.msgType = "comm_open" ∧
      occurrence.before.connection.status ≠ .dead ∧
      Refused openingOfC "c" "t" occurrence.before.connection
        (occurrence.after.connection, occurrence.effects) := by
  have run : Run .usual (Situation.usual.occurrences deserting) _ :=
    run_of_allows deserting (by decide +kernel)
  let deserted := Situation.usual.afterAll (deserting.take 4)
  let occurrence : Occurrence := ⟨deserted, .frameArrived .epoch (.text openingOfC.toJson.render)⟩
  have happened : occurrence ∈ Situation.usual.occurrences deserting := by
    exact List.mem_of_getElem? (i := 4) rfl
  have arrives : occurrence.dispatched? = some openingOfC :=
    Occurrence.dispatched?_of_decode (by decide +kernel) rfl
      (show deserted.connection.phase = .reading 0 .legacy by decide +kernel) openingOfC_decode
  have survives : occurrence.before.connection.status ≠ .dead := by decide +kernel
  obtain ⟨commId, target, opens, settles⟩ := run.settles_opening happened arrives rfl survives
  have named : commId = "c" := Option.some.inj (opens.named.symm.trans (by decide +kernel))
  have aimed : target = "t" := Option.some.inj (opens.aimed.symm.trans (by decide +kernel))
  subst named aimed
  refine ⟨occurrence, happened, arrives, rfl, survives, settles.unheard (by decide +kernel) ?_⟩
  intro receiver listens
  have gone : deserted.connection.targets.lookup "t" = some ⟨0, false⟩ := by decide +kernel
  cases gone.symm.trans listens

end KernelClient.Connection
