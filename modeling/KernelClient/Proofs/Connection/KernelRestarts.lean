import KernelClient.Proofs.Connection.Reception
import KernelClient.Proofs.Connection.Statuses

/-!
# Restarts that the kernel announces

A kernel that was restarted by the server, or that died, says so on the output channel. Its status
is applied before the message goes anywhere else, and clears the connection if it is new. A status
that the kernel has already is not applied a second time: the message changes nothing, and what was
sent since the status was told goes on waiting.
-/

namespace KernelClient.Connection

variable {connection : Connection} {message : Message} {status : KernelStatus} {cause : Clearing}

/-- A connection whose requests are all incomplete. -/
def AwaitsAll (connection : Connection) : Prop :=
  ∀ entry ∈ connection.pending, entry.2.isComplete = false

theorem AwaitsAll.ofSublist {before after : Connection} (awaits : AwaitsAll before)
    (fewer : after.pending.Sublist before.pending) : AwaitsAll after :=
  fun entry member => awaits entry (fewer.subset member)

theorem Answering.awaitsAll {msgId : String} {waiting : PendingReply} {before : Connection}
    {change : Change} (answered : Answering msgId waiting message before change)
    (waits : before.pending.lookup msgId = some waiting) (awaits : AwaitsAll before) :
    AwaitsAll change.1 := by
  cases answered with
  | completed => exact awaits.ofSublist List.filter_sublist
  | noted incomplete =>
      obtain ⟨earlier, later, parts, assigned⟩ :=
        assign_of_lookup_some waits (waiting.note message)
      intro entry member
      rw [assigned] at member
      unfold AwaitsAll at awaits
      rw [parts] at awaits
      rcases List.mem_append.mp member with early | late
      · exact awaits entry (List.mem_append_left _ early)
      · rcases List.mem_cons.mp late with rfl | later
        · exact incomplete
        · exact awaits entry (List.mem_append_right _ (List.mem_cons_of_mem _ later))

/-- Every part of an event keeps only requests that are incomplete. -/
theorem Part.awaitsAll {occurrence : Occurrence} {before : Connection} {change : Change}
    {requests : List RequestLabel} (part : Part occurrence before change requests)
    (awaits : AwaitsAll before) : AwaitsAll change.1 := by
  cases part with
  | aside kept => exact awaits.ofSublist (kept.pending ▸ .refl _)
  | @send message expectsReply _ call sending =>
      cases sending with
      | refused => exact awaits
      | kept accepts fresh transmitted =>
          intro entry member
          rw [keepRequest_pending fresh transmitted.kept.2.2.2.1] at member
          rcases List.mem_append.mp member with early | new
          · exact awaits entry early
          · cases List.mem_singleton.mp new
            rfl
  | sendRaw transmission => exact awaits.ofSublist (transmission.kept.2.2.2.1 ▸ .refl _)
  | setStatus sets changed => exact awaits.ofSublist changed.pending_sublist
  | dispose =>
      cases disposed : before.isDisposed with
      | true =>
          rw [dispose_again disposed]
          exact awaits
      | false =>
          rw [dispose_first disposed]
          exact awaits.ofSublist (List.nil_sublist _)
  | clear => exact awaits.ofSublist (List.nil_sublist _)
  | answer read asked held waits answered => exact answered.awaitsAll waits awaits
  | enter | dropSocket | flush | install | outputBroken => exact awaits

theorem Composed.awaitsAll {occurrence : Occurrence} {before : Connection} {change : Change}
    {requests : List RequestLabel} (composed : Composed occurrence before change requests)
    (awaits : AwaitsAll before) : AwaitsAll change.1 := by
  induction composed with
  | part part => exact part.awaitsAll awaits
  | append start rest first second => exact second (first awaits)

theorem Run.awaitsAll {start situation : Situation} {history : List Occurrence}
    (run : Run start history situation) (free : start.connection.socket = none)
    (awaits : AwaitsAll start.connection) : AwaitsAll situation.connection := by
  induction run with
  | start => exact awaits
  | @next history before run event possible earlier =>
      exact (Occurrence.composed ⟨before, event⟩ (run.sound (.ofFree free)) possible).awaitsAll
        earlier

/-- A message that tells a request nothing leaves it as it is. -/
theorem deliver_of_note (ignored : ∀ waiting : PendingReply, waiting.note message = waiting)
    (awaits : AwaitsAll connection) : (deliver message connection).1 = connection := by
  unfold deliver
  split
  case h_1 msgId waiting answers =>
    have waits := (answered?_eq_some answers).2
    have incomplete : (waiting.note message).isComplete = false := by
      rw [ignored]
      exact awaits _ (mem_of_lookup waits)
    obtain ⟨earlier, later, parts, assigned⟩ := assign_of_lookup_some waits waiting
    have same : assign msgId (waiting.note message) connection.pending = connection.pending := by
      rw [ignored, assigned, ← parts]
    simp [answer, incomplete, same]
  case h_2 => rfl

/-- Messages by which the kernel announces that all that was sent to it is lost. -/
inductive AnnouncesLoss (message : Message) : KernelStatus → Clearing → Prop where
  | restart (onOutput : message.channel = some .iopub)
      (reports : message.executionState? = some "restarting") :
      AnnouncesLoss message .autoRestarting .autoRestart
  | death (onOutput : message.channel = some .iopub)
      (reports : message.executionState? = some "dead") : AnnouncesLoss message .dead .death

namespace AnnouncesLoss

theorem clearing (announces : AnnouncesLoss message status cause) :
    status.clearing? = some cause := by
  cases announces <;> rfl

theorem applyStatus (announces : AnnouncesLoss message status cause) (connection : Connection) :
    applyStatus message connection = setStatus status connection := by
  cases announces with
  | restart onOutput reports | death onOutput reports =>
      rw [Connection.applyStatus, if_pos onOutput, reports]
      rfl

/-- An announcement is no message of a comm. -/
theorem isComm (announces : AnnouncesLoss message status cause) : message.isComm = false := by
  have isStatus : message.msgType = "status" := by
    cases announces with
    | restart onOutput reports | death onOutput reports =>
        unfold Message.executionState? at reports
        split at reports
        case isTrue isStatus => exact isStatus
        case isFalse => cases reports
  rw [Message.isComm, isStatus]
  decide

/-- An announcement is neither a reply nor the end of one. -/
theorem note (announces : AnnouncesLoss message status cause) (waiting : PendingReply) :
    waiting.note message = waiting := by
  cases announces with
  | restart onOutput reports | death onOutput reports =>
      simp [PendingReply.note, PendingReply.isReply, PendingReply.saysIdle, onOutput, reports]

/-- An announcement leaves a request as it is. -/
theorem deliver (announces : AnnouncesLoss message status cause) (awaits : AwaitsAll connection) :
    (deliver message connection).1 = connection :=
  deliver_of_note announces.note awaits

end AnnouncesLoss

/-- A status that clears a connection leaves nothing that waits. -/
theorem setStatus_of_clearing (clears : status.clearing? = some cause)
    (alive : connection.isDisposed = false) (changes : connection.status ≠ status) :
    setStatus status connection =
      ({ connection with status := status, queue := [], pending := [], comms := [] },
        (rejections cause.error connection.pending ++ releases connection.comms) ++
          [.status status]) := by
  unfold setStatus
  rw [if_neg (by simp [alive, changes])]
  cases status with
  | dead | autoRestarting =>
      cases clears
      rfl
  | _ => cases clears

/-- Whether an event rejects all requests that were waiting, so that none of them waits any more,
lets go of all comms that were registered, and empties the queue. -/
structure Occurrence.ClearsAll (occurrence : Occurrence) (cause : Clearing) : Prop where
  rejected : ∀ entry ∈ occurrence.before.connection.pending,
    .settled entry.2.key (.error cause.error) ∈ occurrence.effects
  settled : ∀ entry ∈ occurrence.before.connection.pending,
    entry ∉ occurrence.after.connection.pending
  released : ∀ entry ∈ occurrence.before.connection.comms,
    entry ∉ occurrence.after.connection.comms
  emptied : occurrence.after.connection.queue = []

variable {occurrence : Occurrence}

/-- An announcement that is news clears the connection. -/
theorem Occurrence.clearsAll_of_news (arrives : occurrence.dispatched? = some message)
    (announces : AnnouncesLoss message status cause)
    (news : occurrence.before.connection.status ≠ status) : occurrence.ClearsAll cause := by
  obtain ⟨alive, -⟩ := Occurrence.dispatched?_eq_some arrives
  obtain ⟨now, frame, -, change⟩ := Occurrence.change_of_dispatched arrives
  have set := setStatus_of_clearing announces.clearing alive news
  have emptied : current message occurrence.before.connection =
      { occurrence.before.connection with
        status := status, queue := [], pending := [], comms := [] } := by
    rw [current, announces.applyStatus, set]
  have awaits : AwaitsAll (current message occurrence.before.connection) := by
    rw [emptied]
    intro entry member
    cases member
  have left : occurrence.after.connection = current message occurrence.before.connection := by
    have after := dispatch_fst alive now message
    rw [announces.isComm, delivered, announces.deliver awaits] at after
    simpa [Occurrence.after, Situation.after, change] using after
  have shown : (applyStatus message occurrence.before.connection).2 ⊆ occurrence.effects := by
    intro effect member
    rw [Occurrence.effects, change, dispatch_eq alive]
    exact List.mem_cons_of_mem _ (List.mem_append_left _ member)
  rw [announces.applyStatus, set] at shown
  refine ⟨fun entry waits => shown ?_, ?_, ?_, ?_⟩
  · have rejected : .settled entry.2.key (.error cause.error) ∈
        rejections cause.error occurrence.before.connection.pending :=
      List.mem_map.mpr ⟨entry, waits, rfl⟩
    exact List.mem_append_left _ (List.mem_append_left _ rejected)
  · simp [left, emptied]
  · simp [left, emptied]
  · rw [left, emptied]

/-- An announcement of what is known already changes nothing. -/
theorem Occurrence.after_of_known (arrives : occurrence.dispatched? = some message)
    (announces : AnnouncesLoss message status cause)
    (awaits : AwaitsAll occurrence.before.connection)
    (known : occurrence.before.connection.status = status) :
    occurrence.after.connection = occurrence.before.connection := by
  obtain ⟨alive, -⟩ := Occurrence.dispatched?_eq_some arrives
  obtain ⟨now, frame, -, change⟩ := Occurrence.change_of_dispatched arrives
  have same : current message occurrence.before.connection = occurrence.before.connection := by
    have unset : setStatus status occurrence.before.connection =
        unchanged occurrence.before.connection := if_pos (.inr known)
    rw [current, announces.applyStatus, unset]
    rfl
  have after := dispatch_fst alive now message
  rw [announces.isComm, delivered, same, announces.deliver awaits] at after
  simpa [Occurrence.after, Situation.after, change] using after

/-- An announcement clears the connection exactly if it is news, or there is nothing to clear. -/
theorem Occurrence.clearsAll_iff (arrives : occurrence.dispatched? = some message)
    (announces : AnnouncesLoss message status cause)
    (awaits : AwaitsAll occurrence.before.connection) :
    occurrence.ClearsAll cause ↔ occurrence.before.connection.status ≠ status ∨
      occurrence.before.connection.pending = [] ∧ occurrence.before.connection.comms = [] ∧
        occurrence.before.connection.queue = [] := by
  constructor
  · intro clears
    by_cases known : occurrence.before.connection.status = status
    · have same := Occurrence.after_of_known arrives announces awaits known
      obtain ⟨-, settled, released, emptied⟩ := clears
      rw [same] at settled released emptied
      refine .inr ⟨?_, ?_, emptied⟩
      · exact List.eq_nil_iff_forall_not_mem.mpr fun entry waits => settled entry waits waits
      · exact List.eq_nil_iff_forall_not_mem.mpr fun entry held => released entry held held
    · exact .inl known
  · rintro (news | ⟨pending, comms, queue⟩)
    · exact Occurrence.clearsAll_of_news arrives announces news
    · by_cases known : occurrence.before.connection.status = status
      · have same := Occurrence.after_of_known arrives announces awaits known
        exact ⟨by simp [pending], by simp [pending], by simp [comms], by rw [same, queue]⟩
      · exact Occurrence.clearsAll_of_news arrives announces known

variable {history : List Occurrence} {situation : Situation}

/-- In every run of a new connection, when the kernel announces a restart or its death, then all
requests that were waiting are rejected, all comms are gone and the queue is empty exactly if the
last status that was told is another one, or if there is nothing to clear. Otherwise the announcement
changes nothing. -/
theorem Run.clears_at_loss_iff {model : KernelModel} {clientId : String}
    {options : ConnectionOptions} (run : Run (.initial model clientId options) history situation)
    {earlier later : List Occurrence} (parts : history = earlier ++ occurrence :: later)
    (arrives : occurrence.dispatched? = some message)
    (announces : AnnouncesLoss message status cause) :
    (occurrence.ClearsAll cause ↔
        (statusesIn (effectsOf earlier)).getLastD .unknown ≠ status ∨
          occurrence.before.connection.pending = [] ∧ occurrence.before.connection.comms = [] ∧
            occurrence.before.connection.queue = []) ∧
      ((statusesIn (effectsOf earlier)).getLastD .unknown = status →
        occurrence.after.connection = occurrence.before.connection) := by
  obtain ⟨middle, first, second⟩ := run.split earlier (occurrence :: later) parts
  obtain ⟨met, -, -⟩ := second.of_cons
  have told : occurrence.before.connection.status =
      (statusesIn (effectsOf earlier)).getLastD .unknown := by
    rw [met]
    exact first.passes_status.last_eq
  have awaits : AwaitsAll occurrence.before.connection := by
    rw [met]
    exact first.awaitsAll rfl (fun entry member => by cases member)
  rw [← told]
  exact ⟨Occurrence.clearsAll_iff arrives announces awaits,
    Occurrence.after_of_known arrives announces awaits⟩

/-- A message by which the kernel announces that the server restarted it. -/
def restartNotice : Message :=
  .create .iopub "status" "1" "kernel" "" (.ofFields [("execution_state", .string "restarting")])
    .epoch

theorem restartNotice_announces : AnnouncesLoss restartNotice .autoRestarting .autoRestart :=
  .restart rfl (by decide +kernel)

theorem restartNotice_decode :
    (Frame.text restartNotice.toJson.render).decode .legacy = .ok restartNotice := by
  have valid : Message.checkShape restartNotice.toJson = .ok () := by decide +kernel
  have reads : restartNotice.ReadsBack WireProtocol.legacy.valueDepth :=
    ⟨by decide +kernel, by simp [restartNotice, Message.create], rfl, rfl⟩
  exact Message.decode_legacy valid reads rfl

/-- The announcement in a situation. -/
def announcedIn (situation : Situation) : Occurrence :=
  ⟨situation, .frameArrived .epoch (.text restartNotice.toJson.render)⟩

theorem announcedIn_after (reading : situation.connection.phase = .reading 0 .legacy) :
    (announcedIn situation).after.connection =
      (dispatch .epoch restartNotice situation.connection).1 :=
  congrArg Prod.fst (frameArrived_of_decode reading restartNotice_decode)

theorem announcedIn_isPossible (reading : situation.connection.phase = .reading 0 .legacy) :
    (announcedIn situation).event.isPossible situation = true := by
  simp [announcedIn, Event.isPossible, reading, SocketPhase.isReading]

theorem announcedIn_dispatched (alive : situation.connection.isDisposed = false)
    (reading : situation.connection.phase = .reading 0 .legacy) :
    (announcedIn situation).dispatched? = some restartNotice :=
  Occurrence.dispatched?_of_decode alive rfl reading restartNotice_decode

/-- The situation after a request. -/
def asked : Situation :=
  Situation.usual.afterAll
    [.beginConnecting, .connected ⟨0, .legacy, none⟩, .request .epoch .kernelInfo]

theorem asked_reading : asked.connection.phase = .reading 0 .legacy := by decide +kernel

/-- The situation after a request, an announcement and another request. -/
def askedAgain : Situation := (announcedIn asked).after.after (.request .epoch .kernelInfo)

theorem askedAgain_connection : askedAgain.connection =
    (Event.change (.request .epoch .kernelInfo)
      (dispatch .epoch restartNotice asked.connection).1).1 := by
  have after : ∀ (event : Event) (before : Situation),
      (before.after event).connection = (event.change before.connection).1 := fun _ _ => rfl
  rw [askedAgain, after, announcedIn_after asked_reading]

/-- What was sent before the first announcement is lost. -/
theorem clears_at_loss_iff_first :
    asked.connection.pending.length = 1 ∧ (announcedIn asked).ClearsAll .autoRestart := by
  have before : Run .usual _ asked := run_of_allows _ (by decide +kernel)
  have possible := announcedIn_isPossible asked_reading
  have arrives := announcedIn_dispatched (by decide +kernel) asked_reading
  obtain ⟨clears, -⟩ := (before.next _ possible).clears_at_loss_iff rfl arrives
    restartNotice_announces
  exact ⟨by decide +kernel, clears.mpr (.inl (by decide +kernel))⟩

/-- What is sent after it goes on waiting when the restart is announced again. -/
theorem not_clears_at_second_loss :
    ¬∀ history situation, Run .usual history situation → ∀ occurrence ∈ history,
      ∀ message status cause, occurrence.dispatched? = some message →
        AnnouncesLoss message status cause → occurrence.ClearsAll cause := by
  intro claim
  have before : Run .usual _ asked := run_of_allows _ (by decide +kernel)
  have possible := announcedIn_isPossible asked_reading
  have between := (before.next _ possible).next (.request .epoch .kernelInfo) rfl
  have reading : askedAgain.connection.phase = .reading 0 .legacy := by
    rw [askedAgain_connection]
    decide +kernel
  have alive : askedAgain.connection.isDisposed = false := by
    rw [askedAgain_connection]
    decide +kernel
  have again := announcedIn_isPossible reading
  have arrives := announcedIn_dispatched alive reading
  have clears : (announcedIn askedAgain).ClearsAll .autoRestart :=
    claim _ _ (between.next _ again) _ (List.mem_append_right _ (List.mem_singleton_self _)) _ _ _
      arrives restartNotice_announces
  have known : askedAgain.connection.status = .autoRestarting := by
    rw [askedAgain_connection]
    decide +kernel
  have waiting : askedAgain.connection.pending.length = 1 := by
    rw [askedAgain_connection]
    decide +kernel
  have awaits : AwaitsAll askedAgain.connection :=
    between.awaitsAll rfl (fun entry member => by cases member)
  rcases (Occurrence.clearsAll_iff arrives restartNotice_announces awaits).mp clears with
    news | ⟨nothing, -⟩
  · exact news known
  · have nothing : askedAgain.connection.pending = [] := nothing
    rw [nothing] at waiting
    cases waiting

end KernelClient.Connection
