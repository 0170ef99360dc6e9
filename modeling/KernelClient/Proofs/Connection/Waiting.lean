import KernelClient.Proofs.Connection.Reception
import KernelClient.Proofs.Connection.Requests

/-!
# Requests that wait

The holder of a request is told of each message that is streamed to it and of its outcome. Whatever
happens, a request goes on waiting as it is or is rejected, unless a message arrives for it: this
holds for each part of an event, and so for events. A message that arrives is streamed to the
request under the identifier of its parent, which takes note of it or is complete then. Its own
status comes first, though, and may reject all requests.
-/

namespace KernelClient.Connection

/-- Whether an effect tells something to the holder of a request. -/
def Effect.concerns (key : Nat) : Effect → Bool
  | .streamed request _ | .settled request _ => request = key
  | _ => false

/-- All that the holder of a request is told, in order. -/
def story (key : Nat) (effects : List Effect) : List Effect := effects.filter (Effect.concerns key)

@[simp]
theorem story_append (key : Nat) (first second : List Effect) :
    story key (first ++ second) = story key first ++ story key second :=
  List.filter_append ..

/-- A request is told nothing where nothing is streamed to it and it is not settled. -/
theorem story_eq_nil {key : Nat} {effects : List Effect}
    (streams : ∀ message, (key, message) ∉ streamedIn effects)
    (settles : ∀ outcome, (key, outcome) ∉ settledIn effects) : story key effects = [] := by
  refine List.filter_eq_nil_iff.mpr fun effect member concerned => ?_
  cases effect with
  | streamed request message =>
      cases of_decide_eq_true concerned
      exact streams message (mem_streamedIn.mpr member)
  | settled request outcome =>
      cases of_decide_eq_true concerned
      exact settles outcome (mem_settledIn.mpr member)
  | _ => cases concerned

/-- A request is settled where its story ends with its outcome. -/
theorem settled_of_story {key : Nat} {effects earlier : List Effect} {outcome : Outcome}
    (told : story key effects = earlier ++ [.settled key outcome]) :
    (key, outcome) ∈ settledIn effects := by
  have member : .settled key outcome ∈ story key effects := by
    rw [told]
    exact List.mem_append_right _ (List.mem_singleton_self _)
  exact mem_settledIn.mpr (List.mem_filter.mp member).1

/-- A request goes on waiting as it is and is not settled, or it is rejected. -/
def KeepsOrRejects (entry : String × PendingReply) (change : Change) : Prop :=
  (entry ∈ change.1.pending ∧ ∀ outcome, (entry.2.key, outcome) ∉ settledIn change.2) ∨
    ∃ error, (entry.2.key, .error error) ∈ settledIn change.2

variable {occurrence : Occurrence} {before connection : Connection} {change : Change}
  {requests : List RequestLabel} {entry : String × PendingReply}

theorem KeepsOrRejects.keep (held : entry ∈ change.1.pending) (silent : settledIn change.2 = []) :
    KeepsOrRejects entry change :=
  .inl ⟨held, by simp [silent]⟩

theorem KeepsOrRejects.reject (error : ServiceError) (held : entry ∈ before.pending)
    (rejected : rejections error before.pending ⊆ change.2) : KeepsOrRejects entry change :=
  .inr ⟨error, mem_settledIn.mpr (rejected (List.mem_map_of_mem held))⟩

theorem StatusChange.keepsOrRejects {status : KernelStatus}
    (changed : StatusChange before status change) (held : entry ∈ before.pending) :
    KeepsOrRejects entry change := by
  cases changed with
  | same | plain => exact .keep held rfl
  | died =>
      refine .reject .kernelDead held fun effect member => ?_
      simp [member]
  | autoRestarted =>
      refine .reject .disposed held fun effect member => ?_
      simp [member]

theorem dispose_keepsOrRejects (held : entry ∈ before.pending) :
    KeepsOrRejects entry (dispose before) := by
  cases disposed : before.isDisposed with
  | true =>
      rw [dispose_again disposed]
      exact .keep held rfl
  | false =>
      rw [dispose_first disposed]
      refine .reject .disposed held fun effect member => ?_
      simp [member]

/-- A part that no message brings about leaves a request waiting as it is, or rejects it. -/
theorem Part.keepsOrRejects (part : Part occurrence before change requests)
    (unread : occurrence.message? = none) (held : entry ∈ before.pending) :
    KeepsOrRejects entry change := by
  cases part with
  | aside kept plain => exact .keep (kept.pending ▸ held) (settledIn_of_isAside plain)
  | send sending =>
      cases sending with
      | refused error => exact .keep held rfl
      | kept accepts fresh transmitted =>
          obtain ⟨-, -, -, pending, -⟩ := transmitted.kept
          refine .keep ?_ transmitted.settledIn_eq_nil
          rw [keepRequest_pending fresh pending]
          exact List.mem_append_left _ held
  | sendRaw transmission =>
      obtain ⟨-, -, -, pending, -⟩ := transmission.kept
      exact .keep (pending ▸ held) transmission.settledIn_eq_nil
  | setStatus sets changed => exact changed.keepsOrRejects held
  | enter | install | outputBroken => exact .keep held rfl
  | dropSocket plain => exact .keep held (settledIn_of_isAside plain)
  | dispose => exact dispose_keepsOrRejects held
  | clear => exact .reject .disposed held (List.subset_append_left _ _)
  | answer read => cases unread.symm.trans read
  | flush => exact .keep held (settledIn_flush _ _)

theorem KeepsOrRejects.append {middle after : Connection} {first second : List Effect}
    (start : KeepsOrRejects entry (middle, first))
    (rest : entry ∈ middle.pending → KeepsOrRejects entry (after, second)) :
    KeepsOrRejects entry (after, first ++ second) := by
  rcases start with ⟨kept, silent⟩ | ⟨error, rejected⟩
  · rcases rest kept with ⟨still, silentToo⟩ | ⟨error, rejected⟩
    · refine .inl ⟨still, fun outcome member => ?_⟩
      rw [settledIn_append] at member
      rcases List.mem_append.mp member with early | late
      · exact silent outcome early
      · exact silentToo outcome late
    · exact .inr ⟨error, by simp [rejected]⟩
  · exact .inr ⟨error, by simp [rejected]⟩

theorem Composed.keepsOrRejects (composed : Composed occurrence before change requests)
    (unread : occurrence.message? = none) (held : entry ∈ before.pending) :
    KeepsOrRejects entry change := by
  induction composed with
  | part part => exact part.keepsOrRejects unread held
  | append start rest first second => exact (first held).append second

/-- What is composed of parts that an interrupt has settles no request. -/
theorem Composed.settledIn_of_interrupt (composed : Composed occurrence before change requests)
    (nothing : occurrence.event = .interrupt) : settledIn change.2 = [] := by
  induction composed with
  | part part =>
      cases part with
      | aside kept plain => exact settledIn_of_isAside plain
      | send sending =>
          cases sending with
          | refused error => rfl
          | kept accepts fresh transmitted => exact transmitted.settledIn_eq_nil
      | sendRaw transmission => exact transmission.settledIn_eq_nil
      | dropSocket plain => exact settledIn_of_isAside plain
      | flush => exact settledIn_flush _ _
      | enter | install | outputBroken => rfl
      | setStatus sets => cases nothing ▸ sets
      | dispose ends => cases nothing ▸ ends
      | clear answered => cases nothing.symm.trans answered
      | answer read =>
          rw [Occurrence.message?, nothing] at read
          cases read
  | append start rest first second => rw [settledIn_append, first, second, List.append_nil]

theorem applyStatus_keepsOrRejects (message : Message) (held : entry ∈ connection.pending) :
    KeepsOrRejects entry (applyStatus message connection) := by
  obtain ⟨status, changed⟩ := applyStatus_statusChange message connection
  exact changed.keepsOrRejects held

theorem applyStatus_tidy (message : Message) (tidy : Tidy connection) :
    Tidy (current message connection) := by
  obtain ⟨status, changed⟩ := applyStatus_statusChange message connection
  exact changed.tidy tidy

/-- Handing a message on to the comms is composed of parts that no event has to allow, so that an
interrupt has them too. -/
theorem composed_pass_interrupt (now : Instant) (message : Message) (isClaimed : Bool)
    (connection : Connection) :
    Composed ⟨default, .interrupt⟩ connection (pass now message isClaimed connection) [] :=
  composed_pass now message isClaimed

theorem streamedIn_pass (now : Instant) (message : Message) (isClaimed : Bool)
    (connection : Connection) : streamedIn (pass now message isClaimed connection).2 = [] := by
  rw [← streamedIn_inboundIn, inboundIn_pass]
  split
  · exact streamedIn_commsIn _
  · split <;> rfl

theorem story_pass (key : Nat) (now : Instant) (message : Message) (isClaimed : Bool)
    (connection : Connection) : story key (pass now message isClaimed connection).2 = [] := by
  have streams := streamedIn_pass now message isClaimed connection
  have passed := composed_pass_interrupt now message isClaimed connection
  have settles := passed.settledIn_of_interrupt rfl
  exact story_eq_nil (by simp [streams]) (by simp [settles])

/-- What a change does to a request that waits, when some messages arrive for it: it is rejected, or
it stays as it is without any, or it takes note of one and may be complete then. -/
inductive Attended (msgId : String) (waiting : PendingReply) (change : Change) :
    List Message → Prop where
  | rejected {answers : List Message} (error : ServiceError)
      (shown : (waiting.key, .error error) ∈ settledIn change.2) :
      Attended msgId waiting change answers
  | kept (held : (msgId, waiting) ∈ change.1.pending) (told : story waiting.key change.2 = []) :
      Attended msgId waiting change []
  | noted {message : Message} (incomplete : (waiting.note message).isComplete = false)
      (held : (msgId, waiting.note message) ∈ change.1.pending)
      (told : story waiting.key change.2 = [.streamed waiting.key message]) :
      Attended msgId waiting change [message]
  | completed {message : Message} (complete : (waiting.note message).isComplete = true)
      (told : story waiting.key change.2 = [.streamed waiting.key message,
        .settled waiting.key (.ok (waiting.note message).reply)]) :
      Attended msgId waiting change [message]

variable {msgId : String} {waiting : PendingReply}

theorem Answering.shows {message : Message}
    (answering : Answering msgId waiting message before change)
    (waits : before.pending.lookup msgId = some waiting) :
    ((waiting.note message).isComplete = true ∧ change.2 = [.streamed waiting.key message,
        .settled waiting.key (.ok (waiting.note message).reply)]) ∨
      ((waiting.note message).isComplete = false ∧
        (msgId, waiting.note message) ∈ change.1.pending ∧
        change.2 = [.streamed waiting.key message]) := by
  cases answering with
  | completed complete => exact .inl ⟨complete, rfl⟩
  | noted incomplete => exact .inr ⟨incomplete, mem_assign waits _, rfl⟩

theorem deliver_of_lookup {message : Message} (asked : message.parentMsgId? = some msgId)
    (waits : connection.pending.lookup msgId = some waiting) :
    deliver message connection = answer msgId waiting message connection := by
  have found : answered? message connection = some (msgId, waiting) := by
    rw [answered?, asked, Option.bind_some, waits]
    rfl
  rw [deliver, found]

theorem story_applyStatus {key : Nat} {message : Message}
    (silent : ∀ outcome, (key, outcome) ∉ settledIn (applyStatus message connection).2) :
    story key (applyStatus message connection).2 = [] :=
  story_eq_nil (by simp [streamedIn_of_isOutward (isOutward_applyStatus message connection)]) silent

theorem KeepsOrRejects.attended (keeps : KeepsOrRejects (msgId, waiting) change)
    (unstreamed : ∀ message, (waiting.key, message) ∉ streamedIn change.2) :
    Attended msgId waiting change [] := by
  rcases keeps with ⟨held, unsettled⟩ | ⟨error, shown⟩
  · exact .kept held (story_eq_nil unstreamed unsettled)
  · exact .rejected error shown

/-- A message reaches the request that it answers, unless its own status rejects the request. -/
theorem dispatch_attended (alive : connection.isDisposed = false) (tidy : Tidy connection)
    (held : (msgId, waiting) ∈ connection.pending) {message : Message}
    (asked : message.parentMsgId? = some msgId) (now : Instant) :
    Attended msgId waiting (dispatch now message connection) [message] := by
  rw [dispatch_eq alive]
  dsimp only
  generalize (answered? message (current message connection)).isSome = isClaimed
  rcases applyStatus_keepsOrRejects message held with ⟨kept, silent⟩ | ⟨error, rejected⟩
  case inr => exact .rejected error (by simp [Effect.settled?, rejected])
  have waits : (current message connection).pending.lookup msgId = some waiting :=
    lookup_of_mem (applyStatus_tidy message tidy).names kept
  have answers := deliver_of_lookup asked waits
  have answering := answer_answering msgId waiting message (current message connection)
  rw [← answers] at answering
  have announced (rest : List Effect) :
      story waiting.key (.received message :: rest) = story waiting.key rest := rfl
  have status := story_applyStatus silent
  have passed := story_pass waiting.key now message isClaimed (delivered message connection)
  -- Of the four steps of a dispatch only the delivery tells the request anything.
  have told : story waiting.key (.received message :: ((applyStatus message connection).2 ++
      ((deliver message (current message connection)).2 ++
        (pass now message isClaimed (delivered message connection)).2))) =
      story waiting.key (deliver message (current message connection)).2 := by
    rw [announced, story_append, story_append, status, passed, List.nil_append, List.append_nil]
  rcases answering.shows waits with ⟨complete, shown⟩ | ⟨incomplete, stays, shown⟩
  · refine .completed complete (told.trans ?_)
    rw [shown]
    simp [story, Effect.concerns]
  · have goesOn := (composed_pass_interrupt now message isClaimed
      (delivered message connection)).keepsOrRejects rfl stays
    rcases goesOn with ⟨still, -⟩ | ⟨error, rejected⟩
    · refine .noted incomplete still (told.trans ?_)
      rw [shown]
      simp [story, Effect.concerns]
    · rw [PendingReply.note_key] at rejected
      exact .rejected error (by simp [Effect.settled?, rejected])

/-- An answer leaves all other requests as they are. -/
theorem Answering.keepsOrRejects {parent : String} {answered : PendingReply} {message : Message}
    (answering : Answering parent answered message before change)
    (waits : before.pending.lookup parent = some answered) (held : entry ∈ before.pending)
    (apart : entry.1 ≠ parent) (keys : entry.2.key ≠ answered.key) :
    KeepsOrRejects entry change := by
  cases answering with
  | completed complete =>
      refine .inl ⟨List.mem_filter.mpr ⟨held, bne_iff_ne.mpr apart⟩, fun outcome member => ?_⟩
      exact keys (congrArg Prod.fst (List.mem_singleton.mp member))
  | noted incomplete => exact .keep (mem_assign_of_ne waits held apart) rfl

/-- A message leaves a request that it does not answer as it is. -/
theorem deliver_keepsOrRejects {message : Message}
    (distinct : (connection.pending.map fun entry => entry.2.key).Nodup)
    (held : entry ∈ connection.pending) (other : message.parentMsgId? ≠ some entry.1) :
    KeepsOrRejects entry (deliver message connection) := by
  unfold deliver
  split
  case h_2 => exact .keep held rfl
  case h_1 parent answered found =>
    obtain ⟨asked, waits⟩ := answered?_eq_some found
    have apart : entry.1 ≠ parent := fun same => other (same ▸ asked)
    have keys := key_ne_of_ne distinct held (mem_of_lookup waits) apart
    exact (answer_answering ..).keepsOrRejects waits held apart keys

/-- A message leaves a request that it does not answer as it is, unless its own status rejects the
request. -/
theorem dispatch_other (alive : connection.isDisposed = false)
    (distinct : (connection.pending.map fun entry => entry.2.key).Nodup)
    (held : (msgId, waiting) ∈ connection.pending) {message : Message}
    (other : message.parentMsgId? ≠ some msgId) (now : Instant) :
    Attended msgId waiting (dispatch now message connection) [] := by
  have remaining := applyStatus_pending message connection
  have distinctNow := distinct.sublist (remaining.map _)
  refine KeepsOrRejects.attended ?_ fun streamed member => ?_
  · rw [dispatch_eq alive]
    have announced : KeepsOrRejects (msgId, waiting) (connection, [.received message]) :=
      .keep held rfl
    refine announced.append fun held => ?_
    refine (applyStatus_keepsOrRejects message held).append fun kept => ?_
    refine (deliver_keepsOrRejects distinctNow kept other).append fun still => ?_
    exact (composed_pass_interrupt ..).keepsOrRejects rfl still
  · rw [(dispatch_dispatched alive now message).streamed] at member
    obtain ⟨answered, found, shown⟩ := List.mem_map.mp member
    obtain ⟨parent, asked, waits⟩ := Option.bind_eq_some_iff.mp (Option.mem_toList.mp found)
    have apart : msgId ≠ parent := fun same => other (same ▸ asked)
    have among := remaining.subset (mem_of_lookup waits)
    exact key_ne_of_ne distinct held among apart (congrArg Prod.fst shown).symm

/-- Whether the request that an event makes is complete only with a reply. -/
def Event.expectsReply : Event → Bool
  | .send _ expectsReply => expectsReply
  | .request _ _ => true
  | _ => false

/-- A request that is made waits from then on, and nothing has arrived for it. -/
theorem Sending.waits {message : Message} {expectsReply : Bool} {call : Call Nat}
    (sending : Sending message expectsReply before call) {label : RequestLabel}
    (made : label ∈ labelOf message.msgId call.1) :
    (label.msgId, .create label.key expectsReply) ∈ call.2.1.pending := by
  cases sending with
  | refused error => cases made
  | kept accepts fresh transmitted =>
      obtain ⟨-, -, -, pending, -⟩ := transmitted.kept
      cases List.mem_singleton.mp made
      rw [keepRequest_pending fresh pending]
      exact List.mem_append_right _ (List.mem_singleton_self _)

theorem waits_sendComm {now : Instant} {comm : Comm} {outgoing : CommMessage}
    {label : RequestLabel} (made : label ∈ labelOfComm (sendComm now comm outgoing connection).1) :
    (label.msgId, .create label.key false) ∈
      (sendComm now comm outgoing connection).2.1.pending := by
  unfold sendComm at made ⊢
  split at made
  · cases made
  case isFalse opened =>
    rw [if_neg opened]
    rw [labelOfComm_map] at made
    exact (send_sending _ false _).waits made

theorem waits_closeComm {now : Instant} {comm : Comm} {data : Json} {metadata : Option Json}
    {label : RequestLabel}
    (made : label ∈ labelOfComm ((closeComm now comm data metadata connection).1.map Prod.snd)) :
    (label.msgId, .create label.key false) ∈
      (closeComm now comm data metadata connection).2.1.pending := by
  unfold closeComm at made ⊢
  cases sent : sendComm now comm (.closing comm data metadata) connection with
  | mk result change =>
      cases result with
      | error error =>
          rw [sent] at made
          cases made
      | ok named =>
          rw [sent] at made
          have first : label ∈ labelOfComm
              (sendComm now comm (.closing comm data metadata) connection).1 := by
            rw [sent]
            exact made
          have waits := waits_sendComm first
          rw [sent] at waits
          exact waits

/-- A request that an event makes waits after the event. -/
theorem Event.waits_of_requests {event : Event} {label : RequestLabel}
    (made : label ∈ event.requests connection) :
    (label.msgId, .create label.key event.expectsReply) ∈ (event.change connection).1.pending := by
  cases event with
  | send message expectsReply => exact (send_sending message expectsReply connection).waits made
  | request now wanted => exact (send_sending _ true _).waits made
  | sendComm now comm outgoing => exact waits_sendComm made
  | closeComm now comm data metadata => exact waits_closeComm made
  | _ => cases made

end KernelClient.Connection
