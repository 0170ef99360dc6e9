import KernelClient.Proofs.Connection.Waiting

/-!
# Completion of requests

Whether messages complete a request does not depend on their order, and the reply of a request is
the last one that arrived for it. So a request that waits is determined by the messages that have
arrived for it since it was made, and to take note of one more is to add it to them.

Each event leaves a request waiting, completes it or rejects it, and once it is settled it is told
nothing any more. By induction over the run after the request was made, it is settled at the first
message that completes it. What waits under its identifier afterwards is another request, made
later under the same identifier, and without one its messages are claimed by no request.
-/

namespace KernelClient

namespace PendingReply

/-- The reply among messages that answer a request: the last one. -/
def lastReply? (answers : List Message) : Option Message := (answers.filter isReply).getLast?

/-- Whether messages that answer a request complete it, in whatever order they came. -/
def isCompletedBy (expectsReply : Bool) (answers : List Message) : Bool :=
  answers.any saysIdle && (answers.any isReply || !expectsReply)

/-- A request that noted some messages. -/
def afterAll (key : Nat) (expectsReply : Bool) (answers : List Message) : PendingReply where
  key := key
  expectsReply := expectsReply
  reply := lastReply? answers
  isIdle := answers.any saysIdle

theorem saysIdle_of_isReply {message : Message} (reply : isReply message = true) :
    saysIdle message = false := by
  unfold isReply at reply
  unfold saysIdle
  obtain ⟨channel, -⟩ := Bool.and_eq_true_iff.mp reply
  rcases Bool.or_eq_true_iff.mp channel with shell | control
  · rw [of_decide_eq_true shell]
    rfl
  · rw [of_decide_eq_true control]
    rfl

/-- A request notes one message after the other. -/
theorem note_afterAll (key : Nat) (expectsReply : Bool) (answers : List Message)
    (message : Message) :
    (afterAll key expectsReply answers).note message =
      afterAll key expectsReply (answers ++ [message]) := by
  unfold note
  by_cases reply : isReply message = true
  · simp [afterAll, lastReply?, reply, saysIdle_of_isReply reply]
  · by_cases idle : saysIdle message = true <;> simp [afterAll, lastReply?, reply, idle]

theorem isSome_lastReply? (answers : List Message) :
    (lastReply? answers).isSome = answers.any isReply := by
  rw [Bool.eq_iff_iff, lastReply?, List.getLast?_isSome, List.any_eq_true, ne_eq,
    List.filter_eq_nil_iff]
  simp

theorem isComplete_afterAll (key : Nat) (expectsReply : Bool) (answers : List Message) :
    (afterAll key expectsReply answers).isComplete = isCompletedBy expectsReply answers := by
  simp only [isComplete, afterAll, isSome_lastReply?, isCompletedBy]

/-- What completes a request does so with whatever comes after it. -/
theorem isCompletedBy_append {expectsReply : Bool} {answers : List Message}
    (completes : isCompletedBy expectsReply answers = true) (more : List Message) :
    isCompletedBy expectsReply (answers ++ more) = true := by
  unfold isCompletedBy at completes ⊢
  rw [List.any_append, List.any_append]
  obtain ⟨idle, replied⟩ := Bool.and_eq_true_iff.mp completes
  rcases Bool.or_eq_true_iff.mp replied with reply | unexpected
  · rw [idle, reply]
    rfl
  · rw [idle, unexpected]
    simp

end PendingReply

namespace Connection

variable {occurrence : Occurrence} {connection : Connection} {start situation : Situation}
  {history later : List Occurrence}

/-- The messages that arrive in a history and name a message as their parent. -/
def answersTo (msgId : String) (history : List Occurrence) : List Message :=
  (history.filterMap Occurrence.dispatched?).filter fun message =>
    message.parentMsgId? = some msgId

theorem answersTo_append (msgId : String) (first second : List Occurrence) :
    answersTo msgId (first ++ second) = answersTo msgId first ++ answersTo msgId second := by
  simp [answersTo]

theorem answersTo_of_dispatched {occurrence : Occurrence} {message : Message}
    (arrives : occurrence.dispatched? = some message) (msgId : String) :
    answersTo msgId [occurrence] = if message.parentMsgId? = some msgId then [message] else [] := by
  simp [answersTo, arrives, List.filter_cons]

theorem answersTo_of_none {occurrence : Occurrence} (silent : occurrence.dispatched? = none)
    (msgId : String) : answersTo msgId [occurrence] = [] := by
  simp [answersTo, silent]

/-- The messages that are streamed to a request. -/
def streams (key : Nat) (messages : List Message) : List Effect :=
  messages.map (Effect.streamed key)

theorem streams_append (key : Nat) (first second : List Message) :
    streams key (first ++ second) = streams key first ++ streams key second :=
  List.map_append

open PendingReply in
/-- How far a request has come since it was made: it waits for messages that complete it, it was
completed by the first message that did, or it was rejected. -/
inductive Progress (label : RequestLabel) (expectsReply : Bool) (later : List Occurrence)
    (connection : Connection) : Prop where
  | waiting
      (held : (label.msgId, afterAll label.key expectsReply (answersTo label.msgId later)) ∈
        connection.pending)
      (incomplete : isCompletedBy expectsReply (answersTo label.msgId later) = false)
      (told : story label.key (effectsOf later) = streams label.key (answersTo label.msgId later))
  | completed (earlier : List Message) (last : Message) (others : List Message)
      (parts : answersTo label.msgId later = earlier ++ last :: others)
      (incomplete : isCompletedBy expectsReply earlier = false)
      (complete : isCompletedBy expectsReply (earlier ++ [last]) = true)
      (told : story label.key (effectsOf later) = streams label.key (earlier ++ [last]) ++
        [.settled label.key (.ok (lastReply? (earlier ++ [last])))])
  | rejected (error : ServiceError)
      (shown : (label.key, .error error) ∈ settledIn (effectsOf later))

variable {label : RequestLabel} {expectsReply : Bool}

/-- A message is streamed only to a request that waits under the identifier of its parent. -/
theorem Occurrence.exists_of_streamed {key : Nat} {streamed : Message}
    (member : (key, streamed) ∈ streamedIn occurrence.effects) :
    ∃ entry ∈ occurrence.before.connection.pending, entry.2.key = key ∧
      streamed.parentMsgId? = some entry.1 := by
  cases arrives : occurrence.dispatched? with
  | none =>
      rw [← streamedIn_inboundIn, inboundIn_eq_nil arrives] at member
      cases member
  | some message =>
      obtain ⟨now, frame, -, dispatched⟩ := Occurrence.dispatched arrives
      rw [dispatched.streamed] at member
      obtain ⟨waiting, found, shown⟩ := List.mem_map.mp member
      obtain ⟨parent, asked, waits⟩ := Option.bind_eq_some_iff.mp (Option.mem_toList.mp found)
      have among := (applyStatus_pending message _).subset (mem_of_lookup waits)
      obtain ⟨rfl, rfl⟩ := Prod.mk.inj shown
      exact ⟨(parent, waiting), among, rfl, asked⟩

/-- A request that does not wait any more and is not settled is told nothing. -/
theorem Occurrence.story_eq_nil {key : Nat}
    (absent : ∀ entry ∈ occurrence.before.connection.pending, entry.2.key ≠ key)
    (settles : ∀ outcome, (key, outcome) ∉ settledIn occurrence.effects) :
    story key occurrence.effects = [] := by
  refine Connection.story_eq_nil (fun streamed member => ?_) settles
  obtain ⟨entry, held, same, -⟩ := exists_of_streamed member
  exact absent entry held same

/-- What an event does to a request that waits. -/
theorem Occurrence.attended {msgId : String} {waiting : PendingReply}
    (possible : occurrence.event.isPossible occurrence.before = true)
    (sound : SocketSound occurrence.before.connection) (tidy : Tidy occurrence.before.connection)
    (distinct : (occurrence.before.connection.pending.map fun entry => entry.2.key).Nodup)
    (held : (msgId, waiting) ∈ occurrence.before.connection.pending) :
    Attended msgId waiting (occurrence.after.connection, occurrence.effects)
      (answersTo msgId [occurrence]) := by
  change Attended msgId waiting (occurrence.event.change occurrence.before.connection) _
  have alive : occurrence.before.connection.isDisposed = false := by
    cases disposed : occurrence.before.connection.isDisposed with
    | false => rfl
    | true =>
        rw [tidy.disposed disposed] at held
        cases held
  cases arrives : occurrence.dispatched? with
  | none =>
      have unread : occurrence.message? = none := by
        rwa [dispatched?, if_neg (by simp [alive])] at arrives
      rw [answersTo_of_none arrives]
      refine ((occurrence.composed sound possible).keepsOrRejects unread held).attended ?_
      have outward : IsOutward (occurrence.event.change occurrence.before.connection) :=
        inboundIn_eq_nil arrives
      simp [streamedIn_of_isOutward outward]
  | some message =>
      obtain ⟨now, frame, -, change⟩ := change_of_dispatched arrives
      rw [change, answersTo_of_dispatched arrives]
      split
      case isTrue asked => exact dispatch_attended alive tidy held asked now
      case isFalse other => exact dispatch_other alive distinct held other now

open PendingReply in
/-- A request comes further with every event, until it is complete or rejected. -/
theorem Progress.next (progress : Progress label expectsReply later occurrence.before.connection)
    (attended : ∀ msgId waiting, (msgId, waiting) ∈ occurrence.before.connection.pending →
      Attended msgId waiting (occurrence.after.connection, occurrence.effects)
        (answersTo msgId [occurrence]))
    (silent : ∀ reply, (label.key, .ok reply) ∈ settledIn (effectsOf later) →
      story label.key occurrence.effects = []) :
    Progress label expectsReply (later ++ [occurrence]) occurrence.after.connection := by
  cases progress with
  | waiting held incomplete told =>
      have step := attended _ _ held
      generalize arrived : answersTo label.msgId [occurrence] = answers at step
      have all : answersTo label.msgId (later ++ [occurrence]) =
          answersTo label.msgId later ++ answers := by
        rw [answersTo_append, arrived]
      cases step with
      | rejected error shown =>
          have shown : (label.key, .error error) ∈ settledIn occurrence.effects := shown
          exact .rejected error (by simp [shown])
      | kept held toldNow =>
          have toldNow : story label.key occurrence.effects = [] := toldNow
          rw [List.append_nil] at all
          refine .waiting (all ▸ held) (all ▸ incomplete) ?_
          rw [effectsOf_snoc, story_append, told, toldNow, List.append_nil, all]
      | @noted message incompleteNow held toldNow =>
          rw [note_afterAll, ← all] at incompleteNow held
          rw [isComplete_afterAll] at incompleteNow
          refine .waiting held incompleteNow ?_
          rw [effectsOf_snoc, story_append, told, all, streams_append]
          exact congrArg _ toldNow
      | @completed message complete toldNow =>
          rw [note_afterAll] at complete toldNow
          rw [isComplete_afterAll] at complete
          refine .completed _ message [] all incomplete complete ?_
          rw [effectsOf_snoc, story_append, told, streams_append, List.append_assoc]
          exact congrArg _ toldNow
  | completed earlier last others parts incomplete complete told =>
      have settled := settled_of_story told
      refine .completed earlier last (others ++ answersTo label.msgId [occurrence]) ?_ incomplete
        complete ?_
      · rw [answersTo_append, parts, List.append_assoc, List.cons_append]
      · rw [effectsOf_snoc, story_append, told, silent _ settled, List.append_nil]
  | rejected error shown => exact .rejected error (by simp [shown])

/-- Messages are streamed only to requests that were made. -/
theorem Run.streamed_numbered (run : Run start history situation)
    (free : start.connection.socket = none) (empty : start.connection.pending = []) :
    ∀ key message, (key, message) ∈ streamedIn (effectsOf history) →
      key < situation.connection.nextKey := by
  induction run with
  | start => simp
  | @next history before run event possible earlier =>
      obtain ⟨⟨settlements, conserved⟩, tidy, -⟩ := run.conserved free empty
      obtain ⟨⟨gone, turnover⟩, -⟩ :=
        Occurrence.turnover ⟨before, event⟩ possible (run.sound (.ofFree free)) tidy
      intro key message member
      rw [effectsOf_snoc, streamedIn_append] at member
      refine Nat.lt_of_lt_of_le ?_ turnover.ascends
      rcases List.mem_append.mp member with early | late
      · exact earlier key message early
      · obtain ⟨entry, held, rfl, -⟩ := Occurrence.exists_of_streamed late
        refine conserved.numbered ⟨entry.1, entry.2.key⟩ (conserved.conserves.mem_iff.mpr ?_)
        exact List.mem_append_right _ (mem_labels held)

/-- An event that makes a request hands on no message. -/
theorem Occurrence.dispatched?_of_requests (made : label ∈ occurrence.requests) :
    occurrence.dispatched? = none := by
  cases arrives : occurrence.dispatched? with
  | none => rfl
  | some message =>
      obtain ⟨now, frame, happened, -⟩ := change_of_dispatched arrives
      rw [requests, happened] at made
      cases made

/-- A request is told nothing before it is made, nor while it is. -/
theorem Run.story_of_requests {earlier : List Occurrence} {making : Occurrence}
    (first : Run start earlier making.before)
    (possible : making.event.isPossible making.before = true)
    (free : start.connection.socket = none) (empty : start.connection.pending = [])
    (made : label ∈ making.requests) :
    story label.key (effectsOf (earlier ++ [making])) = [] := by
  have whole : Run start (earlier ++ [making]) making.after := first.next making.event possible
  obtain ⟨-, tidy, -⟩ := first.conserved free empty
  obtain ⟨⟨settlements, conserved⟩, -, -⟩ := whole.conserved free empty
  obtain ⟨⟨gone, turnover⟩, -⟩ := making.turnover possible (first.sound (.ofFree free)) tidy
  have waits : label ∈ labels making.after.connection :=
    mem_labels (Event.waits_of_requests made)
  refine story_eq_nil (fun message member => ?_) fun outcome member => ?_
  · rw [effectsOf_snoc, streamedIn_append] at member
    -- Its number is greater than all that were given away before.
    rcases List.mem_append.mp member with early | now
    · have below := first.streamed_numbered free empty _ _ early
      have atLeast := (turnover.numbered label made).1
      omega
    · rw [← streamedIn_inboundIn,
        Occurrence.inboundIn_eq_nil (Occurrence.dispatched?_of_requests made)] at now
      cases now
  · have none := conserved.outcomesOf_waiting waits
    have settled := mem_outcomesOf.mpr member
    rw [none] at settled
    cases settled

section Requested

variable {earlier : List Occurrence} {making : Occurrence}
  (first : Run start (earlier ++ [making]) making.after) (second : Run making.after later situation)
  (free : start.connection.socket = none) (empty : start.connection.pending = [])
  (made : label ∈ making.requests)

include first second free empty made

/-- How far a request has come after any events. -/
theorem Run.progress :
    Progress label making.event.expectsReply later situation.connection := by
  induction second with
  | start => exact .waiting (Event.waits_of_requests made) rfl rfl
  | @next later before run event possible progress =>
      have whole := first.append run
      obtain ⟨⟨settlements, conserved⟩, tidy, -⟩ := whole.conserved free empty
      obtain ⟨⟨all, conservedAfter⟩, -⟩ := (whole.next event possible).conserved free empty
      refine Progress.next progress (fun msgId waiting held => ?_) fun reply settled => ?_
      · exact Occurrence.attended possible (whole.sound (.ofFree free)) tidy
          conserved.pending_keys_nodup held
      -- Once it is settled nothing waits under its number, and it cannot be settled again.
      · have before := settledIn_subset_append (earlier ++ [making]) later settled
        exact Occurrence.story_eq_nil (conserved.key_ne_of_settled before)
          (conservedAfter.settled_once before)

/-- The only requests under the identifier of one that was made are those that were made after
it. -/
theorem Run.eq_or_later :
    ∀ other ∈ labels situation.connection, other.msgId = label.msgId →
      other = label ∨ other ∈ requestsIn later := by
  induction second with
  | start =>
      intro other waits same
      obtain ⟨-, tidy, -⟩ := first.conserved free empty
      obtain ⟨⟨msgId, waiting⟩, held, rfl⟩ := List.mem_map.mp waits
      have named : msgId = label.msgId := same
      subst named
      have found := lookup_of_mem tidy.names held
      rw [lookup_of_mem tidy.names (Event.waits_of_requests made)] at found
      cases found
      exact .inl rfl
  | @next later before run event possible only =>
      intro other waits same
      obtain ⟨-, tidy, -⟩ := (first.append run).conserved free empty
      obtain ⟨⟨gone, turnover⟩, -⟩ :=
        Occurrence.turnover ⟨before, event⟩ possible ((first.append run).sound (.ofFree free)) tidy
      rw [requestsIn_snoc]
      have among := turnover.conserves.mem_iff.mpr (List.mem_append_right _ waits)
      rcases List.mem_append.mp among with waited | new
      · exact (only other waited same).imp_right (List.mem_append_left _)
      · exact .inr (List.mem_append_right _ new)

open PendingReply in
/-- Once a request was completed, what waits under its identifier is another request that was made
later. -/
theorem Run.waits_later
    (complete : isCompletedBy making.event.expectsReply (answersTo label.msgId later) = true)
    (unrejected : ∀ error, (label.key, .error error) ∉ settledIn (effectsOf later))
    {entry : String × PendingReply} (held : entry ∈ situation.connection.pending)
    (same : entry.1 = label.msgId) :
    entry.2.key ≠ label.key ∧ ⟨entry.1, entry.2.key⟩ ∈ requestsIn later := by
  have apart : entry.2.key ≠ label.key := by
    obtain ⟨⟨settlements, conserved⟩, -, -⟩ := (first.append second).conserved free empty
    cases first.progress second free empty made with
    | waiting held incomplete told => cases incomplete.symm.trans complete
    | completed early last others parts incomplete complete told =>
        have settled := settledIn_subset_append (earlier ++ [making]) later (settled_of_story told)
        exact conserved.key_ne_of_settled settled entry held
    | rejected error shown => exact absurd shown (unrejected error)
  rcases first.eq_or_later second free empty made _ (mem_labels held) same with itself | other
  · exact absurd (congrArg RequestLabel.key itself) apart
  · exact ⟨apart, other⟩

end Requested

open PendingReply in
/-- In every run a request that was made and is not rejected waits as long as the messages that
arrive for it do not complete it. It is settled at the first message that completes them: with an
idle status among them and, if a reply is expected, with a reply, in either order. Up to that
message, all of them were streamed to it in order, and its outcome, which comes last, is the last
reply among them. No request claims any later message for it, unless another one was made under the
same identifier. -/
theorem Run.request_completes {model : KernelModel} {clientId : String}
    {options : ConnectionOptions} {earlier later : List Occurrence} {making : Occurrence}
    (run : Run (.initial model clientId options) (earlier ++ making :: later) situation)
    (made : label ∈ making.requests)
    (unrejected : ∀ error,
      (label.key, .error error) ∉ settledIn (effectsOf (earlier ++ making :: later))) :
    let expectsReply := making.event.expectsReply
    let answers := answersTo label.msgId later
    let told := story label.key (effectsOf (earlier ++ making :: later))
    ((isCompletedBy expectsReply answers = false ∧ label ∈ labels situation.connection ∧
        told = streams label.key answers) ∨
      ∃ before last after, answers = before ++ last :: after ∧
        (∀ early, early <+: before → isCompletedBy expectsReply early = false) ∧
        isCompletedBy expectsReply (before ++ [last]) = true ∧
        label ∉ labels situation.connection ∧
        told = streams label.key (before ++ [last]) ++
          [.settled label.key (.ok (lastReply? (before ++ [last])))]) ∧
    ∀ first occurrence rest, later = first ++ occurrence :: rest →
      isCompletedBy expectsReply (answersTo label.msgId first) = true →
      ∀ message, occurrence.dispatched? = some message →
        message.parentMsgId? = some label.msgId →
          (streamedIn occurrence.effects = [] ∧
            unclaimedIn occurrence.effects = if message.isComm then [] else [message]) ∨
          ∃ other ∈ requestsIn first, other.msgId = label.msgId ∧ other.key ≠ label.key ∧
            streamedIn occurrence.effects = [(other.key, message)] := by
  dsimp only
  obtain ⟨middle, toMaking, fromMaking⟩ := run.split earlier (making :: later) rfl
  obtain ⟨rfl, possible, after⟩ := fromMaking.of_cons
  have upTo : Run _ (earlier ++ [making]) making.after := toMaking.next making.event possible
  have parts : earlier ++ making :: later = (earlier ++ [making]) ++ later := by simp
  rw [parts] at unrejected ⊢
  have unrejectedLater : ∀ error, (label.key, .error error) ∉ settledIn (effectsOf later) :=
    fun error shown => unrejected error (settledIn_subset_append _ _ shown)
  refine ⟨?_, fun first occurrence rest split complete message arrives asked => ?_⟩
  · obtain ⟨⟨settlements, conserved⟩, -, -⟩ := (upTo.append after).conserved rfl rfl
    have silent := toMaking.story_of_requests possible rfl rfl made
    rw [effectsOf_append, story_append, silent, List.nil_append]
    cases upTo.progress after rfl rfl made with
    | waiting held incomplete told =>
        exact .inl ⟨incomplete, mem_labels held, told⟩
    | completed before last others parts incomplete complete told =>
        refine .inr ⟨before, last, others, parts, ?_, complete, fun waits => ?_, told⟩
        · rintro early ⟨more, rfl⟩
          cases completes : isCompletedBy making.event.expectsReply early with
          | false => rfl
          | true => cases incomplete.symm.trans (isCompletedBy_append completes more)
        · obtain ⟨entry, held, same⟩ := List.mem_map.mp waits
          have settled := settledIn_subset_append (earlier ++ [making]) later
            (settled_of_story told)
          exact conserved.key_ne_of_settled settled entry held (congrArg RequestLabel.key same)
    | rejected error shown => exact absurd shown (unrejectedLater error)
  · subst split
    obtain ⟨middle, toOccurrence, fromOccurrence⟩ := after.split first (occurrence :: rest) rfl
    obtain ⟨rfl, -, -⟩ := fromOccurrence.of_cons
    have unrejectedFirst : ∀ error, (label.key, .error error) ∉ settledIn (effectsOf first) := by
      intro error shown
      refine unrejectedLater error ?_
      rw [effectsOf_append, settledIn_append]
      exact List.mem_append_left _ shown
    obtain ⟨now, frame, -, ⟨-, streamed, -, -, unclaimed⟩⟩ := Occurrence.dispatched arrives
    rw [asked, Option.bind_some] at streamed unclaimed
    cases waits : (current message occurrence.before.connection).pending.lookup label.msgId with
    | none =>
        rw [waits] at streamed unclaimed
        refine .inl ⟨streamed, unclaimed.trans ?_⟩
        cases message.isComm <;> simp
    | some waiting =>
        rw [waits] at streamed
        have among := (applyStatus_pending message _).subset (mem_of_lookup waits)
        obtain ⟨apart, later⟩ :=
          upTo.waits_later toOccurrence rfl rfl made complete unrejectedFirst among rfl
        exact .inr ⟨_, later, rfl, apart, streamed⟩

/-- A request to run something. -/
def question : Message := .create .shell "execute_request" "1" "client" "" .emptyObject .epoch

/-- A message of the kernel that names the request as its parent. -/
def answering (channel : Channel) (msgType msgId : String) (content : Json) : Message :=
  { Message.create channel msgType msgId "kernel" "" content .epoch with
    parentHeader := some question.header }

def idleStatus : Message :=
  answering .iopub "status" "2" (.object [("execution_state", .string "idle")])

def reply : Message := answering .shell "execute_reply" "3" .emptyObject

def lateOutput : Message := answering .iopub "stream" "4" .emptyObject

theorem answering_decode {channel : Channel} {msgType msgId : String} {content : Json}
    (valid : Message.checkShape (answering channel msgType msgId content).toJson = .ok ())
    (read : Json.parseWithin? WireProtocol.legacy.valueDepth content.render = some content) :
    (Frame.text (answering channel msgType msgId content).toJson.render).decode .legacy =
      .ok (answering channel msgType msgId content) := by
  have epoch : Instant.parse? Instant.epoch.render = some .epoch := by decide +kernel
  have empty : Json.parseWithin? WireProtocol.legacy.valueDepth Json.emptyObject.render =
      some .emptyObject := rfl
  refine Message.decode_legacy valid ⟨epoch, fun header present => ?_, empty, read⟩ rfl
  cases present
  exact epoch

def untilOpen : List Event := [.beginConnecting, .connected ⟨0, .legacy, none⟩]

def asking : Occurrence := ⟨Situation.usual.afterAll untilOpen, .send question true⟩

/-- A message arrives in a frame. -/
def arriving (before : Situation) (message : Message) : Occurrence :=
  ⟨before, .frameArrived .epoch (.text message.toJson.render)⟩

/-- A message arrives and is handed on. -/
structure Arrives (message : Message) (occurrence : Occurrence) : Prop where
  possible : occurrence.event.isPossible occurrence.before = true
  dispatched : occurrence.dispatched? = some message
  change : occurrence.event.change occurrence.before.connection =
    dispatch .epoch message occurrence.before.connection

/-- Where a socket is read, every message that can be read is handed on. -/
theorem arrives_arriving {before : Situation} {message : Message} {socket : Nat}
    (alive : before.connection.isDisposed = false)
    (reading : before.connection.phase = .reading socket .legacy)
    (decoded : (Frame.text message.toJson.render).decode .legacy = .ok message) :
    Arrives message (arriving before message) where
  possible := by simp [arriving, Event.isPossible, reading, SocketPhase.isReading]
  dispatched := Occurrence.dispatched?_of_decode alive rfl reading decoded
  change := frameArrived_of_decode reading decoded

theorem Arrives.after {message : Message} {occurrence : Occurrence}
    (arrives : Arrives message occurrence) :
    occurrence.after.connection = (dispatch .epoch message occurrence.before.connection).1 :=
  congrArg Prod.fst arrives.change

theorem Arrives.effects {message : Message} {occurrence : Occurrence}
    (arrives : Arrives message occurrence) :
    occurrence.effects = (dispatch .epoch message occurrence.before.connection).2 :=
  congrArg Prod.snd arrives.change

def idleArriving : Occurrence := arriving asking.after idleStatus

def replyArriving : Occurrence := arriving idleArriving.after reply

def lateArriving : Occurrence := arriving replyArriving.after lateOutput

theorem arrives_idleArriving : Arrives idleStatus idleArriving :=
  arrives_arriving rfl rfl (answering_decode (by decide +kernel) rfl)

theorem arrives_replyArriving : Arrives reply replyArriving := by
  have left : idleArriving.after.connection.isDisposed = false ∧
      idleArriving.after.connection.phase = .reading 0 .legacy := by
    rw [arrives_idleArriving.after]
    decide +kernel
  exact arrives_arriving left.1 left.2 (answering_decode (by decide +kernel) rfl)

theorem replyArriving_before : replyArriving.before.connection =
    (dispatch .epoch idleStatus asking.after.connection).1 :=
  arrives_idleArriving.after

theorem lateArriving_before : lateArriving.before.connection =
    (dispatch .epoch reply (dispatch .epoch idleStatus asking.after.connection).1).1 :=
  arrives_replyArriving.after.trans (by rw [replyArriving_before])

theorem arrives_lateArriving : Arrives lateOutput lateArriving := by
  have left : lateArriving.before.connection.isDisposed = false ∧
      lateArriving.before.connection.phase = .reading 0 .legacy := by
    rw [lateArriving_before]
    decide +kernel
  exact arrives_arriving left.1 left.2 (answering_decode (by decide +kernel) rfl)

/-- The kernel goes idle before it replies, and sends something more after that. -/
def idleFirst : List Occurrence := [idleArriving, replyArriving, lateArriving]

theorem run_idleFirst :
    Run .usual (Situation.usual.occurrences untilOpen ++ asking :: idleFirst)
      lateArriving.after := by
  have asked : Run .usual (Situation.usual.occurrences untilOpen ++ [asking]) asking.after :=
    (run_of_allows untilOpen rfl).next asking.event rfl
  have idle : Run asking.after [idleArriving] idleArriving.after :=
    Run.start.next idleArriving.event arrives_idleArriving.possible
  have replied : Run asking.after [idleArriving, replyArriving] replyArriving.after :=
    idle.next replyArriving.event arrives_replyArriving.possible
  have late : Run asking.after idleFirst lateArriving.after :=
    replied.next lateArriving.event arrives_lateArriving.possible
  rw [List.append_cons]
  exact asked.append late

theorem unrejected_idleFirst (error : ServiceError) : ((0 : Nat), .error error) ∉
    settledIn (effectsOf (Situation.usual.occurrences untilOpen ++ asking :: idleFirst)) := by
  have before : settledIn (effectsOf (Situation.usual.occurrences untilOpen ++ [asking])) = [] :=
    rfl
  have accepted : (settledIn (effectsOf idleFirst)).all (fun settled => settled.2.isOk) = true := by
    have parts : effectsOf idleFirst =
        idleArriving.effects ++ (replyArriving.effects ++ (lateArriving.effects ++ [])) := rfl
    rw [parts, arrives_idleArriving.effects, arrives_replyArriving.effects,
      arrives_lateArriving.effects, replyArriving_before, lateArriving_before]
    decide +kernel
  intro shown
  rw [List.append_cons, effectsOf_append, settledIn_append, before, List.nil_append] at shown
  cases List.all_eq_true.mp accepted _ shown

open PendingReply in
/-- A request whose kernel goes idle before it replies is complete at the reply, and claims nothing
that comes later. -/
theorem request_completes_idle_first :
    Run .usual (Situation.usual.occurrences untilOpen ++ asking :: idleFirst) lateArriving.after ∧
      ⟨"1", 0⟩ ∈ asking.requests ∧ asking.event.expectsReply = true ∧
      (∀ error, ((0 : Nat), .error error) ∉ settledIn (effectsOf
        (Situation.usual.occurrences untilOpen ++ asking :: idleFirst))) ∧
      story 0 (effectsOf (Situation.usual.occurrences untilOpen ++ asking :: idleFirst)) =
        [.streamed 0 idleStatus, .streamed 0 reply, .settled 0 (.ok (some reply))] ∧
      streamedIn lateArriving.effects = [] ∧ unclaimedIn lateArriving.effects = [lateOutput] := by
  have made : ⟨"1", 0⟩ ∈ asking.requests := by decide +kernel
  obtain ⟨outcome, claims⟩ := run_idleFirst.request_completes made unrejected_idleFirst
  have idleCompletes : isCompletedBy true [idleStatus] = false := by decide +kernel
  have replyCompletes : isCompletedBy true [idleStatus, reply] = true := by decide +kernel
  have last : lastReply? ([idleStatus] ++ [reply]) = some reply := by
    have noReply : isReply idleStatus = false := by decide +kernel
    have isReply : isReply reply = true := by decide +kernel
    simp [lastReply?, noReply, isReply]
  have early : answersTo "1" [idleArriving, replyArriving] = [idleStatus, reply] := by
    have parts : [idleArriving, replyArriving] = [idleArriving] ++ [replyArriving] := rfl
    rw [parts, answersTo_append, answersTo_of_dispatched arrives_idleArriving.dispatched,
      answersTo_of_dispatched arrives_replyArriving.dispatched]
    rfl
  have answers : answersTo "1" idleFirst = [idleStatus, reply, lateOutput] := by
    have late := answersTo_of_dispatched arrives_lateArriving.dispatched "1"
    have parts : idleFirst = [idleArriving, replyArriving] ++ [lateArriving] := rfl
    rw [parts, answersTo_append, early, late]
    rfl
  refine ⟨run_idleFirst, made, rfl, unrejected_idleFirst, ?_, ?_⟩
  · dsimp only at outcome
    rw [answers] at outcome
    rcases outcome with ⟨incomplete, -⟩ | ⟨before, final, after, parts, least, complete, -, told⟩
    · cases incomplete.symm.trans (isCompletedBy_append replyCompletes [lateOutput])
    -- The idle status alone does not complete the request, and with the reply it does.
    · rcases before with _ | ⟨first, _ | ⟨second, others⟩⟩
      · obtain ⟨rfl, -⟩ := List.cons.inj parts
        cases idleCompletes.symm.trans complete
      · obtain ⟨rfl, rest⟩ := List.cons.inj parts
        obtain ⟨rfl, -⟩ := List.cons.inj rest
        rw [last] at told
        exact told
      · obtain ⟨rfl, rest⟩ := List.cons.inj parts
        obtain ⟨rfl, -⟩ := List.cons.inj rest
        cases (least [idleStatus, reply] (List.prefix_append _ _)).symm.trans replyCompletes
  · have claimed := claims [idleArriving, replyArriving] lateArriving [] rfl
      (early ▸ replyCompletes) lateOutput arrives_lateArriving.dispatched rfl
    rcases claimed with unclaimed | ⟨other, made, -⟩
    · exact unclaimed
    · cases made

end Connection

end KernelClient
