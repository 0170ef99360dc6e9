import KernelClient.Proofs.Connection.Completion
import KernelClient.Proofs.Connection.Numbering
import Mathlib.Data.List.Flatten
import Mathlib.Data.List.Induction
import Mathlib.Data.List.Perm.Basic

/-!
# Requests under identifiers of their own

A request is kept under the identifier of its message, which the connection chose if it built the
message, and a caller may choose otherwise. If callers pass only messages that were built for them
and none that was accepted before, then no two requests of a history have one identifier. So none is
refused because another one waits under its identifier, and what arrives for a message reaches the
one request that was made with it.
-/

namespace KernelClient.Connection

/-- The messages of callers that are accepted. -/
def Occurrence.sent (occurrence : Occurrence) : List Message :=
  match occurrence.event with
  | .send _ _ | .sendRaw _ => acceptedIn occurrence.effects
  | _ => []

/-- The messages of callers that are accepted in a history. -/
def sentIn (history : List Occurrence) : List Message := history.flatMap Occurrence.sent

/-- In a history callers pass only messages that were built for them, with anything added to them,
and none that was accepted before. -/
structure SendsOwn (history : List Occurrence) : Prop where
  made : ∀ occurrence ∈ history, ∀ message ∈ occurrence.passed,
    ∃ built ∈ madeIn history, built.msgId = message.msgId
  once : ∀ earlier occurrence later, history = earlier ++ occurrence :: later →
    ∀ message ∈ occurrence.passed, ∀ sent ∈ sentIn earlier, sent.msgId ≠ message.msgId

theorem Occurrence.sent_sublist (occurrence : Occurrence) :
    occurrence.sent.Sublist occurrence.passed := by
  unfold sent passed
  cases happened : occurrence.event with
  | send message expectsReply =>
      have accepted := (send_sending message expectsReply occurrence.before.connection).accepted
      simp only [effects, happened, Event.change, accepted]
      split
      · exact List.Sublist.refl _
      · exact List.nil_sublist _
  | sendRaw message =>
      have accepted := (sendRaw_transmission message occurrence.before.connection).accepted
      simp only [effects, happened, Event.change, accepted]
      split
      · exact List.Sublist.refl _
      · exact List.nil_sublist _
  | _ => exact List.nil_sublist _

theorem labelOf_msgIds (msgId : String) (result : Except ServiceError Nat) :
    ((labelOf msgId result).map RequestLabel.msgId).Sublist [msgId] := by
  cases result with
  | ok key => exact List.Sublist.refl _
  | error error => exact List.nil_sublist _

/-- A request of a comm is made under the identifier of its message. -/
theorem sendComm_msgIds (now : Instant) (comm : Comm) (outgoing : CommMessage)
    (connection : Connection) :
    ((labelOfComm (sendComm now comm outgoing connection).1).map RequestLabel.msgId).Sublist
      ((if comm.isClosed then [] else [(commMessage now outgoing connection).1]).map
        Message.msgId) := by
  unfold sendComm
  split
  · exact List.nil_sublist _
  · dsimp only
    cases (send (commMessage now outgoing connection).1 false
        (commMessage now outgoing connection).2).1 with
    | ok key => exact List.Sublist.refl _
    | error error => exact List.nil_sublist _

theorem closeComm_result (now : Instant) (comm : Comm) (data : Json) (metadata : Option Json)
    (connection : Connection) :
    (closeComm now comm data metadata connection).1.map Prod.snd =
      (sendComm now comm (.closing comm data metadata) connection).1 := by
  unfold closeComm
  split <;> rename_i sent <;> rw [sent] <;> rfl

/-- A request is made under the identifier of a message that the connection built to send it, or
that a caller passed. -/
theorem Occurrence.requests_msgIds (occurrence : Occurrence) :
    (occurrence.requests.map RequestLabel.msgId).Sublist
      ((occurrence.own ++ occurrence.sent).map Message.msgId) := by
  unfold requests own sent
  cases happened : occurrence.event with
  | send message expectsReply =>
      have accepted := (send_sending message expectsReply occurrence.before.connection).accepted
      simp only [Event.requests, List.nil_append, effects, happened, Event.change, accepted]
      cases (send message expectsReply occurrence.before.connection).1 with
      | ok key => exact List.Sublist.refl _
      | error error => exact List.nil_sublist _
  | request now wanted =>
      simp only [Event.requests, List.append_nil]
      exact labelOf_msgIds _ _
  | sendComm now comm outgoing =>
      simp only [Event.requests, List.append_nil]
      exact sendComm_msgIds now comm outgoing _
  | closeComm now comm data metadata =>
      simp only [Event.requests, List.append_nil, closeComm_result]
      exact sendComm_msgIds now comm (.closing comm data metadata) _
  | _ => exact List.nil_sublist _

section Runs

variable {model : KernelModel} {clientId : String} {options : ConnectionOptions}
  {history : List Occurrence} {situation : Situation}

theorem builtIn_perm (history : List Occurrence) :
    (madeIn history ++ ownIn history).Perm (builtIn history) :=
  List.flatMap_append_perm history Occurrence.made Occurrence.own

theorem sentIn_subset (history : List Occurrence) : sentIn history ⊆ passedIn history := by
  intro message member
  obtain ⟨occurrence, happened, sent⟩ := List.mem_flatMap.mp member
  exact List.mem_flatMap.mpr ⟨occurrence, happened, occurrence.sent_sublist.subset sent⟩

/-- No message of a caller is accepted twice. -/
theorem SendsOwn.sent_nodup (sendsOwn : SendsOwn history) :
    ((sentIn history).map Message.msgId).Nodup := by
  have upTo : ∀ earlier later, history = earlier ++ later →
      ((sentIn earlier).map Message.msgId).Nodup := by
    intro earlier
    induction earlier using List.reverseRecOn with
    | nil =>
        intro later parts
        exact List.nodup_nil
    | append_singleton earlier occurrence sound =>
        intro later parts
        have split : history = earlier ++ occurrence :: later := by simpa using parts
        have once := sendsOwn.once earlier occurrence later split
        have alone : (occurrence.sent.map Message.msgId).Nodup := by
          refine List.Nodup.sublist (occurrence.sent_sublist.map _) ?_
          unfold Occurrence.passed
          split <;> simp
        have parted : sentIn (earlier ++ [occurrence]) = sentIn earlier ++ occurrence.sent := by
          simp [sentIn]
        rw [parted, List.map_append]
        refine List.nodup_append.mpr ⟨sound _ split, alone, ?_⟩
        intro early before late now same
        obtain ⟨sent, earlierSent, rfl⟩ := List.mem_map.mp before
        obtain ⟨message, passes, rfl⟩ := List.mem_map.mp now
        exact once message (occurrence.sent_sublist.subset passes) sent earlierSent same
  exact upTo history [] (List.append_nil history).symm

variable (run : Run (.initial model clientId options) history situation)

include run

/-- A message that is built for a caller has another identifier than those that the connection
builds to send them. -/
theorem Run.made_ne_own {made own : Message} (isMade : made ∈ madeIn history)
    (isOwn : own ∈ ownIn history) : made.msgId ≠ own.msgId := by
  have distinct := ((builtIn_perm history).map Message.msgId).nodup_iff.mpr run.built_msgIds_nodup
  rw [List.map_append] at distinct
  exact (List.nodup_append.mp distinct).2.2 _ (List.mem_map_of_mem isMade) _
    (List.mem_map_of_mem isOwn)

theorem Run.own_nodup : ((ownIn history).map Message.msgId).Nodup := by
  have distinct := ((builtIn_perm history).map Message.msgId).nodup_iff.mpr run.built_msgIds_nodup
  rw [List.map_append] at distinct
  exact (List.nodup_append.mp distinct).2.1

/-- A message that a caller passes has another identifier than those that the connection builds to
send them. -/
theorem Run.passed_ne_own (sendsOwn : SendsOwn history) {passed own : Message}
    (isPassed : passed ∈ passedIn history) (isOwn : own ∈ ownIn history) :
    passed.msgId ≠ own.msgId := by
  obtain ⟨occurrence, happened, passes⟩ := List.mem_flatMap.mp isPassed
  obtain ⟨made, isMade, same⟩ := sendsOwn.made occurrence happened passed passes
  exact same ▸ run.made_ne_own isMade isOwn

/-- The messages with which requests can be made have identifiers of their own. -/
theorem Run.own_and_sent_nodup (sendsOwn : SendsOwn history) :
    ((ownIn history ++ sentIn history).map Message.msgId).Nodup := by
  rw [List.map_append]
  refine List.nodup_append.mpr ⟨run.own_nodup, sendsOwn.sent_nodup, ?_⟩
  intro first early second late same
  obtain ⟨own, isOwn, rfl⟩ := List.mem_map.mp early
  obtain ⟨sent, isSent, rfl⟩ := List.mem_map.mp late
  exact run.passed_ne_own sendsOwn (sentIn_subset history isSent) isOwn same.symm

/-- No two requests of a history have one identifier. -/
theorem Run.request_msgIds_nodup (sendsOwn : SendsOwn history) :
    ((requestsIn history).map RequestLabel.msgId).Nodup := by
  have each : ((requestsIn history).map RequestLabel.msgId).Sublist
      ((history.flatMap fun occurrence => occurrence.own ++ occurrence.sent).map
        Message.msgId) := by
    rw [requestsIn, List.map_flatMap, List.map_flatMap]
    exact List.Sublist.flatMap_right history fun occurrence _ => occurrence.requests_msgIds
  have together := List.flatMap_append_perm history Occurrence.own Occurrence.sent
  exact ((together.map Message.msgId).nodup_iff.mp (run.own_and_sent_nodup sendsOwn)).sublist each

omit run in
/-- What is requested in a history has the identifier of a message that was built to be sent or that
a caller sent. -/
theorem exists_of_mem_requestsIn {label : RequestLabel} (made : label ∈ requestsIn history) :
    (∃ own ∈ ownIn history, own.msgId = label.msgId) ∨
      ∃ sent ∈ sentIn history, sent.msgId = label.msgId := by
  obtain ⟨occurrence, happened, requested⟩ := List.mem_flatMap.mp made
  have named := occurrence.requests_msgIds.subset (List.mem_map_of_mem requested)
  obtain ⟨message, among, same⟩ := List.mem_map.mp named
  rcases List.mem_append.mp among with own | sent
  · exact .inl ⟨message, List.mem_flatMap.mpr ⟨occurrence, happened, own⟩, same⟩
  · exact .inr ⟨message, List.mem_flatMap.mpr ⟨occurrence, happened, sent⟩, same⟩

end Runs

/-- The error with which a call fails. -/
def errorOf {α : Type} : Except ServiceError α → Option ServiceError
  | .error error => some error
  | .ok _ => none

/-- The error with which a call that sends a message fails. -/
def Event.error? (event : Event) (connection : Connection) : Option ServiceError :=
  match event with
  | .send message expectsReply => errorOf (Connection.send message expectsReply connection).1
  | .sendRaw message => errorOf (Connection.sendRaw message connection).1
  | .request now wanted => errorOf (Connection.request now wanted connection).2.1
  | .sendInput now value parent => errorOf (Connection.sendInput now value parent connection).1
  | .sendComm now comm outgoing => errorOf (Connection.sendComm now comm outgoing connection).1
  | .closeComm now comm data metadata =>
      errorOf (Connection.closeComm now comm data metadata connection).1
  | _ => none

/-- The error of a request whose identifier is taken by one that waits. -/
def alreadyPending (msgId : String) : ServiceError :=
  .invalidState ("a request with msg_id " ++ msgId ++ " is already pending")

variable {connection : Connection} {msgId : String}

theorem checkOpen_ne_alreadyPending (connection : Connection) (msgId : String) :
    connection.checkOpen ≠ .error (alreadyPending msgId) := by
  unfold checkOpen
  split
  · simp [disposedError, alreadyPending]
  · split <;> simp [alreadyPending]

theorem transmit_ne_alreadyPending (message : Message) (connection : Connection)
    (msgId : String) : (transmit message connection).1 ≠ .error (alreadyPending msgId) := by
  unfold transmit
  split
  · simp
  · split
    · simp [refuse, unencodable, alreadyPending]
    · split <;> simp

theorem sendRaw_ne_alreadyPending (message : Message) (connection : Connection)
    (msgId : String) : (sendRaw message connection).1 ≠ .error (alreadyPending msgId) := by
  unfold sendRaw
  split
  case h_1 error refused =>
    intro same
    cases same
    exact checkOpen_ne_alreadyPending connection msgId refused
  case h_2 => exact transmit_ne_alreadyPending message connection msgId

/-- A request is refused in this way only if one waits under its identifier. -/
theorem lookup_of_send_error {message : Message} {expectsReply : Bool}
    (failed : (send message expectsReply connection).1 = .error (alreadyPending msgId)) :
    (connection.pending.lookup message.msgId).isSome = true := by
  unfold send at failed
  split at failed
  case h_1 error refused =>
    cases failed
    exact absurd refused (checkOpen_ne_alreadyPending connection msgId)
  case h_2 =>
    split at failed
    case isTrue waits => exact waits
    case isFalse =>
      have sent := transmit_ne_alreadyPending message connection msgId
      split at failed
      case h_1 error change refused =>
        cases failed
        rw [refused] at sent
        exact absurd rfl sent
      case h_2 => cases failed

theorem eq_error_of_errorOf {α : Type} {result : Except ServiceError α} {error : ServiceError}
    (failed : errorOf result = some error) : result = .error error := by
  cases result with
  | ok value => cases failed
  | error other =>
      cases failed
      rfl

/-- A closed comm is refused with another error. -/
theorem lookup_of_sendComm_error {now : Instant} {comm : Comm} {outgoing : CommMessage}
    (failed : (sendComm now comm outgoing connection).1 = .error (alreadyPending msgId)) :
    comm.isClosed = false ∧
      (connection.pending.lookup (commMessage now outgoing connection).1.msgId).isSome = true := by
  unfold sendComm at failed
  split at failed
  case isTrue closed =>
    have texts : "comm " ++ comm.commId ++ " is closed" =
        "a request with msg_id " ++ msgId ++ " is already pending" := by
      simpa [refuse, alreadyPending] using failed
    have heads := congrArg (fun text : String => text.toList.head?) texts
    simp at heads
  case isFalse isOpen =>
    refine ⟨by simpa using isOpen, ?_⟩
    have sent : (send (commMessage now outgoing connection).1 false
        (commMessage now outgoing connection).2).1 = .error (alreadyPending msgId) := by
      dsimp only at failed
      cases result : (send (commMessage now outgoing connection).1 false
          (commMessage now outgoing connection).2).1 with
      | ok key =>
          rw [result] at failed
          cases failed
      | error error =>
          rw [result] at failed
          cases failed
          rfl
    have waits := lookup_of_send_error sent
    exact waits

/-- If a call fails because of its identifier, then a request waits under the identifier of a
message that the connection built to send it or that the caller passed. -/
theorem Occurrence.lookup_of_error {occurrence : Occurrence}
    (failed : occurrence.event.error? occurrence.before.connection = some (alreadyPending msgId)) :
    ∃ message ∈ occurrence.own ++ occurrence.passed,
      (occurrence.before.connection.pending.lookup message.msgId).isSome = true := by
  unfold own passed
  cases happened : occurrence.event with
  | send message expectsReply =>
      rw [happened] at failed
      exact ⟨message, by simp, lookup_of_send_error (eq_error_of_errorOf failed)⟩
  | sendRaw message =>
      rw [happened] at failed
      exact absurd (eq_error_of_errorOf failed) (sendRaw_ne_alreadyPending message _ msgId)
  | request now wanted =>
      rw [happened] at failed
      have waits := lookup_of_send_error (eq_error_of_errorOf failed)
      exact ⟨_, List.mem_singleton_self _, waits⟩
  | sendInput now value parent =>
      rw [happened] at failed
      exact absurd (eq_error_of_errorOf failed) (sendRaw_ne_alreadyPending _ _ msgId)
  | sendComm now comm outgoing =>
      rw [happened] at failed
      obtain ⟨isOpen, waits⟩ := lookup_of_sendComm_error (eq_error_of_errorOf failed)
      exact ⟨_, by simp [isOpen], waits⟩
  | closeComm now comm data metadata =>
      rw [happened] at failed
      have closed := eq_error_of_errorOf failed
      have sent := closeComm_result now comm data metadata occurrence.before.connection
      rw [closed] at sent
      obtain ⟨isOpen, waits⟩ := lookup_of_sendComm_error sent.symm
      exact ⟨_, by simp [isOpen], waits⟩
  | _ =>
      rw [happened] at failed
      cases failed

section Runs

variable {model : KernelModel} {clientId : String} {options : ConnectionOptions}
  {history : List Occurrence} {situation : Situation}

/-- If callers send their own messages, then no call fails because a request waits under its
identifier. -/
theorem Run.error_ne_alreadyPending (run : Run (.initial model clientId options) history situation)
    (sendsOwn : SendsOwn history) {occurrence : Occurrence} (happened : occurrence ∈ history)
    (msgId : String) :
    occurrence.event.error? occurrence.before.connection ≠ some (alreadyPending msgId) := by
  intro failed
  obtain ⟨message, among, waits⟩ := Occurrence.lookup_of_error failed
  obtain ⟨earlier, later, parts⟩ := List.append_of_mem happened
  obtain ⟨middle, first, second⟩ := run.split earlier (occurrence :: later) parts
  obtain ⟨met, -, -⟩ := second.of_cons
  obtain ⟨waiting, found⟩ := Option.isSome_iff_exists.mp waits
  have requested : ⟨message.msgId, waiting.key⟩ ∈ requestsIn earlier := by
    have label := mem_labels (mem_of_lookup found)
    rw [met] at label
    exact first.requests_settle_once.2.1 _ label
  have ownParts : ownIn history = ownIn earlier ++ (occurrence.own ++ ownIn later) := by
    simp [ownIn, parts]
  have isSentEarlier {sent : Message} (member : sent ∈ sentIn earlier) :
      sent ∈ passedIn history := by
    refine sentIn_subset history ?_
    simp only [sentIn, parts, List.flatMap_append]
    exact List.mem_append_left _ member
  rcases List.mem_append.mp among with own | passed
  · have isOwn : message ∈ ownIn history := by
      rw [ownParts]
      exact List.mem_append_right _ (List.mem_append_left _ own)
    rcases exists_of_mem_requestsIn requested with ⟨other, earlierOwn, same⟩ | ⟨sent, among, same⟩
    · have distinct := run.own_nodup
      rw [ownParts, List.map_append] at distinct
      exact (List.nodup_append.mp distinct).2.2 _ (List.mem_map_of_mem earlierOwn) _
        (List.mem_map_of_mem (List.mem_append_left _ own)) same
    · exact run.passed_ne_own sendsOwn (isSentEarlier among) isOwn same
  · have isPassed : message ∈ passedIn history :=
      List.mem_flatMap.mpr ⟨occurrence, happened, passed⟩
    rcases exists_of_mem_requestsIn requested with ⟨other, earlierOwn, same⟩ | ⟨sent, among, same⟩
    · have isOwn : other ∈ ownIn history := by
        rw [ownParts]
        exact List.mem_append_left _ earlierOwn
      exact run.passed_ne_own sendsOwn isPassed isOwn same.symm
    · exact sendsOwn.once earlier occurrence later parts message passed sent among same

/-- A message is streamed only to a request that was made with its parent. -/
theorem Run.streamed_to_parent (run : Run (.initial model clientId options) history situation)
    {key : Nat} {message : Message} (shown : (key, message) ∈ streamedIn (effectsOf history)) :
    ∃ label ∈ requestsIn history, label.key = key ∧ message.parentMsgId? = some label.msgId := by
  obtain ⟨effect, among, told⟩ := List.mem_filterMap.mp shown
  obtain ⟨occurrence, happened, shown⟩ := List.mem_flatMap.mp among
  have streamed : (key, message) ∈ streamedIn occurrence.effects :=
    List.mem_filterMap.mpr ⟨effect, shown, told⟩
  obtain ⟨earlier, later, parts⟩ := List.append_of_mem happened
  obtain ⟨middle, first, second⟩ := run.split earlier (occurrence :: later) parts
  obtain ⟨met, -, -⟩ := second.of_cons
  obtain ⟨entry, held, same, asked⟩ := Occurrence.exists_of_streamed streamed
  have label := mem_labels held
  rw [met] at label
  refine ⟨⟨entry.1, entry.2.key⟩, ?_, same, asked⟩
  rw [parts, requestsIn, List.flatMap_append]
  exact List.mem_append_left _ (first.requests_settle_once.2.1 _ label)

open PendingReply in
/-- The reply with which a request is settled was sent in answer to it. -/
theorem Run.settled_with_parent (run : Run (.initial model clientId options) history situation)
    {key : Nat} {reply : Message}
    (shown : (key, .ok (some reply)) ∈ settledIn (effectsOf history)) :
    ∃ label ∈ requestsIn history, label.key = key ∧ reply.parentMsgId? = some label.msgId := by
  obtain ⟨⟨settlements, conserved⟩, -, -⟩ := run.conserved rfl rfl
  have settled := shown
  rw [conserved.shown] at settled
  obtain ⟨settlement, among, same⟩ := List.mem_map.mp settled
  obtain ⟨rfl, outcome⟩ := Prod.mk.inj same
  have requested : settlement.label ∈ requestsIn history :=
    conserved.conserves.mem_iff.mpr (List.mem_append_left _ (List.mem_map_of_mem among))
  refine ⟨settlement.label, requested, rfl, ?_⟩
  obtain ⟨making, happened, made⟩ := List.mem_flatMap.mp requested
  obtain ⟨earlier, later, rfl⟩ := List.append_of_mem happened
  obtain ⟨middle, first, second⟩ := run.split earlier (making :: later) rfl
  obtain ⟨rfl, possible, after⟩ := second.of_cons
  obtain ⟨absent, once⟩ := conserved.outcomesOf_settled among
  rw [outcome] at once
  -- Whatever the request is settled with after it was made is this reply.
  have only (other : Outcome)
      (shown : (settlement.label.key, other) ∈ settledIn (effectsOf later)) :
      other = .ok (some reply) := by
    have whole := mem_outcomesOf.mpr (settledIn_subset_append (earlier ++ [making]) later shown)
    rw [List.append_assoc, List.singleton_append, once] at whole
    exact List.mem_singleton.mp whole
  cases (first.next making.event possible).progress after rfl rfl made with
  | waiting held => exact absurd (mem_labels held) absent
  | completed before last others answers incomplete complete told =>
      have same := only _ (settled_of_story told)
      have isLast : lastReply? (before ++ [last]) = some reply := Except.ok.inj same
      have member : reply ∈ answersTo settlement.label.msgId later := by
        have early := List.mem_of_mem_filter (List.mem_of_getLast? isLast)
        rw [answers, List.append_cons]
        exact List.mem_append_left _ early
      exact of_decide_eq_true (List.mem_filter.mp member).2
  | rejected error shown => cases only _ shown

/-- A message reaches a request if it is streamed to it, or if the request is settled with it. -/
def Reaches (message : Message) (key : Nat) (effects : List Effect) : Prop :=
  (key, message) ∈ streamedIn effects ∨ (key, .ok (some message)) ∈ settledIn effects

/-- In every run of a new connection the messages that it builds are numbered from the first one on,
so that, as long as they are fewer than a counter of 64 bits can number, no two of them have one
identifier, whatever the name of the client is; and it accepts nothing else but what callers pass.
If they pass only messages that were built for them, and none that was accepted before, then no call
fails because a request waits under its identifier, and a message reaches only the one request that
was made with its parent. -/
theorem Run.identifiers_unique (run : Run (.initial model clientId options) history situation)
    (few : (builtIn history).length < 2 ^ 64) :
    ((builtIn history).map Message.msgId =
        (List.range (builtIn history).length).map fun number =>
          s!"{clientId}_{UInt64.ofNat number}") ∧
      ((builtIn history).map Message.msgId).Nodup ∧
      situation.connection.nextMessage = (builtIn history).length ∧
      acceptedIn (effectsOf history) ⊆ builtIn history ++ passedIn history ∧
      (SendsOwn history →
        (∀ occurrence ∈ history, ∀ msgId,
          occurrence.event.error? occurrence.before.connection ≠ some (alreadyPending msgId)) ∧
        ((requestsIn history).map RequestLabel.msgId).Nodup ∧
        ∀ message key, Reaches message key (effectsOf history) →
          ∃ label ∈ requestsIn history, label.key = key ∧
            ∀ other ∈ requestsIn history,
              message.parentMsgId? = some other.msgId ↔ other = label) := by
  have numbering := run.numbering
  refine ⟨?_, run.built_msgIds_nodup, ?_, numbering.accepted, fun sendsOwn => ?_⟩
  · rw [run.built_msgIds]
    refine List.map_congr_left fun number member => ?_
    have small : number < 2 ^ 64 := Nat.lt_trans (List.mem_range.mp member) few
    have same : toString (UInt64.ofNat number) = toString number :=
      congrArg toString (UInt64.toNat_ofNat_of_lt' small)
    rw [identifier, same]
  · have counted := numbering.counted
    simpa [Situation.initial, create] using counted
  · have distinct := run.request_msgIds_nodup sendsOwn
    refine ⟨fun occurrence happened => run.error_ne_alreadyPending sendsOwn happened, distinct,
      fun message key reaches => ?_⟩
    obtain ⟨label, requested, same, asked⟩ := reaches.elim run.streamed_to_parent
      run.settled_with_parent
    refine ⟨label, requested, same, fun other made => ⟨fun named => ?_, fun itself => ?_⟩⟩
    · have ids := Option.some.inj (named.symm.trans asked)
      exact List.inj_on_of_nodup_map distinct made requested ids
    · rw [itself, asked]

end Runs

/-- A message is built for a caller, a request is made, and then the caller sends the message. -/
def sendingLate : List Event :=
  let message := (newMessage .epoch .shell "ping" .emptyObject Situation.usual.connection).1
  [.makeMessage .epoch .shell "ping" .emptyObject, .request .epoch .kernelInfo, .send message false]

theorem sendingLate_sendsOwn : SendsOwn (Situation.usual.occurrences sendingLate) where
  made := by
    intro occurrence happened message passes
    refine ⟨_, List.mem_of_getElem? (i := 0) rfl, ?_⟩
    have named : (Situation.usual.occurrences sendingLate).all (fun occurrence =>
        occurrence.passed.all fun message => message.msgId = "client_0") = true := by
      decide +kernel
    have same := List.all_eq_true.mp (List.all_eq_true.mp named occurrence happened) message passes
    exact (of_decide_eq_true same).symm
  once := by
    intro earlier occurrence later parts message passes sent isSent
    -- Only the last event sends a message of the caller.
    have silent : ∀ count < 3,
        (sentIn ((Situation.usual.occurrences sendingLate).take count)).isEmpty = true := by
      decide +kernel
    have few : earlier.length < 3 := by
      have total := congrArg List.length parts
      rw [List.length_append, List.length_cons] at total
      have three : (Situation.usual.occurrences sendingLate).length = 3 := rfl
      omega
    have none := silent earlier.length few
    rw [parts, List.take_left] at none
    rw [List.isEmpty_iff.mp none] at isSent
    cases isSent

theorem identifiers_unique_sendingLate :
    Situation.usual.allows sendingLate = true ∧
      (builtIn (Situation.usual.occurrences sendingLate)).length < 2 ^ 64 ∧
      (builtIn (Situation.usual.occurrences sendingLate)).map Message.msgId =
        ["client_0", "client_1"] ∧
      ((requestsIn (Situation.usual.occurrences sendingLate)).map RequestLabel.msgId).Nodup := by
  have allowed : Situation.usual.allows sendingLate = true := rfl
  have few : (builtIn (Situation.usual.occurrences sendingLate)).length < 2 ^ 64 := by
    decide +kernel
  obtain ⟨named, -, -, -, unique⟩ := (run_of_allows sendingLate allowed).identifiers_unique few
  exact ⟨allowed, few, named, (unique sendingLate_sendsOwn).2.1⟩

end KernelClient.Connection
