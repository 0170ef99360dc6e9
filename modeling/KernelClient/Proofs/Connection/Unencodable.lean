import KernelClient.Proofs.Connection.Outbound
import KernelClient.Proofs.Connection.Requests

/-!
# Requests whose messages were left out

A message that is refused by an open socket makes no request. One that waits for a socket has made
its request already when it turns out that it has no frame; it is left out then, and its request
goes on waiting. This is the only way in which the message of a waiting request can disappear: when
a connection is cleared, the requests go together with the messages.
-/

namespace KernelClient.Connection

variable {occurrence : Occurrence} {before : Connection} {change : Change}
  {requests : List RequestLabel}

/-- Whether an effect shows that a connection was cleared. -/
def Effect.isClearing : Effect → Bool
  | .status .dead | .status .autoRestarting | .disposed => true
  | _ => false

theorem Transmission.all_not_isClearing {message : Message} {call : Call Unit}
    (transmission : Transmission message before call) :
    ∀ effect ∈ call.2.2, effect.isClearing = false := by
  cases transmission <;> simp [refuse, unchanged, enqueue, Effect.isClearing]

theorem Answering.all_not_isClearing {msgId : String} {waiting : PendingReply} {message : Message}
    (answered : Answering msgId waiting message before change) :
    ∀ effect ∈ change.2, effect.isClearing = false := by
  cases answered <;> simp [Effect.isClearing]

theorem isClearing_status {status : KernelStatus} (survives : status ≠ .dead)
    (continues : status ≠ .autoRestarting) : Effect.isClearing (.status status) = false := by
  cases status with
  | dead => exact absurd rfl survives
  | autoRestarting => exact absurd rfl continues
  | _ => rfl

theorem isClearing_of_isAside {effect : Effect} (aside : effect.isAside) :
    effect.isClearing = false := by
  cases effect with
  | status | disposed => cases aside
  | _ => rfl

/-- A part that shows that the connection was cleared leaves no request. It belongs to an event that
can change the status or dispose the connection. -/
theorem Part.pending_of_isClearing (part : Part occurrence before change requests)
    {effect : Effect} (shown : effect ∈ change.2) (clearing : effect.isClearing = true) :
    change.1.pending = [] ∧
      (occurrence.event.setsStatus = true ∨ occurrence.event.disposes = true) := by
  have silent (quiet : effect.isClearing = false) : False := by
    cases clearing.symm.trans quiet
  cases part with
  | aside kept plain => exact (silent (isClearing_of_isAside (plain effect shown))).elim
  | send sending =>
      cases sending with
      | refused error => cases shown
      | kept accepts fresh transmitted =>
          exact (silent (transmitted.all_not_isClearing effect shown)).elim
  | sendRaw transmission =>
      exact (silent (transmission.all_not_isClearing effect shown)).elim
  | setStatus sets changed =>
      cases changed with
      | same => cases shown
      | plain alive survives continues =>
          cases List.mem_singleton.mp shown
          exact (silent (isClearing_status survives continues)).elim
      | died | autoRestarted => exact ⟨rfl, .inl sets⟩
  | enter => cases shown
  | dropSocket plain => exact (silent (isClearing_of_isAside (plain effect shown))).elim
  | dispose ends =>
      cases disposed : before.isDisposed with
      | true =>
          rw [dispose_again disposed] at shown
          cases shown
      | false => exact ⟨by rw [dispose_first disposed], .inr ends⟩
  | clear answered =>
      exact ⟨rfl, .inl (by rw [answered]; rfl)⟩
  | answer read asked held waits answered =>
      exact (silent (answered.all_not_isClearing effect shown)).elim
  | flush =>
      rcases flush_effects _ _ effect shown with ⟨_, _, rfl⟩ | ⟨_, rfl⟩ <;> cases clearing
  | install => cases shown
  | outputBroken => cases shown

/-- After an event that shows that the connection was cleared, only requests wait that were made in
this event. -/
theorem Composed.labels_of_isClearing (composed : Composed occurrence before change requests)
    (tidy : Tidy before) {effect : Effect} (shown : effect ∈ change.2)
    (clearing : effect.isClearing = true) :
    labels change.1 ⊆ requests ∧
      (occurrence.event.setsStatus = true ∨ occurrence.event.disposes = true) := by
  induction composed with
  | part part =>
      obtain ⟨empty, can⟩ := part.pending_of_isClearing shown clearing
      refine ⟨?_, can⟩
      rw [labels, empty]
      exact List.nil_subset _
  | append start rest first second =>
      obtain ⟨⟨_, turnover⟩, middle⟩ := start.turnover tidy
      rcases List.mem_append.mp shown with early | late
      · obtain ⟨fresh, can⟩ := first tidy early
        obtain ⟨⟨gone, further⟩, -⟩ := rest.turnover middle
        refine ⟨fun label waits => ?_, can⟩
        have earlier := further.conserves.mem_iff.mpr (List.mem_append_right _ waits)
        rcases List.mem_append.mp earlier with kept | made
        · exact List.mem_append_left _ (fresh kept)
        · exact List.mem_append_right _ made
      · obtain ⟨fresh, can⟩ := second middle late
        exact ⟨fun label waits => List.mem_append_right _ (fresh waits), can⟩

/-- The answer to a restart leaves no request. -/
theorem pending_restartAnswered {connection : Connection} (tidy : Tidy connection) :
    (Event.change (.restartAnswered true) connection).1.pending = [] := by
  cases disposed : connection.isDisposed with
  | true =>
      simp only [Event.change, restarted, disposed, if_true]
      exact tidy.disposed disposed
  | false => simp [Event.change, restarted, disposed, Change.andThen, clear]

theorem Event.requests_of_clearing {event : Event} (connection : Connection)
    (can : event.setsStatus = true ∨ event.disposes = true) : event.requests connection = [] := by
  cases event with
  | send | request | sendComm | closeComm => rcases can with can | can <;> cases can
  | _ => rfl

/-- After an event that clears the connection no request waits. -/
theorem Occurrence.labels_of_clears (occurrence : Occurrence)
    (possible : occurrence.event.isPossible occurrence.before = true)
    (sound : SocketSound occurrence.before.connection)
    (tidy : Tidy occurrence.before.connection) {cause : Clearing}
    (clears : Clears occurrence.event occurrence.effects cause) :
    labels occurrence.after.connection = [] := by
  have composed := occurrence.composed sound possible
  have ofShown {effect : Effect} (shown : effect ∈ occurrence.effects)
      (clearing : effect.isClearing = true) : labels occurrence.after.connection = [] := by
    obtain ⟨fresh, can⟩ := composed.labels_of_isClearing tidy shown clearing
    rw [Occurrence.requests, Event.requests_of_clearing _ can] at fresh
    exact List.subset_nil.mp fresh
  cases cause with
  | death => exact ofShown clears rfl
  | autoRestart => exact ofShown clears rfl
  | disposal => exact ofShown clears rfl
  | restart =>
      have answered : occurrence.event = .restartAnswered true := clears
      have empty := pending_restartAnswered tidy
      rw [← answered] at empty
      exact List.map_eq_nil_iff.mpr empty

/-- Whether a request was made with a message that has a place among all that were accepted. -/
def IsPlaced (history : List Occurrence) (label : RequestLabel) (message : Message)
    (place : Nat) : Prop :=
  ∃ earlier occurrence later, history = earlier ++ occurrence :: later ∧
    label ∈ occurrence.requests ∧
    occurrence.event.offer? occurrence.before.connection = some (message, true) ∧
    (acceptedIn (effectsOf earlier)).length = place

theorem isOk_of_mem_labelOf {label : RequestLabel} {msgId : String}
    {result : Except ServiceError Nat} (made : label ∈ labelOf msgId result) :
    result.isOk = true ∧ msgId = label.msgId := by
  cases result with
  | error => cases made
  | ok key =>
      cases List.mem_singleton.mp made
      exact ⟨rfl, rfl⟩

theorem isOk_of_sendComm {label : RequestLabel} {now : Instant} {comm : Comm}
    {outgoing : CommMessage} {connection : Connection}
    (made : label ∈ labelOfComm (sendComm now comm outgoing connection).1) :
    (sendComm now comm outgoing connection).1.isOk = true ∧
      (commMessage now outgoing connection).1.msgId = label.msgId := by
  unfold sendComm at made ⊢
  split at made
  · cases made
  case isFalse opened =>
    rw [if_neg opened]
    rw [labelOfComm_map] at made
    obtain ⟨succeeds, same⟩ := isOk_of_mem_labelOf made
    refine ⟨?_, same⟩
    cases sent : (send (commMessage now outgoing connection).1 false
        (commMessage now outgoing connection).2).1 with
    | ok key => simp [sent, Except.map, Except.isOk, Except.toBool]
    | error error =>
        rw [sent] at succeeds
        cases succeeds

theorem isOk_of_closeComm {label : RequestLabel} {now : Instant} {comm : Comm} {data : Json}
    {metadata : Option Json} {connection : Connection}
    (made : label ∈
      labelOfComm ((closeComm now comm data metadata connection).1.map Prod.snd)) :
    (closeComm now comm data metadata connection).1.isOk = true ∧
      (commMessage now (.closing comm data metadata) connection).1.msgId = label.msgId := by
  have sending (made : label ∈
      labelOfComm (sendComm now comm (.closing comm data metadata) connection).1) :=
    (isOk_of_sendComm made).2
  unfold closeComm at made ⊢
  split at made
  · cases made
  case h_2 msgId key change sent =>
    rw [sent] at sending
    exact ⟨rfl, sending made⟩

/-- A request is made with a message that is handed over and accepted, under its identifier. -/
theorem Event.offer_of_requests {event : Event} {connection : Connection} {label : RequestLabel}
    (made : label ∈ event.requests connection) :
    ∃ message, event.offer? connection = some (message, true) ∧ message.msgId = label.msgId := by
  cases event with
  | send message expectsReply =>
      obtain ⟨succeeds, same⟩ := isOk_of_mem_labelOf made
      exact ⟨message, congrArg (fun succeeds => some (_, succeeds)) succeeds, same⟩
  | request now wanted =>
      obtain ⟨succeeds, same⟩ := isOk_of_mem_labelOf made
      exact ⟨_, congrArg (fun succeeds => some (_, succeeds)) succeeds, same⟩
  | sendComm now comm outgoing =>
      obtain ⟨succeeds, same⟩ := isOk_of_sendComm made
      exact ⟨_, congrArg (fun succeeds => some (_, succeeds)) succeeds, same⟩
  | closeComm now comm data metadata =>
      obtain ⟨succeeds, same⟩ := isOk_of_closeComm made
      exact ⟨_, congrArg (fun succeeds => some (_, succeeds)) succeeds, same⟩
  | _ => cases made

theorem IsPlaced.next {history : List Occurrence} {label : RequestLabel} {message : Message}
    {place : Nat} (placed : IsPlaced history label message place) (occurrence : Occurrence) :
    IsPlaced (history ++ [occurrence]) label message place := by
  obtain ⟨earlier, making, later, rfl, made⟩ := placed
  exact ⟨earlier, making, later ++ [occurrence], by simp, made⟩

/-- The message with which a request was made is found at its place. -/
theorem IsPlaced.getElem? {history : List Occurrence} {label : RequestLabel} {message : Message}
    {place : Nat} (placed : IsPlaced history label message place) :
    (acceptedIn (effectsOf history))[place]? = some message ∧ message.msgId = label.msgId := by
  obtain ⟨earlier, making, later, rfl, made, offer, rfl⟩ := placed
  have accepted := making.event.acceptedIn_of_offer making.before.connection offer
  constructor
  · have parts : acceptedIn (effectsOf (earlier ++ making :: later)) =
        acceptedIn (effectsOf earlier) ++ message :: acceptedIn (effectsOf later) := by
      simp only [effectsOf, List.flatMap_append, List.flatMap_cons, acceptedIn_append]
      exact congrArg (_ ++ ·) (congrArg (· ++ _) accepted)
    rw [parts]
    simp
  · obtain ⟨offered, again, same⟩ := Event.offer_of_requests made
    cases offer.symm.trans again
    exact same

/-- Whether the message of each request that waits has a place, from which it was not cleared. -/
def Traced (history : List Occurrence) (connection : Connection) (departures : List Departure) :
    Prop :=
  ∀ label ∈ labels connection, ∃ message place, IsPlaced history label message place ∧
    ∀ departure cause, departures[place]? = some departure → departure.fate ≠ .cleared cause

theorem Traced.next {history : List Occurrence} {departures gone : List Departure}
    (traced : Traced history occurrence.before.connection departures)
    (balanced : Balanced history occurrence.before.connection.queue departures)
    (passage : Passage occurrence.event occurrence.after.sockets occurrence.before.connection
      (occurrence.event.change occurrence.before.connection) gone)
    (possible : occurrence.event.isPossible occurrence.before = true)
    (sound : SocketSound occurrence.before.connection)
    (tidy : Tidy occurrence.before.connection) :
    Traced (history ++ [occurrence]) occurrence.after.connection (departures ++ gone) := by
  intro label waits
  -- While a request waits after the event, nothing was cleared in it.
  have uncleared : ∀ departure ∈ gone, ∀ cause, departure.fate ≠ .cleared cause := by
    intro departure left cause cleared
    cases passage.due departure left with
    | handed | unencodable => cases cleared
    | cleared clears =>
        rw [occurrence.labels_of_clears possible sound tidy clears] at waits
        cases waits
  obtain ⟨⟨settled, turnover⟩, -⟩ := occurrence.turnover possible sound tidy
  have origin := turnover.conserves.mem_iff.mpr (List.mem_append_right _ waits)
  rcases List.mem_append.mp origin with waited | made
  · obtain ⟨message, place, placed, kept⟩ := traced label waited
    refine ⟨message, place, placed.next occurrence, fun departure cause found => ?_⟩
    rcases Nat.lt_or_ge place departures.length with early | late
    · rw [List.getElem?_append_left early] at found
      exact kept departure cause found
    · rw [List.getElem?_append_right late] at found
      exact uncleared departure (List.mem_of_getElem? found) cause
  · obtain ⟨message, offer, -⟩ := Event.offer_of_requests made
    refine ⟨message, _, ⟨history, occurrence, [], rfl, made, offer, rfl⟩,
      fun departure cause found => ?_⟩
    have late : departures.length ≤ (acceptedIn (effectsOf history)).length := by
      simp [balanced.accepted]
    rw [List.getElem?_append_right late] at found
    exact uncleared departure (List.mem_of_getElem? found) cause

variable {start situation : Situation} {history : List Occurrence}

/-- In a run that starts without a socket, messages and requests the message of each request that
waits is traced in the ledger. -/
theorem Run.traced (run : Run start history situation) (free : start.connection.socket = none)
    (empty : start.connection.queue = []) (idle : start.connection.pending = []) :
    ∃ departures, Balanced history situation.connection.queue departures ∧
      Traced history situation.connection departures := by
  induction run with
  | start =>
      refine ⟨[], ⟨.start, ?_, rfl⟩, fun label waits => ?_⟩
      · rw [empty]
        rfl
      · rw [labels, idle] at waits
        cases waits
  | @next history before run event possible earlier =>
      obtain ⟨departures, balanced, traced⟩ := earlier
      have sound := run.sound (.ofFree free)
      obtain ⟨⟨gone, passage⟩, -⟩ := Occurrence.passage ⟨before, event⟩ possible sound
        (run.balanced free empty).2
      have tidy := (run.conserved free idle).2.1
      exact ⟨departures ++ gone, balanced.next passage,
        traced.next balanced passage possible sound tidy⟩

/-- Whether the message at a place waits or was handed to a socket. -/
def IsUnderWay (departures : List Departure) (place : Nat) : Prop :=
  departures.length ≤ place ∨
    ∃ departure socket frame, departures[place]? = some departure ∧
      departure.fate = .handed socket frame

/-- Whether the message at a place has no frame under the protocol of a socket that was opened while
the message was waiting. -/
def IsLeftOut (sockets : List WireProtocol) (departures : List Departure) (place : Nat) : Prop :=
  ∃ departure socket protocol fault, departures[place]? = some departure ∧
    departure.fate = .unencodable socket ∧ sockets[socket]? = some protocol ∧
    departure.message.encode protocol = .error fault

/-- In every run the message of each request that waits has a place among all messages that were
accepted. It waits too or was handed to a socket, unless it was waiting when a socket was opened
under whose protocol it has no frame. -/
theorem Run.underWay_iff_not_leftOut {model : KernelModel} {clientId : String}
    {options : ConnectionOptions} (run : Run (.initial model clientId options) history situation) :
    ∃ departures, Ledger history departures ∧
      acceptedIn (effectsOf history) =
        departures.map Departure.message ++ situation.connection.queue ∧
      ∀ label ∈ labels situation.connection, ∃ message place,
        IsPlaced history label message place ∧
        (acceptedIn (effectsOf history))[place]? = some message ∧
        message.msgId = label.msgId ∧
        (IsUnderWay departures place ↔ ¬IsLeftOut situation.sockets departures place) := by
  obtain ⟨departures, balanced, traced⟩ := run.traced rfl rfl rfl
  refine ⟨departures, balanced.ledger, balanced.accepted, fun label waits => ?_⟩
  obtain ⟨message, place, placed, uncleared⟩ := traced label waits
  obtain ⟨found, named⟩ := placed.getElem?
  refine ⟨message, place, placed, found, named, ?_, fun notLeftOut => ?_⟩
  · rintro underWay ⟨departure, socket, protocol, fault, left, fate, -⟩
    rcases underWay with waiting | ⟨other, number, frame, handed, taken⟩
    · rw [List.getElem?_eq_none waiting] at left
      cases left
    · cases left.symm.trans handed
      cases fate.symm.trans taken
  · rcases Nat.lt_or_ge place departures.length with gone | waiting
    · have atPlace := List.getElem?_eq_getElem gone
      rcases run.fate_of_mem balanced.ledger (List.getElem_mem gone) with
        ⟨socket, protocol, frame, handed, -⟩ | ⟨socket, protocol, fault, leftOut⟩ |
          ⟨cause, cleared, -⟩
      · exact .inr ⟨_, socket, frame, atPlace, handed⟩
      · exact absurd ⟨_, socket, protocol, fault, atPlace, leftOut⟩ notLeftOut
      · exact absurd cleared (uncleared _ cause atPlace)
    · exact .inl waiting

/-- A message without a channel that waits when a socket with the segmented framing is opened. -/
def withoutChannel : List Event :=
  let message : Message :=
    { Message.create .shell "ping" "1" "client" "" .emptyObject .epoch with channel := none }
  [.beginConnecting, .send message true, .connected ⟨0, .v1, none⟩]

theorem leftOut_without_channel :
    Situation.usual.allows withoutChannel = true ∧
      ∃ departures, Ledger (Situation.usual.occurrences withoutChannel) departures ∧
        ∃ message place,
          IsPlaced (Situation.usual.occurrences withoutChannel) ⟨"1", 0⟩ message place ∧
          (IsUnderWay departures place ↔
            ¬IsLeftOut (Situation.usual.afterAll withoutChannel).sockets departures place) := by
  have allowed : Situation.usual.allows withoutChannel = true := rfl
  obtain ⟨departures, ledger, -, traced⟩ :=
    Run.underWay_iff_not_leftOut (run_of_allows withoutChannel allowed)
  obtain ⟨message, place, placed, -, -, condition⟩ := traced ⟨"1", 0⟩ (List.mem_singleton_self _)
  exact ⟨allowed, departures, ledger, message, place, placed, condition⟩

/-- A request may wait although no message waits and none was handed to a socket. -/
theorem waits_without_message :
    ¬∀ history situation, Run .usual history situation → situation.connection.pending ≠ [] →
      situation.connection.queue ≠ [] ∨ handedIn (effectsOf history) ≠ [] := by
  intro underWay
  have run : Run .usual _ _ := run_of_allows withoutChannel rfl
  rcases underWay _ _ run (List.cons_ne_nil _ _) with waiting | handed
  · exact waiting rfl
  · exact handed rfl

end KernelClient.Connection
