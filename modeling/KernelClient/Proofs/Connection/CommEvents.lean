import KernelClient.Proofs.Connection.Routes
import Mathlib.Data.List.Nodup

/-!
# What the holders of comms are told

A message of a comm is handed to the comm that is registered under its identifier when it arrives.
Two comms of one connection never have the same number, so what is handed on under the number of a
comm was meant for it, even if its identifier is used again. A comm that the kernel closes loses its
route with that message, and with it everything that comes later.
-/

namespace KernelClient

/-- The message that an event brings. -/
def CommEvent.carried : CommEvent → Message
  | .message told | .close told => told

/-- What the holder of a comm is told of a message. -/
def Message.commEvent? (message : Message) : Option CommEvent :=
  if message.msgType = "comm_msg" then some (.message message)
  else if message.msgType = "comm_close" then some (.close message)
  else none

theorem Message.carried_of_commEvent? {message : Message} {event : CommEvent}
    (told : message.commEvent? = some event) : event.carried = message := by
  unfold commEvent? at told
  split at told
  · cases told
    rfl
  · split at told <;> cases told
    rfl

theorem Message.close_of_commEvent? {message last : Message}
    (told : message.commEvent? = some (.close last)) : message.msgType = "comm_close" := by
  unfold commEvent? at told
  split at told
  · cases told
  · split at told
    · assumption
    · cases told

namespace Connection

def Effect.deliveredTo? (key : Nat) : Effect → Option CommEvent
  | .delivered comm event => if comm = key then some event else none
  | _ => none

/-- What the holder of a comm is told, by the number of the comm. -/
def eventsFor (key : Nat) (effects : List Effect) : List CommEvent :=
  effects.filterMap (Effect.deliveredTo? key)

/-- What the holder of a comm should be told: the message that is handed on, if it carries the
identifier of the comm and arrives while the comm's own route is in the table. -/
def Occurrence.eventFor? (comm : Comm) (occurrence : Occurrence) : Option CommEvent :=
  occurrence.dispatched?.bind fun message =>
    if comm.route ∈ occurrence.before.connection.comms ∧ message.commId? = some comm.commId then
      message.commEvent?
    else none

theorem eventsFor_commsIn (key : Nat) (effects : List Effect) :
    eventsFor key (commsIn effects) = eventsFor key effects := by
  rw [eventsFor, commsIn, List.filterMap_filter]
  congr 1
  funext effect
  cases effect <;> rfl

theorem mem_eventsFor {key : Nat} {event : CommEvent} {effects : List Effect} :
    event ∈ eventsFor key effects ↔ .delivered key event ∈ effects := by
  refine List.mem_filterMap.trans ⟨?_, fun member => ⟨_, member, if_pos rfl⟩⟩
  rintro ⟨effect, member, shown⟩
  cases effect with
  | delivered other told =>
      rw [Effect.deliveredTo?] at shown
      split at shown
      case isTrue same =>
        cases shown
        exact same ▸ member
      case isFalse => cases shown
  | _ => cases shown

/-- Whether the number of a comm is used for no other identifier. -/
def OwnsKey (comm : Comm) (connection : Connection) : Prop :=
  ∀ entry ∈ connection.comms, entry.2 = comm.key → entry = comm.route

variable {comm : Comm} {connection : Connection}

/-- The comm that is found under an identifier is a given one exactly if its route is in the table
and the identifier is its own. -/
theorem OwnsKey.lookup_iff (owns : OwnsKey comm connection)
    (distinct : (connection.comms.map Prod.fst).Nodup) {commId : String} :
    connection.comms.lookup commId = some comm.key ↔
      comm.route ∈ connection.comms ∧ commId = comm.commId := by
  constructor
  · intro found
    have registered := mem_of_lookup found
    have same := owns _ registered rfl
    exact ⟨same ▸ registered, congrArg Prod.fst same⟩
  · rintro ⟨registered, rfl⟩
    exact lookup_of_mem distinct registered

theorem IsOutward.eventsFor_eq_nil {change : Change} (outward : IsOutward change) (key : Nat) :
    eventsFor key change.2 = [] := by
  have nothing : commsIn change.2 = [] := by
    rw [← commsIn_inboundIn, outward]
    rfl
  rw [← eventsFor_commsIn, nothing]
  rfl

/-- A comm that is opened is told nothing yet. -/
theorem eventsFor_acceptComm (key : Nat) (now : Instant) (commId : String) (opening : Message)
    (connection : Connection) :
    eventsFor key (acceptComm now commId opening connection).2 = [] := by
  unfold acceptComm
  split
  · rfl
  · split
    · refine IsOutward.eventsFor_eq_nil (IsOutward.andThen ?_ (isOutward_rejectComm ..)) key
      rfl
    · dsimp only
      split
      · rfl
      · refine IsOutward.eventsFor_eq_nil ((isOutward_unregisterComm commId _).andThen ?_) key
        refine IsOutward.andThen ?_ ?_
        · rfl
        · exact (isOutward_removeTarget _ _).andThen (isOutward_rejectComm ..)

/-- What is handed on of a message goes to the comm that is found under its identifier. -/
theorem eventsFor_routeComm {message : Message} {commId : String}
    (named : message.commId? = some commId) (key : Nat) (now : Instant)
    (connection : Connection) :
    eventsFor key (routeComm now message connection).2 =
      if connection.comms.lookup commId = some key then message.commEvent?.toList else [] := by
  have comm : message.isComm = true := by
    by_contra other
    simp [Message.commId?, other] at named
  simp only [routeComm, named]
  by_cases opening : message.msgType = "comm_open"
  · simp [opening, eventsFor_acceptComm, Message.commEvent?]
  rw [if_neg opening]
  by_cases sending : message.msgType = "comm_msg"
  · have told : message.commEvent? = some (.message message) := if_pos sending
    rw [if_pos sending, told]
    cases connection.comms.lookup commId with
    | none => rfl
    | some other => by_cases same : other = key <;> simp [eventsFor, Effect.deliveredTo?, same]
  · have closing : message.msgType = "comm_close" := by
      simpa [Message.isComm, Message.isCommType, opening, sending] using comm
    have told : message.commEvent? = some (.close message) :=
      (if_neg sending).trans (if_pos closing)
    rw [if_neg sending, told]
    cases connection.comms.lookup commId with
    | none => rfl
    | some other => by_cases same : other = key <;> simp [eventsFor, Effect.deliveredTo?, same]

/-- What is handed on to the comm with a number: the message, if the comm is found under its
identifier. -/
def Occurrence.handed? (key : Nat) (occurrence : Occurrence) : Option CommEvent :=
  occurrence.dispatched?.bind fun message =>
    message.commId?.bind fun commId =>
      if occurrence.before.connection.comms.lookup commId = some key then message.commEvent?
      else none

theorem Occurrence.eventsFor_effects (occurrence : Occurrence) (key : Nat) :
    eventsFor key occurrence.effects = (occurrence.handed? key).toList := by
  cases arrives : occurrence.dispatched? with
  | none =>
      have outward : IsOutward (occurrence.after.connection, occurrence.effects) :=
        inboundIn_eq_nil arrives
      rw [outward.eventsFor_eq_nil, handed?, arrives]
      rfl
  | some message =>
      obtain ⟨now, frame, -, dispatched⟩ := Occurrence.dispatched arrives
      rw [handed?, arrives, Option.bind_some, ← eventsFor_commsIn]
      cases isComm : message.isComm with
      | false =>
          have anonymous : message.commId? = none := by simp [Message.commId?, isComm]
          have silent : commsIn occurrence.effects = [] := (dispatched.other isComm).2
          rw [silent, anonymous]
          rfl
      | true =>
          have handed : commsIn occurrence.effects = _ := (dispatched.comm isComm).2
          rw [handed, eventsFor_commsIn]
          cases named : message.commId? with
          | none =>
              simp only [routeComm, named]
              rfl
          | some commId =>
              rw [eventsFor_routeComm named, delivered_comms isComm, Option.bind_some]
              split <;> rfl

/-- The holder of a comm is told what it should be told. -/
theorem Occurrence.handed?_eq_eventFor? {occurrence : Occurrence}
    (owns : OwnsKey comm occurrence.before.connection)
    (distinct : (occurrence.before.connection.comms.map Prod.fst).Nodup) :
    occurrence.handed? comm.key = occurrence.eventFor? comm := by
  unfold handed? eventFor?
  congr 1
  funext message
  cases named : message.commId? with
  | none => simp
  | some commId => simp only [Option.bind_some, owns.lookup_iff distinct, Option.some.injEq]

theorem Occurrence.eventFor?_eq_some {occurrence : Occurrence} {event : CommEvent}
    (told : occurrence.eventFor? comm = some event) :
    comm.route ∈ occurrence.before.connection.comms ∧ ∃ message,
      occurrence.dispatched? = some message ∧ message.commId? = some comm.commId ∧
        message.commEvent? = some event := by
  obtain ⟨message, arrives, told⟩ := Option.bind_eq_some_iff.mp told
  split at told
  case isTrue own => exact ⟨own.1, message, arrives, own.2, told⟩
  case isFalse => cases told

/-- The message that closes a comm takes its route away. -/
theorem Occurrence.gone_of_close {occurrence : Occurrence} {last : Message}
    (told : occurrence.eventFor? comm = some (.close last)) :
    comm.route ∉ occurrence.after.connection.comms := by
  obtain ⟨-, message, arrives, named, closes⟩ := eventFor?_eq_some told
  rw [comms_of_close arrives (Message.close_of_commEvent? closes) named]
  exact fun registered => (mem_erase.mp registered).2 rfl

variable {start situation : Situation} {history : List Occurrence}

/-- The table that an event meets belongs to the history before it. -/
theorem Run.routed_before (run : Run start history situation) (empty : start.connection.comms = [])
    {occurrence : Occurrence} (happened : occurrence ∈ history) :
    ∃ earlier, earlier ⊆ history ∧ Routed earlier occurrence.before.connection := by
  obtain ⟨earlier, later, rfl⟩ := List.append_of_mem happened
  obtain ⟨middle, first, second⟩ := run.split earlier (occurrence :: later) rfl
  obtain ⟨rfl, -, -⟩ := second.of_cons
  exact ⟨earlier, List.subset_append_left _ _, first.routed empty⟩

/-- A comm that was opened at any time shares its number with no other, so that it owns it in every
situation of the run. -/
theorem Run.ownsKey (run : Run start history situation) (empty : start.connection.comms = [])
    (opened : comm ∈ openedIn history) {occurrence : Occurrence} (happened : occurrence ∈ history) :
    OwnsKey comm occurrence.before.connection := by
  obtain ⟨earlier, included, routed⟩ := run.routed_before empty happened
  intro entry registered sameKey
  obtain ⟨other, openedEarlier, rfl⟩ := routed.origin entry registered
  have among : other ∈ openedIn history := openedIn_subset included openedEarlier
  exact congrArg Comm.route
    (List.inj_on_of_nodup_map (run.routed empty).distinct among opened sameKey)

/-- Over a run the holder of a comm is told what it should be told, in order. -/
theorem Run.eventsFor_eq (run : Run start history situation) (empty : start.connection.comms = [])
    (opened : comm ∈ openedIn history) :
    eventsFor comm.key (effectsOf history) = history.filterMap (Occurrence.eventFor? comm) := by
  have each : ∀ occurrence ∈ history,
      eventsFor comm.key occurrence.effects = (occurrence.eventFor? comm).toList := by
    intro occurrence happened
    obtain ⟨earlier, -, routed⟩ := run.routed_before empty happened
    have owns := run.ownsKey empty opened happened
    rw [occurrence.eventsFor_effects, Occurrence.handed?_eq_eventFor? owns routed.names]
  rw [eventsFor, effectsOf, List.filterMap_flatMap, List.filterMap_eq_flatMap_toList]
  exact List.flatMap_congr each

/-- Once the holder of a comm was told that it is closed, its route is gone for good. -/
theorem Run.gone_after_close (run : Run start history situation)
    (empty : start.connection.comms = []) {last : Message}
    (closed : .close last ∈ history.filterMap (Occurrence.eventFor? comm)) :
    comm.key < situation.connection.nextKey ∧ comm.route ∉ situation.connection.comms := by
  induction run with
  | start => cases closed
  | @next history before run event possible earlier =>
      have rerouting := Occurrence.rerouting ⟨before, event⟩
      have numbered : comm.key < before.connection.nextKey →
          comm.key < (before.after event).connection.nextKey :=
        fun below => Nat.lt_of_lt_of_le below rerouting.ascends
      rw [List.filterMap_append] at closed
      rcases List.mem_append.mp closed with before | now
      · obtain ⟨below, gone⟩ := earlier before
        exact ⟨numbered below, rerouting.stays_gone below gone⟩
      · obtain ⟨occurrence, last, told⟩ := List.mem_filterMap.mp now
        cases List.mem_singleton.mp last
        obtain ⟨registered, -⟩ := Occurrence.eventFor?_eq_some told
        exact ⟨numbered ((run.routed empty).key_lt registered), Occurrence.gone_of_close told⟩

/-- Nothing comes after the message that closes a comm. -/
theorem Run.close_is_last (run : Run start history situation)
    (empty : start.connection.comms = []) :
    ∀ early last late,
      history.filterMap (Occurrence.eventFor? comm) = early ++ .close last :: late → late = [] := by
  induction run with
  | start =>
      intro early last late parts
      simp at parts
  | @next history before run event possible earlier =>
      intro early last late parts
      rw [List.filterMap_append] at parts
      cases told : Occurrence.eventFor? comm ⟨before, event⟩ with
      | none =>
          rw [List.filterMap_cons_none told, List.filterMap_nil, List.append_nil] at parts
          exact earlier early last late parts
      | some now =>
          rw [List.filterMap_cons_some told, List.filterMap_nil] at parts
          rcases List.eq_nil_or_concat late with rfl | ⟨between, final, rfl⟩
          · rfl
          -- Otherwise the comm was closed before, and is told something without a route.
          · rw [List.concat_eq_append, ← List.cons_append, ← List.append_assoc] at parts
            obtain ⟨before, -⟩ := List.append_inj' parts rfl
            have closed : CommEvent.close last ∈
                history.filterMap (Occurrence.eventFor? comm) := by
              rw [before]
              exact List.mem_append_right _ (List.mem_cons_self ..)
            have gone := (run.gone_after_close empty closed).2
            exact absurd (Occurrence.eventFor?_eq_some told).1 gone

/-- What is handed on to a comm goes to one that was opened, and carries its identifier. -/
theorem Run.opened_of_delivered (run : Run start history situation)
    (empty : start.connection.comms = []) {key : Nat} {event : CommEvent}
    (shown : .delivered key event ∈ effectsOf history) :
    ∃ comm ∈ openedIn history, comm.key = key ∧ event.carried.commId? = some comm.commId := by
  obtain ⟨occurrence, happened, shown⟩ := List.mem_flatMap.mp shown
  obtain ⟨earlier, included, routed⟩ := run.routed_before empty happened
  have handed : occurrence.handed? key = some event := by
    have member := mem_eventsFor.mpr shown
    rwa [occurrence.eventsFor_effects, Option.mem_toList] at member
  obtain ⟨message, arrives, handed⟩ := Option.bind_eq_some_iff.mp handed
  obtain ⟨commId, named, handed⟩ := Option.bind_eq_some_iff.mp handed
  split at handed
  case isTrue found =>
    obtain ⟨comm, opened, route⟩ := routed.origin _ (mem_of_lookup found)
    refine ⟨comm, openedIn_subset included opened, congrArg Prod.snd route, ?_⟩
    rw [Message.carried_of_commEvent? handed, named]
    exact congrArg some (congrArg Prod.fst route).symm
  case isFalse => cases handed

/-- In every run the comms that are opened, from either side and under whatever identifiers, have
numbers of their own and are registered when they are opened. The holder of each is told exactly
those messages and closing messages that carry its identifier and arrive while its own route is in
the table, each once and in the order in which they arrive. Nothing comes after the message that
closes it, and whatever is handed on to a comm carries the identifier of this comm. -/
theorem Run.comm_delivery {model : KernelModel} {clientId : String} {options : ConnectionOptions}
    (run : Run (.initial model clientId options) history situation) :
    ((openedIn history).map Comm.key).Nodup ∧
      (∀ occurrence ∈ history, ∀ comm ∈ occurrence.opened,
        comm.route ∈ occurrence.after.connection.comms) ∧
      (∀ comm ∈ openedIn history,
        eventsFor comm.key (effectsOf history) =
            history.filterMap (Occurrence.eventFor? comm) ∧
          ∀ early last late,
            eventsFor comm.key (effectsOf history) = early ++ .close last :: late → late = []) ∧
      ∀ key event, .delivered key event ∈ effectsOf history →
        ∃ comm ∈ openedIn history, comm.key = key ∧
          event.carried.commId? = some comm.commId := by
  refine ⟨(run.routed rfl).distinct, fun occurrence _ comm opens =>
    occurrence.rerouting.opened_registered opens, fun comm opened => ?_, fun key event shown =>
      run.opened_of_delivered rfl shown⟩
  have told := run.eventsFor_eq rfl opened
  rw [told]
  exact ⟨rfl, run.close_is_last rfl⟩

def toCommC : Json := .object [("comm_id", .string "c")]

/-- A message of the kernel for the comm with the identifier c. -/
def forComm (msgType : String) : Message :=
  .create .iopub msgType "1" "kernel" "" toCommC .epoch

theorem decode_forComm {msgType : String}
    (valid : Message.checkShape (forComm msgType).toJson = .ok ()) :
    (Frame.text (forComm msgType).toJson.render).decode .legacy = .ok (forComm msgType) := by
  have date : Instant.parse? Instant.epoch.render = some .epoch := by decide +kernel
  have metadata : Json.parseWithin? WireProtocol.legacy.valueDepth Json.emptyObject.render =
      some .emptyObject := rfl
  have content : Json.parseWithin? WireProtocol.legacy.valueDepth toCommC.render =
      some toCommC := rfl
  have reads : (forComm msgType).ReadsBack WireProtocol.legacy.valueDepth :=
    ⟨date, by simp [forComm, Message.create], metadata, content⟩
  exact Message.decode_legacy valid reads rfl

def arrivalForComm (msgType : String) : Event :=
  .frameArrived .epoch (.text (forComm msgType).toJson.render)

theorem dispatched?_arrivalForComm {msgType : String} {socket : Nat}
    (alive : situation.connection.isDisposed = false)
    (reading : situation.connection.phase = .reading socket .legacy)
    (valid : Message.checkShape (forComm msgType).toJson = .ok ()) :
    Occurrence.dispatched? ⟨situation, arrivalForComm msgType⟩ = some (forComm msgType) :=
  Occurrence.dispatched?_of_decode alive rfl reading (decode_forComm valid)

/-- The situation after a message of the kernel for a comm. -/
def Situation.afterForComm (situation : Situation) (msgType : String) : Situation :=
  { situation with connection := (dispatch .epoch (forComm msgType) situation.connection).1 }

theorem Situation.after_arrivalForComm {msgType : String} {socket : Nat}
    (reading : situation.connection.phase = .reading socket .legacy)
    (valid : Message.checkShape (forComm msgType).toJson = .ok ()) :
    situation.after (arrivalForComm msgType) = situation.afterForComm msgType := by
  have received : (arrivalForComm msgType).change situation.connection =
      dispatch .epoch (forComm msgType) situation.connection := by
    simp only [arrivalForComm, Event.change, frameArrived, reading, receive, decode_forComm valid]
  simp only [Situation.after, received]
  rfl

def creating : List Event :=
  [.beginConnecting, .connected ⟨0, .legacy, none⟩, .createComm "t" "c"]

/-- A comm was created. -/
def created : Situation := Situation.usual.afterAll creating

/-- The kernel closed the comm, and another one was created under the same identifier. -/
def reopened : Situation := (created.afterForComm "comm_close").after (.createComm "t" "c")

def reopening : List Occurrence :=
  Situation.usual.occurrences creating ++
    [⟨created, arrivalForComm "comm_close"⟩,
      ⟨created.afterForComm "comm_close", .createComm "t" "c"⟩]

theorem run_reopening : Run .usual reopening reopened := by
  have first : Run .usual _ created := run_of_allows creating rfl
  have second := first.next (arrivalForComm "comm_close") rfl
  have closed : created.after (arrivalForComm "comm_close") =
      created.afterForComm "comm_close" := Situation.after_arrivalForComm rfl (by decide +kernel)
  rw [closed] at second
  exact second.next (.createComm "t" "c") rfl

theorem opened_reopening :
    ⟨0, "c", "t", false⟩ ∈ openedIn reopening ∧ ⟨1, "c", "t", false⟩ ∈ openedIn reopening := by
  constructor
  · have opens : ⟨0, "c", "t", false⟩ ∈ (Situation.usual.occurrences creating)[2].opened := by
      decide +kernel
    exact List.mem_flatMap.mpr ⟨_, by simp [reopening], opens⟩
  · have opens : ⟨1, "c", "t", false⟩ ∈
        Occurrence.opened ⟨created.afterForComm "comm_close", .createComm "t" "c"⟩ := by
      decide +kernel
    exact List.mem_flatMap.mpr ⟨_, by simp [reopening], opens⟩

/-- A message arrives after the identifier was used again. -/
def messaging : Occurrence := ⟨reopened, arrivalForComm "comm_msg"⟩

theorem comm_delivery_after_reuse :
    Run .usual (reopening ++ [messaging]) messaging.after ∧
      eventsFor 0 (effectsOf (reopening ++ [messaging])) = [.close (forComm "comm_close")] ∧
      eventsFor 1 (effectsOf (reopening ++ [messaging])) = [.message (forComm "comm_msg")] := by
  have run : Run .usual (reopening ++ [messaging]) messaging.after :=
    run_reopening.next messaging.event rfl
  obtain ⟨-, -, told, -⟩ := Run.comm_delivery run
  have opened := openedIn_subset (List.subset_append_left reopening [messaging])
  obtain ⟨first, -⟩ := told _ (opened opened_reopening.1)
  obtain ⟨second, -⟩ := told _ (opened opened_reopening.2)
  have closing : Occurrence.dispatched? ⟨created, arrivalForComm "comm_close"⟩ =
      some (forComm "comm_close") := dispatched?_arrivalForComm rfl rfl (by decide +kernel)
  have sending : messaging.dispatched? = some (forComm "comm_msg") :=
    dispatched?_arrivalForComm rfl rfl (by decide +kernel)
  -- Only the two frames can bring something.
  have heard (comm : Comm) : (reopening ++ [messaging]).filterMap (Occurrence.eventFor? comm) =
      (Occurrence.eventFor? comm ⟨created, arrivalForComm "comm_close"⟩).toList ++
        (messaging.eventFor? comm).toList := by
    have before : (Situation.usual.occurrences creating).filterMap
        (Occurrence.eventFor? comm) = [] := rfl
    have between : Occurrence.eventFor? comm
        ⟨created.afterForComm "comm_close", .createComm "t" "c"⟩ = none := rfl
    rw [reopening, List.filterMap_append, List.filterMap_append, before, List.nil_append]
    simp only [List.filterMap_eq_flatMap_toList, List.flatMap_cons, List.flatMap_nil, between,
      Option.toList_none, List.append_nil]
  rw [heard, Occurrence.eventFor?, Occurrence.eventFor?, closing, sending] at first second
  exact ⟨run, first, second⟩

end Connection

end KernelClient
