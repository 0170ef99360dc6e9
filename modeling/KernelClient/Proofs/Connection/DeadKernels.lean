import KernelClient.Proofs.Connection.Openings
import KernelClient.Proofs.Connection.Withdrawal

/-!
# Comms of a dead kernel

When the kernel dies the connection is cleared, and its holder cannot create a comm any more. The
socket may stay open, though, and a message that opens a comm is treated as ever: nobody asks for
the status. So the comms of a dead kernel are those that it opened since it died for a target with a
receiver, less those that were closed or dropped since then.
-/

namespace KernelClient.Connection

variable {connection before : Connection} {change : Change} {occurrence : Occurrence}
  {history later : List Occurrence} {start situation : Situation} {comm : Comm}

/-- A change that leaves the status as it was tells none. -/
theorem SetsOnce.untold (once : SetsOnce before change) (same : change.1.status = before.status) :
    statusesIn change.2 = [] := by
  cases once with
  | @intro middle after first second status preliminary kept =>
      have same : after.status = before.status := same
      have early := statusesIn_eq_nil preliminary.status.untold
      have late := statusesIn_eq_nil kept.untold
      rw [statusesIn_append, statusesIn_append, early, late, List.nil_append, List.append_nil]
      rcases setStatus_cases status middle with unset | ⟨changes, set⟩
      · rw [unset]
        rfl
      · -- The new status stays, so that it cannot be the one from before.
        have cleared := (unconcerned_clearFor status { middle with status := status }).status
        have left : (setStatus status middle).1.status = status := by
          rw [set]
          exact cleared.status
        have met : middle.status = before.status := preliminary.status.status
        have kept : after.status = (setStatus status middle).1.status := kept.status
        exact absurd (met.trans (same.symm.trans (kept.trans left))) changes

theorem mem_statusesIn {status : KernelStatus} {effects : List Effect} :
    status ∈ statusesIn effects ↔ .status status ∈ effects := by
  rw [statusesIn, List.mem_filterMap]
  constructor
  · rintro ⟨effect, member, told⟩
    cases effect with
    | status other =>
        cases told
        exact member
    | _ => cases told
  · intro member
    exact ⟨.status status, member, rfl⟩

/-- A status that is new after an event is told. -/
theorem Occurrence.status_mem_effects {status : KernelStatus}
    (news : occurrence.before.connection.status ≠ status)
    (left : occurrence.after.connection.status = status) :
    .status status ∈ occurrence.effects := by
  have last : occurrence.after.connection.status =
      (statusesIn occurrence.effects).getLastD occurrence.before.connection.status :=
    (occurrence.event.setsOnce occurrence.before.connection).passes.last_eq
  rw [left] at last
  apply mem_statusesIn.mp
  rcases List.eq_nil_or_concat (statusesIn occurrence.effects) with none | ⟨told, final, all⟩
  · rw [none] at last
    exact absurd last.symm news
  · rw [all, List.concat_eq_append, List.getLastD_concat] at last
    rw [all, last, List.concat_eq_append]
    simp

/-- A comm that the kernel opens and that goes to a receiver: the message names it and its target,
its identifier is free, and a receiver listens for the target. -/
structure Occurrence.Offers (occurrence : Occurrence) (comm : Comm) : Prop where
  opens : ∃ opening, occurrence.dispatched? = some opening ∧
    OpensComm opening comm.commId comm.targetName
  free : occurrence.before.connection.hasComm comm.commId = false
  heard : ∃ receiver, occurrence.before.connection.listensAt comm.targetName receiver
  numbered : comm.key = occurrence.before.connection.nextKey
  unclosed : comm.isClosed = false

/-- A comm for whose target nobody listens is handed to nobody. -/
theorem isOutward_acceptComm_of_deaf {opening : Message} {commId target : String}
    (opens : OpensComm opening commId target)
    (deaf : ∀ receiver, ¬connection.listensAt target receiver) (now : Instant) :
    IsOutward (acceptComm now commId opening connection) := by
  unfold acceptComm
  rw [opens.targetOf]
  split
  · rfl
  · split
    case h_1 =>
      apply IsOutward.andThen _ (isOutward_rejectComm ..)
      rfl
    case h_2 entry found =>
      obtain ⟨receiver, isOpen⟩ := entry
      cases isOpen with
      | true => exact absurd found (deaf receiver)
      | false =>
          dsimp only
          rw [if_neg Bool.false_ne_true]
          apply (isOutward_unregisterComm commId _).andThen
          refine IsOutward.andThen ?_ ?_
          · rfl
          · exact (isOutward_removeTarget _ _).andThen (isOutward_rejectComm ..)

/-- A message that opens a comm hands it to the receiver that listens for its target, if the
identifier is free. -/
theorem mem_offeredIn_acceptComm {opening : Message} {commId target : String}
    (opens : OpensComm opening commId target) (now : Instant) :
    comm ∈ offeredIn (acceptComm now commId opening connection).2 ↔
      comm = ⟨connection.nextKey, commId, target, false⟩ ∧
        connection.hasComm commId = false ∧ ∃ receiver, connection.listensAt target receiver := by
  by_cases heard : ∃ receiver, connection.listensAt target receiver
  case neg =>
    have outward := isOutward_acceptComm_of_deaf opens (not_exists.mp heard) now
    rw [outward.offeredIn_eq_nil]
    simp [heard]
  case pos =>
    obtain ⟨receiver, listens⟩ := heard
    unfold acceptComm
    rw [opens.targetOf, listens]
    cases connection.hasComm commId with
    | true => simp [offeredIn, Effect.offered?]
    | false =>
        have listening : ∃ receiver, connection.listensAt target receiver := ⟨receiver, listens⟩
        simp [offeredIn, Effect.offered?, registerComm, listening]

/-- Only a message that opens a comm makes a connection hand over one. -/
theorem offeredIn_routeComm_of_ne {message : Message} (other : message.msgType ≠ "comm_open")
    (now : Instant) : offeredIn (routeComm now message connection).2 = [] := by
  unfold routeComm
  split
  · rfl
  · rw [if_neg other]
    split <;> split <;> rfl

/-- Whether its kernel is dead or not, a connection hands over a comm exactly if a message opens it,
its identifier is free and a receiver listens for its target. -/
theorem Occurrence.mem_offeredIn_iff (awaits : AwaitsAll occurrence.before.connection) :
    comm ∈ offeredIn occurrence.effects ↔ occurrence.Offers comm := by
  cases arrives : occurrence.dispatched? with
  | none =>
      rw [← offeredIn_inboundIn, Occurrence.inboundIn_eq_nil arrives]
      constructor
      · intro member
        cases member
      · rintro ⟨⟨opening, opens, -⟩, -⟩
        cases arrives.symm.trans opens
  | some message =>
      obtain ⟨-, _, _, _, _, _, _, decoded⟩ := Occurrence.dispatched?_eq_some arrives
      obtain ⟨now, frame, -, dispatched⟩ := Occurrence.dispatched arrives
      by_cases isOpening : message.msgType = "comm_open"
      case pos =>
        obtain ⟨commId, target, opens⟩ := exists_opensComm decoded isOpening
        have passed := (dispatched.comm opens.isComm).2
        rw [opens.delivered awaits] at passed
        have routed : routeComm now message occurrence.before.connection =
            acceptComm now commId message occurrence.before.connection := by
          rw [routeComm, opens.named]
          exact if_pos opens.isOpening
        rw [← offeredIn_commsIn, passed, offeredIn_commsIn, routed,
          mem_offeredIn_acceptComm opens now]
        constructor
        · rintro ⟨rfl, free, heard⟩
          exact ⟨⟨message, arrives, opens⟩, free, heard, rfl, rfl⟩
        · rintro ⟨⟨opening, same, named⟩, free, heard, numbered, unclosed⟩
          cases arrives.symm.trans same
          have sameId := Option.some.inj (opens.named.symm.trans named.named)
          have sameTarget := Option.some.inj (opens.aimed.symm.trans named.aimed)
          obtain ⟨key, _, _, isClosed⟩ := comm
          subst sameId sameTarget numbered unclosed
          exact ⟨rfl, free, heard⟩
      case neg =>
        have none : offeredIn occurrence.effects = [] := by
          rw [← offeredIn_commsIn]
          cases isComm : message.isComm with
          | true =>
              rw [(dispatched.comm isComm).2, offeredIn_commsIn]
              exact offeredIn_routeComm_of_ne isOpening now
          | false =>
              rw [(dispatched.other isComm).2]
              rfl
        rw [none]
        constructor
        · intro member
          cases member
        · rintro ⟨⟨opening, same, opens⟩, -⟩
          cases arrives.symm.trans same
          exact absurd opens.isOpening isOpening

/-- A route is there after an event if it belongs to a comm that was opened, or if it was there
before and neither what is registered under its identifier was taken away, nor everything. -/
theorem Occurrence.mem_comms_after_iff {entry : String × Nat}
    (ended : occurrence.before.connection.isDisposed = true →
      IsOver occurrence.before.connection) :
    entry ∈ occurrence.after.connection.comms ↔
      (∃ comm ∈ occurrence.opened, comm.route = entry) ∨
        entry ∈ occurrence.before.connection.comms ∧ ¬occurrence.Withdraws entry.1 ∧
          ¬∃ cause, Clears occurrence.event occurrence.effects cause := by
  constructor
  · intro registered
    rcases occurrence.rerouting.origin registered with earlier | opened
    · have stays := mt (Occurrence.gone_iff ended earlier).mpr (not_not.mpr registered)
      exact .inr ⟨earlier, not_or.mp stays⟩
    · exact .inl opened
  · rintro (⟨comm, opened, rfl⟩ | ⟨earlier, stays⟩)
    · exact occurrence.rerouting.opened_registered opened
    · exact not_not.mp (mt (Occurrence.gone_iff ended earlier).mp (not_or.mpr stays))

/-- The holder of a connection cannot create a comm while the kernel is dead. -/
theorem Event.created_of_dead (event : Event) (dead : connection.status = .dead) :
    event.created connection = [] := by
  cases event with
  | createComm targetName commId =>
      obtain ⟨error, refuses⟩ : ∃ error, connection.checkOpen = .error error := by
        unfold checkOpen
        rw [if_pos dead]
        split <;> exact ⟨_, rfl⟩
      rw [created, Connection.createComm, refuses]
      rfl
  | _ => rfl

/-- A connection that has comms and stays dead is cleared by its disposal only. -/
theorem Occurrence.disposed_of_clears {entry : String × Nat} {cause : Clearing}
    (ended : occurrence.before.connection.isDisposed = true →
      IsOver occurrence.before.connection)
    (dead : occurrence.before.connection.status = .dead)
    (left : occurrence.after.connection.status = .dead)
    (registered : entry ∈ occurrence.before.connection.comms)
    (clears : Clears occurrence.event occurrence.effects cause) :
    .disposed ∈ occurrence.effects := by
  have untold : statusesIn occurrence.effects = [] :=
    (occurrence.event.setsOnce occurrence.before.connection).untold (left.trans dead.symm)
  have silent (status : KernelStatus) : .status status ∉ occurrence.effects := by
    rw [← mem_statusesIn, untold]
    exact List.not_mem_nil
  cases cause with
  | disposal => exact clears
  | death => exact absurd clears (silent .dead)
  | autoRestart => exact absurd clears (silent .autoRestarting)
  | restart =>
      have answered : occurrence.event = .restartAnswered true := clears
      cases disposed : occurrence.before.connection.isDisposed with
      | true =>
          rw [(ended disposed).comms] at registered
          cases registered
      | false =>
          -- The kernel is not dead any more when the server has answered the restart.
          have restarts : occurrence.after.connection.status = .restarting := by
            simp [after, Situation.after, answered, Event.change, restarted, disposed,
              Change.andThen, clear, setStatus, dead, clearFor, unchanged]
          cases left.symm.trans restarts

/-- While the kernel is dead, a route is there after an event if its comm was handed to a receiver,
or if it was there before, nothing took it away and the connection was not disposed. -/
theorem Occurrence.mem_comms_after_iff_of_dead {entry : String × Nat}
    (ended : occurrence.before.connection.isDisposed = true →
      IsOver occurrence.before.connection)
    (awaits : AwaitsAll occurrence.before.connection)
    (dead : occurrence.before.connection.status = .dead)
    (left : occurrence.after.connection.status = .dead) :
    entry ∈ occurrence.after.connection.comms ↔
      (∃ comm, occurrence.Offers comm ∧ comm.route = entry) ∨
        entry ∈ occurrence.before.connection.comms ∧ ¬occurrence.Withdraws entry.1 ∧
          .disposed ∉ occurrence.effects := by
  have opened : occurrence.opened = offeredIn occurrence.effects := by
    rw [Occurrence.opened, Event.created_of_dead _ dead, List.nil_append]
  rw [Occurrence.mem_comms_after_iff ended, opened]
  simp only [Occurrence.mem_offeredIn_iff awaits]
  constructor
  · rintro (offered | ⟨earlier, stays, uncleared⟩)
    · exact .inl offered
    · exact .inr ⟨earlier, stays, fun disposed => uncleared ⟨.disposal, disposed⟩⟩
  · rintro (offered | ⟨earlier, stays, undisposed⟩)
    · exact .inl offered
    · refine .inr ⟨earlier, stays, ?_⟩
      rintro ⟨cause, clears⟩
      exact undisposed (Occurrence.disposed_of_clears ended dead left earlier clears)

/-- Whether a comm was handed to a receiver by one of some events, and neither withdrawn nor lost by
the disposal of the connection after that. -/
def OfferedSince (later : List Occurrence) (comm : Comm) : Prop :=
  ∃ first opening rest, later = first ++ opening :: rest ∧ opening.Offers comm ∧
    ∀ occurrence ∈ rest,
      ¬occurrence.Withdraws comm.commId ∧ .disposed ∉ occurrence.effects

theorem not_offeredSince_nil : ¬OfferedSince [] comm := by
  rintro ⟨first, opening, rest, parts, -⟩
  simp at parts

theorem offeredSince_snoc :
    OfferedSince (later ++ [occurrence]) comm ↔
      occurrence.Offers comm ∨ OfferedSince later comm ∧
        ¬occurrence.Withdraws comm.commId ∧ .disposed ∉ occurrence.effects := by
  constructor
  · rintro ⟨first, opening, rest, parts, offers, stays⟩
    rcases List.eq_nil_or_concat rest with rfl | ⟨between, last, rfl⟩
    · obtain ⟨-, same⟩ := List.append_inj' parts rfl
      cases same
      exact .inl offers
    · rw [List.concat_eq_append] at parts stays
      rw [← List.cons_append, ← List.append_assoc] at parts
      obtain ⟨rfl, same⟩ := List.append_inj' parts rfl
      cases same
      refine .inr ⟨⟨first, opening, between, rfl, offers, ?_⟩, ?_⟩
      · intro other among
        exact stays other (List.mem_append_left _ among)
      · exact stays _ (List.mem_append_right _ (List.mem_singleton_self _))
  · rintro (offers | ⟨⟨first, opening, rest, rfl, offers, stays⟩, keeps⟩)
    · exact ⟨later, occurrence, [], rfl, offers, by simp⟩
    · refine ⟨first, opening, rest ++ [occurrence], by simp, offers, ?_⟩
      intro other among
      rcases List.mem_append.mp among with earlier | last
      · exact stays other earlier
      · cases List.mem_singleton.mp last
        exact keeps

/-- While the kernel stays dead, the routes are those of the comms that were handed over since. -/
theorem Run.mem_comms_iff_of_dead {entry : String × Nat} (run : Run start later situation)
    (empty : start.connection.comms = [])
    (ended : ∀ occurrence ∈ later, occurrence.before.connection.isDisposed = true →
      IsOver occurrence.before.connection)
    (awaits : ∀ occurrence ∈ later, AwaitsAll occurrence.before.connection)
    (dead : ∀ occurrence ∈ later, occurrence.before.connection.status = .dead)
    (left : situation.connection.status = .dead) :
    entry ∈ situation.connection.comms ↔
      ∃ comm, comm.route = entry ∧ OfferedSince later comm := by
  induction run with
  | start => simp [empty, not_offeredSince_nil]
  | @next history before run event possible earlier =>
      have last : (⟨before, event⟩ : Occurrence) ∈ history ++ [⟨before, event⟩] :=
        List.mem_append_right _ (List.mem_singleton_self _)
      have among {occurrence : Occurrence} (member : occurrence ∈ history) :
          occurrence ∈ history ++ [⟨before, event⟩] := List.mem_append_left _ member
      have earlier := earlier (fun other member => ended other (among member))
        (fun other member => awaits other (among member))
        (fun other member => dead other (among member)) (dead _ last)
      have step : entry ∈ (Occurrence.mk before event).after.connection.comms ↔ _ :=
        Occurrence.mem_comms_after_iff_of_dead (ended _ last) (awaits _ last) (dead _ last) left
      change entry ∈ (Occurrence.mk before event).after.connection.comms ↔ _
      rw [step, earlier]
      simp only [offeredSince_snoc]
      constructor
      · rintro (⟨comm, offers, rfl⟩ | ⟨⟨comm, rfl, offered⟩, stays⟩)
        · exact ⟨comm, rfl, .inl offers⟩
        · exact ⟨comm, rfl, .inr ⟨offered, stays⟩⟩
      · rintro ⟨comm, rfl, offers | ⟨offered, stays⟩⟩
        · exact .inl ⟨comm, offers, rfl⟩
        · exact .inr ⟨⟨comm, rfl, offered⟩, stays⟩

/-- A run that ends with a dead kernel goes on dead from the event with which it died last. -/
theorem Run.exists_death (run : Run start history situation)
    (alive : start.connection.status ≠ .dead) (dead : situation.connection.status = .dead) :
    ∃ earlier death later, history = earlier ++ death :: later ∧
      death.before.connection.status ≠ .dead ∧ death.after.connection.status = .dead ∧
      Run death.after later situation ∧
      ∀ occurrence ∈ later, occurrence.before.connection.status = .dead := by
  induction run with
  | start => exact absurd dead alive
  | @next history before run event possible earlier =>
      by_cases already : before.connection.status = .dead
      · obtain ⟨first, death, later, rfl, dies, left, rest, stays⟩ := earlier already
        refine ⟨first, death, later ++ [⟨before, event⟩], by simp, dies, left,
          rest.next event possible, ?_⟩
        intro occurrence member
        rcases List.mem_append.mp member with among | last
        · exact stays occurrence among
        · cases List.mem_singleton.mp last
          exact already
      · exact ⟨history, ⟨before, event⟩, [], rfl, already, dead, .start, by simp⟩

/-- What becomes of the comms of a connection from the event with which the kernel died last: none
is left, the holder creates none, messages open them as ever, and what is registered in the end was
handed over since. -/
structure SinceDeath (death : Occurrence) (later : List Occurrence) (connection : Connection) :
    Prop where
  dies : death.before.connection.status ≠ .dead ∧ death.after.connection.status = .dead
  emptied : death.after.connection.comms = []
  dead : ∀ occurrence ∈ later, occurrence.before.connection.status = .dead
  uncreated : ∀ occurrence ∈ later, occurrence.event.created occurrence.before.connection = []
  offered : ∀ occurrence ∈ later, ∀ comm,
    comm ∈ offeredIn occurrence.effects ↔ occurrence.Offers comm
  registered : ∀ entry, entry ∈ connection.comms ↔
    ∃ comm, comm.route = entry ∧ OfferedSince later comm
  known : ∀ commId, connection.hasComm commId = true ↔
    ∃ comm, comm.commId = commId ∧ OfferedSince later comm

theorem hasComm_iff {commId : String} :
    connection.hasComm commId = true ↔ ∃ key, (commId, key) ∈ connection.comms := by
  unfold hasComm
  constructor
  · intro known
    obtain ⟨key, found⟩ := Option.isSome_iff_exists.mp known
    exact ⟨key, mem_of_lookup found⟩
  · rintro ⟨key, registered⟩
    by_contra unknown
    have apart := List.lookup_eq_none_iff.mp (Option.not_isSome_iff_eq_none.mp unknown)
    exact bne_iff_ne.mp (apart _ registered) rfl

/-- In every run of a new connection that ends with a dead kernel, the comms that are registered are
exactly those that the kernel opened after its last death for a target with a receiver, and that
were not withdrawn since; and such a comm is handed over exactly as it would be by a connection whose
kernel is alive. -/
theorem Run.comms_since_death {model : KernelModel} {clientId : String}
    {options : ConnectionOptions} (run : Run (.initial model clientId options) history situation)
    (dead : situation.connection.status = .dead) :
    ∃ earlier death later, history = earlier ++ death :: later ∧
      SinceDeath death later situation.connection := by
  have alive : (Situation.initial model clientId options).connection.status ≠ .dead := by
    intro same
    cases same
  obtain ⟨earlier, death, later, parts, dies, left, rest, stays⟩ := run.exists_death alive dead
  -- What is known of every situation of the run.
  have met {occurrence : Occurrence} (happened : occurrence ∈ history) :
      AwaitsAll occurrence.before.connection ∧
        (occurrence.before.connection.isDisposed = true →
          IsOver occurrence.before.connection) := by
    obtain ⟨first, second, among⟩ := List.append_of_mem happened
    obtain ⟨middle, before, after⟩ := run.split first (occurrence :: second) among
    obtain ⟨same, -, -⟩ := after.of_cons
    rw [same]
    constructor
    · exact before.awaitsAll rfl (fun entry member => by cases member)
    · exact before.isOver rfl (fun disposed => by cases disposed)
  have among {occurrence : Occurrence} (member : occurrence ∈ later) : occurrence ∈ history := by
    rw [parts]
    exact List.mem_append_right _ (List.mem_cons_of_mem _ member)
  have emptied : death.after.connection.comms = [] := by
    have happened : death ∈ history := by
      rw [parts]
      exact List.mem_append_right _ (List.mem_cons_self ..)
    have clears : Clears death.event death.effects .death :=
      Occurrence.status_mem_effects dies left
    exact Occurrence.comms_of_clears (met happened).2 clears
  have registered (entry : String × Nat) :
      entry ∈ situation.connection.comms ↔ ∃ comm, comm.route = entry ∧ OfferedSince later comm :=
    rest.mem_comms_iff_of_dead emptied (fun _ member => (met (among member)).2)
      (fun _ member => (met (among member)).1) stays dead
  refine ⟨earlier, death, later, parts, ⟨dies, left⟩, emptied, stays, ?_, ?_, registered, ?_⟩
  · intro occurrence member
    exact Event.created_of_dead _ (stays occurrence member)
  · intro occurrence member comm
    exact Occurrence.mem_offeredIn_iff (met (among member)).1
  · intro commId
    rw [hasComm_iff]
    simp only [registered]
    constructor
    · rintro ⟨key, comm, route, offered⟩
      exact ⟨comm, congrArg Prod.fst route, offered⟩
    · rintro ⟨comm, rfl, offered⟩
      exact ⟨comm.key, comm, rfl, offered⟩

/-- A message by which the kernel announces that it is dead. -/
def deathNotice : Message :=
  .create .iopub "status" "2" "kernel" "" (.ofFields [("execution_state", .string "dead")]) .epoch

theorem deathNotice_decode :
    (Frame.text deathNotice.toJson.render).decode .legacy = .ok deathNotice := by
  have valid : Message.checkShape deathNotice.toJson = .ok () := by decide +kernel
  have reads : deathNotice.ReadsBack WireProtocol.legacy.valueDepth :=
    ⟨by decide +kernel, by simp [deathNotice, Message.create], rfl, rfl⟩
  exact Message.decode_legacy valid reads rfl

/-- A connection with a socket that is read from and a receiver for the target t. -/
def listening : Situation :=
  Situation.usual.afterAll [.beginConnecting, .connected ⟨0, .legacy, none⟩, .registerTarget "t"]

/-- The arrival of a message in a text frame. -/
def arrivalOf (message : Message) : Event := .frameArrived .epoch (.text message.toJson.render)

theorem after_arrivalOf {message : Message}
    (reading : situation.connection.phase = .reading 0 .legacy)
    (decoded : (Frame.text message.toJson.render).decode .legacy = .ok message) :
    (situation.after (arrivalOf message)).connection =
      (dispatch .epoch message situation.connection).1 :=
  congrArg Prod.fst (frameArrived_of_decode reading decoded)

theorem isPossible_arrivalOf (reading : situation.connection.phase = .reading 0 .legacy)
    (message : Message) : (arrivalOf message).isPossible situation = true := by
  simp [arrivalOf, Event.isPossible, reading, SocketPhase.isReading]

/-- The kernel announces its death. -/
def deceased : Situation := listening.after (arrivalOf deathNotice)

/-- After its death the kernel opens the comm c for the target t. -/
def haunted : Situation := deceased.after (arrivalOf openingOfC)

theorem listening_reading : listening.connection.phase = .reading 0 .legacy := by decide +kernel

theorem deceased_connection :
    deceased.connection = (dispatch .epoch deathNotice listening.connection).1 :=
  after_arrivalOf listening_reading deathNotice_decode

theorem deceased_reading : deceased.connection.phase = .reading 0 .legacy := by
  rw [deceased_connection]
  decide +kernel

theorem haunted_connection :
    haunted.connection = (dispatch .epoch openingOfC
      (dispatch .epoch deathNotice listening.connection).1).1 := by
  rw [haunted, after_arrivalOf deceased_reading openingOfC_decode, deceased_connection]

theorem exists_run_haunted : ∃ history, Run .usual history haunted := by
  have before : Run .usual _ listening := run_of_allows _ (by decide +kernel)
  have death := before.next _ (isPossible_arrivalOf listening_reading deathNotice)
  exact ⟨_, death.next _ (isPossible_arrivalOf deceased_reading openingOfC)⟩

theorem haunted_status : haunted.connection.status = .dead := by
  rw [haunted_connection]
  decide +kernel

theorem haunted_hasComm : haunted.connection.hasComm "c" = true := by
  rw [haunted_connection]
  decide +kernel

/-- The comm c is there because the kernel opened it after its death. -/
theorem comms_since_death_haunted :
    ∃ history death later, Run .usual history haunted ∧ haunted.connection.status = .dead ∧
      SinceDeath death later haunted.connection ∧
      ∃ comm, comm.commId = "c" ∧ OfferedSince later comm := by
  obtain ⟨history, run⟩ := exists_run_haunted
  obtain ⟨earlier, death, later, -, since⟩ := run.comms_since_death haunted_status
  exact ⟨history, death, later, run, haunted_status, since,
    (since.known "c").mp haunted_hasComm⟩

/-- A connection whose kernel is dead may have a comm. -/
theorem dead_connection_has_comm :
    ¬∀ history situation, Run .usual history situation →
      situation.connection.status = .dead →
        ∀ commId, situation.connection.hasComm commId = false := by
  intro claim
  obtain ⟨history, run⟩ := exists_run_haunted
  cases haunted_hasComm.symm.trans (claim history haunted run haunted_status "c")

end KernelClient.Connection
