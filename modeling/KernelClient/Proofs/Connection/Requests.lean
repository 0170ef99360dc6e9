import KernelClient.Proofs.Connection.Composition

/-!
# Requests and their answers

A request that is made waits under the identifier of its message until it is settled, once: with
its reply when it is complete, or with an error when the connection is cleared. Nothing that waits
is forgotten: what waited and what was requested is what was settled and what waits then.
-/

namespace KernelClient.Connection

/-- The requests that wait. -/
def labels (connection : Connection) : List RequestLabel :=
  connection.pending.map fun entry => ⟨entry.1, entry.2.key⟩

theorem mem_labels {connection : Connection} {entry : String × PendingReply}
    (held : entry ∈ connection.pending) : ⟨entry.1, entry.2.key⟩ ∈ labels connection :=
  List.mem_map_of_mem held

/-- How a request ends. -/
abbrev Outcome := Except ServiceError (Option Message)

def Effect.settled? : Effect → Option (Nat × Outcome)
  | .settled request outcome => some (request, outcome)
  | _ => none

/-- The requests that are settled, with their outcomes. -/
def settledIn (effects : List Effect) : List (Nat × Outcome) :=
  effects.filterMap Effect.settled?

/-- The outcomes of one request. -/
def outcomesOf (request : Nat) (effects : List Effect) : List Outcome :=
  ((settledIn effects).filter fun settled => settled.1 = request).map Prod.snd

@[simp]
theorem settledIn_append (first second : List Effect) :
    settledIn (first ++ second) = settledIn first ++ settledIn second :=
  List.filterMap_append

@[simp]
theorem settledIn_cons (effect : Effect) (rest : List Effect) :
    settledIn (effect :: rest) = effect.settled?.toList ++ settledIn rest := by
  cases shown : effect.settled? <;> simp [settledIn, shown]

@[simp]
theorem settledIn_nil : settledIn [] = [] :=
  rfl

theorem mem_settledIn {key : Nat} {outcome : Outcome} {effects : List Effect} :
    (key, outcome) ∈ settledIn effects ↔ .settled key outcome ∈ effects := by
  refine List.mem_filterMap.trans ⟨?_, fun member => ⟨_, member, rfl⟩⟩
  rintro ⟨effect, member, shown⟩
  cases effect with
  | settled =>
      cases shown
      exact member
  | _ => cases shown

theorem settledIn_of_isAside {effects : List Effect}
    (plain : ∀ effect ∈ effects, effect.isAside) : settledIn effects = [] := by
  refine List.filterMap_eq_nil_iff.mpr fun effect member => ?_
  have aside := plain effect member
  cases effect with
  | settled => cases aside
  | _ => rfl

@[simp]
theorem settledIn_releases (comms : List (String × Nat)) : settledIn (releases comms) = [] :=
  settledIn_of_isAside isAside_of_mem_releases

@[simp]
theorem settledIn_targetReleases (targets : List (String × CommTarget)) :
    settledIn (targetReleases targets) = [] :=
  settledIn_of_isAside isAside_of_mem_targetReleases

@[simp]
theorem settledIn_dropSocket (connection : Connection) :
    settledIn (dropSocket connection).2 = [] := by
  unfold dropSocket
  split <;> rfl

@[simp]
theorem settledIn_rejections (error : ServiceError) (pending : List (String × PendingReply)) :
    settledIn (rejections error pending) =
      pending.map fun entry => (entry.2.key, .error error) := by
  induction pending with
  | nil => rfl
  | cons entry rest ih => exact congrArg (List.cons (entry.2.key, .error error)) ih

/-- A request that was settled, with its outcome. -/
structure Settlement where
  label : RequestLabel
  outcome : Outcome

def Settlement.shown (settlement : Settlement) : Nat × Outcome :=
  (settlement.label.key, settlement.outcome)

/-- Whether a settlement has a reason in an event: the message that is read completes the request,
or the connection is cleared. -/
inductive Settlement.IsDue (occurrence : Occurrence) (effects : List Effect) :
    Settlement → Prop where
  | completed {msgId : String} {waiting : PendingReply} {message : Message}
      (read : occurrence.message? = some message) (asked : message.parentMsgId? = some msgId)
      (held : (msgId, waiting) ∈ occurrence.before.connection.pending)
      (complete : (waiting.note message).isComplete = true) :
      IsDue occurrence effects ⟨⟨msgId, waiting.key⟩, .ok (waiting.note message).reply⟩
  | rejected {label : RequestLabel} {cause : Clearing}
      (clears : Clears occurrence.event effects cause) :
      IsDue occurrence effects ⟨label, .error cause.error⟩

theorem Settlement.IsDue.mono {occurrence : Occurrence} {few many : List Effect}
    {settlement : Settlement} (due : settlement.IsDue occurrence few) (included : few ⊆ many) :
    settlement.IsDue occurrence many := by
  cases due with
  | completed read asked held complete => exact .completed read asked held complete
  | rejected clears => exact .rejected (clears.mono included)

/-- What a change does to requests, when some are made and some are settled in it. -/
structure Turnover (occurrence : Occurrence) (before : Connection) (change : Change)
    (requests : List RequestLabel) (gone : List Settlement) : Prop where
  conserves : (labels before ++ requests).Perm (gone.map Settlement.label ++ labels change.1)
  shown : settledIn change.2 = gone.map Settlement.shown
  due : ∀ settlement ∈ gone, settlement.IsDue occurrence change.2
  ascends : before.nextKey ≤ change.1.nextKey
  sorted : requests.Pairwise fun first second => first.key < second.key
  numbered : ∀ label ∈ requests, before.nextKey ≤ label.key ∧ label.key < change.1.nextKey

namespace Turnover

variable {occurrence : Occurrence} {before middle after : Connection} {change : Change}
  {first second : List Effect} {requested requests : List RequestLabel}
  {gone settled : List Settlement}

/-- Nothing is requested or settled. -/
theorem idle (waiting : labels change.1 = labels before)
    (ascends : before.nextKey ≤ change.1.nextKey) (silent : settledIn change.2 = []) :
    Turnover occurrence before change [] [] where
  conserves := by simp [waiting]
  shown := silent
  due := by simp
  ascends := ascends
  sorted := .nil
  numbered := by simp

/-- All requests are rejected. -/
theorem clear (cause : Clearing) (emptied : change.1.pending = [])
    (ascends : before.nextKey ≤ change.1.nextKey)
    (shown : settledIn change.2 =
      before.pending.map fun entry => (entry.2.key, .error cause.error))
    (clears : Clears occurrence.event change.2 cause) :
    Turnover occurrence before change []
      ((labels before).map fun label => ⟨label, .error cause.error⟩) where
  conserves := by simp [labels, emptied, Function.comp_def]
  shown := by
    rw [shown, labels, List.map_map, List.map_map]
    rfl
  due := by
    intro settlement member
    obtain ⟨label, -, rfl⟩ := List.mem_map.mp member
    exact .rejected clears
  ascends := ascends
  sorted := .nil
  numbered := by simp

theorem append (start : Turnover occurrence before (middle, first) requested gone)
    (rest : Turnover occurrence middle (after, second) requests settled) :
    Turnover occurrence before (after, first ++ second) (requested ++ requests)
      (gone ++ settled) where
  conserves := by
    have early := start.conserves.append_right requests
    have late := rest.conserves.append_left (gone.map Settlement.label)
    simp only [List.append_assoc, List.map_append] at early late ⊢
    exact early.trans late
  shown := by rw [settledIn_append, List.map_append, start.shown, rest.shown]
  due := by
    intro settlement member
    rcases List.mem_append.mp member with early | late
    · exact (start.due settlement early).mono (List.subset_append_left first second)
    · exact (rest.due settlement late).mono (List.subset_append_right first second)
  ascends := Nat.le_trans start.ascends rest.ascends
  sorted := by
    refine List.pairwise_append.mpr
      ⟨start.sorted, rest.sorted, fun early fromFirst late fromRest => ?_⟩
    exact Nat.lt_of_lt_of_le (start.numbered early fromFirst).2 (rest.numbered late fromRest).1
  numbered := by
    intro label member
    have lower := start.ascends
    have upper := rest.ascends
    rcases List.mem_append.mp member with early | late
    · obtain ⟨atLeast, below⟩ := start.numbered label early
      exact ⟨atLeast, Nat.lt_of_lt_of_le below upper⟩
    · obtain ⟨atLeast, below⟩ := rest.numbered label late
      exact ⟨Nat.le_trans lower atLeast, below⟩

end Turnover

/-- No two requests wait under one identifier, and none waits for a disposed connection. -/
structure Tidy (connection : Connection) : Prop where
  names : (connection.pending.map Prod.fst).Nodup
  disposed : connection.isDisposed = true → connection.pending = []

theorem Tidy.ofSame {before after : Connection} (tidy : Tidy before)
    (pending : after.pending = before.pending) (isDisposed : after.isDisposed = before.isDisposed) :
    Tidy after where
  names := pending ▸ tidy.names
  disposed ended := pending.trans (tidy.disposed (isDisposed ▸ ended))

theorem Tidy.ofEmpty {connection : Connection} (empty : connection.pending = []) :
    Tidy connection where
  names := by simp [empty]
  disposed _ := empty

variable {occurrence : Occurrence} {before : Connection} {change : Change}

theorem labels_of_pending {before after : Connection} (pending : after.pending = before.pending) :
    labels after = labels before := by
  rw [labels, labels, pending]

theorem Transmission.settledIn_eq_nil {message : Message} {call : Call Unit}
    (transmission : Transmission message before call) : settledIn call.2.2 = [] := by
  cases transmission <;> rfl

theorem Transmission.turnover {message : Message} {call : Call Unit}
    (transmission : Transmission message before call) :
    Turnover occurrence before call.2 [] [] := by
  obtain ⟨-, -, -, pending, nextKey⟩ := transmission.kept
  exact .idle (labels_of_pending pending) (Nat.le_of_eq nextKey.symm) transmission.settledIn_eq_nil

/-- A request that is made waits after all others. -/
theorem Sending.turnover {message : Message} {expectsReply : Bool} {call : Call Nat}
    (sending : Sending message expectsReply before call) :
    Turnover occurrence before call.2 (labelOf message.msgId call.1) [] := by
  cases sending with
  | refused error => exact .idle rfl (Nat.le_refl _) rfl
  | @kept sent effects accepts fresh transmitted =>
      obtain ⟨-, -, -, pending, nextKey⟩ := transmitted.kept
      have kept : labels (keepRequest message.msgId expectsReply sent).2 =
          labels before ++ [⟨message.msgId, sent.nextKey⟩] := by
        simp [labels, keepRequest_pending fresh pending, PendingReply.create]
      refine ⟨?_, transmitted.settledIn_eq_nil, by simp, ?_, by simp [labelOf], ?_⟩
      · rw [kept]
        exact List.Perm.refl _
      · exact nextKey ▸ Nat.le_succ _
      · intro label member
        cases List.mem_singleton.mp member
        exact ⟨Nat.le_of_eq nextKey.symm, Nat.lt_succ_self _⟩

theorem Sending.tidy {message : Message} {expectsReply : Bool} {call : Call Nat}
    (sending : Sending message expectsReply before call) (tidy : Tidy before) :
    Tidy call.2.1 := by
  cases sending with
  | refused error => exact tidy
  | @kept sent effects accepts fresh transmitted =>
      obtain ⟨-, isDisposed, -, pending, -⟩ := transmitted.kept
      refine ⟨?_, fun ended => ?_⟩
      · have absent : message.msgId ∉ before.pending.map Prod.fst := by
          intro member
          obtain ⟨entry, waits, same⟩ := List.mem_map.mp member
          exact bne_iff_ne.mp (List.lookup_eq_none_iff.mp fresh entry waits) same.symm
        rw [keepRequest_pending fresh pending, List.map_append]
        refine List.nodup_append.mpr ⟨tidy.names, by simp, fun name member other new same => ?_⟩
        have named : other = message.msgId := List.mem_singleton.mp new
        rw [same, named] at member
        exact absent member
      · cases (isDisposed_of_checkOpen accepts).symm.trans (isDisposed ▸ ended)

theorem StatusChange.turnover {status : KernelStatus}
    (changed : StatusChange before status change) :
    ∃ gone, Turnover occurrence before change [] gone := by
  cases changed with
  | same | plain => exact ⟨[], .idle rfl (Nat.le_refl _) rfl⟩
  | died =>
      exact ⟨_, .clear .death rfl (Nat.le_refl _) (by simp [Clearing.error, Effect.settled?])
        (by simp [Clears])⟩
  | autoRestarted =>
      exact ⟨_, .clear .autoRestart rfl (Nat.le_refl _)
        (by simp [Clearing.error, Effect.settled?]) (by simp [Clears])⟩

theorem StatusChange.tidy {status : KernelStatus} (changed : StatusChange before status change)
    (tidy : Tidy before) : Tidy change.1 := by
  cases changed with
  | same => exact tidy
  | plain => exact tidy.ofSame rfl rfl
  | died | autoRestarted => exact .ofEmpty rfl

/-- Disposal rejects all requests that wait, in order. -/
theorem settledIn_dispose (tidy : Tidy before) :
    settledIn (dispose before).2 =
      before.pending.map fun entry => (entry.2.key, .error .disposed) := by
  cases disposed : before.isDisposed with
  | true => simp [dispose_again disposed, unchanged, tidy.disposed disposed]
  | false => simp [dispose_first disposed, Effect.settled?]

theorem dispose_pending (tidy : Tidy before) : (dispose before).1.pending = [] := by
  cases disposed : before.isDisposed with
  | true => exact dispose_again disposed ▸ tidy.disposed disposed
  | false => rw [dispose_first disposed]

theorem dispose_turnover (tidy : Tidy before) :
    ∃ gone, Turnover occurrence before (dispose before) [] gone := by
  have settled := settledIn_dispose tidy
  have emptied := dispose_pending tidy
  cases disposed : before.isDisposed with
  | true =>
      rw [dispose_again disposed]
      exact ⟨[], .idle rfl (Nat.le_refl _) rfl⟩
  | false =>
      rw [dispose_first disposed] at settled emptied ⊢
      exact ⟨_, .clear .disposal emptied (Nat.le_refl _) settled (by simp [Clears])⟩

/-- A request that is completed does not wait any more. -/
theorem Answering.turnover {msgId : String} {waiting : PendingReply} {message : Message}
    (answered : Answering msgId waiting message before change) (tidy : Tidy before)
    (read : occurrence.message? = some message) (asked : message.parentMsgId? = some msgId)
    (held : (msgId, waiting) ∈ occurrence.before.connection.pending)
    (waits : before.pending.lookup msgId = some waiting) :
    ∃ gone, Turnover occurrence before change [] gone := by
  cases answered with
  | completed complete =>
      refine ⟨[⟨⟨msgId, waiting.key⟩, .ok (waiting.note message).reply⟩], ?_, rfl, ?_,
        Nat.le_refl _, .nil, by simp⟩
      · rw [List.append_nil]
        exact (erase_of_lookup_some waits tidy.names).map _
      · intro settlement member
        cases List.mem_singleton.mp member
        exact .completed read asked held complete
  | noted incomplete =>
      obtain ⟨earlier, later, parts, assigned⟩ :=
        assign_of_lookup_some waits (waiting.note message)
      refine ⟨[], .idle ?_ (Nat.le_refl _) rfl⟩
      simp only [labels, assigned]
      simp [parts]

theorem Answering.tidy {msgId : String} {waiting : PendingReply} {message : Message}
    (answered : Answering msgId waiting message before change) (tidy : Tidy before)
    (waits : before.pending.lookup msgId = some waiting) : Tidy change.1 := by
  have alive : before.isDisposed = false := by
    cases disposed : before.isDisposed with
    | false => rfl
    | true =>
        rw [tidy.disposed disposed] at waits
        cases waits
  cases answered with
  | completed complete =>
      refine ⟨tidy.names.sublist (List.filter_sublist.map _), fun disposed => ?_⟩
      cases alive.symm.trans disposed
  | noted incomplete =>
      obtain ⟨earlier, later, parts, assigned⟩ :=
        assign_of_lookup_some waits (waiting.note message)
      refine ⟨?_, fun disposed => ?_⟩
      · have names := tidy.names
        rw [parts] at names
        simpa only [assigned, List.map_append, List.map_cons] using names
      · cases alive.symm.trans disposed

theorem settledIn_flush (socket : ActiveSocket) (queue : List Message) :
    settledIn (flush socket queue).effects = [] := by
  refine List.filterMap_eq_nil_iff.mpr fun effect member => ?_
  rcases flush_effects socket queue effect member with ⟨_, _, rfl⟩ | ⟨_, rfl⟩ <;> rfl

/-- Each part of an event does to requests what a turnover allows. -/
theorem Part.turnover {requests : List RequestLabel}
    (part : Part occurrence before change requests) (tidy : Tidy before) :
    (∃ gone, Turnover occurrence before change requests gone) ∧ Tidy change.1 := by
  cases part with
  | aside kept plain =>
      exact ⟨⟨[], .idle (labels_of_pending kept.pending) kept.nextKey (settledIn_of_isAside plain)⟩,
        tidy.ofSame kept.pending kept.isDisposed⟩
  | send sending => exact ⟨⟨[], sending.turnover⟩, sending.tidy tidy⟩
  | sendRaw transmission =>
      obtain ⟨-, isDisposed, -, pending, -⟩ := transmission.kept
      exact ⟨⟨[], transmission.turnover⟩, tidy.ofSame pending isDisposed⟩
  | setStatus sets changed => exact ⟨changed.turnover, changed.tidy tidy⟩
  | enter => exact ⟨⟨[], .idle rfl (Nat.le_refl _) rfl⟩, tidy.ofSame rfl rfl⟩
  | dropSocket plain =>
      exact ⟨⟨[], .idle rfl (Nat.le_refl _) (settledIn_of_isAside plain)⟩, tidy.ofSame rfl rfl⟩
  | dispose => exact ⟨dispose_turnover tidy, .ofEmpty (dispose_pending tidy)⟩
  | clear answered alive =>
      refine ⟨⟨_, .clear .restart rfl (Nat.le_refl _) ?_ answered⟩, .ofEmpty rfl⟩
      simp [Connection.clear, Clearing.error]
  | answer read asked held waits answered =>
      exact ⟨answered.turnover tidy read asked held waits, answered.tidy tidy waits⟩
  | flush =>
      exact ⟨⟨[], .idle rfl (Nat.le_refl _) (settledIn_flush _ _)⟩, tidy.ofSame rfl rfl⟩
  | install => exact ⟨⟨[], .idle rfl (Nat.le_refl _) rfl⟩, tidy.ofSame rfl rfl⟩
  | outputBroken => exact ⟨⟨[], .idle rfl (Nat.le_refl _) rfl⟩, tidy.ofSame rfl rfl⟩

theorem Composed.turnover {requests : List RequestLabel}
    (composed : Composed occurrence before change requests) (tidy : Tidy before) :
    (∃ gone, Turnover occurrence before change requests gone) ∧ Tidy change.1 := by
  induction composed with
  | part part => exact part.turnover tidy
  | append start rest first second =>
      obtain ⟨⟨gone, turnover⟩, middle⟩ := first tidy
      obtain ⟨⟨settled, further⟩, last⟩ := second middle
      exact ⟨⟨gone ++ settled, turnover.append further⟩, last⟩

theorem Occurrence.turnover (occurrence : Occurrence)
    (possible : occurrence.event.isPossible occurrence.before = true)
    (sound : SocketSound occurrence.before.connection)
    (tidy : Tidy occurrence.before.connection) :
    (∃ gone, Turnover occurrence occurrence.before.connection
        (occurrence.event.change occurrence.before.connection) occurrence.requests gone) ∧
      Tidy occurrence.after.connection :=
  (occurrence.composed sound possible).turnover tidy

/-- The requests that are made in a history. -/
def requestsIn (history : List Occurrence) : List RequestLabel :=
  history.flatMap Occurrence.requests

@[simp]
theorem requestsIn_snoc (history : List Occurrence) (occurrence : Occurrence) :
    requestsIn (history ++ [occurrence]) = requestsIn history ++ occurrence.requests := by
  simp [requestsIn]

/-- All that was settled in a history that starts without requests, with what it tells: what was
requested is what was settled and what waits, and each request has a number of its own. -/
structure Conserved (history : List Occurrence) (connection : Connection)
    (settlements : List Settlement) : Prop where
  conserves :
    (requestsIn history).Perm (settlements.map Settlement.label ++ labels connection)
  shown : settledIn (effectsOf history) = settlements.map Settlement.shown
  sorted : (requestsIn history).Pairwise fun first second => first.key < second.key
  numbered : ∀ label ∈ requestsIn history, label.key < connection.nextKey

theorem Conserved.next {history : List Occurrence} {occurrence : Occurrence}
    {settlements gone : List Settlement}
    (conserved : Conserved history occurrence.before.connection settlements)
    (turnover : Turnover occurrence occurrence.before.connection
      (occurrence.event.change occurrence.before.connection) occurrence.requests gone) :
    Conserved (history ++ [occurrence]) occurrence.after.connection (settlements ++ gone) where
  conserves := by
    have early := conserved.conserves.append_right occurrence.requests
    have late := turnover.conserves.append_left (settlements.map Settlement.label)
    simp only [requestsIn_snoc, List.append_assoc, List.map_append] at early late ⊢
    exact early.trans late
  shown := by
    rw [effectsOf_snoc, settledIn_append, List.map_append, conserved.shown]
    exact congrArg _ turnover.shown
  sorted := by
    rw [requestsIn_snoc]
    refine List.pairwise_append.mpr
      ⟨conserved.sorted, turnover.sorted, fun early before late now => ?_⟩
    exact Nat.lt_of_lt_of_le (conserved.numbered early before) (turnover.numbered late now).1
  numbered := by
    intro label member
    rw [requestsIn_snoc] at member
    rcases List.mem_append.mp member with early | late
    · exact Nat.lt_of_lt_of_le (conserved.numbered label early) turnover.ascends
    · exact (turnover.numbered label late).2

variable {start situation : Situation} {history : List Occurrence}

/-- In a run that starts without a socket and without requests every request is conserved, and each
event does what a turnover allows. -/
theorem Run.conserved (run : Run start history situation) (free : start.connection.socket = none)
    (empty : start.connection.pending = []) :
    (∃ settlements, Conserved history situation.connection settlements) ∧
      Tidy situation.connection ∧
      ∀ occurrence ∈ history, ∃ gone, Turnover occurrence occurrence.before.connection
        (occurrence.event.change occurrence.before.connection) occurrence.requests gone := by
  induction run with
  | start =>
      refine ⟨⟨[], ?_, rfl, .nil, by simp [requestsIn]⟩, .ofEmpty empty, by simp⟩
      simp [requestsIn, labels, empty]
  | @next history before run event possible earlier =>
      obtain ⟨⟨settlements, conserved⟩, tidy, turnovers⟩ := earlier
      obtain ⟨⟨gone, turnover⟩, last⟩ :=
        Occurrence.turnover ⟨before, event⟩ possible (run.sound (.ofFree free)) tidy
      refine ⟨⟨settlements ++ gone, conserved.next turnover⟩, last, fun occurrence member => ?_⟩
      rcases List.mem_append.mp member with early | late
      · exact turnovers occurrence early
      · cases List.mem_singleton.mp late
        exact ⟨gone, turnover⟩

/-- Among items with distinct keys each is the only one with its key. -/
theorem filter_of_nodup_map {Item Key : Type} [DecidableEq Key] (key : Item → Key)
    {items : List Item} (distinct : (items.map key).Nodup) {item : Item} (member : item ∈ items) :
    (items.filter fun other => key other = key item) = [item] := by
  induction items with
  | nil => cases member
  | cons first rest ih =>
      obtain ⟨fresh, others⟩ := List.nodup_cons.mp distinct
      rcases List.mem_cons.mp member with rfl | later
      · have none : (rest.filter fun other => key other = key item) = [] := by
          refine List.filter_eq_nil_iff.mpr fun other among => ?_
          have apart : key other ≠ key item := fun same =>
            fresh (List.mem_map.mpr ⟨other, among, same⟩)
          simpa using apart
        rw [List.filter_cons, if_pos (by simp), none]
      · have apart : key first ≠ key item := fun same =>
          fresh (List.mem_map.mpr ⟨item, later, same.symm⟩)
        rw [List.filter_cons, if_neg (by simpa using apart)]
        exact ih others later

/-- Among requests with distinct numbers those under different identifiers have different ones. -/
theorem key_ne_of_ne {entries : List (String × PendingReply)}
    (distinct : (entries.map fun entry => entry.2.key).Nodup) {first second : String × PendingReply}
    (member : first ∈ entries) (other : second ∈ entries) (apart : first.1 ≠ second.1) :
    first.2.key ≠ second.2.key := by
  intro same
  have alone :=
    filter_of_nodup_map (fun entry : String × PendingReply => entry.2.key) distinct other
  have among : first ∈ entries.filter fun entry => entry.2.key = second.2.key :=
    List.mem_filter.mpr ⟨member, by simpa using same⟩
  rw [alone] at among
  exact apart (congrArg Prod.fst (List.mem_singleton.mp among))

theorem settledIn_subset_append (first second : List Occurrence) :
    settledIn (effectsOf second) ⊆ settledIn (effectsOf (first ++ second)) := by
  rw [effectsOf_append, settledIn_append]
  exact List.subset_append_right _ _

theorem mem_outcomesOf {key : Nat} {outcome : Outcome} {effects : List Effect} :
    outcome ∈ outcomesOf key effects ↔ (key, outcome) ∈ settledIn effects := by
  simp [outcomesOf]

theorem outcomesOf_append (key : Nat) (first second : List Effect) :
    outcomesOf key (first ++ second) = outcomesOf key first ++ outcomesOf key second := by
  simp [outcomesOf]

namespace Conserved

variable {connection : Connection} {settlements : List Settlement}

theorem keys_nodup (conserved : Conserved history connection settlements) :
    ((settlements.map Settlement.label ++ labels connection).map RequestLabel.key).Nodup := by
  have distinct : ((requestsIn history).map RequestLabel.key).Nodup :=
    List.pairwise_map.mpr (conserved.sorted.imp Nat.ne_of_lt)
  exact (conserved.conserves.map RequestLabel.key).nodup_iff.mp distinct

theorem outcomesOf_eq (conserved : Conserved history connection settlements) (key : Nat) :
    outcomesOf key (effectsOf history) =
      (settlements.filter fun settlement => settlement.label.key = key).map
        Settlement.outcome := by
  rw [outcomesOf, conserved.shown, List.filter_map, List.map_map]
  rfl

/-- A request that waits has no outcome. -/
theorem outcomesOf_waiting (conserved : Conserved history connection settlements)
    {label : RequestLabel} (waits : label ∈ labels connection) :
    outcomesOf label.key (effectsOf history) = [] := by
  have distinct := conserved.keys_nodup
  rw [List.map_append] at distinct
  have apart := (List.nodup_append.mp distinct).2.2
  rw [conserved.outcomesOf_eq, List.map_eq_nil_iff, List.filter_eq_nil_iff]
  intro settlement member
  have other := apart settlement.label.key (by simpa using ⟨settlement, member, rfl⟩) label.key
    (List.mem_map_of_mem waits)
  simpa using other

/-- A request that was settled has one outcome and does not wait. -/
theorem outcomesOf_settled (conserved : Conserved history connection settlements)
    {settlement : Settlement} (settled : settlement ∈ settlements) :
    settlement.label ∉ labels connection ∧
      outcomesOf settlement.label.key (effectsOf history) = [settlement.outcome] := by
  have distinct := conserved.keys_nodup
  rw [List.map_append] at distinct
  obtain ⟨once, -, apart⟩ := List.nodup_append.mp distinct
  refine ⟨fun waits => ?_, ?_⟩
  · exact apart settlement.label.key (by simpa using ⟨settlement, settled, rfl⟩)
      settlement.label.key (List.mem_map_of_mem waits) rfl
  · rw [List.map_map] at once
    rw [conserved.outcomesOf_eq, filter_of_nodup_map (fun other => other.label.key) once settled,
      List.map_cons, List.map_nil]

/-- A request that was settled does not wait. -/
theorem key_ne_of_settled (conserved : Conserved history connection settlements) {key : Nat}
    {outcome : Outcome} (settled : (key, outcome) ∈ settledIn (effectsOf history)) :
    ∀ entry ∈ connection.pending, entry.2.key ≠ key := by
  rintro entry held rfl
  have member := mem_outcomesOf.mpr settled
  rw [conserved.outcomesOf_waiting (mem_labels held)] at member
  cases member

theorem length_outcomesOf_le (conserved : Conserved history connection settlements) (key : Nat) :
    (outcomesOf key (effectsOf history)).length ≤ 1 := by
  cases settled : outcomesOf key (effectsOf history) with
  | nil => exact Nat.zero_le 1
  | cons outcome rest =>
      have member : outcome ∈ outcomesOf key (effectsOf history) := by simp [settled]
      rw [conserved.outcomesOf_eq] at member
      obtain ⟨settlement, among, -⟩ := List.mem_map.mp member
      obtain ⟨among, same⟩ := List.mem_filter.mp among
      have once := (conserved.outcomesOf_settled among).2
      rw [of_decide_eq_true same, settled] at once
      rw [once]
      exact Nat.le_refl 1

/-- The numbers of the requests that wait are distinct. -/
theorem pending_keys_nodup (conserved : Conserved history connection settlements) :
    (connection.pending.map fun entry => entry.2.key).Nodup := by
  have distinct := conserved.keys_nodup
  rw [List.map_append] at distinct
  have waiting := (List.nodup_append.mp distinct).2.1
  rwa [labels, List.map_map] at waiting

/-- As many requests wait as were made and have no outcome. -/
theorem length_pending (conserved : Conserved history connection settlements) :
    connection.pending.length = (requestsIn history).countP fun label =>
      (outcomesOf label.key (effectsOf history)).isEmpty := by
  have settled : (settlements.map Settlement.label).countP (fun label =>
      (outcomesOf label.key (effectsOf history)).isEmpty) = 0 := by
    refine List.countP_eq_zero.mpr fun label member => ?_
    obtain ⟨settlement, among, rfl⟩ := List.mem_map.mp member
    simp [(conserved.outcomesOf_settled among).2]
  have waiting : (labels connection).countP (fun label =>
      (outcomesOf label.key (effectsOf history)).isEmpty) = (labels connection).length := by
    refine List.countP_eq_length.mpr fun label member => ?_
    simp [conserved.outcomesOf_waiting member]
  rw [conserved.conserves.countP_eq, List.countP_append, settled, waiting, Nat.zero_add, labels,
    List.length_map]

end Conserved

/-- A request that was settled is not settled again. -/
theorem Conserved.settled_once {settlements : List Settlement} {key : Nat} {outcome : Outcome}
    (conserved : Conserved (history ++ [occurrence]) connection settlements)
    (settled : (key, outcome) ∈ settledIn (effectsOf history)) :
    ∀ other, (key, other) ∉ settledIn occurrence.effects := by
  intro other again
  have most := conserved.length_outcomesOf_le key
  rw [effectsOf_snoc, outcomesOf_append, List.length_append] at most
  have early := List.length_pos_of_mem (mem_outcomesOf.mpr settled)
  have late := List.length_pos_of_mem (mem_outcomesOf.mpr again)
  omega

/-- In every run each request that was made waits for its outcome or has exactly one, with its
reply or with an error. It stops waiting only in an event that settles it, when it is complete or
when the connection is cleared. As many requests wait as were made and not settled, no two of them
under one identifier, and disposal rejects exactly these. -/
theorem Run.requests_settle_once {model : KernelModel} {clientId : String}
    {options : ConnectionOptions} (run : Run (.initial model clientId options) history situation) :
    (∀ label ∈ requestsIn history,
      (label ∈ labels situation.connection ∧
        outcomesOf label.key (effectsOf history) = []) ∨
      (label ∉ labels situation.connection ∧
        ∃ reply, outcomesOf label.key (effectsOf history) = [.ok reply]) ∨
      (label ∉ labels situation.connection ∧
        ∃ error, outcomesOf label.key (effectsOf history) = [.error error])) ∧
      (∀ label ∈ labels situation.connection, label ∈ requestsIn history) ∧
      (∀ occurrence ∈ history, ∀ label ∈ labels occurrence.before.connection,
        label ∉ labels occurrence.after.connection →
          ∃ outcome, (label.key, outcome) ∈ settledIn occurrence.effects ∧
            Settlement.IsDue occurrence occurrence.effects ⟨label, outcome⟩) ∧
      situation.connection.pending.length = (requestsIn history).countP (fun label =>
        (outcomesOf label.key (effectsOf history)).isEmpty) ∧
      (situation.connection.pending.map Prod.fst).Nodup ∧
      settledIn (dispose situation.connection).2 = situation.connection.pending.map
        (fun entry => (entry.2.key, .error .disposed)) ∧
      (dispose situation.connection).1.pending = [] := by
  obtain ⟨⟨settlements, conserved⟩, tidy, turnovers⟩ := run.conserved rfl rfl
  refine ⟨fun label made => ?_, fun label waits => ?_,
    fun occurrence happened label waited left => ?_, conserved.length_pending, tidy.names,
    settledIn_dispose tidy, dispose_pending tidy⟩
  · rcases List.mem_append.mp (conserved.conserves.mem_iff.mp made) with settled | waits
    · obtain ⟨⟨label, outcome⟩, among, rfl⟩ := List.mem_map.mp settled
      obtain ⟨absent, once⟩ := conserved.outcomesOf_settled among
      cases outcome with
      | ok reply => exact .inr (.inl ⟨absent, reply, once⟩)
      | error error => exact .inr (.inr ⟨absent, error, once⟩)
    · exact .inl ⟨waits, conserved.outcomesOf_waiting waits⟩
  · exact conserved.conserves.mem_iff.mpr (List.mem_append_right _ waits)
  · obtain ⟨gone, turnover⟩ := turnovers occurrence happened
    have kept := turnover.conserves.mem_iff.mp (List.mem_append_left _ waited)
    rcases List.mem_append.mp kept with settled | stays
    · obtain ⟨settlement, among, rfl⟩ := List.mem_map.mp settled
      refine ⟨settlement.outcome, ?_, turnover.due settlement among⟩
      exact turnover.shown ▸ List.mem_map.mpr ⟨settlement, among, rfl⟩
    · exact absurd stays left

/-- Two requests that wait for the socket when the connection is disposed. -/
def untilDisposal : List Event :=
  let message (msgId : String) : Message :=
    .create .shell "ping" msgId "client" "" .emptyObject .epoch
  [.beginConnecting, .send (message "1") true, .send (message "2") true, .dispose]

theorem requests_settle_once_at_disposal :
    Situation.usual.allows untilDisposal = true ∧
      requestsIn (Situation.usual.occurrences untilDisposal) = [⟨"1", 0⟩, ⟨"2", 1⟩] ∧
      ∀ label ∈ requestsIn (Situation.usual.occurrences untilDisposal),
        label ∉ labels (Situation.usual.afterAll untilDisposal).connection ∧
          ∃ error, outcomesOf label.key
            (effectsOf (Situation.usual.occurrences untilDisposal)) = [.error error] := by
  have allowed : Situation.usual.allows untilDisposal = true := rfl
  obtain ⟨conditions, -⟩ := Run.requests_settle_once (run_of_allows untilDisposal allowed)
  have requested : requestsIn (Situation.usual.occurrences untilDisposal) =
      [⟨"1", 0⟩, ⟨"2", 1⟩] := rfl
  refine ⟨allowed, requested, fun label made => ?_⟩
  rcases conditions label made with ⟨waits, -⟩ | ⟨absent, reply, once⟩ | rejected
  · cases waits
  · rw [requested] at made
    have either : label = ⟨"1", 0⟩ ∨ label = ⟨"2", 1⟩ := by simpa using made
    rcases either with rfl | rfl <;> cases once
  · exact rejected

end KernelClient.Connection
