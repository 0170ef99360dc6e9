import KernelClient.Proofs.Simulation.Loading

/-!
# The turns of a poll

A poll waits for its next tick or for the reply to what it has asked for, never for both. At a tick
it asks for its copy again if its manager is shown, and otherwise it waits for the next tick. A reply
is taken in, be it a failure or not, and the poll goes on. It is over only when it finds that its
manager has stopped.
-/

namespace KernelClient.Simulation

namespace World

variable {world : World} {id : ManagerId} {copy : Copy}

def IsManagerVisible (world : World) (id : ManagerId) : Prop :=
  ∃ view, world.manager? id = some view ∧ view.isVisible = true

theorem isDisposed_of_goesOn {view : ManagerView} (known : world.manager? id = some view)
    (goesOn : ¬world.isManagerStopped id = true) : view.isDisposed = false := by
  rw [isManagerStopped, known] at goesOn
  cases id with
  | kernels number | sessions number =>
      obtain ⟨object, -, rfl⟩ := Option.map_eq_some_iff.mp known
      exact (Bool.or_eq_false_iff.mp (Bool.eq_false_iff.mpr goesOn)).1

/-- At a tick that is seen the copy is asked for. -/
theorem pollTick_of_visible (goesOn : ¬world.isManagerStopped id = true)
    (visible : world.IsManagerVisible id) (interval : Interval) :
    world.pollTick id copy interval =
      afterExchange id copy (interval.tick world.clock)
        (world.ask (world.copyExchange id copy)) := by
  obtain ⟨view, known, isVisible⟩ := visible
  simp only [pollTick, known, isVisible, if_true]
  exact afterPoll_beginRefresh known (isDisposed_of_goesOn known goesOn) copy _

/-- A tick that nobody sees changes nothing but the time of the next one. -/
theorem pollTick_of_hidden (hidden : ¬world.IsManagerVisible id) (interval : Interval) :
    world.pollTick id copy interval = (.goesOn (.awaiting (interval.tick world.clock)), world) := by
  cases known : world.manager? id with
  | none => simp only [pollTick, known, Bool.false_eq_true, if_false]
  | some view =>
      have unseen : view.isVisible = false :=
        Bool.eq_false_iff.mpr fun visible => hidden ⟨view, known, visible⟩
      simp only [pollTick, known, unseen, Bool.false_eq_true, if_false]

end World

/-- The interval by which a poll waits for its next tick. -/
def PollWait.interval (period clock : Nat) : PollWait → Interval
  | .begin => .start period clock
  | .awaiting interval | .tick interval _ | .refreshing interval _ => interval

/-- Whether nothing is under way. -/
def PollWait.IsIdle : PollWait → Prop
  | .refreshing _ _ => False
  | _ => True

theorem PollWait.IsIdle.ne_refreshing {wait : PollWait} (idle : wait.IsIdle) {interval : Interval}
    {refresh : Refresh} : wait ≠ .refreshing interval refresh := by
  rintro rfl
  exact idle

/-- What a task waits for, or goes on with, after a turn. -/
def Turn.wait? {Wait : Type} : Turn Wait → Option Wait
  | .goesOn wait | .waits wait => some wait
  | .over => none

/-- A poll: whose copy it loads again, which one, and how often. -/
structure Poll where
  manager : ManagerId
  copy : Copy
  period : Nat

namespace Poll

def task (poll : Poll) (wait : PollWait) : Task :=
  .poll poll.manager poll.copy poll.period wait

/-- Take a turn. -/
def turn (poll : Poll) (wait : PollWait) (world : World) : Turn PollWait × World :=
  world.pollTurn poll.manager poll.copy poll.period wait

/-- The exchange for the copy. -/
def exchange (poll : Poll) (world : World) : Exchange poll.copy.Content :=
  world.copyExchange poll.manager poll.copy

end Poll

/-- A turn of a poll, by what it begins with. -/
structure PollTurn (poll : Poll) where
  wait : PollWait
  before : World

namespace PollTurn

variable {poll : Poll} {turn : PollTurn poll}

def next (turn : PollTurn poll) : Turn PollWait := (poll.turn turn.wait turn.before).1

def after (turn : PollTurn poll) : World := (poll.turn turn.wait turn.before).2

def interval (turn : PollTurn poll) : Interval :=
  turn.wait.interval poll.period turn.before.clock

/-- The interval after a tick in the turn. -/
def nextInterval (turn : PollTurn poll) : Interval := turn.interval.tick turn.before.clock

def IsStopped (turn : PollTurn poll) : Prop := turn.before.isManagerStopped poll.manager = true

def IsShown (turn : PollTurn poll) : Prop := turn.before.IsManagerVisible poll.manager

/-- Whether a turn finds that its tick is due. -/
structure IsTick (turn : PollTurn poll) : Prop where
  idle : turn.wait.IsIdle
  goesOn : ¬turn.IsStopped
  due : turn.interval.deadline ≤ turn.before.clock

/-- Whether a turn sends a request, and nothing else. -/
def Sends (turn : PollTurn poll) (request : Request) : Prop :=
  turn.after.trace.requests = turn.before.trace.requests ++ [request]

def IsSilent (turn : PollTurn poll) : Prop :=
  turn.after.trace.requests = turn.before.trace.requests

/-- What a turn comes to. -/
inductive Outcome (turn : PollTurn poll) : Prop where
  | stops (idle : turn.wait.IsIdle) (stopped : turn.IsStopped) (ends : turn.next = .over)
      (same : turn.after = turn.before)
  | rests (timer : Timer) (idle : turn.wait.IsIdle) (goesOn : ¬turn.IsStopped)
      (early : turn.before.clock < turn.interval.deadline)
      (waits : turn.next = .waits (.tick turn.interval timer))
      (aside : World.Aside turn.before turn.after) (silent : turn.IsSilent)
      (set : timer.due = some turn.interval.deadline ∨ turn.wait = .tick turn.interval timer)
  | skips (tick : turn.IsTick) (hidden : ¬turn.IsShown)
      (goesOn : turn.next = .goesOn (.awaiting turn.nextInterval))
      (same : turn.after = turn.before)
  | asks (tick : turn.IsTick) (shown : turn.IsShown)
      (asked : poll.turn turn.wait turn.before =
        World.afterExchange poll.manager poll.copy turn.nextInterval
          (turn.before.ask (poll.exchange turn.before)))
  | looks (interval : Interval) (refresh : Refresh)
      (underWay : turn.wait = .refreshing interval refresh)

theorem turn_eq (turn : PollTurn poll) :
    poll.turn turn.wait turn.before = (turn.next, turn.after) :=
  rfl

theorem not_isDue_iff {interval : Interval} {clock : Nat} :
    ¬interval.isDue clock = true ↔ clock < interval.deadline := by
  rw [Interval.isDue, decide_eq_true_eq, Nat.not_le]

/-- A turn in which the tick is due. -/
theorem outcome_of_tick (tick : turn.IsTick)
    (ticks : poll.turn turn.wait turn.before =
      turn.before.pollTick poll.manager poll.copy turn.interval) : turn.Outcome := by
  by_cases shown : turn.IsShown
  · exact .asks tick shown (ticks.trans (World.pollTick_of_visible tick.goesOn shown _))
  · rw [World.pollTick_of_hidden shown] at ticks
    exact .skips tick shown (congrArg Prod.fst ticks) (congrArg Prod.snd ticks)

/-- A turn that begins to wait for a tick. -/
theorem outcome_of_awaitTick (idle : turn.wait.IsIdle)
    (awaits : poll.turn turn.wait turn.before =
      turn.before.awaitTick poll.manager poll.copy turn.interval) : turn.Outcome := by
  by_cases stopped : turn.before.isManagerStopped poll.manager = true
  · rw [World.awaitTick, if_pos stopped] at awaits
    exact .stops idle stopped (congrArg Prod.fst awaits) (congrArg Prod.snd awaits)
  · rw [World.awaitTick, if_neg stopped] at awaits
    by_cases due : turn.interval.isDue turn.before.clock = true
    · rw [if_pos due] at awaits
      exact outcome_of_tick ⟨idle, stopped, of_decide_eq_true due⟩ awaits
    · rw [if_neg due] at awaits
      refine .rests _ idle stopped (not_isDue_iff.mp due) (congrArg Prod.fst awaits) ?_ ?_
        (.inl rfl)
      · rw [after, awaits]
        exact ⟨⟨rfl, rfl, rfl, rfl⟩, rfl⟩
      · rw [IsSilent, after, awaits]

theorem outcome (turn : PollTurn poll) : turn.Outcome := by
  obtain ⟨wait, before⟩ := turn
  cases wait with
  | begin => exact outcome_of_awaitTick trivial rfl
  | awaiting interval => exact outcome_of_awaitTick trivial rfl
  | tick interval timer =>
      have turned : poll.turn (.tick interval timer) before =
          if before.isManagerStopped poll.manager then (.over, before)
          else if interval.isDue before.clock then
            before.pollTick poll.manager poll.copy interval
          else (.waits (.tick interval timer), before) := rfl
      by_cases stopped : before.isManagerStopped poll.manager = true
      · rw [if_pos stopped] at turned
        exact .stops trivial stopped (congrArg Prod.fst turned) (congrArg Prod.snd turned)
      · rw [if_neg stopped] at turned
        by_cases due : interval.isDue before.clock = true
        · rw [if_pos due] at turned
          exact outcome_of_tick ⟨trivial, stopped, of_decide_eq_true due⟩ turned
        · rw [if_neg due] at turned
          refine .rests timer trivial stopped (not_isDue_iff.mp due) (congrArg Prod.fst turned) ?_
            ?_ (.inr rfl)
          · rw [after, turned]
            exact .refl before
          · rw [IsSilent, after, turned]
  | refreshing interval refresh => exact .looks interval refresh rfl

/-- At a tick a hidden manager is skipped, and for one that is shown the copy is asked for. -/
theorem IsTick.skips_or_asks (tick : turn.IsTick) :
    (¬turn.IsShown ∧ turn.next = .goesOn (.awaiting turn.nextInterval) ∧
        turn.after = turn.before) ∨
      (turn.IsShown ∧ poll.turn turn.wait turn.before =
        World.afterExchange poll.manager poll.copy turn.nextInterval
          (turn.before.ask (poll.exchange turn.before))) := by
  cases turn.outcome with
  | stops idle stopped => exact absurd stopped tick.goesOn
  | rests timer idle goesOn early => exact absurd tick.due (Nat.not_le.mpr early)
  | skips tick hidden goesOn same => exact .inl ⟨hidden, goesOn, same⟩
  | asks tick shown asked => exact .inr ⟨shown, asked⟩
  | looks interval refresh underWay => exact absurd underWay tick.idle.ne_refreshing

theorem isSilent_of_refreshing {interval : Interval} {refresh : Refresh}
    (underWay : turn.wait = .refreshing interval refresh) : turn.IsSilent := by
  rw [IsSilent, after, underWay]
  exact ((World.receives_checkRefresh _ _).trans (World.receives_afterPoll _ _ _)).requests

theorem requests_of_asked
    (asked : poll.turn turn.wait turn.before =
      World.afterExchange poll.manager poll.copy turn.nextInterval
        (turn.before.ask (poll.exchange turn.before))) :
    turn.after.trace.requests = turn.before.trace.requests ++
      (poll.exchange turn.before).request.toOption.toList := by
  rw [after, asked, (World.receives_afterExchange _ _).requests, World.requests_ask]

/-- A request is sent exactly at a tick at which the manager is shown, if it can be composed. -/
theorem sends_iff {request : Request} :
    turn.Sends request ↔
      turn.IsTick ∧ turn.IsShown ∧ (poll.exchange turn.before).request = .ok request := by
  have silent (same : turn.IsSilent) : ¬turn.Sends request := fun sends => by
    rw [Sends, same] at sends
    simp at sends
  cases turn.outcome with
  | stops idle stopped ends same =>
      refine iff_of_false (silent (by rw [IsSilent, same])) fun asks => ?_
      exact asks.1.goesOn stopped
  | rests timer idle goesOn early waits aside same =>
      exact iff_of_false (silent same) fun asks => Nat.not_le.mpr early asks.1.due
  | skips tick hidden goesOn same =>
      exact iff_of_false (silent (by rw [IsSilent, same])) fun asks => hidden asks.2.1
  | asks tick shown asked =>
      rw [Sends, requests_of_asked asked, List.append_cancel_left_eq]
      cases composed : (poll.exchange turn.before).request with
      | error error => simp [Except.toOption]
      | ok other => simp [Except.toOption, tick, shown]
  | looks interval refresh underWay =>
      exact iff_of_false (silent (isSilent_of_refreshing underWay)) fun asks =>
        asks.1.idle.ne_refreshing underWay

/-- A turn sends one request or nothing. -/
theorem silent_or_sends (turn : PollTurn poll) :
    turn.IsSilent ∨ ∃ request, turn.Sends request := by
  cases turn.outcome with
  | stops idle stopped ends same => exact .inl (by rw [IsSilent, same])
  | skips tick hidden goesOn same => exact .inl (by rw [IsSilent, same])
  | rests timer idle goesOn early waits aside same => exact .inl same
  | asks tick shown asked =>
      have requests := requests_of_asked asked
      cases composed : (poll.exchange turn.before).request with
      | error error =>
          rw [composed] at requests
          exact .inl (requests.trans (List.append_nil _))
      | ok request =>
          rw [composed] at requests
          exact .inr ⟨request, requests⟩
  | looks interval refresh underWay => exact .inl (isSilent_of_refreshing underWay)

/-- A poll is over exactly if it finds that its manager has stopped, with nothing under way. -/
theorem over_iff : turn.next = .over ↔ turn.wait.IsIdle ∧ turn.IsStopped := by
  cases turn.outcome with
  | stops idle stopped ends same => exact iff_of_true ends ⟨idle, stopped⟩
  | rests timer idle goesOn early waits aside same =>
      rw [waits]
      exact iff_of_false (by simp) fun ends => goesOn ends.2
  | skips tick hidden goesOn same =>
      rw [goesOn]
      exact iff_of_false (by simp) fun ends => tick.goesOn ends.2
  | asks tick shown asked =>
      refine iff_of_false ?_ fun ends => tick.goesOn ends.2
      rw [next, asked]
      generalize turn.before.ask (poll.exchange turn.before) = result
      obtain ⟨slot, after⟩ := result
      cases slot <;> simp [World.afterExchange]
  | looks interval refresh underWay =>
      refine iff_of_false ?_ fun ends => ends.1.ne_refreshing underWay
      rw [next, underWay]
      show (World.afterPoll _ _ _ _ _).1 ≠ _
      unfold World.afterPoll
      split <;> simp

/-- No turn of a poll stops its manager. -/
theorem isManagerStopped_after (turn : PollTurn poll) :
    turn.after.isManagerStopped poll.manager = turn.before.isManagerStopped poll.manager := by
  cases turn.outcome with
  | stops idle stopped ends same => rw [same]
  | rests timer idle goesOn early waits aside same => exact aside.isManagerStopped
  | skips tick hidden goesOn same => rw [same]
  | asks tick shown asked =>
      rw [after, asked, (World.receives_afterExchange _ _).isStopped]
      exact (World.aside_ask _ _).isManagerStopped
  | looks interval refresh underWay =>
      rw [after, underWay]
      exact ((World.receives_checkRefresh _ _).trans (World.receives_afterPoll _ _ _)).isStopped

/-- What the server replies to a request of a turn. -/
def reply (turn : PollTurn poll) (request : Request) : Answer :=
  (turn.before.server.answer request).1

/-- The time at which the reply to a request of a turn is there. -/
def replyTime (turn : PollTurn poll) (request : Request) : Nat :=
  turn.before.clock + (turn.reply request).delay

/-- Whether in a turn the result of an exchange is taken in, and the poll goes on to its next
tick. -/
structure Settles (turn : PollTurn poll) (exchange : Exchange poll.copy.Content)
    (answer : Except ServiceError Response) : Prop where
  taken : ∃ base, World.Aside turn.before base ∧
    turn.after = base.takeIn poll.manager poll.copy (exchange.settle answer).1
  goesOn : ∃ interval, turn.next = .goesOn (.awaiting interval)

/-- Whether in a turn the reply to a request of another turn, or of the same, is there and taken
in. -/
structure TakesIn (turn sender : PollTurn poll) (request : Request) : Prop where
  comes : (sender.reply request).isHanging = false
  inTime : sender.replyTime request ≤ turn.before.clock
  settles : turn.Settles (poll.exchange sender.before) (sender.reply request).outcome

/-- A turn that sends a request takes in the reply, or else the poll waits for it. -/
theorem takesIn_or_waits {request : Request} (sends : turn.Sends request) :
    turn.TakesIn turn request ∨
      ∃ timer, turn.next = .waits (.refreshing turn.nextInterval (.ofSlot poll.copy
          (.waiting (poll.exchange turn.before) timer (turn.reply request).outcome))) ∧
        timer.due =
          if (turn.reply request).isHanging then none else some (turn.replyTime request) := by
  obtain ⟨tick, shown, composed⟩ := sends_iff.mp sends
  obtain ⟨-, asked⟩ := tick.skips_or_asks.resolve_left fun skips => skips.1 shown
  have aside := World.aside_ask (poll.exchange turn.before) turn.before
  rcases World.ask_cases composed turn.before with ⟨comes, atOnce, settled⟩ | ⟨timer, waits, due⟩
  · have taken : poll.turn turn.wait turn.before =
        (.goesOn (.awaiting turn.nextInterval),
          (turn.before.ask (poll.exchange turn.before)).2.takeIn poll.manager poll.copy
            ((poll.exchange turn.before).settle (turn.reply request).outcome).1) := by
      rw [asked, ← Prod.eta (turn.before.ask _), settled]
      rfl
    refine .inl ⟨comes, ?_, ⟨_, aside, congrArg Prod.snd taken⟩, _, congrArg Prod.fst taken⟩
    exact Nat.le_of_eq (congrArg (turn.before.clock + ·) atOnce)
  · refine .inr ⟨timer, ?_, due⟩
    rw [next, asked, ← Prod.eta (turn.before.ask _), waits]
    rfl

section Waiting

variable {interval : Interval} {exchange : Exchange poll.copy.Content} {timer : Timer}
  {answer : Except ServiceError Response}

theorem turn_of_waiting
    (underWay : turn.wait =
      .refreshing interval (.ofSlot poll.copy (.waiting exchange timer answer))) :
    poll.turn turn.wait turn.before =
      World.afterExchange poll.manager poll.copy interval
        (turn.before.check (.waiting exchange timer answer)) := by
  rw [underWay]
  exact World.afterPoll_checkRefresh interval _

/-- As long as the reply is not there, the poll waits for it. -/
theorem next_of_early
    (underWay : turn.wait =
      .refreshing interval (.ofSlot poll.copy (.waiting exchange timer answer)))
    (early : timer.isDue turn.before.clock = false) : turn.next = .waits turn.wait := by
  have turned := turn_of_waiting underWay
  simp only [World.check, early, Bool.false_eq_true, if_false] at turned
  rw [next, turned, underWay]
  rfl

/-- A reply that is there is taken in. -/
theorem settles_of_due
    (underWay : turn.wait =
      .refreshing interval (.ofSlot poll.copy (.waiting exchange timer answer)))
    (due : timer.isDue turn.before.clock = true) : turn.Settles exchange answer := by
  have turned := turn_of_waiting underWay
  simp only [World.check, due, if_true] at turned
  have aside : World.Aside turn.before (turn.before.settle exchange answer).2 :=
    ⟨⟨rfl, rfl, rfl, rfl⟩, rfl⟩
  exact ⟨⟨_, aside, congrArg Prod.snd turned⟩, interval, congrArg Prod.fst turned⟩

end Waiting

end PollTurn

/-- Whether what a poll waits for is its tick, with a timer for it, or the reply to a request for
its copy. -/
def PollWait.Fits (copy : Copy) : PollWait → Prop
  | .begin | .awaiting _ => True
  | .tick interval timer => timer.due = some interval.deadline
  | .refreshing _ refresh =>
      ∃ exchange timer answer, refresh = .ofSlot copy (.waiting exchange timer answer)

namespace PollTurn

variable {poll : Poll} {turn : PollTurn poll}

theorem fits_afterExchange {wait : PollWait} {interval : Interval}
    {asked : Slot poll.copy.Content × World}
    (left : (World.afterExchange poll.manager poll.copy interval asked).1.wait? = some wait) :
    wait.Fits poll.copy := by
  obtain ⟨slot, after⟩ := asked
  cases slot with
  | waiting exchange timer answer =>
      obtain rfl := Option.some.inj left
      exact ⟨exchange, timer, answer, rfl⟩
  | settled result =>
      obtain rfl := Option.some.inj left
      trivial

theorem fits_next {wait : PollWait} (fits : turn.wait.Fits poll.copy)
    (left : turn.next.wait? = some wait) : wait.Fits poll.copy := by
  cases turn.outcome with
  | stops idle stopped ends same =>
      rw [ends] at left
      cases left
  | rests timer idle goesOn early waits aside same set =>
      rw [waits] at left
      obtain rfl := Option.some.inj left
      refine set.elim id fun waited => ?_
      rw [waited] at fits
      exact fits
  | skips tick hidden goesOn same =>
      rw [goesOn] at left
      obtain rfl := Option.some.inj left
      trivial
  | asks tick shown asked =>
      rw [next, asked] at left
      exact fits_afterExchange left
  | looks interval refresh underWay =>
      rw [underWay] at fits
      obtain ⟨exchange, timer, answer, rfl⟩ := fits
      rw [next, turn_of_waiting underWay] at left
      exact fits_afterExchange left

end PollTurn

end KernelClient.Simulation
