import KernelClient.Proofs.Simulation.PollTurns
import KernelClient.Proofs.Simulation.Reconnecting

/-!
# Polling

A poll takes one turn after the other, and anything can go on between two turns. What it has asked
for is taken in before it asks again, it asks only at ticks at which its manager is shown, and
neither a tick at which the manager is hidden nor a failure ends it. Once the manager is disposed
nothing is asked for any more.
-/

namespace KernelClient.Simulation

variable {poll : Poll}

/-- Turns that a poll takes one after the other, from what it waits for or is about to do. -/
inductive PollRun (poll : Poll) : PollWait → List (PollTurn poll) → Prop where
  | rests (wait : PollWait) : PollRun poll wait []
  | ends (turn : PollTurn poll) (last : turn.next = .over) : PollRun poll turn.wait [turn]
  | goesOn (turn : PollTurn poll) {wait : PollWait} {turns : List (PollTurn poll)}
      (left : turn.next.wait? = some wait)
      (meanwhile : ∀ later ∈ turns.head?, Steps turn.after later.before)
      (rest : PollRun poll wait turns) : PollRun poll turn.wait (turn :: turns)

/-- Whether a poll waits, or is about to wait, for its next tick. -/
def PollWait.Awaits (tick : Interval) (wait : PollWait) : Prop :=
  wait = .awaiting tick ∨ ∃ timer, wait = .tick tick timer

namespace PollWait.Awaits

variable {tick : Interval} {wait : PollWait}

theorem isIdle (awaits : wait.Awaits tick) : wait.IsIdle := by
  rcases awaits with rfl | ⟨timer, rfl⟩ <;> trivial

theorem interval (awaits : wait.Awaits tick) (period clock : Nat) :
    wait.interval period clock = tick := by
  rcases awaits with rfl | ⟨timer, rfl⟩ <;> rfl

end PollWait.Awaits

/-- The timer for a reply that may never come is over once the reply is there. -/
theorem isDue_reply_iff {timer : Timer} {never : Bool} {due clock : Nat}
    (set : timer.due = if never then none else some due) :
    timer.isDue clock = true ↔ never = false ∧ due ≤ clock := by
  rw [Timer.isDue, set]
  cases never <;> simp

namespace PollRun

variable {wait : PollWait} {turn : PollTurn poll} {early turns : List (PollTurn poll)}

/-- A run begins with what the poll waits for. -/
theorem begins (run : PollRun poll wait (turn :: turns)) : turn.wait = wait := by
  cases run <;> rfl

/-- A turn that is not the last one leaves what the others go on with. -/
theorem follows {later : PollTurn poll}
    (run : PollRun poll wait (turn :: (early ++ later :: turns))) :
    ∃ next, turn.next.wait? = some next ∧ PollRun poll next (early ++ later :: turns) := by
  generalize same : early ++ later :: turns = others at run
  cases run with
  | ends turn last => simp at same
  | goesOn turn left meanwhile rest => exact ⟨_, left, rest⟩

/-- The turns from some time on. -/
theorem drop (run : PollRun poll wait (early ++ turns)) : ∃ later, PollRun poll later turns := by
  induction early generalizing wait with
  | nil => exact ⟨wait, run⟩
  | cons turn early ih =>
      cases turns with
      | nil => exact ⟨wait, .rests wait⟩
      | cons next turns =>
          obtain ⟨later, -, rest⟩ := run.follows
          exact ih rest

/-- What a poll waits for always fits. -/
theorem fits (run : PollRun poll wait turns) (begins : wait.Fits poll.copy) :
    ∀ turn ∈ turns, turn.wait.Fits poll.copy := by
  induction run with
  | rests => simp
  | ends turn last => simpa using begins
  | goesOn turn left meanwhile rest ih =>
      exact List.forall_mem_cons.mpr ⟨begins, ih (turn.fits_next begins left)⟩

/-- A poll that waits for a reply takes it in, once it is there, before it asks for anything. -/
theorem settles_before {interval : Interval} {exchange : Exchange poll.copy.Content} {timer : Timer}
    {answer : Except ServiceError Response} {middle late : List (PollTurn poll)}
    {second : PollTurn poll} {request : Request}
    (run : PollRun poll (.refreshing interval (.ofSlot poll.copy (.waiting exchange timer answer)))
      (middle ++ second :: late))
    (sends : second.Sends request) :
    ∃ turn ∈ middle, timer.isDue turn.before.clock = true ∧ turn.Settles exchange answer := by
  induction middle with
  | nil =>
      -- The second request would be sent while the poll waits for the reply to the first one.
      exact absurd run.begins (PollTurn.sends_iff.mp sends).1.idle.ne_refreshing
  | cons turn middle ih =>
      have underWay := run.begins
      by_cases due : timer.isDue turn.before.clock = true
      · exact ⟨turn, List.mem_cons_self, due, PollTurn.settles_of_due underWay due⟩
      · obtain ⟨next, left, rest⟩ := run.follows
        rw [PollTurn.next_of_early underWay (Bool.eq_false_iff.mpr due), underWay] at left
        obtain rfl := Option.some.inj left
        obtain ⟨found, member, taken⟩ := ih rest
        exact ⟨found, List.mem_cons_of_mem _ member, taken⟩

/-- Between two requests of a poll the reply to the first one is taken in. -/
theorem takesIn_between {middle late : List (PollTurn poll)} {first second : PollTurn poll}
    {request other : Request} (run : PollRun poll wait (first :: (middle ++ second :: late)))
    (sends : first.Sends request) (again : second.Sends other) :
    ∃ turn ∈ first :: middle, turn.TakesIn first request := by
  rcases PollTurn.takesIn_or_waits sends with atOnce | ⟨timer, waits, due⟩
  · exact ⟨first, List.mem_cons_self, atOnce⟩
  · obtain ⟨next, left, rest⟩ := run.follows
    rw [waits] at left
    obtain rfl := Option.some.inj left
    obtain ⟨turn, member, isDue, settles⟩ := rest.settles_before again
    obtain ⟨comes, inTime⟩ := (isDue_reply_iff due).mp isDue
    exact ⟨turn, List.mem_cons_of_mem _ member, comes, inTime, settles⟩

/-- A reply is taken in in the first turn in which it is there. -/
theorem settles_first {interval : Interval} {exchange : Exchange poll.copy.Content} {timer : Timer}
    {answer : Except ServiceError Response} {middle late : List (PollTurn poll)}
    {later : PollTurn poll}
    (run : PollRun poll (.refreshing interval (.ofSlot poll.copy (.waiting exchange timer answer)))
      (middle ++ later :: late))
    (early : ∀ turn ∈ middle, timer.isDue turn.before.clock = false)
    (due : timer.isDue later.before.clock = true) : later.Settles exchange answer := by
  induction middle with
  | nil => exact PollTurn.settles_of_due run.begins due
  | cons turn middle ih =>
      have underWay := run.begins
      obtain ⟨next, left, rest⟩ := run.follows
      rw [PollTurn.next_of_early underWay (early turn List.mem_cons_self), underWay] at left
      obtain rfl := Option.some.inj left
      exact ih rest fun other member => early other (List.mem_cons_of_mem _ member)

/-- A poll that waits for its next tick takes it in the first turn that is not too early. -/
theorem isTick_of_late {interval : Interval} {middle late : List (PollTurn poll)}
    {next : PollTurn poll} (run : PollRun poll wait (middle ++ next :: late))
    (awaits : wait.Awaits interval)
    (early : ∀ turn ∈ middle, turn.before.clock < interval.deadline)
    (due : interval.deadline ≤ next.before.clock) (goesOn : ¬next.IsStopped) : next.IsTick := by
  induction middle generalizing wait with
  | nil =>
      obtain rfl := run.begins
      exact ⟨awaits.isIdle, goesOn, by rwa [PollTurn.interval, awaits.interval]⟩
  | cons turn middle ih =>
      obtain rfl := run.begins
      obtain ⟨later, left, rest⟩ := run.follows
      have same : turn.interval = interval := awaits.interval _ _
      have soon := early turn List.mem_cons_self
      -- No tick can be found in this turn, so that the poll waits as before.
      have tooEarly (tick : turn.IsTick) : next.IsTick :=
        absurd (same ▸ tick.due) (Nat.not_le.mpr soon)
      cases turn.outcome with
      | stops idle stopped ends =>
          rw [ends] at left
          cases left
      | rests timer idle goesOn soon waits =>
          rw [waits, same] at left
          obtain rfl := Option.some.inj left
          exact ih rest (.inr ⟨timer, rfl⟩) fun other member =>
            early other (List.mem_cons_of_mem _ member)
      | skips tick => exact tooEarly tick
      | asks tick => exact tooEarly tick
      | looks interval refresh underWay => exact absurd underWay awaits.isIdle.ne_refreshing

end PollRun

namespace World

variable {world : World} {id : ManagerId}

/-- A manager that has stopped does not go on later. -/
theorem isManagerStopped_of_steps {later : World} {view : ManagerView}
    (known : world.manager? id = some view) (stopped : view.isStopped = true)
    (steps : Steps world later) : later.isManagerStopped id = true := by
  cases id with
  | kernels number =>
      obtain ⟨object, there, rfl⟩ := Option.map_eq_some_iff.mp known
      obtain ⟨final, present, becomes⟩ := steps.proceeds.kernelManagers.kept number object there
      have present : later.kernelManager? number = some final := present
      rw [isManagerStopped, manager?, present]
      exact becomes.isStopped stopped
  | sessions number =>
      obtain ⟨object, there, rfl⟩ := Option.map_eq_some_iff.mp known
      obtain ⟨final, present, becomes⟩ := steps.proceeds.sessionManagers.kept number object there
      have present : later.sessionManager? number = some final := present
      rw [isManagerStopped, manager?, present]
      exact becomes.isStopped stopped

theorem isStopped_dispose {Model Connection : Type} (object : ManagerObject Model Connection) :
    (object.take object.manager.dispose).isStopped = true := by
  rw [ManagerObject.isStopped, ManagerObject.take_manager]
  have disposed : object.manager.dispose.1.isDisposed = true := by
    unfold Manager.dispose
    split
    case isTrue already => exact already
    case isFalse => rfl
  rw [disposed, Bool.true_or]

/-- Once a manager was disposed it has stopped, whatever goes on. -/
theorem isManagerStopped_of_disposed {later : World} {view : ManagerView}
    (known : world.manager? id = some view)
    (steps : Steps (world.changeManager id disposeManager) later) :
    later.isManagerStopped id = true := by
  cases id with
  | kernels number =>
      obtain ⟨object, there, rfl⟩ := Option.map_eq_some_iff.mp known
      have taken : (world.changeManager (.kernels number) disposeManager).kernelManager? number =
          some (object.take object.manager.dispose) := kernelManager?_change there Manager.dispose
      exact isManagerStopped_of_steps (congrArg (Option.map _) taken) (isStopped_dispose object)
        steps
  | sessions number =>
      obtain ⟨object, there, rfl⟩ := Option.map_eq_some_iff.mp known
      have taken : (world.changeManager (.sessions number) disposeManager).sessionManager? number =
          some (object.take object.manager.dispose) := sessionManager?_change there Manager.dispose
      exact isManagerStopped_of_steps (congrArg (Option.map _) taken) (isStopped_dispose object)
        steps

end World

/-- A turn that finds its manager stopped sends nothing. -/
theorem PollTurn.isSilent_of_isStopped {turn : PollTurn poll} (stopped : turn.IsStopped) :
    turn.IsSilent := by
  rcases turn.silent_or_sends with silent | ⟨request, sends⟩
  · exact silent
  · exact absurd stopped (PollTurn.sends_iff.mp sends).1.goesOn

/-- The task that a run leaves. -/
def RunEnd.task? : RunEnd → Option Task
  | .waits task | .pauses task => some task
  | .over => none

/-- Whether what comes of a run of a task is that a poll takes some turns, each in the world that
the one before has left, and that it goes on with what is put back. -/
structure Poll.Takes (poll : Poll) (wait : PollWait) (world : World) (turns : List (PollTurn poll))
    (result : RunEnd × World) : Prop where
  begins : ∀ turn ∈ turns.head?, turn.before = world
  stays : turns = [] → result.2 = world
  ends : result.1.task? = none → PollRun poll wait turns
  left : ∀ task, result.1.task? = some task → ∃ next, task = poll.task next ∧
    ∀ more, (∀ later ∈ more.head?, Steps result.2 later.before) → PollRun poll next more →
      PollRun poll wait (turns ++ more)

/-- A run in which the poll takes a turn after which it goes on at once. -/
theorem Poll.Takes.cons {turn : PollTurn poll} {wait : PollWait} {turns : List (PollTurn poll)}
    {result : RunEnd × World} (goesOn : turn.next = .goesOn wait)
    (takes : poll.Takes wait turn.after turns result) :
    poll.Takes turn.wait turn.before (turn :: turns) result where
  begins first here := by
    obtain rfl := Option.some.inj here
    rfl
  stays none := by simp at none
  ends last := by
    refine .goesOn turn (by rw [goesOn]; rfl) (fun later first => ?_) (takes.ends last)
    rw [takes.begins later first]
    exact .refl _
  left task there := by
    obtain ⟨next, same, follows⟩ := takes.left task there
    refine ⟨next, same, fun more meanwhile run => ?_⟩
    refine .goesOn turn (by rw [goesOn]; rfl) (fun later first => ?_) (follows more meanwhile run)
    cases turns with
    | nil =>
        rw [← takes.stays rfl]
        exact meanwhile later first
    | cons head tail =>
        rw [takes.begins later first]
        exact .refl _

theorem PollTurn.goOn_succ (turn : PollTurn poll) (most : Nat) :
    World.goOn poll.task poll.turn (most + 1) turn.wait turn.before =
      match turn.next with
      | .goesOn next => World.goOn poll.task poll.turn most next turn.after
      | .waits next => (.waits (poll.task next), turn.after)
      | .over => (.over, turn.after) := by
  rw [World.goOn, turn.turn_eq]
  cases turn.next <;> rfl

/-- A run of the task of a poll is made of turns. -/
theorem Poll.exists_turns (poll : Poll) (most : Nat) (wait : PollWait) (world : World) :
    ∃ turns, poll.Takes wait world turns (World.goOn poll.task poll.turn most wait world) := by
  induction most generalizing wait world with
  | zero =>
      unfold World.goOn
      refine ⟨[], ?_, fun _ => rfl, by simp [RunEnd.task?], fun task there => ?_⟩
      · rintro first ⟨⟩
      · obtain rfl := Option.some.inj there
        exact ⟨wait, rfl, fun more _ run => run⟩
  | succ most ih =>
      let turn : PollTurn poll := ⟨wait, world⟩
      show ∃ turns, poll.Takes turn.wait turn.before turns _
      rw [turn.goOn_succ]
      rcases taken : turn.next with next | next | _
      · obtain ⟨turns, takes⟩ := ih next turn.after
        exact ⟨turn :: turns, takes.cons taken⟩
      · refine ⟨[turn], ?_, by simp, by simp [RunEnd.task?], fun task there => ?_⟩
        · rintro first ⟨⟩
          rfl
        · obtain rfl := Option.some.inj there
          refine ⟨next, rfl, fun more meanwhile run => ?_⟩
          exact .goesOn turn (by rw [taken]; rfl) meanwhile run
      · refine ⟨[turn], ?_, by simp, fun _ => .ends turn taken, fun task there => ?_⟩
        · rintro first ⟨⟩
          rfl
        · cases there

/-- A run of the task of a poll whose manager has stopped sends nothing. -/
theorem Poll.requests_goOn {world : World} (stopped : world.isManagerStopped poll.manager = true)
    (most : Nat) (wait : PollWait) :
    (World.goOn poll.task poll.turn most wait world).2.trace.requests = world.trace.requests := by
  induction most generalizing wait world with
  | zero => rw [World.goOn]
  | succ most ih =>
      let turn : PollTurn poll := ⟨wait, world⟩
      have silent : turn.IsSilent := PollTurn.isSilent_of_isStopped stopped
      show (World.goOn poll.task poll.turn (most + 1) turn.wait turn.before).2.trace.requests = _
      rw [turn.goOn_succ]
      rcases turn.next with next | next | _
      · exact (ih (turn.isManagerStopped_after.trans stopped) next).trans silent
      · exact silent
      · exact silent

/-- What a poll waits for wakes it. -/
theorem Poll.isReady_task {world : World} {wait : PollWait} {timer : Timer} {due : Nat}
    (fits : wait.Fits poll.copy) (runs : timer ∈ (poll.task wait).timers)
    (set : timer.due = some due) (late : due ≤ world.clock) :
    world.isReady (poll.task wait) = true := by
  have isDue : timer.isDue world.clock = true := by simp [Timer.isDue, set, late]
  cases wait with
  | begin => rfl
  | awaiting interval => rfl
  | tick interval waited =>
      obtain rfl := List.mem_singleton.mp runs
      obtain rfl := Option.some.inj (set.symm.trans fits)
      show (_ || _) = true
      rw [Interval.isDue, decide_eq_true late, Bool.or_true]
  | refreshing interval refresh =>
      obtain ⟨exchange, waited, answer, rfl⟩ := fits
      obtain ⟨manager, copy, period⟩ := poll
      cases copy with
      | running | specs =>
          obtain rfl := List.mem_singleton.mp runs
          exact isDue

/-- The number that the next manager of a kind gets. -/
def World.nextManager (kind : ManagerKind) (world : World) : ManagerId :=
  match kind with
  | .kernels => .kernels world.kernelManagers.length
  | .sessions => .sessions world.sessionManagers.length

/-- The polls of a manager: one of each copy that has a period other than zero. -/
def ManagerOptions.polls (options : ManagerOptions) (id : ManagerId) : List Poll :=
  [(Copy.running, options.poll.running), (Copy.specs, options.poll.specs)].filterMap
    fun (copy, period) => period.bind fun period =>
      if period = 0 then none else some ⟨id, copy, period⟩

theorem World.ready_nameManager (name : String) (id : ManagerId) (world : World) :
    (world.nameManager name id).ready = world.ready := by
  unfold nameManager observeManager
  cases id with
  | kernels number | sessions number =>
      dsimp only
      split <;> rfl

/-- With a manager its polls begin, and no others. -/
theorem World.ready_createManager (world : World) (name : String) (kind : ManagerKind)
    (options : ManagerOptions) (isVisible : Bool) :
    (world.createManager name kind options isVisible).ready =
      world.ready ++ .load (world.nextManager kind) .begin ::
        (options.polls (world.nextManager kind)).map fun poll => poll.task .begin := by
  unfold createManager
  dsimp only
  rw [ready_nameManager]
  obtain ⟨⟨running, specs⟩, kernel⟩ := options
  cases kind with
  | kernels | sessions =>
      rcases running with _ | _ | running <;> rcases specs with _ | _ | specs <;>
        simp [ManagerOptions.polls, spawn, nextManager, Poll.task]

/-- How a poll goes on in a run, whatever happens between its turns. It waits for its tick or for a
reply. It asks for its copy, with one request in a turn, exactly at the ticks at which its manager is
shown, unless the request cannot be composed. Between two requests the reply to the first one is taken
in, which happens in the first turn in which it is there. A tick at which the manager is hidden
changes nothing but the time of the next one, and each tick is taken in the first turn that is not
too early. Only a manager that has stopped ends the poll, and the poll does not stop it. Once the
manager was disposed nothing is sent, and the poll is over unless it still waits for a reply. -/
structure Poll.KeepsOrder (poll : Poll) (turns : List (PollTurn poll)) : Prop where
  fits : ∀ turn ∈ turns, ∀ wait, turn.next.wait? = some wait → wait.Fits poll.copy
  asks : ∀ turn ∈ turns, (turn.IsSilent ∨ ∃ request, turn.Sends request) ∧
    ∀ request, turn.Sends request ↔
      turn.IsTick ∧ turn.IsShown ∧ (poll.exchange turn.before).request = .ok request
  apart : ∀ early first middle second late request other,
    turns = early ++ first :: (middle ++ second :: late) →
    first.Sends request → second.Sends other → ∃ turn ∈ first :: middle, turn.TakesIn first request
  replies : ∀ early first middle later late request,
    turns = early ++ first :: (middle ++ later :: late) →
    first.Sends request → (first.reply request).isHanging = false →
    (∀ turn ∈ first :: middle, turn.before.clock < first.replyTime request) →
    first.replyTime request ≤ later.before.clock → later.TakesIn first request
  skips : ∀ turn ∈ turns, turn.IsTick → ¬turn.IsShown →
    turn.next = .goesOn (.awaiting turn.nextInterval) ∧ turn.after = turn.before
  ticks : ∀ early turn middle next late wait interval,
    turns = early ++ turn :: (middle ++ next :: late) →
    turn.next.wait? = some wait → wait.Awaits interval →
    (∀ other ∈ middle, other.before.clock < interval.deadline) →
    interval.deadline ≤ next.before.clock → ¬next.IsStopped → next.IsTick
  ends : ∀ turn ∈ turns, (turn.next = .over ↔ turn.wait.IsIdle ∧ turn.IsStopped) ∧
    turn.after.isManagerStopped poll.manager = turn.before.isManagerStopped poll.manager
  disposed : ∀ turn ∈ turns, ∀ (world : World) view, world.manager? poll.manager = some view →
    Steps (world.changeManager poll.manager World.disposeManager) turn.before →
      turn.IsSilent ∧ (turn.wait.IsIdle → turn.next = .over)

/-- How the task of a poll is served. Each run of it is made of turns. It is woken when its tick or
its reply is due, and the clock does not pass by that time. Once its manager was disposed no run of
it sends anything. -/
structure Poll.IsServed (poll : Poll) : Prop where
  turns : ∀ wait world, ∃ turns, poll.Takes wait world turns
    (World.runPoll poll.manager poll.copy poll.period wait world)
  wakes : ∀ (world : World) wait timer due time, wait.Fits poll.copy →
    poll.task wait ∈ world.waiting → timer ∈ (poll.task wait).timers → timer.due = some due →
    due ≤ time → poll.task wait ∈ (world.setClock time).ready
  halts : ∀ (world : World) wait timer due limit, poll.task wait ∈ world.waiting →
    timer ∈ (poll.task wait).timers → timer.due = some due → world.clock < due → due < limit →
      ∃ next ≤ due, world.nextDue? limit = some next
  disposed : ∀ (world later : World) view wait, world.manager? poll.manager = some view →
    Steps (world.changeManager poll.manager World.disposeManager) later →
      (World.runPoll poll.manager poll.copy poll.period wait later).2.trace.requests =
        later.trace.requests

theorem PollRun.keepsOrder {turns : List (PollTurn poll)} (run : PollRun poll .begin turns) :
    poll.KeepsOrder turns where
  fits turn member wait left := turn.fits_next (run.fits trivial turn member) left
  asks turn _ := ⟨turn.silent_or_sends, fun _ => PollTurn.sends_iff⟩
  apart early first middle second late request other same sends again := by
    subst same
    obtain ⟨later, rest⟩ := run.drop
    exact rest.takesIn_between sends again
  replies early first middle next late request same sends comes soon due := by
    subst same
    obtain ⟨later, rest⟩ := run.drop
    rcases PollTurn.takesIn_or_waits sends with atOnce | ⟨timer, waits, set⟩
    · exact absurd atOnce.inTime (Nat.not_le.mpr (soon first List.mem_cons_self))
    · obtain ⟨next, left, others⟩ := rest.follows
      rw [waits] at left
      obtain rfl := Option.some.inj left
      refine ⟨comes, due, others.settles_first (fun turn member => ?_) ?_⟩
      · refine Bool.eq_false_iff.mpr fun isDue => ?_
        exact Nat.not_le.mpr (soon turn (List.mem_cons_of_mem _ member))
          ((isDue_reply_iff set).mp isDue).2
      · exact (isDue_reply_iff set).mpr ⟨comes, due⟩
  skips turn _ tick hidden :=
    (tick.skips_or_asks.resolve_right fun asks => hidden asks.1).2
  ticks early turn middle next late wait interval same left awaits soon due goesOn := by
    subst same
    obtain ⟨later, rest⟩ := run.drop
    obtain ⟨next, there, others⟩ := rest.follows
    obtain rfl := Option.some.inj (left.symm.trans there)
    exact others.isTick_of_late awaits soon due goesOn
  ends turn _ := ⟨PollTurn.over_iff, turn.isManagerStopped_after⟩
  disposed turn _ world view known steps := by
    have stopped : turn.IsStopped := World.isManagerStopped_of_disposed known steps
    exact ⟨PollTurn.isSilent_of_isStopped stopped,
      fun idle => PollTurn.over_iff.mpr ⟨idle, stopped⟩⟩

theorem Poll.isServed (poll : Poll) : poll.IsServed where
  turns wait world := poll.exists_turns World.budget wait world
  wakes _ _ _ _ _ fits waits runs set late :=
    World.mem_ready_wake waits (Poll.isReady_task fits runs set late)
  halts _ _ _ _ _ waits runs set early within := World.nextDue?_le waits runs set early within
  disposed _ _ _ wait known steps :=
    Poll.requests_goOn (World.isManagerStopped_of_disposed known steps) World.budget wait

/-- Polls keep their order. With a manager one poll begins for each copy that has a period other
than zero. Whatever goes on between its turns, a poll asks for its copy only at a tick at which the
manager is shown, and not again before it has taken in the reply. Neither a tick at which the manager
is hidden nor a failure ends it. Once the manager was disposed it asks for nothing any more. -/
theorem polls_keep_order :
    (∀ (world : World) name kind (options : ManagerOptions) isVisible,
      (world.createManager name kind options isVisible).ready =
        world.ready ++ .load (world.nextManager kind) .begin ::
          (options.polls (world.nextManager kind)).map fun poll => poll.task .begin) ∧
    (∀ (poll : Poll) turns, PollRun poll .begin turns → poll.KeepsOrder turns) ∧
    ∀ poll : Poll, poll.IsServed :=
  ⟨World.ready_createManager, fun _ _ run => run.keepsOrder, Poll.isServed⟩

/-- What operations make of a world until some time. -/
def World.performed (operations : List Operation) (time : Nat) (world : World) : World :=
  (operations.foldl (fun world operation => (world.perform operation).2) world).setClock time

theorem World.steps_performed (operations : List Operation) (time : Nat) (world : World) :
    Steps world (world.performed operations time) := by
  have performed : Steps world
      (operations.foldl (fun world operation => (world.perform operation).2) world) := by
    induction operations generalizing world with
    | nil => exact .refl world
    | cons operation rest ih => exact (acts_perform operation).steps.trans (ih _)
  exact performed.trans (steps_setClock time)

/-- The turns that a poll takes at some times, each after some operations. -/
def Poll.turnsAt (poll : Poll) :
    PollWait → World → List (List Operation × Nat) → List (PollTurn poll)
  | _, _, [] => []
  | wait, world, (operations, time) :: script =>
      let turn : PollTurn poll := ⟨wait, world.performed operations time⟩
      turn :: match turn.next.wait? with
        | some next => poll.turnsAt next turn.after script
        | none => []

theorem Poll.steps_turnsAt {poll : Poll} {script : List (List Operation × Nat)} {wait : PollWait}
    {world : World} : ∀ turn ∈ (poll.turnsAt wait world script).head?, Steps world turn.before := by
  intro turn first
  cases script with
  | nil =>
      rw [turnsAt] at first
      cases first
  | cons step script =>
      obtain ⟨operations, time⟩ := step
      rw [turnsAt] at first
      obtain rfl := Option.some.inj first
      exact World.steps_performed operations time world

theorem Poll.run_turnsAt (poll : Poll) (script : List (List Operation × Nat)) (wait : PollWait)
    (world : World) : PollRun poll wait (poll.turnsAt wait world script) := by
  induction script generalizing wait world with
  | nil => exact .rests wait
  | cons step script ih =>
      let turn : PollTurn poll := ⟨wait, world.performed step.1 step.2⟩
      show PollRun poll turn.wait (turn :: match turn.next.wait? with
        | some next => poll.turnsAt next turn.after script
        | none => [])
      rcases taken : turn.next with next | next | _
      · exact .goesOn turn (by rw [taken]; rfl) steps_turnsAt (ih next turn.after)
      · exact .goesOn turn (by rw [taken]; rfl) steps_turnsAt (ih next turn.after)
      · exact .ends turn taken

/-- A manager whose list is answered after a tenth of a second, and that polls it every second. -/
def World.polling : World :=
  scripted [
    answering .get "/api/kernels" 200 "[]" 100,
    ⟨.createManager "m" .kernels ⟨⟨some 1000, none⟩, .usual⟩ true, true⟩]

def listPoll : Poll := ⟨.kernels 0, .running, 1000⟩

/-- The list is polled. Then the manager is hidden at a tick, the server cannot be reached at two of
them, and at last the manager is disposed when a tick is due. -/
def pollTurns : List (PollTurn listPoll) :=
  listPoll.turnsAt .begin World.polling [
    ([], 0), ([], 1000), ([], 1100), ([.setVisible "m" false], 2000),
    ([.setVisible "m" true, .offline true], 3000), ([], 4000), ([.disposeManager "m"], 5000)]

/-- The time of a turn, the number of requests that it sends, and whether the poll goes on. -/
def PollTurn.seen (turn : PollTurn poll) : Nat × Nat × Bool :=
  (turn.before.clock, turn.after.trace.requests.length - turn.before.trace.requests.length,
    turn.next.wait?.isSome)

theorem PollTurn.seen_eq {turn : PollTurn poll} {time sent : Nat} {goesOn : Bool}
    (seen : turn.seen = (time, sent, goesOn)) :
    turn.before.clock = time ∧ (sent = 0 → turn.IsSilent) ∧
      (sent = 1 → ∃ request, turn.Sends request) ∧ (goesOn = false → turn.next = .over) := by
  simp only [PollTurn.seen, Prod.mk.injEq] at seen
  obtain ⟨rfl, rfl, rfl⟩ := seen
  refine ⟨rfl, fun none => ?_, fun one => ?_, fun ends => ?_⟩
  · refine turn.silent_or_sends.resolve_right ?_
    rintro ⟨request, sends⟩
    rw [Sends] at sends
    simp [sends] at none
  · refine turn.silent_or_sends.resolve_left fun silent => ?_
    rw [IsSilent] at silent
    simp [silent] at one
  · rcases taken : turn.next with wait | wait | _
    · rw [taken] at ends
      cases ends
    · rw [taken] at ends
      cases ends
    · rfl

theorem seen_pollTurns : pollTurns.map PollTurn.seen = [
    (0, 0, true), (1000, 1, true), (1100, 0, true), (2000, 0, true), (3000, 1, true),
    (4000, 1, true), (5000, 0, false)] := by
  decide +kernel

/-- A poll whose first reply is taken in before it asks again. It does so after a tick at which its
manager was hidden, and after a failure, and it is over at the tick after the disposal. -/
theorem polls_keep_order_in_trouble :
    ∃ begun first reply skipped failed again last,
      PollRun listPoll .begin [begun, first, reply, skipped, failed, again, last] ∧
      (∃ request, first.Sends request ∧
        ∃ turn ∈ [first, reply, skipped], turn.TakesIn first request) ∧
      skipped.IsSilent ∧ (∃ request, failed.Sends request) ∧ (∃ request, again.Sends request) ∧
      last.IsSilent ∧ last.IsStopped := by
  obtain ⟨-, order, -⟩ := polls_keep_order
  have run : PollRun listPoll .begin pollTurns := listPoll.run_turnsAt _ _ _
  have seen := seen_pollTurns
  simp only [List.map_eq_cons_iff, List.map_eq_nil_iff] at seen
  obtain ⟨begun, _, same, -, first, _, rfl, atFirst, reply, _, rfl, -, skipped, _, rfl, atSkipped,
    failed, _, rfl, atFailed, again, _, rfl, atAgain, last, _, rfl, atLast, rfl⟩ := seen
  rw [same] at run
  have kept := order listPoll _ run
  obtain ⟨request, sends⟩ := (PollTurn.seen_eq atFirst).2.2.1 rfl
  obtain ⟨other, fails⟩ := (PollTurn.seen_eq atFailed).2.2.1 rfl
  obtain ⟨-, silent, -, ends⟩ := PollTurn.seen_eq atLast
  have taken := kept.apart [begun] first [reply, skipped] failed [again, last] request other rfl
    sends fails
  have stopped := (kept.ends last (by simp)).1.mp (ends rfl)
  exact ⟨begun, first, reply, skipped, failed, again, last, run, ⟨request, sends, taken⟩,
    (PollTurn.seen_eq atSkipped).2.1 rfl, ⟨other, fails⟩, (PollTurn.seen_eq atAgain).2.2.1 rfl,
    silent rfl, stopped.2⟩

end KernelClient.Simulation
