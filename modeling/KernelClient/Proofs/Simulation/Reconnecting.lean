import KernelClient.Proofs.Simulation.SocketTurns

/-!
# When sockets are opened again

After a loss a connection sleeps for as long as its policy says, from the time of the loss on. The
task that keeps its socket open is woken when that time is over, neither sooner nor later, and then
begins one attempt.
-/

namespace KernelClient.Simulation

open Connection (Begun)

namespace World

variable {world : World} {kernel : Nat} {object : KernelObject}

@[simp]
theorem clock_loseSocket (kernel : Nat) (step : Connection → Connection.Change) (world : World) :
    (world.loseSocket kernel step).2.clock = world.clock := by
  have changed : (world.changeKernelWith kernel step).2.clock = world.clock := by
    unfold changeKernelWith
    split
    · exact clock_applyKernel kernel _ world
    · rfl
  unfold loseSocket
  dsimp only
  split <;> exact changed

@[simp]
theorem clock_readSocket (kernel : Nat) (world : World) :
    (world.readSocket kernel).2.clock = world.clock := by
  unfold readSocket
  repeat' split
  all_goals simp [changeServer]

@[simp]
theorem clock_announceOpening (kernel : Nat) (world : World) :
    (world.announceOpening kernel).2.clock = world.clock :=
  clock_changeKernel kernel _ world

@[simp]
theorem clock_beginPause (kernel delay : Nat) (world : World) :
    (world.beginPause kernel delay).2.clock = world.clock := by
  unfold beginPause
  split
  · exact clock_announceOpening kernel world
  · rfl

@[simp]
theorem clock_afterOpening (kernel : Nat) (world : World) :
    (world.afterOpening kernel).2.clock = world.clock := by
  have released := (@letsGo_release kernel world).clock
  unfold afterOpening
  dsimp only
  repeat' split
  all_goals simp [released]

@[simp]
theorem clock_finishOpening (kernel : Nat) (plan : ConnectPlan) (world : World) :
    (world.finishOpening kernel plan).2.clock = world.clock := by
  unfold finishOpening
  split <;> simp

theorem clock_follow (kernel : Nat) (turn : Turn SocketWait × World) :
    (follow kernel turn).2.clock = turn.2.clock := by
  unfold follow
  split <;> simp

@[simp]
theorem clock_beginOpening (kernel : Nat) (world : World) :
    (world.beginOpening kernel).2.clock = world.clock := by
  have followed {result : Turn SocketWait × World} (same : result.2.clock = world.clock) :
      (follow kernel result).2.clock = world.clock :=
    (clock_follow kernel result).trans same
  unfold beginOpening
  split
  · rfl
  · dsimp only
    split
    · refine followed ?_
      simp
    · split
      · rfl
      · split
        · refine followed ?_
          simp
        · rfl

/-- A turn takes no time. -/
theorem clock_socketTurn (kernel : Nat) (wait : SocketWait) (world : World) :
    (world.socketTurn kernel wait).2.clock = world.clock := by
  unfold socketTurn
  repeat' split
  all_goals simp

end World

/-- A turn of the task that keeps a socket open. -/
structure SocketTurn where
  before : World
  after : World

/-- Turns that the task takes one after the other, from what it waits for or is about to do. Whatever
goes on between two turns is left open, but no time passes before a task that goes on at once does
so. -/
inductive SocketRun (kernel : Nat) : SocketWait → List SocketTurn → Prop where
  | rests (wait : SocketWait) : SocketRun kernel wait []
  | ends {wait : SocketWait} {before after : World}
      (ends : before.socketTurn kernel wait = (.over, after)) :
      SocketRun kernel wait [⟨before, after⟩]
  | waits {wait next : SocketWait} {before after : World} {turns : List SocketTurn}
      (waits : before.socketTurn kernel wait = (.waits next, after))
      (rest : SocketRun kernel next turns) : SocketRun kernel wait (⟨before, after⟩ :: turns)
  | goesOn {wait next : SocketWait} {before after : World} {turns : List SocketTurn}
      (goesOn : before.socketTurn kernel wait = (.goesOn next, after))
      (atOnce : ∀ turn ∈ turns.head?, turn.before.clock = after.clock)
      (rest : SocketRun kernel next turns) : SocketRun kernel wait (⟨before, after⟩ :: turns)

/-- Whether a connection is there and not to be given up. -/
def World.Keeps (kernel : Nat) (world : World) : Prop :=
  ∃ object, world.kernel? kernel = some object ∧ object.isStopped = false

/-- A turn other than the end of a sleep that suits a connection, which is not to be given up before
the turn or after it. -/
structure Attends (kernel : Nat) (wait : SocketWait) (turn : SocketTurn) (later : KernelObject) :
    Prop where
  suits : ∃ time object, turn.before.kernel? kernel = some object ∧ object.isStopped = false ∧
    wait.Suits time object.connection
  awake : ∀ timer, wait ≠ .sleeping timer
  present : turn.after.kernel? kernel = some later
  runs : later.isStopped = false

/-- Whether an attempt to open a socket begins in a turn, and nothing else happens. -/
def SocketTurn.Begins (kernel : Nat) (turn : SocketTurn) : Prop :=
  ∃ object, turn.before.kernel? kernel = some object ∧
    Begun object.connection (Connection.beginConnecting object.connection) ∧
    turn.after = turn.before.applyKernel kernel (Connection.beginConnecting object.connection)

/-- Whether an attempt begins in a turn at a time or later, and no connection changes in one
before. -/
def SocketTurn.IsInTime (kernel due : Nat) (turn : SocketTurn) : Prop :=
  (turn.before.clock < due → turn.after.kernels = turn.before.kernels) ∧
    (due ≤ turn.before.clock → turn.Begins kernel)

/-- Whether of some turns the first one at a time or later, and none before, begins an attempt. -/
def BeginsAt (kernel due : Nat) (turns : List SocketTurn) : Prop :=
  ∀ early turn late, turns = early ++ turn :: late →
    (∀ other ∈ early, other.before.clock < due) → turn.IsInTime kernel due

theorem BeginsAt.nil {kernel due : Nat} : BeginsAt kernel due [] := by
  intro early turn late parts
  simp at parts

theorem BeginsAt.cons {kernel due : Nat} {turn : SocketTurn} {turns : List SocketTurn}
    (first : turn.IsInTime kernel due)
    (rest : turn.before.clock < due → BeginsAt kernel due turns) :
    BeginsAt kernel due (turn :: turns) := by
  intro early other late parts soon
  cases early with
  | nil =>
      cases parts
      exact first
  | cons head tail =>
      cases parts
      refine rest (soon turn List.mem_cons_self) tail other late rfl fun quiet member => ?_
      exact soon quiet (List.mem_cons_of_mem _ member)

section Sleeping

variable {kernel due delay : Nat} {timer : Timer} {turns : List SocketTurn}

theorem begins_announceOpening {world : World} {object : KernelObject}
    (known : world.kernel? kernel = some object) (running : object.isStopped = false) :
    SocketTurn.Begins kernel ⟨world, (world.announceOpening kernel).2⟩ :=
  ⟨object, known, Connection.begun_beginConnecting (KernelObject.alive_of_running running),
    World.changeKernel_of_known known _⟩

theorem socketTurn_sleeping {world : World} {object : KernelObject}
    (known : world.kernel? kernel = some object) (running : object.isStopped = false)
    (set : timer.due = some due) :
    world.socketTurn kernel (.sleeping timer) =
      if due ≤ world.clock then world.announceOpening kernel
      else (.waits (.sleeping timer), world) := by
  simp [World.socketTurn, known, running, Timer.isDue, set]

/-- A task that sleeps goes on sleeping until its time is over, and then begins an attempt. -/
theorem SocketRun.beginsAt_sleeping (run : SocketRun kernel (.sleeping timer) turns)
    (set : timer.due = some due) (kept : ∀ turn ∈ turns, turn.before.Keeps kernel) :
    BeginsAt kernel due turns := by
  generalize same : SocketWait.sleeping timer = wait at run
  induction run with
  | rests => exact .nil
  | @ends wait before after ends =>
      obtain ⟨object, known, running⟩ : before.Keeps kernel :=
        kept ⟨before, after⟩ List.mem_cons_self
      rw [← same, socketTurn_sleeping known running set] at ends
      split at ends <;> cases ends
  | @waits wait next before after turns waits rest ih =>
      obtain ⟨object, known, running⟩ : before.Keeps kernel :=
        kept ⟨before, after⟩ List.mem_cons_self
      rw [← same, socketTurn_sleeping known running set] at waits
      split at waits
      · cases waits
      case isFalse early =>
        cases waits
        refine .cons ⟨fun _ => rfl, fun late => absurd late early⟩ fun _ => ?_
        exact ih (fun turn member => kept turn (List.mem_cons_of_mem _ member)) rfl
  | @goesOn wait next before after turns goesOn atOnce rest ih =>
      obtain ⟨object, known, running⟩ : before.Keeps kernel :=
        kept ⟨before, after⟩ List.mem_cons_self
      rw [← same, socketTurn_sleeping known running set] at goesOn
      split at goesOn
      case isTrue late =>
        cases goesOn
        refine .cons ⟨fun early => ?_, fun _ => ?_⟩ fun early => ?_
        · exact absurd late (Nat.not_le.mpr early)
        · exact begins_announceOpening known running
        · exact absurd late (Nat.not_le.mpr early)
      · cases goesOn

theorem socketTurn_pausing {world : World} {object : KernelObject}
    (known : world.kernel? kernel = some object) (running : object.isStopped = false) :
    world.socketTurn kernel (.pausing delay) =
      if delay = 0 then world.announceOpening kernel
      else (.waits (.sleeping (world.timer delay).1), (world.timer delay).2) := by
  simp [World.socketTurn, known, running, World.beginPause]

/-- A task that is to pause sleeps from then on, or begins an attempt at once. -/
theorem SocketRun.beginsAt_pausing {time : Nat} (run : SocketRun kernel (.pausing delay) turns)
    (atOnce : ∀ turn ∈ turns.head?, turn.before.clock = time)
    (kept : ∀ turn ∈ turns, turn.before.Keeps kernel) :
    BeginsAt kernel (time + delay) turns := by
  cases run with
  | rests => exact .nil
  | @ends _ before after ends =>
      obtain ⟨object, known, running⟩ : before.Keeps kernel :=
        kept ⟨before, after⟩ List.mem_cons_self
      rw [socketTurn_pausing known running] at ends
      split at ends <;> cases ends
  | @waits _ next before after turns waits rest =>
      obtain ⟨object, known, running⟩ : before.Keeps kernel :=
        kept ⟨before, after⟩ List.mem_cons_self
      have others := fun turn member => kept turn (List.mem_cons_of_mem _ member)
      have begun : before.clock = time := atOnce ⟨before, after⟩ rfl
      subst begun
      rw [socketTurn_pausing known running] at waits
      split at waits
      · cases waits
      case isFalse pauses =>
        cases waits
        refine .cons ⟨fun _ => rfl, fun late => ?_⟩ fun _ => rest.beginsAt_sleeping rfl others
        exact absurd late (by dsimp only; omega)
  | @goesOn _ next before after turns goesOn _ rest =>
      obtain ⟨object, known, running⟩ : before.Keeps kernel :=
        kept ⟨before, after⟩ List.mem_cons_self
      have begun : before.clock = time := atOnce ⟨before, after⟩ rfl
      rw [socketTurn_pausing known running] at goesOn
      split at goesOn
      case isTrue none =>
        cases goesOn
        refine .cons ⟨fun early => ?_, fun _ => ?_⟩ fun early => ?_
        · exact absurd early (by dsimp only; omega)
        · exact begins_announceOpening known running
        · exact absurd early (by dsimp only; omega)
      · cases goesOn

/-- After a turn that leaves a connection waiting, the first turn that is not too early begins the
next attempt. -/
theorem SocketRun.beginsAt {wait : SocketWait} {turn : SocketTurn} {later : KernelObject}
    (run : SocketRun kernel wait (turn :: turns)) (attends : Attends kernel wait turn later)
    (waiting : later.connection.phase = .waiting)
    (kept : ∀ turn ∈ turns, turn.before.Keeps kernel) :
    BeginsAt kernel (turn.before.clock + pauseOf later.connection) turns := by
  obtain ⟨⟨time, before, known, running, suits⟩, awake, present, runs⟩ := attends
  have leads := World.leadsTo_socketTurn known running suits awake
  have clock := World.clock_socketTurn kernel wait turn.before
  cases run with
  | ends ends =>
      rw [ends] at leads
      have left := leads later present runs
      simp [Turn.Suits, waiting, SocketPhase.isReading] at left
  | @waits _ next before after _ waits rest =>
      rw [waits] at leads
      have led := leads later present runs
      cases next with
      | sleeping timer => exact rest.beginsAt_sleeping led.2 kept
      | pausing delay => exact led.elim
      | _ => simp [Turn.Suits, SocketWait.Suits, waiting, SocketPhase.isReading] at led
  | @goesOn _ next before after _ goesOn atOnce rest =>
      rw [goesOn] at leads clock
      have led := leads later present runs
      cases next with
      | sleeping timer => exact rest.beginsAt_sleeping led.2 kept
      | pausing delay =>
          rw [← led.2]
          exact rest.beginsAt_pausing (fun turn first => (atOnce turn first).trans clock) kept
      | _ => simp [Turn.Suits, SocketWait.Suits, waiting, SocketPhase.isReading] at led

end Sleeping

namespace World

variable {world : World} {task : Task}

theorem mem_insertByKey (key : Task → Nat) (added : Task) (sorted : List Task) :
    task ∈ insertByKey key added sorted ↔ task = added ∨ task ∈ sorted := by
  induction sorted with
  | nil => simp [insertByKey]
  | cons other rest ih =>
      unfold insertByKey
      split
      · simp
      · simp only [List.mem_cons, ih]
        exact or_left_comm

theorem mem_foldl_insertByKey (key : Task → Nat) (added sorted : List Task) :
    task ∈ added.foldl (fun sorted task => insertByKey key task sorted) sorted ↔
      task ∈ added ∨ task ∈ sorted := by
  induction added generalizing sorted with
  | nil => simp
  | cons other rest ih =>
      rw [List.foldl_cons, ih, mem_insertByKey, List.mem_cons]
      tauto

/-- A task that can go on is woken. -/
theorem mem_ready_wake (waits : task ∈ world.waiting) (ready : world.isReady task = true) :
    task ∈ world.wake.ready := by
  have any : world.waiting.any world.isReady = true :=
    List.any_eq_true.mpr ⟨task, waits, ready⟩
  rw [wake, if_pos any]
  refine List.mem_append_right _ ((mem_foldl_insertByKey _ _ _).mpr (.inl ?_))
  simp [waits, ready]

/-- The time of the next timer, given the best of those that were looked at before. -/
def nearer (clock limit : Nat) (best : Option Nat) (timer : Timer) : Option Nat :=
  match timer.due, best with
  | some due, some least => if clock < due ∧ due < least then some due else best
  | some due, none => if clock < due ∧ due < limit then some due else none
  | none, _ => best

theorem nearer_le {clock limit least : Nat} (timer : Timer) :
    ∃ best ≤ least, nearer clock limit (some least) timer = some best := by
  unfold nearer
  cases timer.due with
  | none => exact ⟨least, Nat.le_refl least, rfl⟩
  | some due =>
      dsimp only
      split
      case isTrue sooner => exact ⟨due, Nat.le_of_lt sooner.2, rfl⟩
      case isFalse => exact ⟨least, Nat.le_refl least, rfl⟩

theorem nearer_le_due {clock limit due : Nat} {timer : Timer} (set : timer.due = some due)
    (early : clock < due) (within : due < limit) (best : Option Nat) :
    ∃ next ≤ due, nearer clock limit best timer = some next := by
  unfold nearer
  rw [set]
  cases best with
  | none => exact ⟨due, Nat.le_refl due, if_pos ⟨early, within⟩⟩
  | some least =>
      dsimp only
      split
      case isTrue => exact ⟨due, Nat.le_refl due, rfl⟩
      case isFalse later => exact ⟨least, by omega, rfl⟩

theorem foldl_nearer_le {clock limit least : Nat} (timers : List Timer) :
    ∃ best ≤ least, timers.foldl (nearer clock limit) (some least) = some best := by
  induction timers generalizing least with
  | nil => exact ⟨least, Nat.le_refl least, rfl⟩
  | cons timer rest ih =>
      obtain ⟨middle, nearer, found⟩ := @nearer_le clock limit least timer
      obtain ⟨best, nearest, last⟩ := @ih middle
      exact ⟨best, nearest.trans nearer, by rw [List.foldl_cons, found, last]⟩

theorem foldl_nearer_le_due {clock limit due : Nat} {timer : Timer} {timers : List Timer}
    (runs : timer ∈ timers) (set : timer.due = some due) (early : clock < due)
    (within : due < limit) (best : Option Nat) :
    ∃ next ≤ due, timers.foldl (nearer clock limit) best = some next := by
  induction timers generalizing best with
  | nil => cases runs
  | cons other rest ih =>
      rw [List.foldl_cons]
      rcases List.mem_cons.mp runs with rfl | later
      · obtain ⟨middle, soon, found⟩ := nearer_le_due set early within best
        obtain ⟨next, nearest, last⟩ := @foldl_nearer_le clock limit middle rest
        exact ⟨next, nearest.trans soon, by rw [found, last]⟩
      · exact ih later _

/-- The clock does not pass by the time of a timer. -/
theorem nextDue?_le {timer : Timer} {due limit : Nat} (waits : task ∈ world.waiting)
    (runs : timer ∈ task.timers) (set : timer.due = some due) (early : world.clock < due)
    (within : due < limit) : ∃ next ≤ due, world.nextDue? limit = some next :=
  foldl_nearer_le_due (List.mem_flatMap.mpr ⟨task, waits, runs⟩) set early within none

end World

/-- How the task that keeps the socket of a connection open keeps the time. After a turn that leaves
the connection waiting, the next attempt begins in the first turn that is not too early, and a
connection that does not wait at all is opened again in the same turn. A task that sleeps is woken
when its time is over, and the clock does not pass by that time. -/
structure KeepsTime (kernel : Nat) : Prop where
  begins : ∀ wait turn turns later, SocketRun kernel wait (turn :: turns) →
    Attends kernel wait turn later → later.connection.phase = .waiting →
    (∀ turn ∈ turns, turn.before.Keeps kernel) →
      BeginsAt kernel (turn.before.clock + pauseOf later.connection) turns
  atOnce : ∀ wait before after later,
    World.socketTurn kernel wait before = (.goesOn .opening, after) →
    Attends kernel wait ⟨before, after⟩ later → pauseOf later.connection = 0
  wakes : ∀ (world : World) timer due time, .socket kernel (.sleeping timer) ∈ world.waiting →
    timer.due = some due → due ≤ time →
      .socket kernel (.sleeping timer) ∈ (world.setClock time).ready
  halts : ∀ (world : World) timer due limit, .socket kernel (.sleeping timer) ∈ world.waiting →
    timer.due = some due → world.clock < due → due < limit →
      ∃ next ≤ due, world.nextDue? limit = some next

theorem keepsTime (kernel : Nat) : KeepsTime kernel where
  begins _ _ _ _ run attends waiting kept := run.beginsAt attends waiting kept
  atOnce wait before after later turned attends := by
    obtain ⟨⟨time, object, known, running, suits⟩, awake, present, runs⟩ := attends
    have leads := World.leadsTo_socketTurn known running suits awake
    rw [turned] at leads
    exact (leads later present runs).2
  wakes world timer due time waits set late := by
    refine World.mem_ready_wake waits ?_
    have isDue : timer.isDue time = true := by simp [Timer.isDue, set, late]
    simp only [World.isReady, World.isSocketReady]
    split
    · rfl
    · rw [isDue, Bool.or_true]
  halts _ _ _ _ waits set early within :=
    World.nextDue?_le waits (List.mem_singleton_self _) set early within

/-- A connection is opened again as its policy says. In every run that is not disposed, and in which
no attempt is abandoned, each loss is followed by the wait that belongs to the count of losses and by
one attempt, until there was one loss too many. And the task that opens the socket keeps the time:
the wait lasts from the loss on. -/
theorem reconnects_by_policy :
    (∀ model clientId options history situation,
      Connection.Run (.initial model clientId options) history situation →
      (∀ occurrence ∈ history, ∀ error,
        occurrence.event = .connectFailed error → error.isDisposed = false) →
      situation.connection.isDisposed = false →
      Connection.KeepsPolicy options.reconnect history situation) ∧
    ∀ kernel, KeepsTime kernel :=
  ⟨fun _ _ _ _ _ run answers alive => run.keeps_policy answers alive, keepsTime⟩

/-- A new connection that gives up at the second loss. -/
def reluctant : Connection.Situation :=
  .initial ⟨"k", "python3"⟩ "c"
    { ConnectionOptions.usual with reconnect := { ReconnectPolicy.usual with maxAttempts := 1 } }

/-- The first attempt fails, the second one opens a socket that ends, and the third one fails. -/
def untilGivenUp : List Connection.Event :=
  [.beginConnecting, .connectFailed (.network "refused"), .beginConnecting,
    .connected ⟨0, .legacy, none⟩, .inputEnded, .beginConnecting, .connectFailed (.network "refused")]

theorem untilGivenUp_answers : ∀ occurrence ∈ reluctant.occurrences untilGivenUp, ∀ error,
    occurrence.event = .connectFailed error → error.isDisposed = false := by
  intro occurrence happened error failed
  have member := Connection.Situation.event_mem_of_mem_occurrences occurrence happened
  rw [failed] at member
  have refused : error = .network "refused" := by simpa [untilGivenUp] using member
  rw [refused]
  rfl

/-- A connection to a server that answers no attempt, before the first one. -/
def World.unanswered : World :=
  scripted [⟨.offline true, false⟩, ⟨.connectKernel "k" ⟨"k", "python3"⟩ .usual, true⟩]

/-- The timer of a task that goes to sleep. -/
def Turn.slept? : Turn SocketWait → Option Timer
  | .waits (.sleeping timer) => some timer
  | _ => none

theorem Turn.eq_of_slept? {turn : Turn SocketWait} {timer : Timer}
    (slept : turn.slept? = some timer) : turn = .waits (.sleeping timer) := by
  unfold slept? at slept
  split at slept
  · rw [Option.some.inj slept]
  · cases slept

/-- The first attempt is in vain, and after a second the task begins the next one. -/
theorem socketRun_unanswered :
    ∃ slept begun later, SocketRun 0 .begin [slept, begun] ∧ slept.before = World.unanswered ∧
      Attends 0 .begin slept later ∧ later.connection.phase = .waiting ∧
      begun.before.Keeps 0 ∧
      begun.before.clock = slept.before.clock + pauseOf later.connection := by
  have turned : (World.unanswered.socketTurn 0 .begin).1.slept? = some ⟨some 1000, 0⟩ := by
    decide +kernel
  have first : (World.unanswered.kernel? 0).map (fun object =>
      (object.isStopped, object.connection.phase)) = some (false, .starting) := by
    decide +kernel
  have second : ((World.unanswered.socketTurn 0 .begin).2.kernel? 0).map (fun object =>
      (object.isStopped, object.connection.phase, pauseOf object.connection)) =
        some (false, .waiting, 1000) := by
    decide +kernel
  have third : (((World.unanswered.socketTurn 0 .begin).2.setClock 1000).kernel? 0).map
      KernelObject.isStopped = some false := by
    decide +kernel
  have times : World.unanswered.clock = 0 ∧
      ((World.unanswered.socketTurn 0 .begin).2.setClock 1000).clock = 1000 := by
    decide +kernel
  obtain ⟨object, known, states⟩ := Option.map_eq_some_iff.mp first
  obtain ⟨later, present, laterStates⟩ := Option.map_eq_some_iff.mp second
  obtain ⟨last, there, lasts⟩ := Option.map_eq_some_iff.mp third
  simp only [Prod.mk.injEq] at states laterStates
  obtain ⟨runs, waiting, pause⟩ := laterStates
  have taken : World.unanswered.socketTurn 0 .begin =
      (.waits (.sleeping ⟨some 1000, 0⟩), (World.unanswered.socketTurn 0 .begin).2) :=
    Prod.ext (Turn.eq_of_slept? turned) rfl
  generalize (World.unanswered.socketTurn 0 .begin).2 = after at *
  have attends : Attends 0 .begin ⟨World.unanswered, after⟩ later :=
    ⟨⟨0, object, known, states.1, states.2⟩, nofun, present, runs⟩
  have opens : (after.setClock 1000).socketTurn 0 (.sleeping ⟨some 1000, 0⟩) =
      (.goesOn .opening, ((after.setClock 1000).announceOpening 0).2) := by
    rw [socketTurn_sleeping there lasts rfl, if_pos (Nat.le_of_eq times.2.symm)]
    rfl
  refine ⟨_, _, later, .waits taken (.goesOn opens (by simp) (.rests _)), rfl, attends, waiting,
    ⟨last, there, lasts⟩, ?_⟩
  rw [times.1, times.2, pause]

/-- A connection that gives up at the second loss in a row, and one that waits for a server. -/
theorem reconnects_by_policy_in_vain :
    (Connection.lossesIn (reluctant.occurrences untilGivenUp) = 2 ∧
      Connection.KeepsPolicy (reluctant.connection.options.reconnect)
        (reluctant.occurrences untilGivenUp) (reluctant.afterAll untilGivenUp)) ∧
    ∃ slept begun, ∃ later : KernelObject, SocketRun 0 .begin [slept, begun] ∧
      slept.before = World.unanswered ∧
      begun.before.clock = slept.before.clock + pauseOf later.connection ∧ begun.Begins 0 := by
  obtain ⟨policy, time⟩ := reconnects_by_policy
  have allowed : reluctant.allows untilGivenUp = true := by decide +kernel
  have run := Connection.run_of_allows untilGivenUp allowed
  have losses : Connection.lossesIn (reluctant.occurrences untilGivenUp) = 2 := by decide +kernel
  have alive : (reluctant.afterAll untilGivenUp).connection.isDisposed = false := by decide +kernel
  have kept := policy _ _ _ _ _ run untilGivenUp_answers alive
  obtain ⟨slept, begun, later, run, same, attends, waiting, keeps, due⟩ := socketRun_unanswered
  have begins := (time 0).begins .begin slept [begun] later run attends waiting (by simpa using keeps)
  have inTime := begins [] begun [] rfl (by simp)
  exact ⟨⟨losses, kept⟩, slept, begun, later, run, same, due, inTime.2 (Nat.le_of_eq due.symm)⟩

end KernelClient.Simulation
