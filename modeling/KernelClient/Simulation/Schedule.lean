import KernelClient.Simulation.Calls

/-!
# Scheduling

Tasks that can go on run one after the other, in the order in which what they waited for happened.
After each one, objects that nobody holds any more are let go. A task that has gone on for long
pauses until the others had their turn. The clock moves from timer to timer.
-/

namespace KernelClient.Simulation.World

/-- Run a task until it waits, pauses or is over. -/
def runTask (task : Task) (world : World) : RunEnd × World :=
  match task with
  | .socket kernel wait => world.runSocket kernel wait
  | .watchKernel manager kernel status disposed =>
      let (world, goesOn) := world.runKernelWatch manager kernel status disposed
      (if goesOn then .waits task else .over, world)
  | .watchSession manager session terminated property kernel disposed =>
      let (world, goesOn) :=
        world.runSessionWatch manager session terminated property kernel disposed
      (if goesOn then .waits task else .over, world)
  | .load manager wait =>
      let (world, wait) := world.runLoad manager wait
      ((wait.map fun wait => .waits (.load manager wait)).getD .over, world)
  | .poll manager copy period wait => world.runPoll manager copy period wait
  | .call name stage =>
    match world.runCall stage with
    | (.waiting stage, world) => (.waits (.call name stage), world)
    | (.finished outcome, world) =>
        (.over, { world with
          trace := { world.trace with done := world.trace.done ++ [(name, outcome)] } })

/-- Put what is left of a task where it belongs. -/
def putBack (left : RunEnd) (world : World) : World :=
  match left with
  | .waits task => { world with waiting := world.waiting ++ [task] }
  | .pauses task => { world with paused := task :: world.paused }
  | .over => world

/-- Run a task that can go on, then let go of what it alone held. -/
def run (task : Task) (world : World) : World :=
  let (left, world) := world.runTask task
  (world.putBack left).release.wake

/-- Let tasks that paused go on, the last one first. -/
def resume (world : World) : World :=
  { world with ready := world.ready ++ world.paused, paused := [] }

/-- After so many runs, those that paused go on although others still wait for their turn. -/
def runsBetweenPauses : Nat := 61

/-- Run tasks until none can go on, or a number of times. The second number counts the runs since
tasks that paused went on. -/
def runAll : (most runs : Nat) → World → World
  | 0, _, world => world
  | most + 1, runs, world =>
    if runs = runsBetweenPauses then runAll most 0 world.resume
    else match world.ready with
      | task :: rest => runAll most (runs + 1) ({ world with ready := rest }.run task)
      | [] => if world.paused.isEmpty then world else runAll most 0 world.resume

/-- More runs than there are at one time in any script that comes to rest. -/
def mostRuns : Nat := 1000000

/-- Let everything in the background go on until nothing more happens at the current time. -/
def rest (world : World) : World := runAll mostRuns 0 world

/-- The time of the next timer before a limit. -/
def nextDue? (limit : Nat) (world : World) : Option Nat :=
  (world.waiting.flatMap Task.timers).foldl (fun best timer =>
    match timer.due, best with
    | some due, some least => if world.clock < due ∧ due < least then some due else best
    | some due, none => if world.clock < due ∧ due < limit then some due else none
    | none, _ => best) none

/-- Let everything in the background go on at each time before a limit, through at most as many
times as given. When the limit is reached the timers of that time are over, but nothing has gone on
yet. -/
def advanceTo (limit : Nat) : (most : Nat) → World → World
  | 0, world => world.setClock limit
  | most + 1, world =>
      let world := world.rest
      match world.nextDue? limit with
      | some due => advanceTo limit most (world.setClock due)
      | none => world.setClock limit

/-- Move the clock by a number of milliseconds. Each of them can have a timer. -/
def advance (milliseconds : Nat) (world : World) : World :=
  advanceTo (world.clock + milliseconds) milliseconds world

end KernelClient.Simulation.World
