import KernelClient.Simulation.Changes

/-!
# Letting go

An object lives as long as a name, a task or another object holds it, or it waits for its name. The
task that runs holds nothing unless it is put back.
-/

namespace KernelClient.Simulation.World

/-- What names hold. -/
def heldByNames (names : Names) : Holds where
  kernels := names.kernels.map Prod.snd
  sessions := names.sessions.map Prod.snd
  managers := names.managers.map Prod.snd

/-- What is held until it has its name. -/
def heldByArrival : Arrival → Holds
  | .kernel _ observer => .kernel observer.kernel
  | .session _ observer => .session observer.session

/-- What names, tasks and what waits for a name hold. -/
def held (world : World) : Holds :=
  let tasks := world.waiting ++ world.ready ++ world.paused
  (tasks.map Task.holds ++ world.arrivals.map heldByArrival).foldl Holds.union
    (heldByNames world.names)

/-- Let go of managers that nobody holds. -/
def releaseManagers (holds : Holds) (world : World) : World :=
  { world with
    kernelManagers := world.kernelManagers.mapIdx fun number object =>
      if object.isAlive && !holds.managers.contains (.kernels number) then object.close else object
    sessionManagers := world.sessionManagers.mapIdx fun number object =>
      if object.isAlive && !holds.managers.contains (.sessions number) then object.close
      else object }

/-- The sessions that are held, also by managers. -/
def heldSessions (holds : Holds) (world : World) : List Nat :=
  holds.sessions ++ world.sessionManagers.flatMap fun object =>
    object.manager.connections.map SessionHandle.connection

/-- Let go of sessions that nobody holds. -/
def releaseSessions (held : List Nat) (world : World) : World :=
  { world with
    sessions := world.sessions.mapIdx fun number object =>
      if object.isAlive && !held.contains number then object.close else object }

/-- The connections to kernels that are held, also by managers and sessions. -/
def heldKernels (holds : Holds) (world : World) : List Nat :=
  holds.kernels ++
    (world.sessions.filterMap fun object => object.session.kernel) ++
    world.kernelManagers.flatMap fun object =>
      object.manager.connections.map KernelHandle.connection

/-- Let go of a connection if nobody holds it. -/
def releaseKernel (held : List Nat) (world : World) (kernel : Nat) : World :=
  match world.kernel? kernel with
  | some object =>
      if object.isAlive && !held.contains kernel then
        ((world.changeKernel kernel Connection.abandon).modifyKernel kernel
          KernelObject.close).wake
      else world
  | none => world

/-- Let go of everything that nobody holds, and wake the tasks that learn of it. -/
def release (world : World) : World :=
  let holds := world.held
  let world := (world.releaseManagers holds).wake
  let world := (world.releaseSessions (world.heldSessions holds)).wake
  (List.range world.kernels.length).foldl (releaseKernel (world.heldKernels holds)) world

end KernelClient.Simulation.World
