import KernelClient.Kernel.Connection.Basic
import KernelClient.Signal

/-!
# Control of a kernel

Restart and shutdown are requests to the server that change the connection when they succeed. A
restart is over when the kernel says that it is starting.
-/

namespace KernelClient.Connection

/-- Take note that the server restarted the kernel. -/
def restarted (connection : Connection) : Except ServiceError Change :=
  if connection.isDisposed then .error .disposed
  else .ok ((setStatus .restarting connection).andThen (clear .disposed))

/-- What a status means for a restart that is under way. -/
def restartOutcome? : Received KernelStatus → Option (Except ServiceError Unit)
  | .value .starting => some (.ok ())
  | .value .dead => some (.error .kernelDead)
  | .closed => some (.error .disposed)
  | _ => none

/-- The error of a restart that takes too long. -/
def restartTimeout : ServiceError := .timeout "kernel restart"

/-- Whether a kernel can be shut down; of a dead one the server need not be told. -/
def checkShutdown (connection : Connection) : Except ServiceError Bool :=
  if connection.isDisposed then .error disposedError
  else .ok (connection.status != .dead)

/-- Take note that the kernel was shut down. -/
def shutDown (connection : Connection) : Change :=
  (setStatus .dead connection).andThen dispose

end KernelClient.Connection
