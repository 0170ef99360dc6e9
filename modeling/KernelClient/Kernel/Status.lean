/-!
# Status of kernels and connections

A kernel reports its state in messages. One that says it is restarting was restarted by the server,
not by this client.
-/

namespace KernelClient

inductive KernelStatus where
  | unknown
  | starting
  | idle
  | busy
  | terminating
  | restarting
  | autoRestarting
  | dead
deriving DecidableEq, Inhabited

namespace KernelStatus

def name : KernelStatus → String
  | .unknown => "unknown"
  | .starting => "starting"
  | .idle => "idle"
  | .busy => "busy"
  | .terminating => "terminating"
  | .restarting => "restarting"
  | .autoRestarting => "autorestarting"
  | .dead => "dead"

def all : List KernelStatus :=
  [.unknown, .starting, .idle, .busy, .terminating, .restarting, .autoRestarting, .dead]

def ofName? (name : String) : Option KernelStatus :=
  all.find? fun status => status.name = name

theorem ofName?_name (status : KernelStatus) : ofName? status.name = some status := by
  cases status <;> rfl

/-- The status for a state that a kernel reports. -/
def ofExecutionState? : String → Option KernelStatus
  | "starting" => some .starting
  | "idle" => some .idle
  | "busy" => some .busy
  | "terminating" => some .terminating
  | "restarting" => some .autoRestarting
  | "dead" => some .dead
  | _ => none

end KernelStatus

/-- The state of the socket under a connection. -/
inductive ConnectionStatus where
  | connecting
  | connected
  | disconnected
deriving DecidableEq, Inhabited

namespace ConnectionStatus

def name : ConnectionStatus → String
  | .connecting => "connecting"
  | .connected => "connected"
  | .disconnected => "disconnected"

def ofName? (name : String) : Option ConnectionStatus :=
  [ConnectionStatus.connecting, .connected, .disconnected].find? fun status => status.name = name

theorem ofName?_name (status : ConnectionStatus) : ofName? status.name = some status := by
  cases status <;> rfl

end ConnectionStatus

end KernelClient
