import KernelClient.Time.Duration

/-!
# Options of connections

Before each attempt to open a lost socket again a connection waits twice as long as before the
last one, up to a limit.
-/

namespace KernelClient

structure ReconnectPolicy where
  maxAttempts : Nat
  baseDelay : Duration
  maxDelay : Duration
deriving DecidableEq, Inhabited

namespace ReconnectPolicy

/-- Seven attempts, with delays from one second to thirty. -/
def usual : ReconnectPolicy where
  maxAttempts := 7
  baseDelay := .ofSeconds 1
  maxDelay := .ofSeconds 30

/-- The greatest factor of the first delay. -/
def greatestFactor : Nat := UInt32.size - 1

/-- How many times the first delay comes before an attempt, which are counted from one. -/
def factor (attempt : Nat) : Nat :=
  if attempt ≤ 32 then 1 <<< (attempt - 1) else greatestFactor

/-- The delay before an attempt. -/
def delayFor (policy : ReconnectPolicy) (attempt : Nat) : Duration :=
  (policy.baseDelay.scale (factor attempt)).atMost policy.maxDelay

end ReconnectPolicy

structure ConnectionOptions where
  clientId : Option String
  username : Option String
  reconnect : ReconnectPolicy
  restartTimeout : Duration
  messageCapacity : Nat
deriving DecidableEq, Inhabited

namespace ConnectionOptions

/-- A client without a name, which waits half a minute for a restart and keeps 256 messages for
each subscriber. -/
def usual : ConnectionOptions where
  clientId := none
  username := none
  reconnect := .usual
  restartTimeout := .ofSeconds 30
  messageCapacity := 256

end ConnectionOptions

end KernelClient
