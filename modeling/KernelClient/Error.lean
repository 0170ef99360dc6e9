import KernelClient.Json.Basic

/-!
# Errors of the services

What can go wrong between the client and a server: the network, a response that reports a failure,
a payload of the wrong shape, and calls on connections that are closed, disposed or dead.
-/

namespace KernelClient

inductive ServiceError where
  | network (reason : String)
  | response (status : Nat) (message : String) (body : Option Json) (traceback : Option String)
  | validation (reason : String)
  | connectionClosed (reason : String)
  | disposed
  | kernelDead
  | invalidState (reason : String)
  | invalidUrl (reason : String)
  | timeout (awaited : String)
deriving Inhabited

namespace ServiceError

def message : ServiceError → String
  | .network reason => "Network error: " ++ reason
  | .response _ message _ _ => message
  | .validation reason => "Invalid server payload: " ++ reason
  | .connectionClosed reason => "Connection closed: " ++ reason
  | .disposed => "Disposed"
  | .kernelDead => "Kernel is dead"
  | .invalidState reason => "Invalid state: " ++ reason
  | .invalidUrl reason => "Invalid URL: " ++ reason
  | .timeout awaited => "Timed out waiting for " ++ awaited

/-- The status of the response that reports a failure. -/
def status? : ServiceError → Option Nat
  | .response status _ _ _ => some status
  | _ => none

def isDisposed : ServiceError → Bool
  | .disposed => true
  | _ => false

end ServiceError

/-- A line of the log. -/
inductive LogLine where
  | warning (text : String)
  | error (text : String)
deriving DecidableEq, Inhabited

end KernelClient
