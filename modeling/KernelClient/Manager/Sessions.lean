import KernelClient.Manager.Basic
import KernelClient.Rest.Sessions

/-!
# Managers of sessions
-/

namespace KernelClient

/-- A connection to a session that a manager handed out. -/
structure SessionHandle where
  connection : Nat
  sessionId : String
deriving DecidableEq, Inhabited

instance : Resource SessionModel where
  id := SessionModel.id
  manager := "session-manager"
  listing := "running sessions"

instance : Handle SessionHandle where
  resource := SessionHandle.sessionId

abbrev SessionManager := Manager SessionModel SessionHandle

namespace SessionManager

/-- Track a connection to a session, whose model is put into the list. -/
def register (handle : SessionHandle) (model : SessionModel) (manager : SessionManager) :
    Manager.Change SessionModel SessionHandle :=
  let (tracked, effects) := manager.track handle
  let (put, more) := tracked.put model
  (put, effects ++ more)

/-- Forget one connection. -/
def forgetConnection (connection : Nat) (manager : SessionManager) : SessionManager :=
  manager.forget fun handle => handle.connection = connection

/-- The identifier of the session of a path, if exactly one session has it. -/
def onlyAt? (path : String) (models : List SessionModel) : Option String :=
  match models.filter fun model => model.path = path with
  | [model] => some model.id
  | _ => none

/-- A diagnostic text. -/
def describe (manager : SessionManager) : String :=
  Text.record "SessionManager" [
    ("running", Text.bracket (manager.running.map SessionModel.describe)),
    ("connections", toString manager.connections.length)] false

end SessionManager

end KernelClient
