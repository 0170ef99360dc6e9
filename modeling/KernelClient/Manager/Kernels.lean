import KernelClient.Kernel.Model
import KernelClient.Manager.Basic
import KernelClient.Rest.Kernels

/-!
# Managers of kernels
-/

namespace KernelClient

/-- A connection to a kernel that a manager handed out. -/
structure KernelHandle where
  connection : Nat
  kernelId : String
  clientId : String
deriving DecidableEq, Inhabited

instance : Resource KernelModel where
  id := KernelModel.id
  manager := "kernel-manager"
  listing := "running kernels"

instance : Handle KernelHandle where
  resource := KernelHandle.kernelId

abbrev KernelManager := Manager KernelModel KernelHandle

namespace KernelManager

/-- Track a connection to a kernel, which is running. -/
def register (handle : KernelHandle) (model : KernelModel) (manager : KernelManager) :
    Manager.Change KernelModel KernelHandle :=
  let (tracked, effects) := manager.track handle
  let (added, more) := tracked.add model
  (added, effects ++ more)

/-- Forget the connections of a client. -/
def forgetClient (clientId : String) (manager : KernelManager) : KernelManager :=
  manager.forget fun handle => handle.clientId = clientId

/-- A diagnostic text. -/
def describe (manager : KernelManager) : String :=
  Text.record "KernelManager" [
    ("running", Text.bracket (manager.running.map KernelModel.describe)),
    ("connections", toString manager.connections.length)] false

end KernelManager

end KernelClient
