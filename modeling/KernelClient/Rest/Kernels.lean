import KernelClient.Kernel.Model
import KernelClient.Rest.Exchange

/-!
# Exchanges about kernels
-/

namespace KernelClient.Rest.Kernels

def list (settings : Settings) : Exchange (List KernelModel) where
  request := Exchange.ask settings .get ["api", "kernels"] none
  read := Exchange.body 200 KernelModel.listOfJson

def start (settings : Settings) (options : KernelOptions) : Exchange KernelModel where
  request := Exchange.ask settings .post ["api", "kernels"] (some options.toJson)
  read := Exchange.body 201 KernelModel.ofJson

def get (settings : Settings) (id : String) : Exchange (Option KernelModel) where
  request := Exchange.ask settings .get ["api", "kernels", id] none
  read := Exchange.bodyIfKnown KernelModel.ofJson

def restart (settings : Settings) (id : String) : Exchange KernelModel where
  request := Exchange.ask settings .post ["api", "kernels", id, "restart"] none
  read := Exchange.body 200 KernelModel.ofJson

def interrupt (settings : Settings) (id : String) : Exchange Unit where
  request := Exchange.ask settings .post ["api", "kernels", id, "interrupt"] none
  read response := if response.status = 204 then (.ok (), []) else Exchange.failure response

def shutdown (settings : Settings) (id : String) : Exchange Unit where
  request := Exchange.ask settings .delete ["api", "kernels", id] none
  read := Exchange.deleted fun _ =>
    "[kernel-rest] The kernel " ++ Text.quote id ++ " does not exist on the server"

/-- List all kernels, to delete each of them. -/
def shutdownAll (settings : Settings) : Exchange (List (Exchange Unit)) :=
  (list settings).map fun models => models.map fun model => shutdown settings model.id

end KernelClient.Rest.Kernels
