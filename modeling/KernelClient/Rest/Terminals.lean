import KernelClient.Rest.Exchange
import KernelClient.Terminal

/-!
# Exchanges about terminals
-/

namespace KernelClient.Rest.Terminals

def list (settings : Settings) : Exchange (List TerminalModel) where
  request := Exchange.ask settings .get ["api", "terminals"] none
  read := Exchange.body 200 TerminalModel.listOfJson

def start (settings : Settings) : Exchange TerminalModel where
  request := Exchange.ask settings .post ["api", "terminals"] none
  read := Exchange.body 200 TerminalModel.ofJson

def get (settings : Settings) (name : String) : Exchange (Option TerminalModel) where
  request := Exchange.ask settings .get ["api", "terminals", name] none
  read := Exchange.bodyIfKnown TerminalModel.ofJson

def shutdown (settings : Settings) (name : String) : Exchange Unit where
  request := Exchange.ask settings .delete ["api", "terminals", name] none
  read := Exchange.deleted fun _ =>
    "[terminal-rest] Terminal " ++ Text.quote name ++ " does not exist on the server"

/-- List all terminals, to delete each of them. -/
def shutdownAll (settings : Settings) : Exchange (List (Exchange Unit)) :=
  (list settings).map fun models => models.map fun model => shutdown settings model.name

end KernelClient.Rest.Terminals
