import KernelClient.Payload

/-!
# Terminals of a server
-/

namespace KernelClient

structure TerminalModel where
  name : String
deriving DecidableEq, Inhabited

namespace TerminalModel

def ofJson (value : Json) : Except PayloadFault TerminalModel := do
  let fields ← Payload.objectFields "terminal model" value
  return { name := ← Payload.stringField "terminal model" fields "name" }

def listOfJson (value : Json) : Except PayloadFault (List TerminalModel) :=
  Payload.list "terminal list" ofJson value

def toJson (model : TerminalModel) : Json :=
  .ofFields [("name", .string model.name)]

end TerminalModel

end KernelClient
