import KernelClient.Payload

/-!
# Kernels of a server
-/

namespace KernelClient

/-- A kernel that runs on the server. -/
structure KernelModel where
  id : String
  name : String
deriving DecidableEq, Inhabited

namespace KernelModel

def ofJson (value : Json) : Except PayloadFault KernelModel := do
  let fields ← Payload.objectFields "kernel model" value
  let id ← Payload.stringField "kernel model" fields "id"
  let name ← Payload.stringField "kernel model" fields "name"
  return { id, name }

/-- Read a kernel without further checks. An array gives its fields in order. -/
def ofJson? (value : Json) : Option KernelModel := do
  let fields := Json.object (← value.record? ["id", "name"] 2)
  let id ← fields.stringField? "id"
  let name ← fields.stringField? "name"
  return { id, name }

def listOfJson (value : Json) : Except PayloadFault (List KernelModel) :=
  Payload.list "kernel list" ofJson value

def toJson (model : KernelModel) : Json :=
  .ofFields [("id", .string model.id), ("name", .string model.name)]

/-- A diagnostic text. -/
def describe (model : KernelModel) : String :=
  Text.record "KernelModel" [("id", Text.quote model.id), ("name", Text.quote model.name)] false

end KernelModel

/-- What a new kernel is asked to be: the name of its kernelspec and its environment. -/
structure KernelOptions where
  name : Option String
  environment : Option (List (String × String))
deriving DecidableEq, Inhabited

def KernelOptions.toJson (options : KernelOptions) : Json :=
  let name := match options.name with
    | some name => [("name", Json.string name)]
    | none => []
  let environment := match options.environment with
    | some entries => [("env", Json.ofFields (entries.map fun (key, text) => (key, .string text)))]
    | none => []
  .ofFields (name ++ environment)

end KernelClient
