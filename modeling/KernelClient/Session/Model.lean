import KernelClient.Kernel.Model

/-!
# Sessions of a server

A session binds the path of a document to a kernel.
-/

namespace KernelClient

structure SessionModel where
  id : String
  path : String
  name : String
  type : String
  kernel : Option KernelModel
deriving DecidableEq, Inhabited

namespace SessionModel

/-- The kernel of a session, which may be left out or null. -/
def kernelOfJson : Option Json → Except PayloadFault (Option KernelModel)
  | none | some .null => .ok none
  | some (.object fields) => (KernelModel.ofJson (.object fields)).map some
  | some _ => .error (.partNotObject "session model" "kernel")

def ofJson (value : Json) : Except PayloadFault SessionModel := do
  let fields ← Payload.objectFields "session model" value
  let kernel ← kernelOfJson (fields.get? "kernel")
  let id ← Payload.stringField "session model" fields "id"
  let path ← Payload.stringField "session model" fields "path"
  let name ← Payload.stringField "session model" fields "name"
  let type ← Payload.stringField "session model" fields "type"
  return { id, path, name, type, kernel }

/-- Read a session without further checks. An array gives all of its fields in order; a field for
the kernel that is left out of an object is null. -/
def ofJson? (value : Json) : Option SessionModel := do
  let names := ["id", "path", "name", "type", "kernel"]
  let fields := Json.object (← value.record? names names.length)
  let id ← fields.stringField? "id"
  let path ← fields.stringField? "path"
  let name ← fields.stringField? "name"
  let type ← fields.stringField? "type"
  let kernel ← match fields.field? "kernel" with
    | none | some .null => some none
    | some kernel => (KernelModel.ofJson? kernel).map some
  return { id, path, name, type, kernel }

def listOfJson (value : Json) : Except PayloadFault (List SessionModel) :=
  Payload.list "session list" ofJson value

def kernelToJson : Option KernelModel → Json
  | some kernel => kernel.toJson
  | none => .null

def toJson (model : SessionModel) : Json :=
  .ofFields [
    ("id", .string model.id),
    ("path", .string model.path),
    ("name", .string model.name),
    ("type", .string model.type),
    ("kernel", kernelToJson model.kernel)]

/-- A diagnostic text. -/
def describe (model : SessionModel) : String :=
  Text.record "SessionModel" [
    ("id", Text.quote model.id),
    ("path", Text.quote model.path),
    ("name", Text.quote model.name),
    ("kind", Text.quote model.type),
    ("kernel", Text.optional (model.kernel.map KernelModel.describe))] false

end SessionModel

/-- Which kernel a session should have: a running one by its identifier, or a new one by the name
of its kernelspec. -/
structure KernelChoice where
  id : Option String
  name : Option String
deriving DecidableEq, Inhabited

def KernelChoice.toJson (choice : KernelChoice) : Json :=
  let field (name : String) : Option String → List (String × Json)
    | some text => [(name, .string text)]
    | none => []
  .ofFields (field "id" choice.id ++ field "name" choice.name)

/-- What a new session is asked to be. -/
structure SessionRequest where
  path : String
  name : String
  type : String
  kernel : Option KernelChoice
deriving DecidableEq, Inhabited

namespace SessionRequest

/-- The last part of a path. -/
def fileName (path : String) : String :=
  String.ofList (path.toList.reverse.takeWhile (· != '/')).reverse

/-- A session for a path, which is named for the file. -/
def ofPath (path type : String) : SessionRequest where
  path := path
  name := fileName path
  type := type
  kernel := none

/-- The type of a session of which none is given. -/
def notebookType : String := "notebook"

def withName (request : SessionRequest) (name : String) : SessionRequest :=
  { request with name := name }

def withKernel (request : SessionRequest) (kernel : KernelChoice) : SessionRequest :=
  { request with kernel := some kernel }

def toJson (request : SessionRequest) : Json :=
  let kernel := match request.kernel with
    | some choice => [("kernel", choice.toJson)]
    | none => []
  .ofFields <| [
    ("path", .string request.path),
    ("name", .string request.name),
    ("type", .string request.type)] ++ kernel

end SessionRequest

/-- A property of a session that can change in place. -/
inductive SessionProperty where
  | path
  | name
  | type
deriving DecidableEq, Inhabited

def SessionProperty.text : SessionProperty → String
  | .path => "path"
  | .name => "name"
  | .type => "type"

def SessionProperty.ofText? (text : String) : Option SessionProperty :=
  [SessionProperty.path, .name, .type].find? fun property => property.text = text

end KernelClient
