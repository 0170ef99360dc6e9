import KernelClient.Error
import KernelClient.Session.Model

/-!
# Connections to sessions

A session on the client: its model and the number of the connection to its kernel. A fresh model of
the same session changes it in place; when the kernel has another identifier, its connection is
replaced.
-/

namespace KernelClient

structure Session where
  model : SessionModel
  kernel : Option Nat
  isDisposed : Bool
deriving DecidableEq, Inhabited

namespace Session

/-- What becomes visible of a change. -/
inductive Effect where
  | property (property : SessionProperty)
  | kernel (kernel : Option KernelModel)
  | terminated
  | disposed
  | connectKernel (connection : Nat) (model : KernelModel)
  | disposeKernel (connection : Nat)
deriving DecidableEq, Inhabited

/-- A session after a change, and what becomes visible of it, in order. -/
abbrev Change := Session × List Effect

/-- The session of a model. The number is that of the connection to its kernel, if it has one. -/
def create (model : SessionModel) (connection : Nat) : Change :=
  match model.kernel with
  | some kernel => (⟨model, some connection, false⟩, [.connectKernel connection kernel])
  | none => (⟨model, none, false⟩, [])

/-- The properties in which two models differ. -/
def changedProperties (before after : SessionModel) : List SessionProperty :=
  (if before.path = after.path then [] else [.path]) ++
    (if before.name = after.name then [] else [.name]) ++
    (if before.type = after.type then [] else [.type])

/-- The identifier of the kernel of a model. -/
def kernelId? (model : SessionModel) : Option String := model.kernel.map KernelModel.id

/-- Apply a fresh model. The number is that of the connection to its kernel, if that is a new
one. Models of other sessions change nothing. -/
def update (model : SessionModel) (connection : Nat) (session : Session) : Change :=
  if session.isDisposed ∨ session.model.id ≠ model.id ∨ session.model = model then (session, [])
  else
    let properties := (changedProperties session.model model).map Effect.property
    if kernelId? session.model = kernelId? model then
      ({ session with model := model }, properties)
    else
      let connects := match model.kernel with
        | some kernel => [Effect.connectKernel connection kernel]
        | none => []
      let disposes := match session.kernel with
        | some previous => [Effect.disposeKernel previous]
        | none => []
      ({ session with model := model, kernel := model.kernel.map fun _ => connection },
        connects ++ properties ++ disposes ++ [.kernel model.kernel])

/-- Dispose a session and the connection to its kernel. A second time nothing happens. -/
def dispose (session : Session) : Change :=
  if session.isDisposed then (session, [])
  else
    let disposes := match session.kernel with
      | some connection => [Effect.disposeKernel connection]
      | none => []
    ({ session with isDisposed := true, kernel := none }, disposes ++ [.disposed])

/-- Take note that the session was shut down on the server. -/
def shutDown (session : Session) : Change :=
  let (disposed, effects) := dispose session
  (disposed, .terminated :: effects)

/-- The identifier under which the server is asked, unless the session is disposed. -/
def checkOpen (session : Session) : Except ServiceError String :=
  if session.isDisposed then .error (.connectionClosed "session connection is disposed")
  else .ok session.model.id

/-- A request to change one property. -/
def patch (property : SessionProperty) (value : String) : Json :=
  .ofFields [(property.text, .string value)]

/-- A request to change the kernel. -/
def kernelPatch (choice : KernelChoice) : Json :=
  .ofFields [("kernel", choice.toJson)]

/-- A diagnostic text. -/
def describe (session : Session) : String :=
  Text.record "SessionConnection" [("model", session.model.describe)] true

end Session

end KernelClient
