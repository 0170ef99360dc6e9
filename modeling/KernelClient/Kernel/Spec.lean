import KernelClient.Error
import KernelClient.Json.Equality
import KernelClient.Payload

/-!
# Kernelspecs

The kinds of kernels that a server can start. Entries of the wrong shape are left out with a
warning. When the default names none of the others, the first by name takes its place.
-/

namespace KernelClient

structure KernelSpec where
  name : String
  displayName : String
  language : String
  arguments : List String
  environment : List (String × String)
  interruptMode : Option String
  metadata : Json
  resources : List (String × String)
deriving Inhabited

namespace KernelSpec

def argumentOfJson (name : String) : Json → Except PayloadFault String
  | .string text => .ok text
  | _ => .error (.argumentsNotStrings name)

/-- An object, or an empty one in place of anything else. -/
def metadataOfJson? : Option Json → Json
  | some (.object fields) => .object fields
  | _ => .emptyObject

def ofJson (value : Json) : Except PayloadFault KernelSpec := do
  let fields ← Payload.objectFields "kernelspec" value
  let name ← Payload.stringField "kernelspec" fields "name"
  let spec ← match fields.get? "spec" with
    | some (.object spec) => .ok spec
    | _ => .error (.specNotObject name)
  let arguments ← match Json.Fields.get? "argv" spec with
    | some (.array items) => items.mapM (argumentOfJson name)
    | _ => .error (.argumentsNotArray name)
  let displayName ← Payload.stringField "kernelspec" spec "display_name"
  let language ← Payload.stringField "kernelspec" spec "language"
  let environment ← Payload.stringMap "kernelspec" spec "env"
  let resources ← Payload.stringMap "kernelspec" fields "resources"
  return {
    name
    displayName
    language
    arguments
    environment
    interruptMode := (Json.Fields.get? "interrupt_mode" spec).bind Json.asString?
    metadata := metadataOfJson? (Json.Fields.get? "metadata" spec)
    resources }

def toJson (spec : KernelSpec) : Json :=
  let interruptMode := match spec.interruptMode with
    | some mode => [("interrupt_mode", Json.string mode)]
    | none => []
  .ofFields [
    ("name", .string spec.name),
    ("spec", .ofFields <| [
      ("argv", .array (spec.arguments.map .string)),
      ("env", Payload.ofStringMap spec.environment),
      ("display_name", .string spec.displayName),
      ("language", .string spec.language),
      ("metadata", spec.metadata)] ++ interruptMode),
    ("resources", Payload.ofStringMap spec.resources)]

/-- Whether two specs are equal by value. -/
def agrees (left right : KernelSpec) : Bool :=
  left.name == right.name && left.displayName == right.displayName &&
    left.language == right.language && left.arguments == right.arguments &&
    left.environment == right.environment && left.interruptMode == right.interruptMode &&
    left.metadata.agrees right.metadata && left.resources == right.resources

end KernelSpec

/-- The kernelspecs of a server by name, in increasing order of their names. -/
structure KernelSpecs where
  default : String
  entries : List (String × KernelSpec)
deriving Inhabited

namespace KernelSpecs

/-- The spec of a name. -/
def get? (specs : KernelSpecs) (name : String) : Option KernelSpec :=
  specs.entries.lookup name

def defaultSpec? (specs : KernelSpecs) : Option KernelSpec := specs.get? specs.default

/-- The entries of the right shape. -/
def accepted (entries : Json.Fields) : List (String × KernelSpec) :=
  entries.filterMap fun (name, value) =>
    match KernelSpec.ofJson value with
    | .ok spec => some (name, spec)
    | .error _ => none

/-- A warning for each entry that is left out. -/
def warnings (entries : Json.Fields) : List LogLine :=
  entries.filterMap fun (name, value) =>
    match KernelSpec.ofJson value with
    | .ok _ => none
    | .error fault => some <| .warning <|
        "[kernelspec] Removing errant kernel spec " ++ Text.quote name ++ ": " ++
          (ServiceError.validation fault.message).message

/-- The specs of entries with a default that is one of them. -/
def choose (wanted : String) (entries : List (String × KernelSpec)) :
    Except PayloadFault KernelSpecs × List LogLine :=
  match entries with
  | [] => (.error .noSpecs, [])
  | (first, _) :: _ =>
      if (entries.lookup wanted).isSome then (.ok ⟨wanted, entries⟩, [])
      else
        (.ok ⟨first, entries⟩, [.warning <|
          "[kernelspec] Default kernel " ++ Text.quote wanted ++ " not found, using " ++
            Text.quote first])

/-- Read the kernelspecs of a server, and warn of what is left out. -/
def ofJson (value : Json) : Except PayloadFault KernelSpecs × List LogLine :=
  let parts : Except PayloadFault (String × Json.Fields) := do
    let fields ← Payload.objectFields "kernelspecs" value
    let wanted ← Payload.stringField "kernelspecs" fields "default"
    match fields.get? "kernelspecs" with
    | some (.object entries) => .ok (wanted, entries)
    | _ => .error (.partNotObject "kernelspecs" "kernelspecs")
  match parts with
  | .error fault => (.error fault, [])
  | .ok (wanted, entries) =>
      let (specs, chosen) := choose wanted (accepted entries)
      (specs, warnings entries ++ chosen)

def toJson (specs : KernelSpecs) : Json :=
  .ofFields [
    ("default", .string specs.default),
    ("kernelspecs", .object (specs.entries.map fun (name, spec) => (name, spec.toJson)))]

/-- Whether two sets of specs are equal by value. -/
def agrees (left right : KernelSpecs) : Bool :=
  left.default == right.default && left.entries.length == right.entries.length &&
    (left.entries.zip right.entries).all fun ((leftName, leftSpec), (rightName, rightSpec)) =>
      leftName == rightName && leftSpec.agrees rightSpec

end KernelSpecs

end KernelClient
