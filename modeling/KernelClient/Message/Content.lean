import KernelClient.Message.Error

/-!
# Content by type

The content of the types of messages that the client knows. Content of another type is kept as it
is. Reading drops fields that a type does not have and refuses content that lacks one.
-/

namespace KernelClient

/-- An output stream of a kernel. -/
inductive StreamName where
  | stdout
  | stderr
deriving DecidableEq, Inhabited

namespace StreamName

def name : StreamName → String
  | .stdout => "stdout"
  | .stderr => "stderr"

def ofName? (name : String) : Option StreamName :=
  if name = "stdout" then some .stdout
  else if name = "stderr" then some .stderr
  else none

end StreamName

inductive Content where
  | status (executionState : String)
  | stream (name : StreamName) (text : String)
  | clearOutput (wait : Bool)
  | commOpen (commId targetName : String) (data : Json) (targetModule : Option String)
  | commMessage (commId : String) (data : Json)
  | commClose (commId : String) (data : Json)
  | kernelInfoRequest
  | other (content : Json)
deriving Inhabited

namespace Content

/-- A field that holds an object. -/
def objectField? (name : String) (value : Json) : Option Json :=
  ((value.field? name).bind Json.asObject?).map Json.object

/-- A string that may be left out or null. -/
def optionalString? (name : String) (value : Json) : Option (Option String) :=
  match value.field? name with
  | none | some .null => some none
  | some (.string text) => some (some text)
  | some _ => none

/-- Read the content of a message of the given type. -/
def ofJson? (msgType : String) (value : Json) : Option Content :=
  match msgType with
  | "status" => (value.stringField? "execution_state").map .status
  | "stream" => do
      let name ← ((value.field? "name").bind Json.variantName?).bind StreamName.ofName?
      return .stream name (← value.stringField? "text")
  | "clear_output" => ((value.field? "wait").bind Json.asBool?).map .clearOutput
  | "comm_open" => do
      let commId ← value.stringField? "comm_id"
      let targetName ← value.stringField? "target_name"
      let data ← objectField? "data" value
      return .commOpen commId targetName data (← optionalString? "target_module" value)
  | "comm_msg" => do
      let commId ← value.stringField? "comm_id"
      return .commMessage commId (← objectField? "data" value)
  | "comm_close" => do
      let commId ← value.stringField? "comm_id"
      return .commClose commId (← objectField? "data" value)
  | "kernel_info_request" => value.asObject?.map fun _ => .kernelInfoRequest
  | _ => some (.other value)

def toJson : Content → Json
  | .status executionState => .ofFields [("execution_state", .string executionState)]
  | .stream name text => .ofFields [("name", .string (name.name)), ("text", .string text)]
  | .clearOutput wait => .ofFields [("wait", .bool wait)]
  | .commOpen commId targetName data targetModule =>
      .ofFields <|
        [("comm_id", .string commId), ("target_name", .string targetName), ("data", data)] ++
        match targetModule with
        | some name => [("target_module", .string name)]
        | none => []
  | .commMessage commId data | .commClose commId data =>
      .ofFields [("comm_id", .string commId), ("data", data)]
  | .kernelInfoRequest => .emptyObject
  | .other content => content

end Content

/-- The content of a message by its type. -/
def Message.typedContent (message : Message) : Except MessageError Content :=
  match Content.ofJson? message.msgType message.content with
  | some content => .ok content
  | none => .error .content

end KernelClient
