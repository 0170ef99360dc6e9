import KernelClient.Message.Basic
import KernelClient.Text.Quoted

/-!
# The shape of messages

What is required of a message before it is read: a header with six strings, a parent of the same
shape or none, objects as metadata and content, a known channel, and in the content of status and
comm messages the strings by which they are dispatched. Of several faults the first in this order
is reported.
-/

namespace KernelClient

/-- A fault in the shape of a message. -/
inductive ShapeFault where
  | messageNotObject
  | headerMissing
  | headerNotObject
  | parentNotObject
  | fieldMissing (part field : String)
  | fieldNotString (part field : String)
  | partNotObject (part : String)
  | channelUnknown (name : String)
  | channelNotString
  | contentLacks (msgType field : String)
deriving DecidableEq, Inhabited

namespace ShapeFault

def message : ShapeFault → String
  | .messageNotObject => "message is not an object"
  | .headerMissing => "missing header"
  | .headerNotObject => "header is not an object"
  | .parentNotObject => "parent_header is not an object"
  | .fieldMissing part field => part ++ " is missing " ++ field
  | .fieldNotString part field => part ++ "." ++ field ++ " is not a string"
  | .partNotObject part => part ++ " is not an object"
  | .channelUnknown name => "unknown channel " ++ Text.quote name
  | .channelNotString => "channel is not a string"
  | .contentLacks msgType field => msgType ++ " content requires a string " ++ field

end ShapeFault

namespace Message

/-- The fields of a header in the order in which they are checked. -/
def headerFields : List String :=
  ["msg_id", "msg_type", "session", "username", "version", "date"]

/-- Every field of a header is a string. -/
def checkHeader (part : String) (header : Json) : Except ShapeFault Unit :=
  headerFields.forM fun field =>
    match header.field? field with
    | some (.string _) => .ok ()
    | some _ => .error (.fieldNotString part field)
    | none => .error (.fieldMissing part field)

def checkParent : Option Json → Except ShapeFault Unit
  | none | some .null | some (.object []) => .ok ()
  | some (.object fields) => checkHeader "parent_header" (.object fields)
  | some _ => .error .parentNotObject

def checkPart (part : String) (value : Json) : Except ShapeFault Unit :=
  match value.field? part with
  | none | some (.object _) => .ok ()
  | some _ => .error (.partNotObject part)

/-- The channel of a message, which may be left out or null. -/
def checkChannel : Option Json → Except ShapeFault (Option Channel)
  | none | some .null => .ok none
  | some (.string name) =>
      match Channel.ofName? name with
      | some channel => .ok (some channel)
      | none => .error (.channelUnknown name)
  | some _ => .error .channelNotString

/-- A string in the content. -/
def checkContent (value : Json) (msgType field : String) : Except ShapeFault Unit :=
  match (value.field? "content").bind (Json.stringField? field) with
  | some _ => .ok ()
  | none => .error (.contentLacks msgType field)

/-- Whether messages of this type on this channel report an execution state. -/
def reportsStatus (msgType : String) (channel : Option Channel) : Bool :=
  msgType = "status" && (channel = none || channel = some .iopub)

/-- Check the shape of a message. -/
def checkShape (value : Json) : Except ShapeFault Unit := do
  let .object _ := value | .error .messageNotObject
  let header ← match value.field? "header" with
    | some (.object fields) => .ok (Json.object fields)
    | some _ => .error .headerNotObject
    | none => .error .headerMissing
  checkHeader "header" header
  checkParent (value.field? "parent_header")
  checkPart "metadata" value
  checkPart "content" value
  let channel ← checkChannel (value.field? "channel")
  let msgType := (header.stringField? "msg_type").getD ""
  if reportsStatus msgType channel then checkContent value msgType "execution_state"
  if isCommType msgType then checkContent value msgType "comm_id"
  if msgType = "comm_open" then checkContent value msgType "target_name"

end Message

end KernelClient
