import KernelClient.Json.Basic
import KernelClient.Message.Channel
import KernelClient.Time.Instant

/-!
# Kernel messages

A message has a header, the header of the message that it answers, metadata, content and any number
of binary buffers. `Message.toJson` gives the fields in the order in which they are sent;
`Message.ofJson?` reads them in any order, with defaults for what may be left out.
-/

namespace KernelClient

/-- Binary data. -/
abbrev Bytes := List UInt8

structure Header where
  msgId : String
  username : String
  session : String
  date : Instant
  msgType : String
  version : String
deriving DecidableEq, Inhabited

structure Message where
  header : Header
  parentHeader : Option Header
  metadata : Json
  content : Json
  buffers : List Bytes
  channel : Option Channel
deriving Inhabited

/-- The version of the protocol that messages of this client name. -/
def protocolVersion : String := "5.3"

namespace Header

/-- The fields of a header in the order in which they are sent. -/
def toJson (header : Header) : Json :=
  .object [
    ("msg_id", .string header.msgId),
    ("username", .string header.username),
    ("session", .string header.session),
    ("date", .string header.date.render),
    ("msg_type", .string header.msgType),
    ("version", .string header.version)]

/-- The date of a header; a header without one is dated at the epoch. -/
def dateOfJson? (header : Json) : Option Instant :=
  match header.field? "date" with
  | none | some .null => some .epoch
  | some (.string text) => Instant.parse? text
  | some _ => none

/-- Read a header. An array gives all of its fields in order. -/
def ofJson? (value : Json) : Option Header := do
  let names := ["msg_id", "username", "session", "date", "msg_type", "version"]
  let fields := Json.object (← value.record? names names.length)
  let msgId ← fields.stringField? "msg_id"
  let username ← fields.stringField? "username"
  let session ← fields.stringField? "session"
  let date ← dateOfJson? fields
  let msgType ← fields.stringField? "msg_type"
  let version ← fields.stringField? "version"
  return { msgId, username, session, date, msgType, version }

/-- The header in a field that may be left out, null or empty. -/
def parentOfJson? : Option Json → Option (Option Header)
  | none | some .null | some (.object []) => some none
  | some value => (ofJson? value).map some

end Header

namespace Message

/-- A message of this client without a parent, metadata or buffers. -/
def create (channel : Channel) (msgType msgId session username : String) (content : Json)
    (date : Instant) : Message where
  header := { msgId, username, session, date, msgType, version := protocolVersion }
  parentHeader := none
  metadata := .emptyObject
  content := content
  buffers := []
  channel := some channel

/-- Answer a message. -/
def withParent (message parent : Message) : Message :=
  { message with parentHeader := some parent.header }

def withMetadata (message : Message) (metadata : Json) : Message :=
  { message with metadata := metadata }

def withBuffers (message : Message) (buffers : List Bytes) : Message :=
  { message with buffers := buffers }

def msgId (message : Message) : String := message.header.msgId

def msgType (message : Message) : String := message.header.msgType

def parentMsgId? (message : Message) : Option String :=
  message.parentHeader.map Header.msgId

/-- The types of messages that belong to a comm. -/
def isCommType (msgType : String) : Bool :=
  msgType = "comm_open" || msgType = "comm_msg" || msgType = "comm_close"

def isComm (message : Message) : Bool := isCommType message.msgType

/-- The comm that a message belongs to. -/
def commId? (message : Message) : Option String :=
  if message.isComm then message.content.stringField? "comm_id" else none

/-- The state that a status message reports. -/
def executionState? (message : Message) : Option String :=
  if message.msgType = "status" then message.content.stringField? "execution_state" else none

/-- The header of the parent, or an empty object. -/
def parentToJson (message : Message) : Json :=
  match message.parentHeader with
  | some header => header.toJson
  | none => .emptyObject

/-- The fields of a message without its buffers, in the order in which they are sent. -/
def toJson (message : Message) : Json :=
  .object <|
    [("header", message.header.toJson),
      ("parent_header", message.parentToJson),
      ("metadata", message.metadata),
      ("content", message.content)] ++
    match message.channel with
    | some channel => [("channel", .string channel.name)]
    | none => []

def channelOfJson? : Option Json → Option (Option Channel)
  | none | some .null => some none
  | some value => (value.variantName?.bind Channel.ofName?).map some

/-- Read a message without further checks. Metadata and content may be any value, and are empty
objects when they are left out. An array gives its fields in order, of which only the header has to
be there. -/
def ofJson? (value : Json) (buffers : List Bytes) : Option Message := do
  let fields ← value.record? ["header", "parent_header", "metadata", "content", "channel"] 1
  let header ← (fields.get? "header").bind Header.ofJson?
  let parentHeader ← Header.parentOfJson? (fields.get? "parent_header")
  let channel ← channelOfJson? (fields.get? "channel")
  return {
    header
    parentHeader
    metadata := (fields.get? "metadata").getD .emptyObject
    content := (fields.get? "content").getD .emptyObject
    buffers
    channel }

end Message

end KernelClient
