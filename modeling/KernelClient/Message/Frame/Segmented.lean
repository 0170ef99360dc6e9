import KernelClient.Json.Printer
import KernelClient.Json.Reader
import KernelClient.Message.Frame.Basic

/-!
# The segmented framing

A message is always binary: the number of offsets, the offset of each part and the end of the
frame, and the parts, which are the channel, the header, the header of the parent, the metadata,
the content and the buffers. Numbers have eight bytes, the lowest first.
-/

namespace KernelClient.Frame

/-- The largest number of offsets that is accepted. -/
def mostOffsets : Nat := 4096

/-- The offsets of parts laid end to end, and the end of the last one. -/
def offsetsSegmented (parts : List Bytes) : List Nat :=
  let table := 8 * (parts.length + 2)
  Words.starts table parts ++ [table + Words.totalLength parts]

/-- The bytes of a table and of the parts that it leads to. -/
def layoutSegmented (parts : List Bytes) : Bytes :=
  Words.littleEndian 8 (parts.length + 1) ++
    (offsetsSegmented parts).flatMap (Words.littleEndian 8) ++ parts.flatten

/-- The parts of a message on a channel. -/
def partsOf (channel : Channel) (message : Message) : List Bytes :=
  [utf8 channel.name,
    utf8 message.header.toJson.render,
    utf8 message.parentToJson.render,
    utf8 message.metadata.render,
    utf8 message.content.render] ++ message.buffers

def encodeSegmented (message : Message) : Except FrameFault Frame :=
  match message.channel with
  | some channel => .ok (.binary (layoutSegmented (partsOf channel message)))
  | none => .error .channelRequired

/-- The parts of a binary frame. -/
def partsSegmented (data : Bytes) : Except FrameFault (List Bytes) :=
  match Words.readTable? Words.ofLittleEndian 8 1 data with
  | some ([count], rest) =>
      if 6 ≤ count ∧ count ≤ mostOffsets then
        match Words.readTable? Words.ofLittleEndian 8 count rest with
        | some (offsets, _) =>
            if offsets.getLast? = some data.length then cut data offsets else .error .endMismatch
        | none => .error .truncatedTable
      else .error (.offsetCount count)
  | _ => .error .truncatedTable

/-- Read a message from its parts. -/
def decodeParts : List Bytes → Except MessageError Message
  | channel :: header :: parent :: metadata :: content :: buffers =>
      match ofUtf8? channel with
      | none => .error (.malformed .channelNotText)
      | some channel =>
        match Json.parseBytes? header, Json.parseBytes? parent, Json.parseBytes? metadata,
            Json.parseBytes? content with
        | some header, some parent, some metadata, some content =>
            let value := Json.ofFields [
              ("channel", .string channel), ("header", header), ("parent_header", parent),
              ("metadata", metadata), ("content", content)]
            Message.ofJson value buffers
        | _, _, _, _ => .error .json
  | _ => .error (.malformed .truncatedTable)

def decodeSegmented (data : Bytes) : Except MessageError Message :=
  match partsSegmented data with
  | .error fault => .error (.malformed fault)
  | .ok parts => decodeParts parts

end KernelClient.Frame
