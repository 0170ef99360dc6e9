import KernelClient.Json.Printer
import KernelClient.Json.Reader
import KernelClient.Message.Frame.Basic

/-!
# The legacy framing

A message without buffers is the text of its JSON. With buffers it is binary: the number of parts,
the offset of each part, and the parts, which are the JSON and the buffers. Numbers have four bytes,
the highest first.
-/

namespace KernelClient.Frame

/-- A number that fits four bytes. -/
def checkWord (value : Nat) : Except FrameFault Unit :=
  if value < UInt32.size then .ok () else .error .tooLarge

/-- The bytes of a table and of the parts that it leads to. -/
def layoutLegacy (parts : List Bytes) : Bytes :=
  Words.bigEndian 4 parts.length ++
    (Words.starts (4 * (parts.length + 1)) parts).flatMap (Words.bigEndian 4) ++ parts.flatten

def encodeLegacy (message : Message) : Except FrameFault Frame :=
  let text := message.toJson.render
  if message.buffers.isEmpty then .ok (.text text)
  else do
    let parts := utf8 text :: message.buffers
    checkWord parts.length
    (Words.starts (4 * (parts.length + 1)) parts).forM checkWord
    return .binary (layoutLegacy parts)

/-- The parts of a binary frame. -/
def partsLegacy (data : Bytes) : Except FrameFault (List Bytes) :=
  match Words.readTable? Words.ofBigEndian 4 1 data with
  | some ([count], rest) =>
      if count = 0 then .error .noParts
      else
        match Words.readTable? Words.ofBigEndian 4 count rest with
        | some (offsets, _) => cut data (offsets ++ [data.length])
        | none => .error .truncatedTable
  | _ => .error .truncatedTable

/-- Read a message from the text of its JSON. -/
def decodeText (text : String) : Except MessageError Message :=
  match Json.parse? text with
  | some value => Message.ofJson value []
  | none => .error .json

/-- Read a message from its JSON and its buffers. -/
def decodeLegacy (data : Bytes) : Except MessageError Message :=
  match partsLegacy data with
  | .error fault => .error (.malformed fault)
  | .ok [] => .error (.malformed .noParts)
  | .ok (body :: buffers) =>
    match Json.parseBytes? body with
    | some value => Message.ofJson value buffers
    | none => .error .json

end KernelClient.Frame
