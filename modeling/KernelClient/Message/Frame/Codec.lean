import KernelClient.Message.Frame.Legacy
import KernelClient.Message.Frame.Segmented

/-!
# Encoding and decoding of messages

Either framing reads a text frame as the JSON of a message; a binary frame is read by the framing
that was agreed upon.
-/

namespace KernelClient

/-- The frame of a message. -/
def Message.encode (message : Message) (protocol : WireProtocol) : Except FrameFault Frame :=
  match protocol with
  | .legacy => Frame.encodeLegacy message
  | .v1 => Frame.encodeSegmented message

/-- The message in a frame. -/
def Frame.decode (frame : Frame) (protocol : WireProtocol) : Except MessageError Message :=
  match frame, protocol with
  | .text document, _ => decodeText document
  | .binary bytes, .legacy => decodeLegacy bytes
  | .binary bytes, .v1 => decodeSegmented bytes

end KernelClient
